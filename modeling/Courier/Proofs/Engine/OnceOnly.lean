import Courier.Proofs.Engine.Service

/-!
# Executed once

A lost acknowledgment makes a sender repeat a frame that has been executed. As long as fewer other
frames are executed between its copies than the duplicate filter remembers, the frame is executed
once, although every copy is acknowledged.
-/

namespace Courier

/-! ## Copies of a frame -/

/-- Only what arrives is executed, in the order of its arrival. -/
theorem executed_sublist (w : Nat) (done arriving : List Frame) :
    (executed w done arriving).Sublist arriving := by
  induction arriving generalizing done with
  | nil => exact List.Sublist.refl _
  | cons f arriving ih =>
    rw [executed]
    split
    · exact (ih done).cons f
    · exact (ih (done ++ [f])).cons_cons f

/-- A frame that is followed by fewer than `w` others is remembered. -/
theorem mem_rtake_of_length_lt {α : Type} {first second : List α} {a : α} {w : Nat}
    (h : second.length < w) : a ∈ (first ++ a :: second).rtake w := by
  have hlength : (first ++ a :: second).length - w ≤ first.length := by
    rw [List.length_append, List.length_cons]
    omega
  rw [List.rtake, List.drop_append_of_le_length hlength]
  exact List.mem_append_right _ List.mem_cons_self

/-- After a frame was executed none of its copies is, until `w` other frames have been. -/
theorem key_ne_of_mem_executed {w : Nat} {g : Frame} {first second arriving : List Frame}
    (hfew : second.length +
      ((executed w (first ++ g :: second) arriving).filter (·.key ≠ g.key)).length < w) :
    ∀ f ∈ executed w (first ++ g :: second) arriving, f.key ≠ g.key := by
  -- Every frame that is executed moves from what is to come into `second`, so their number stays.
  induction arriving generalizing second with
  | nil => nofun
  | cons f arriving ih =>
    have hrecent : g.key ∈ ((first ++ g :: second).map Frame.key).rtake w := by
      rw [List.map_append, List.map_cons]
      refine mem_rtake_of_length_lt ?_
      rw [List.length_map]
      omega
    rw [executed] at hfew ⊢
    by_cases hremembered : Remembered w (first ++ g :: second) f
    · rw [if_pos hremembered] at hfew ⊢
      exact ih hfew
    · have hne : f.key ≠ g.key := fun hkey => hremembered (by rwa [Remembered, hkey])
      have hdone : first ++ g :: second ++ [f] = first ++ g :: (second ++ [f]) := by simp
      rw [if_neg hremembered, hdone] at hfew ⊢
      rw [List.filter_cons_of_pos (by simpa using hne), List.length_cons] at hfew
      refine List.forall_mem_cons.mpr ⟨hne, ih ?_⟩
      rw [List.length_append, List.length_singleton]
      omega

/-- While fewer than `w` other frames are executed, copies of a frame are executed once at most. -/
theorem length_executed_copies_le_one {w : Nat} {done arriving : List Frame} {key : FrameKey}
    (hfew : ((executed w done arriving).filter (·.key ≠ key)).length < w) :
    ((executed w done arriving).filter (·.key = key)).length ≤ 1 := by
  induction arriving generalizing done with
  | nil => exact Nat.zero_le _
  | cons f arriving ih =>
    rw [executed] at hfew ⊢
    by_cases hremembered : Remembered w done f
    · rw [if_pos hremembered] at hfew ⊢
      exact ih hfew
    · rw [if_neg hremembered] at hfew ⊢
      by_cases hkey : f.key = key
      · subst hkey
        rw [List.filter_cons_of_neg (by simp)] at hfew
        have hothers : ∀ f' ∈ executed w (done ++ [f]) arriving, f'.key ≠ f.key :=
          key_ne_of_mem_executed (by simpa using hfew)
        have hnone : (executed w (done ++ [f]) arriving).filter (·.key = f.key) = [] :=
          List.filter_eq_nil_iff.mpr fun f' hf' => by simpa using hothers f' hf'
        rw [List.filter_cons_of_pos (by simp), hnone]
        exact Nat.le_refl 1
      · rw [List.filter_cons_of_pos (by simpa using hkey), List.length_cons] at hfew
        rw [List.filter_cons_of_neg (by simpa using hkey)]
        exact ih (by omega)

/-- If all copies of a frame arrive while fewer than `w` other frames are executed, the frame is
executed once at most. -/
theorem length_executed_copies_le_one_of_between {w : Nat} {before between after : List Frame}
    {key : FrameKey} (hnone : ∀ f ∈ before ++ after, f.key ≠ key)
    (hfew : ((executed w (executed w [] before) between).filter (·.key ≠ key)).length < w) :
    ((executed w [] (before ++ between ++ after)).filter (·.key = key)).length ≤ 1 := by
  have hother (done : List Frame) {arriving : List Frame} (h : ∀ f ∈ arriving, f.key ≠ key) :
      (executed w done arriving).filter (·.key = key) = [] := by
    refine List.filter_eq_nil_iff.mpr fun f hf => ?_
    simpa using h f ((executed_sublist w done arriving).subset hf)
  rw [executed_append, executed_append, List.filter_append, List.filter_append,
    hother [] fun f hf => hnone f (List.mem_append_left _ hf),
    hother _ fun f hf => hnone f (List.mem_append_right _ hf), List.nil_append, List.append_nil]
  exact length_executed_copies_le_one hfew

/-! ## Acknowledgments -/

namespace Engine

variable {σ ρ : Type} {e e' : Engine (Watched σ) ρ} {c : Carrier σ} {d : Deed} {seq : UInt16}

/-- The acknowledgments that an engine has handed over under a number. -/
def acksUnder (e : Engine (Watched σ) ρ) (seq : UInt16) : List Transmission :=
  e.outbound.medium.handed.filter fun t => t.header.isAck && t.header.seq = seq

/-- Acknowledgments with a number are among what was handed over under it. -/
theorem acksUnder_eq (e : Engine (Watched σ) ρ) (seq : UInt16) :
    e.acksUnder seq = (e.slices seq).handed.filter (·.header.isAck) :=
  List.filter_filter.symm

/-- Whether a transport is attached stays as it is. -/
theorem Does.forwarding_eq (h : e.Attached) (hdoes : Does c e d e') :
    e'.forwarding = e.forwarding := by
  cases hdoes.comes h <;> rfl

end Engine

/-- No deed hands over acknowledgments unless a frame has arrived for an endpoint. -/
theorem Slice.Follows.acks_eq {v v' : Slice} {d : Engine.Deed} {seq : UInt16}
    (hproper : v.Proper seq) (hfollows : v.Follows seq d v') (hnone : d.arrivals = []) :
    v'.handed.filter (·.header.isAck) = v.handed.filter (·.header.isAck) := by
  have hhand {t : Transmission} (ht : t.header.isAck = false) :
      (v.hand t).handed.filter (·.header.isAck) = v.handed.filter (·.header.isAck) := by
    simp [hand, ht]
  cases hfollows with
  | same => rfl
  | sent _ _ hack => exact hhand hack
  | confirmed hack => simp [Engine.Deed.arrivals, hack] at hnone
  | acknowledged => rfl
  | late _ hlate =>
    cases hlate with
    | untracked => rfl
    | exhausted => rfl
    | abandoned hcopy => exact hhand (hproper _ hcopy).2
    | resent hcopy => exact hhand (hproper _ hcopy).2

namespace Engine

variable {σ ρ : Type} {e e' : Engine (Watched σ) ρ} {c : Carrier σ} {d : Deed}

/-- Every frame that arrives for an endpoint is acknowledged once, under its number. -/
theorem Does.acksUnder_eq (h : e.Attached) (hacks : e.config.sendAcks = true)
    (hinit : e.isInitialized = true) (hdoes : Does c e d e') (seq : UInt16) :
    (e'.acksUnder seq).map (fun t => (t.header, t.payload)) =
      (e.acksUnder seq).map (fun t => (t.header, t.payload)) ++
        (d.arrivals.filter (·.header.seq = seq)).map fun _ => (.ack seq, []) := by
  by_cases hnone : d.arrivals = []
  · have hproper : (e.slices seq).Proper seq := h.ready.proper seq
    have hsame := (hdoes.follows h seq).acks_eq hproper hnone
    rw [Engine.acksUnder_eq, Engine.acksUnder_eq, hsame, hnone]
    simp
  · cases hdoes with
    | @handle clock frame =>
      cases hack : frame.header.isAck with
      | true => simp [Deed.arrivals, hack] at hnone
      | false =>
        obtain ⟨taken, hhanded⟩ := handed_handleFrame (c := c) clock hack hacks hinit
        have hackSeq : (Header.ack frame.header.seq).seq = frame.header.seq := rfl
        have hackIs : (Header.ack frame.header.seq).isAck = true := rfl
        rw [acksUnder, acksUnder, hhanded, Deed.arrivals, hack]
        by_cases hseq : frame.header.seq = seq
        · subst hseq
          simp [hackSeq, hackIs]
        · simp [hackSeq, hseq]
    | _ => exact absurd rfl hnone

end Engine

namespace Dialogue

variable {σ ρ : Side → Type} {config : EngineConfig} {c : (s : Side) → Carrier (σ s)}
  {events : List Happening} {s : Side} {start x : Parties σ fun s => ρ s × List (UInt16 × Bytes)}

/-- In a run every frame that arrives for an endpoint is acknowledged once, whatever becomes of
it. -/
theorem Run.acksUnder_eq (hrun : Run c start events x) (hattached : ∀ s, (start s).Attached)
    (hserves : (start s).Serves config []) (hacks : config.sendAcks = true)
    (hinit : (start s).isInitialized = true) (hsilent : (start s).Silent)
    (hregistered : ∀ f ∈ arrivals s events, (start s).registry.contains f.header.id = true)
    (seq : UInt16) :
    (x s).isInitialized = true ∧ ((x s).acksUnder seq).map (fun t => (t.header, t.payload)) =
      ((arrivals s events).filter (·.header.seq = seq)).map fun _ => (.ack seq, []) := by
  induction hrun with
  | stop =>
    refine ⟨hinit, ?_⟩
    have hnone : (start s).acksUnder seq = [] :=
      List.filter_eq_nil_iff.mpr fun t ht => by simp [hsilent t ht]
    rw [hnone]
    rfl
  | @step x events side d e hrun _ hdoes ih =>
    rw [arrivals_append] at hregistered ⊢
    have hearlier := fun f hf => hregistered f (List.mem_append_left _ hf)
    obtain ⟨hinit', hsame⟩ := ih hearlier
    by_cases hs : side = s
    · subst hs
      have hattached' := hrun.attached hattached side
      have hacks' : (x side).config.sendAcks = true := by
        rw [(hrun.serves hserves hearlier).2.recorded.config_eq, hacks]
      rw [if_pos rfl, Function.update_self, Engine.isInitialized, hdoes.forwarding_eq hattached']
      refine ⟨hinit', ?_⟩
      rw [hdoes.acksUnder_eq hattached' hacks' hinit', hsame, List.filter_append, List.map_append]
    · rw [if_neg hs, List.append_nil, Function.update_of_ne fun h => hs h.symm]
      exact ⟨hinit', hsame⟩

/-- What arrives under the number of a call is a copy of its frame. -/
theorem Run.key_eq_iff (hrun : Run c start events x) (hattached : ∀ s, (start s).Attached)
    (hself : (start s).Unused) (hpeer : (start s.opposite).Silent)
    (hfew : (calls s events).length < 65536) {call : Call} (hcall : call ∈ calls s events)
    {f : Frame} (hf : f ∈ arrivals s.opposite events) :
    (f.header.seq = call.seq ↔ f.key = ⟨call.id, call.seq⟩) ∧
      (f.key = ⟨call.id, call.seq⟩ → f.payload = call.payload) := by
  have hnodup := hrun.nodup_calls hattached s (Nat.le_of_lt hfew)
  have hsent := hrun.sent_of_mem_arrivals hattached hself.blank hpeer (Nat.le_of_lt hfew) hf
  have hcopy (hseq : f.header.seq = call.seq) : f.header.id = call.id ∧ f.payload = call.payload :=
    (hseq ▸ hsent).unique hnodup (mem_calls.mp hcall)
  constructor
  · constructor
    · intro hseq
      rw [Frame.key, (hcopy hseq).1, hseq]
    · exact congrArg FrameKey.seq
  · intro hkey
    exact (hcopy (congrArg FrameKey.seq hkey)).2

/-- A client that has nothing under way at the start and makes fewer calls than there are numbers,
and a server that is new and acknowledges what arrives: for every call each copy of its frame is
acknowledged once. If fewer other frames are executed from the first to the last copy that arrives
than the filter of the server has room for, the call is executed once at most, and exactly once if
the client is told of its success. -/
theorem executed_once (hrun : Run c start events x) (hattached : ∀ s, (start s).Attached)
    (hself : (start s).Unused) (hpeer : (start s.opposite).Silent)
    (hserves : (start s.opposite).Serves config [])
    (hinit : (start s.opposite).isInitialized = true) (hacks : config.sendAcks = true)
    (hregistered : ∀ f ∈ arrivals s.opposite events,
      (start s.opposite).registry.contains f.header.id = true)
    (hfew : (calls s events).length < 65536) {call : Call} (hcall : call ∈ calls s events) :
    let w := config.dedupeWindow.toNat
    let arrived := arrivals s.opposite events
    let key : FrameKey := ⟨call.id, call.seq⟩
    let copies := arrived.filter (·.key = key)
    let executions := (executed w [] arrived).filter (·.key = key)
    (x s.opposite).outside.2 = (executed w [] arrived).map Frame.call ∧
      (∀ f ∈ copies, f.payload = call.payload) ∧
      ((x s.opposite).acksUnder call.seq).map (fun t => (t.header, t.payload)) =
        List.replicate copies.length (.ack call.seq, []) ∧
      ∀ before between after, arrived = before ++ between ++ after →
        (∀ f ∈ before ++ after, f.key ≠ key) →
        ((executed w (executed w [] before) between).filter (·.key ≠ key)).length < w →
          executions.length ≤ 1 ∧
          (⟨call.id, call.seq, .success⟩ ∈ (x s).delivered → executions.length = 1) := by
  intro w arrived key copies executions
  have hkey {f : Frame} (hf : f ∈ arrived) :=
    hrun.key_eq_iff hattached hself hpeer hfew hcall hf
  refine ⟨(hrun.serves hserves hregistered).2.recorded.calls, ?_, ?_, ?_⟩
  · intro f hf
    obtain ⟨harrived, hcopy⟩ := List.mem_filter.mp hf
    exact (hkey harrived).2 (of_decide_eq_true hcopy)
  · have hcopies : arrived.filter (·.header.seq = call.seq) = copies :=
      List.filter_congr fun f hf => by rw [decide_eq_decide]; exact (hkey hf).1
    have hconfirmed := (hrun.acksUnder_eq hattached hserves hacks hinit hpeer hregistered
      call.seq).2
    rw [hconfirmed, hcopies, List.map_const']
  · intro before between after hsplit hnone hothers
    have honce : executions.length ≤ 1 := by
      have hbetween := length_executed_copies_le_one_of_between hnone hothers
      rwa [← hsplit] at hbetween
    refine ⟨honce, ?_⟩
    intro hsuccess
    obtain ⟨-, payload, -, hback⟩ :=
      hrun.arrived_of_success hattached hself.blank hpeer hfew hsuccess rfl
    have harrived : ∃ f ∈ arrived, f.key = key := hback.exists_arrival
    have hexecuted : ∃ f ∈ executed w [] arrived, f.key = key := by
      by_contra hnot
      obtain ⟨g, hg, -⟩ := exists_mem_rtake_of_not_executed harrived hnot
      rw [List.rtake_nil] at hg
      cases hg
    obtain ⟨f, hf, hfkey⟩ := hexecuted
    have hmem : f ∈ executions := List.mem_filter.mpr ⟨hf, decide_eq_true hfkey⟩
    exact Nat.le_antisymm honce (List.length_pos_of_mem hmem)

/-- The first acknowledgment is lost, so that the client sends the frame again. A server that
remembers one frame executes it once and acknowledges it twice. -/
theorem executed_once_of_lost_ack :
    let c (s : Side) := MemoryLink.carrier s
    let config : EngineConfig := { dedupeWindow := 1 }
    let frame : Frame := ⟨.new 5 0 1, [9]⟩
    let late : Time := 2000000000
    let events : List Happening :=
      [⟨.near, .send 0 5 0 frame.payload⟩, ⟨.far, .handle 1 frame⟩,
        ⟨.near, .scan late fun _ => late⟩, ⟨.far, .handle late frame⟩,
        ⟨.near, .handle late ⟨.ack 0, []⟩⟩]
    ∃ start x : Parties (fun _ => MemoryLink) (fun _ => Unit × List (UInt16 × Bytes)),
      Run c start events x ∧ (∀ s, (start s).Attached) ∧ (start .near).Unused ∧
        (start .far).Silent ∧ (start .far).Serves config [] ∧
        (start .far).isInitialized = true ∧ config.sendAcks = true ∧
        (∀ f ∈ arrivals .far events, (start .far).registry.contains f.header.id = true) ∧
        (calls .near events).length < 65536 ∧ ⟨5, 0, [9]⟩ ∈ calls .near events ∧
        (x .near).outbound.medium.handed = [⟨.new 5 0 1, [9], true⟩, ⟨.new 5 0 1, [9], true⟩] ∧
        (x .near).delivered = [⟨5, 0, .success⟩] ∧
        ((x .far).acksUnder 0).map (fun t => (t.header, t.payload)) =
          [(.ack 0, []), (.ack 0, [])] ∧
        ((executed 1 [] (arrivals .far events)).filter (·.key = ⟨5, 0⟩)).length = 1 := by
  intro c config frame late events
  let attached (s : Side) := Engine.onLink config s ((), ([] : List (UInt16 × Bytes)))
  have hunused (s : Side) : (attached s).Unused := Engine.unused_onLink rfl s _
  obtain ⟨idle, hnew, hattach⟩ := Engine.exists_attach_onLink
    (rfl : config.validate = .ok ()) .far ((), ([] : List (UInt16 × Bytes)))
  let inner : Invoker Unit := fun _ _ => (.done, ())
  let server := (attached .far).register 5 (inner.watched 5)
  have hserves : server.Serves config [] := .register (.attach (.new hnew) hattach)
  let start : Parties (fun _ => MemoryLink) (fun _ => Unit × List (UInt16 × Bytes)) :=
    Function.update attached .far server
  have hattached : ∀ s, (start s).Attached := by
    intro s
    cases s with
    | near => exact (hunused .near).attached
    | far => exact (hunused .far).attached.congr rfl (fun _ => rfl) rfl
  let near₁ := ((start .near).send (c .near).watched 0 5 [9]).2
  let x₁ := Function.update start .near near₁
  let far₁ := (x₁ .far).handleFrame (c .far).watched 1 frame
  let x₂ := Function.update x₁ .far far₁
  let near₂ := (x₂ .near).expire (c .near).watched (fun _ => late) [(0, ⟨5, 0⟩)]
  let x₃ := Function.update x₂ .near near₂
  let far₂ := (x₃ .far).handleFrame (c .far).watched late frame
  let x₄ := Function.update x₃ .far far₂
  let near₃ := (x₄ .near).handleFrame (c .near).watched late ⟨.ack 0, []⟩
  let x := Function.update x₄ .near near₃
  have hresent : (x₃ .near).outbound.medium.handed =
      [⟨.new 5 0 1, [9], true⟩, ⟨.new 5 0 1, [9], true⟩] := by rfl
  have hdelivered : (x .near).delivered = [⟨5, 0, .success⟩] := by rfl
  have hregistered :
      ∀ f ∈ arrivals .far events, (start .far).registry.contains f.header.id = true := by
    intro f hf
    have harrivals : arrivals .far events = [frame, frame] := rfl
    obtain rfl : f = frame := by simpa [harrivals] using hf
    change server.registry.contains 5 = true
    simp [server, Engine.register, Registry.insert, Registry.contains]
  have hsilent : (start .far).Silent := fun t ht => (List.not_mem_nil ht).elim
  have hsend : Run c start (events.take 1) x₁ := by
    refine .step .stop ?_ .send
    rintro clock f ⟨⟩
  have hhandle : Run c start (events.take 2) x₂ := by
    refine .step hsend ?_ .handle
    rintro clock f ⟨⟩
    exact ⟨⟨.new 5 0 1, [9], true⟩, List.mem_singleton_self _, rfl⟩
  have hscan : Run c start (events.take 3) x₃ := by
    refine .step hhandle ?_ (.scan (.of_eq (by decide)))
    rintro clock f ⟨⟩
  have hagain : Run c start (events.take 4) x₄ := by
    refine .step hscan ?_ .handle
    rintro clock f ⟨⟩
    exact ⟨⟨.new 5 0 1, [9], true⟩, by rw [Side.opposite, hresent]; exact List.mem_cons_self, rfl⟩
  have hrun : Run c start events x := by
    refine .step hagain ?_ .handle
    rintro clock f ⟨⟩
    have hacks : ((x₄ .far).acksUnder 0).map (fun t => (t.header, t.payload)) =
        [(.ack 0, []), (.ack 0, [])] :=
      (hagain.acksUnder_eq hattached hserves rfl rfl hsilent hregistered 0).2
    obtain ⟨t, others, hunder, heq, -⟩ := List.map_eq_cons_iff.mp hacks
    obtain ⟨hheader, hpayload⟩ := Prod.mk.inj heq
    have ht : t ∈ (x₄ .far).acksUnder 0 := hunder ▸ List.mem_cons_self
    exact ⟨t, List.mem_of_mem_filter ht, by rw [hheader, hpayload]⟩
  have hcall : (⟨5, 0, [9]⟩ : Call) ∈ calls .near events := List.mem_singleton_self _
  have hresult := executed_once (s := .near) hrun hattached (hunused .near) hsilent hserves rfl rfl
    hregistered (by decide) hcall
  obtain ⟨-, -, hacks, honce⟩ := hresult
  have hothers :=
    honce [] [frame, frame] [] rfl (fun f hf => (List.not_mem_nil hf).elim) (by decide)
  have hmem : (⟨5, 0, .success⟩ : DeliveryStatus) ∈ (x .near).delivered := by
    rw [hdelivered]
    exact List.mem_singleton_self _
  exact ⟨start, x, hrun, hattached, hunused .near, hsilent, hserves, rfl, rfl, hregistered,
    by decide, hcall, rfl, hdelivered, hacks, hothers.2 hmem⟩

end Dialogue

end Courier
