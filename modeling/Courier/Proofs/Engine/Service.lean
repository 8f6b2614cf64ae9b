import Courier.Proofs.Delivery.Duplicates
import Courier.Proofs.Engine.Dialogue

/-!
# Which frames are executed

A receiver acknowledges a frame before its duplicate filter sees it. What the filter remembers
outlives the sender: a sender that numbers its calls from the beginning may find its numbers
remembered, and then it is told that a call has arrived which was not executed. This is the only
way in which that happens.
-/

namespace Courier

/-- An endpoint whose invocations are written down. -/
def Invoker.watched {ρ : Type} (id : UInt16) (invoker : Invoker ρ) :
    Invoker (ρ × List (UInt16 × Bytes)) := fun payload (outside, calls) =>
  let (response, outside) := invoker payload outside
  (response, (outside, calls ++ [(id, payload)]))

namespace Frame

/-- What the duplicate filter sees of a frame. -/
def key (f : Frame) : FrameKey := ⟨f.header.id, f.header.seq⟩

/-- What an endpoint is invoked with for a frame. -/
def call (f : Frame) : UInt16 × Bytes := (f.header.id, f.payload)

end Frame

/-- Whether a frame looks like one of the last `w` frames that were executed. -/
def Remembered (w : Nat) (done : List Frame) (f : Frame) : Prop :=
  f.key ∈ (done.map Frame.key).rtake w

instance (w : Nat) (done : List Frame) (f : Frame) : Decidable (Remembered w done f) :=
  inferInstanceAs (Decidable (f.key ∈ (done.map Frame.key).rtake w))

/-- The frames that are executed of those that arrive after `done` were executed. -/
def executed (w : Nat) (done : List Frame) : List Frame → List Frame
  | [] => []
  | f :: arriving =>
    if Remembered w done f then executed w done arriving
    else f :: executed w (done ++ [f]) arriving

/-- Frames are executed one stretch after the other, and what was executed before is remembered. -/
theorem executed_append (w : Nat) (done first second : List Frame) :
    executed w done (first ++ second) =
      executed w done first ++ executed w (done ++ executed w done first) second := by
  induction first generalizing done with
  | nil => simp [executed]
  | cons f first ih =>
    rw [List.cons_append, executed, executed]
    split
    · exact ih done
    · rw [ih, List.cons_append, List.append_assoc, List.singleton_append]

/-- A key is executed exactly if at one of its arrivals it is not remembered. -/
theorem exists_executed_iff (w : Nat) (done arrived : List Frame) (key : FrameKey) :
    (∃ f ∈ executed w done arrived, f.key = key) ↔
      ∃ before f after, arrived = before ++ f :: after ∧ f.key = key ∧
        ¬ Remembered w (done ++ executed w done before) f := by
  constructor
  · intro h
    induction arrived generalizing done with
    | nil =>
      obtain ⟨f, hf, -⟩ := h
      cases hf
    | cons g arrived ih =>
      rw [executed] at h
      by_cases hg : Remembered w done g
      · rw [if_pos hg] at h
        obtain ⟨before, f, after, rfl, hkey, hnew⟩ := ih done h
        refine ⟨g :: before, f, after, rfl, hkey, ?_⟩
        rwa [executed, if_pos hg]
      · rw [if_neg hg] at h
        obtain ⟨f, hf, hkey⟩ := h
        rcases List.mem_cons.mp hf with rfl | hf
        · exact ⟨[], f, arrived, rfl, hkey, by simpa [executed] using hg⟩
        · obtain ⟨before, f, after, rfl, hkey, hnew⟩ := ih (done ++ [g]) ⟨f, hf, hkey⟩
          refine ⟨g :: before, f, after, rfl, hkey, ?_⟩
          rwa [executed, if_neg hg, ← List.singleton_append, ← List.append_assoc]
  · rintro ⟨before, f, after, rfl, hkey, hnew⟩
    refine ⟨f, ?_, hkey⟩
    rw [executed_append, executed, if_neg hnew]
    simp

namespace Engine

variable {σ ρ : Type} {config : EngineConfig} {done : List Frame} {c : Carrier σ}
  {e e' : Engine (Watched σ) (ρ × List (UInt16 × Bytes))}

/-- The frames that a deed brings to the endpoints. -/
def Deed.arrivals : Deed → List Frame
  | .handle _ frame => if frame.header.isAck then [] else [frame]
  | _ => []

/-- A frame arrives with a deed that handles it, unless it is an acknowledgment. -/
theorem Deed.mem_arrivals {d : Deed} {f : Frame} :
    f ∈ d.arrivals ↔ f.header.isAck = false ∧ ∃ clock, d = .handle clock f := by
  constructor
  · intro hf
    cases d with
    | handle clock frame =>
      rw [arrivals] at hf
      split at hf
      · cases hf
      · next hack =>
        obtain rfl := List.mem_singleton.mp hf
        exact ⟨by simpa using hack, clock, rfl⟩
    | _ => cases hf
  · rintro ⟨hack, clock, rfl⟩
    simp [arrivals, hack]

/-- An engine in the course of its life, with all the frames that were executed by it. It may be
attached to one transport after another, or serve one client after another over one transport,
of which only what is handed over from then on is written down. -/
inductive Serves (config : EngineConfig) :
    List Frame → Engine (Watched σ) (ρ × List (UInt16 × Bytes)) → Prop
  | new {e : Engine (Watched σ) (ρ × List (UInt16 × Bytes))} {medium : Watched σ} {outside : ρ} :
      Engine.new config medium (outside, []) = .ok e → Serves config [] e
  | register {done : List Frame} {e : Engine (Watched σ) (ρ × List (UInt16 × Bytes))}
      {id : UInt16} {invoker : Invoker ρ} : Serves config done e →
      Serves config done (e.register id (invoker.watched id))
  | attach {done : List Frame} {e e' : Engine (Watched σ) (ρ × List (UInt16 × Bytes))}
      {c : Carrier σ} {medium : Watched σ} : Serves config done e →
      e.attach c.watched medium = (.ok (), e') → Serves config done e'
  | newClient {done : List Frame} {e : Engine (Watched σ) (ρ × List (UInt16 × Bytes))} :
      Serves config done e → Serves config done { e with
        outbound := { e.outbound with medium := { e.outbound.medium with handed := [] } } }
  | does {done : List Frame} {e e' : Engine (Watched σ) (ρ × List (UInt16 × Bytes))}
      {c : Carrier σ} {d : Deed} : Serves config done e →
      (∀ f ∈ d.arrivals, e.registry.contains f.header.id = true) → Does c e d e' →
      Serves config (done ++ executed config.dedupeWindow.toNat done d.arrivals) e'

/-- What an engine has of the frames that it has executed: the last of them in its filter, and
all of them in what its endpoints have written down. -/
structure Recorded (config : EngineConfig) (done : List Frame)
    (e : Engine (Watched σ) (ρ × List (UInt16 × Bytes))) : Prop where
  config_eq : e.config = config
  capacity : e.duplicates.capacity = config.dedupeWindow.toNat
  remembers : e.duplicates.Remembers (done.map Frame.key)
  calls : e.outside.2 = done.map Frame.call
  watched : ∀ id invoker, e.registry.get? id = some invoker → ∃ inner : Invoker ρ,
    invoker = inner.watched id

/-- What has to do with executing frames stays as it is. -/
structure Keeps (e e' : Engine (Watched σ) (ρ × List (UInt16 × Bytes))) : Prop where
  config : e'.config = e.config
  registry : e'.registry = e.registry
  duplicates : e'.duplicates = e.duplicates
  outside : e'.outside = e.outside

/-- What is on record stays on record as long as nothing that has to do with it changes. -/
theorem Recorded.keeps (h : Recorded config done e) (hkeeps : Keeps e e') :
    Recorded config done e' where
  config_eq := hkeeps.config.trans h.config_eq
  capacity := by rw [hkeeps.duplicates, h.capacity]
  remembers := by rw [hkeeps.duplicates]; exact h.remembers
  calls := by rw [hkeeps.outside, h.calls]
  watched := by rw [hkeeps.registry]; exact h.watched

/-! ## Deeds -/

/-- Publishing a failure leaves what was served as it is. -/
theorem keeps_reported {α : Type} (id : UInt16) (result : Except NetworkError α) :
    Keeps e (e.reported id result).2 := by
  obtain ⟨errors, heq⟩ := reported_eq id result
  rw [heq]
  exact ⟨rfl, rfl, rfl, rfl⟩

/-- Sending an acknowledgment leaves what was served as it is. -/
theorem keeps_sendAck (header : Header) : Keeps e (e.sendAck c.watched header) := by
  rcases sendAck_eq header with heq | ⟨errors, heq⟩
  · rw [heq]
    exact ⟨rfl, rfl, rfl, rfl⟩
  · rw [heq]
    exact ⟨rfl, rfl, rfl, rfl⟩

/-- Only frames that arrive for endpoints have to do with executing frames. -/
theorem Does.keeps {d : Deed} (hdoes : Does c e d e') (hnone : d.arrivals = []) : Keeps e e' := by
  cases hdoes with
  | @send clock id payload =>
    unfold Engine.send
    generalize e.dispatcher.dispatch (layers c.watched clock) id payload e.outbound = sent
    obtain ⟨result, dispatcher, outbound⟩ := sent
    have h := keeps_reported (e := { e with dispatcher, outbound }.absorb) id result
    exact ⟨h.config, h.registry, h.duplicates, h.outside⟩
  | @beginWait clock id payload =>
    unfold Engine.beginWait
    rcases e.dispatcher.draw with ⟨seq, dispatcher⟩
    dsimp only
    generalize dispatcher.dispatchWith (layers c.watched clock) id seq payload e.outbound = sent
    rcases sent with ⟨error | ⟨⟩, outbound⟩
    · obtain ⟨errors, heq⟩ := reported_eq (α := UInt16) id (.error error)
      dsimp only
      rw [heq]
      exact ⟨rfl, rfl, rfl, rfl⟩
    · exact ⟨rfl, rfl, rfl, rfl⟩
  | scan => exact ⟨rfl, rfl, rfl, rfl⟩
  | @handle clock frame =>
    cases hack : frame.header.isAck with
    | true =>
      rw [handleFrame, if_pos hack]
      exact ⟨rfl, rfl, rfl, rfl⟩
    | false => simp [Deed.arrivals, hack] at hnone
  | aside => exact ⟨rfl, rfl, rfl, rfl⟩

/-- An endpoint that is invoked writes that down. -/
theorem invoke_registered {f : Frame} {inner : Invoker ρ}
    (h : e.registry.get? f.header.id = some (inner.watched f.header.id)) :
    (e.invoke f).config = e.config ∧ (e.invoke f).registry = e.registry ∧
      (e.invoke f).duplicates = e.duplicates ∧
        (e.invoke f).outside.2 = e.outside.2 ++ [f.call] := by
  simp only [invoke, h, Invoker.watched]
  split <;> exact ⟨rfl, rfl, rfl, rfl⟩

/-- A frame for an endpoint is executed unless it is remembered. -/
theorem Recorded.handle {f : Frame} {clock : Time} (h : Recorded config done e)
    (hack : f.header.isAck = false) (hregistered : e.registry.contains f.header.id = true) :
    Recorded config (done ++ executed config.dedupeWindow.toNat done [f])
      (e.handleFrame c.watched clock f) := by
  have hkeeps : Keeps e (e.sendAck c.watched f.header) := keeps_sendAck f.header
  rw [← hkeeps.registry] at hregistered
  replace h := h.keeps hkeeps
  simp only [handleFrame, hack, Bool.false_eq_true, if_false]
  generalize e.sendAck c.watched f.header = e at h hregistered
  have hkey : f.key = ⟨f.header.id, f.header.seq⟩ := rfl
  rw [← hkey, ← h.capacity]
  by_cases hmem : Remembered e.duplicates.capacity done f
  · have hnone : done ++ executed e.duplicates.capacity done [f] = done := by
      simp [executed, hmem]
    rw [hnone, h.remembers.check_of_mem hmem]
    exact {
      config_eq := h.config_eq
      capacity := h.capacity
      remembers := ⟨h.remembers.window, h.remembers.seen, h.remembers.nodup⟩
      calls := h.calls
      watched := h.watched }
  · have hone : done ++ executed e.duplicates.capacity done [f] = done ++ [f] := by
      simp [executed, hmem]
    obtain ⟨duplicates, hcheck, hcapacity, hremembers⟩ := h.remembers.check_of_not_mem hmem
    rw [hone, hcheck]
    obtain ⟨invoker, hinvoker⟩ : ∃ invoker, e.registry.get? f.header.id = some invoker := by
      rwa [Registry.contains, Std.ExtTreeMap.contains_eq_isSome_getElem?,
        Option.isSome_iff_exists] at hregistered
    obtain ⟨inner, rfl⟩ := h.watched _ _ hinvoker
    obtain ⟨hconfig, hregistry, hduplicates, hcalls⟩ :=
      invoke_registered (e := { e with duplicates }) hinvoker
    exact {
      config_eq := hconfig.trans h.config_eq
      capacity := by rw [hduplicates, hcapacity, h.capacity]
      remembers := by
        rw [hduplicates, List.map_append]
        exact hremembers
      calls := by rw [hcalls, h.calls, List.map_append]; rfl
      watched := by rw [hregistry]; exact h.watched }

/-- No deed registers an endpoint. -/
theorem Does.registry_eq {d : Deed} (hdoes : Does c e d e') : e'.registry = e.registry := by
  by_cases hnone : d.arrivals = []
  · exact (hdoes.keeps hnone).registry
  · cases hdoes with
    | @handle clock frame =>
      cases hack : frame.header.isAck with
      | true => simp [Deed.arrivals, hack] at hnone
      | false =>
        obtain ⟨errors, outside, duplicates, heq⟩ := handleFrame_eq clock hack
        rw [heq]
        exact (keeps_sendAck frame.header).registry
    | _ => exact absurd rfl hnone

/-- Whatever is done, what was executed before and what is executed now is on record. -/
theorem Recorded.does {d : Deed} (h : Recorded config done e)
    (hregistered : ∀ f ∈ d.arrivals, e.registry.contains f.header.id = true)
    (hdoes : Does c e d e') :
    Recorded config (done ++ executed config.dedupeWindow.toNat done d.arrivals) e' := by
  by_cases hnone : d.arrivals = []
  · rw [hnone, executed, List.append_nil]
    exact h.keeps (hdoes.keeps hnone)
  · cases hdoes with
    | @handle clock frame =>
      cases hack : frame.header.isAck with
      | true => simp [Deed.arrivals, hack] at hnone
      | false =>
        have harrivals : (Deed.handle clock frame).arrivals = [frame] := by
          simp [Deed.arrivals, hack]
        rw [harrivals] at hregistered ⊢
        exact h.handle hack (hregistered frame (List.mem_singleton_self frame))
    | _ => exact absurd rfl hnone

/-! ## Lives -/

/-- A new engine has executed nothing. -/
theorem recorded_new {medium : Watched σ} {outside : ρ}
    (hnew : Engine.new config medium (outside, []) = .ok e) : Recorded config [] e := by
  obtain rfl := eq_of_new hnew
  refine ⟨rfl, rfl, DuplicateFilter.remembers_new _, rfl, ?_⟩
  intro id invoker hinvoker
  simp [Registry.get?] at hinvoker

/-- A registered endpoint is watched, too. -/
theorem Recorded.register {id : UInt16} {invoker : Invoker ρ} (h : Recorded config done e) :
    Recorded config done (e.register id (invoker.watched id)) where
  config_eq := h.config_eq
  capacity := h.capacity
  remembers := h.remembers
  calls := h.calls
  watched id' invoker' hinvoker := by
    rw [Engine.register, Registry.insert, Registry.get?, Std.ExtTreeMap.getElem?_insert] at hinvoker
    split at hinvoker
    · next heq =>
      obtain rfl := Std.LawfulEqCmp.compare_eq_iff_eq.mp heq
      exact ⟨invoker, (Option.some.inj hinvoker).symm⟩
    · exact h.watched id' invoker' hinvoker

/-- Attaching a transport leaves what has to do with executing as it is. -/
theorem keeps_attach {medium : Watched σ} (hattach : e.attach c.watched medium = (.ok (), e')) :
    Keeps e e' := by
  unfold attach at hattach
  split at hattach
  · cases hattach
  · obtain ⟨-, rfl⟩ := Prod.mk.inj hattach
    exact ⟨rfl, rfl, rfl, rfl⟩

/-- Whatever an engine has lived through, its filter holds the last of the frames that were
executed, and its endpoints were invoked for all of them and for no others. -/
theorem Serves.recorded (h : Serves config done e) : Recorded config done e := by
  induction h with
  | new hnew => exact recorded_new hnew
  | register _ ih => exact ih.register
  | attach _ hattach ih => exact ih.keeps (keeps_attach hattach)
  | newClient _ ih => exact ih.keeps ⟨rfl, rfl, rfl, rfl⟩
  | does _ hregistered hdoes ih => exact ih.does hregistered hdoes

end Engine

namespace Dialogue

variable {σ ρ : Side → Type} {config : EngineConfig} {done : List Frame}
  {c : (s : Side) → Carrier (σ s)} {events : List Happening} {s : Side}
  {start x : Parties σ fun s => ρ s × List (UInt16 × Bytes)}

/-- The frames for endpoints that have reached a side, in order. -/
def arrivals (s : Side) (events : List Happening) : List Frame :=
  events.flatMap fun h => if h.side = s then h.deed.arrivals else []

/-- A new happening adds what arrives with it. -/
theorem arrivals_append (s : Side) (events : List Happening) (h : Happening) :
    arrivals s (events ++ [h]) =
      arrivals s events ++ if h.side = s then h.deed.arrivals else [] := by
  simp [arrivals]

/-- What arrives at a side is what the side handles, but for acknowledgments. -/
theorem mem_arrivals {f : Frame} : f ∈ arrivals s events ↔
    f.header.isAck = false ∧ ∃ clock, ⟨s, .handle clock f⟩ ∈ events := by
  simp only [arrivals, List.mem_flatMap]
  constructor
  · rintro ⟨⟨side, d⟩, hmem, hf⟩
    split at hf
    · next hside =>
      obtain ⟨hack, clock, hd⟩ := Engine.Deed.mem_arrivals.mp hf
      dsimp only at hside hd
      subst hside hd
      exact ⟨hack, clock, hmem⟩
    · cases hf
  · rintro ⟨hack, clock, hmem⟩
    refine ⟨_, hmem, ?_⟩
    rw [if_pos rfl]
    exact Engine.Deed.mem_arrivals.mpr ⟨hack, clock, rfl⟩

/-- What has been acknowledged has reached the other side. -/
theorem Arrived.exists_arrival {id seq : UInt16} {payload : Bytes}
    (h : Arrived events s id seq payload) :
    ∃ f ∈ arrivals s.opposite events, f.key = ⟨id, seq⟩ := by
  obtain ⟨clock, clock', clock'', header, rfl, rfl, hack, hsub⟩ := h
  refine ⟨⟨header, payload⟩, mem_arrivals.mpr ⟨hack, clock', ?_⟩, rfl⟩
  exact hsub.subset (List.mem_cons_of_mem _ List.mem_cons_self)

/-- What a side executes in a run is determined by what it has executed before and by what
reaches it. -/
theorem Run.serves (hrun : Run c start events x) (hserves : (start s).Serves config done)
    (hregistered : ∀ f ∈ arrivals s events, (start s).registry.contains f.header.id = true) :
    (x s).registry = (start s).registry ∧ (x s).Serves config
      (done ++ executed config.dedupeWindow.toNat done (arrivals s events)) := by
  induction hrun with
  | stop => exact ⟨rfl, by simpa [arrivals, executed] using hserves⟩
  | @step x events side d e hrun _ hdoes ih =>
    rw [arrivals_append] at hregistered ⊢
    obtain ⟨hregistry, hserved⟩ := ih fun f hf => hregistered f (List.mem_append_left _ hf)
    by_cases hs : side = s
    · subst hs
      rw [if_pos rfl] at hregistered ⊢
      rw [Function.update_self, hdoes.registry_eq]
      refine ⟨hregistry, ?_⟩
      rw [executed_append, ← List.append_assoc]
      refine .does hserved ?_ hdoes
      intro f hf
      rw [hregistry]
      exact hregistered f (List.mem_append_right _ hf)
    · rw [if_neg hs, List.append_nil, Function.update_of_ne fun h => hs h.symm]
      exact ⟨hregistry, hserved⟩

/-- Every frame that reaches a side is a call of the other side, if the other side had nothing
under way at the start. -/
theorem Run.sent_of_mem_arrivals (hrun : Run c start events x) (hattached : ∀ s, (start s).Attached)
    (hself : ∀ seq, (start s).slices seq = {}) (hpeer : (start s.opposite).Silent)
    (hfew : (calls s events).length ≤ 65536) {f : Frame} (hf : f ∈ arrivals s.opposite events) :
    Sent events s f.header.id f.header.seq f.payload := by
  induction hrun with
  | stop => cases hf
  | @step x events side d e hrun hreach _ ih =>
    have hfew' : (calls s events).length ≤ 65536 := by
      rw [calls_append, List.length_append] at hfew
      omega
    rw [arrivals_append] at hf
    rcases List.mem_append.mp hf with hearlier | hnow
    · exact (ih hfew' hearlier).append _
    · split at hnow
      · next hside =>
        obtain ⟨hack, clock, hd⟩ := Engine.Deed.mem_arrivals.mp hnow
        dsimp only at hside hd
        subst hside hd
        obtain ⟨t, ht, rfl⟩ := hreach clock f rfl
        rw [Side.opposite_opposite] at ht
        have htraced := (hrun.traced hattached hself hpeer hfew' t.header.seq).1
        exact (htraced.handed t (Engine.mem_slices_of_mem_handed ht) hack).append _
      · cases hnow

/-- What is among the last of two lists is in the second one or among the last of the first. -/
theorem mem_rtake_append {α : Type} {l l' : List α} {a : α} {n : Nat}
    (h : a ∈ (l ++ l').rtake n) : a ∈ l.rtake n ∨ a ∈ l' := by
  rw [List.rtake, List.drop_append, List.length_append] at h
  rcases List.mem_append.mp h with h | h
  · refine .inl ?_
    have hle : l.length - n ≤ l.length + l'.length - n := by omega
    exact (List.drop_sublist_drop_left l hle).subset h
  · exact .inr (List.mem_of_mem_drop h)

/-- A key that arrives and is not executed at all was remembered from before. -/
theorem exists_mem_rtake_of_not_executed {w : Nat} {arrived : List Frame} {key : FrameKey}
    (harrived : ∃ f ∈ arrived, f.key = key) (hnot : ¬ ∃ f ∈ executed w done arrived, f.key = key) :
    ∃ g ∈ done.rtake w, g.key = key := by
  obtain ⟨f, hf, hkey⟩ := harrived
  obtain ⟨before, after, rfl⟩ := List.append_of_mem hf
  have hremembered : Remembered w (done ++ executed w done before) f := by
    by_contra hnew
    exact hnot ((exists_executed_iff w done _ key).mpr ⟨before, f, after, rfl, hkey, hnew⟩)
  rw [Remembered, hkey, List.map_append] at hremembered
  rcases mem_rtake_append hremembered with hmem | hmem
  · rw [List.rtake, List.length_map, ← List.map_drop] at hmem
    exact List.mem_map.mp hmem
  · obtain ⟨g, hg, hgkey⟩ := List.mem_map.mp hmem
    refine absurd ⟨g, ?_, hgkey⟩ hnot
    rw [executed_append]
    exact List.mem_append_left _ hg

/-- Which frames of a client are executed: those that do not look like one of the last that were
executed, for it or for an earlier client, as many as the filter has room for. A client that has
nothing under way at the start, whatever its next number is, and makes fewer calls than there are
numbers may be told of a success for a call that was not executed, but only if the frame of that
call was taken for another one each time it arrived, and then one of the last frames that were
executed before had its key. -/
theorem executed_unless_remembered (hrun : Run c start events x)
    (hattached : ∀ s, (start s).Attached) (hself : (start s).Unused)
    (hpeer : (start s.opposite).Silent) (hserves : (start s.opposite).Serves config done)
    (hregistered : ∀ f ∈ arrivals s.opposite events,
      (start s.opposite).registry.contains f.header.id = true) :
    let w := config.dedupeWindow.toNat
    let arrived := arrivals s.opposite events
    (x s.opposite).outside.2 =
        (start s.opposite).outside.2 ++ (executed w done arrived).map Frame.call ∧
      ((calls s events).length < 65536 → ∀ status ∈ (x s).delivered, status.outcome = .success →
        let key : FrameKey := ⟨status.endpoint, status.seq⟩
        ∃ payload, (calls s events).filter (·.seq = status.seq) =
            [⟨status.endpoint, status.seq, payload⟩] ∧
          (∃ f ∈ arrived, f.key = key) ∧
          (∀ f ∈ arrived, f.key = key → f.payload = payload) ∧
          ((∃ f ∈ executed w done arrived, f.key = key) ↔
            ∃ before f after, arrived = before ++ f :: after ∧ f.key = key ∧
              ¬ Remembered w (done ++ executed w done before) f) ∧
          ((¬ ∃ f ∈ executed w done arrived, f.key = key) → ∃ g ∈ done.rtake w, g.key = key)) := by
  intro w arrived
  constructor
  · have hcalls := (hrun.serves hserves hregistered).2.recorded.calls
    rw [hcalls, hserves.recorded.calls, List.map_append]
  · intro hfew status hstatus hsuccess key
    obtain ⟨-, payload, hcall, hback⟩ :=
      hrun.arrived_of_success hattached hself.blank hpeer hfew hstatus hsuccess
    have harrived : ∃ f ∈ arrived, f.key = key := hback.exists_arrival
    refine ⟨payload, hcall, harrived, ?_, exists_executed_iff w done arrived key,
      exists_mem_rtake_of_not_executed harrived⟩
    intro f hf hkey
    have hsent := hrun.sent_of_mem_arrivals hattached hself.blank hpeer (Nat.le_of_lt hfew) hf
    have hseq : f.header.seq = status.seq := congrArg FrameKey.seq hkey
    have hmem : ⟨f.header.id, f.header.seq, f.payload⟩ ∈
        (calls s events).filter (·.seq = status.seq) :=
      List.mem_filter.mpr ⟨mem_calls.mpr hsent, decide_eq_true hseq⟩
    rw [hcall] at hmem
    exact congrArg Call.payload (List.mem_singleton.mp hmem)

/-- A server that remembers one frame has served a client. The next client begins to number anew,
and is told of a success for a call that was not executed. -/
theorem executed_unless_remembered_of_restart :
    let c (s : Side) := MemoryLink.carrier s
    let config : EngineConfig := { dedupeWindow := 1 }
    let first : Frame := ⟨.new 5 0 1, [9]⟩
    let second : Frame := ⟨.new 5 0 1, [8]⟩
    let events : List Happening :=
      [⟨.near, .send 0 5 0 second.payload⟩, ⟨.far, .handle 1 second⟩,
        ⟨.near, .handle 2 ⟨.ack 0, []⟩⟩]
    ∃ start x : Parties (fun _ => MemoryLink) (fun _ => Unit × List (UInt16 × Bytes)),
      Run c start events x ∧ (∀ s, (start s).Attached) ∧ (start .near).Unused ∧
        (start .far).Silent ∧ (start .far).Serves config [first] ∧
        (∀ f ∈ arrivals .far events, (start .far).registry.contains f.header.id = true) ∧
        (x .near).delivered = [⟨5, 0, .success⟩] ∧ calls .near events = [⟨5, 0, second.payload⟩] ∧
        (x .far).outside.2 = [first.call] := by
  intro c config first second events
  let idle : Engine (Watched MemoryLink) (Unit × List (UInt16 × Bytes)) := {
    config
    outbound := { tracker := { timeout := .ofMillis 1000 }, medium := ⟨{}, []⟩ }
    duplicates := .new 1
    outside := ((), []) }
  have hnew : Engine.new config ⟨{}, []⟩ ((), []) = .ok idle := rfl
  let attached (s : Side) := (idle.attach (c s).watched ⟨{}, []⟩).2
  have hattach (s : Side) : idle.attach (c s).watched ⟨{}, []⟩ = (.ok (), attached s) := by
    cases s <;> rfl
  have hunused (s : Side) : (attached s).Unused := Engine.unused_of_attach hnew rfl (hattach s)
  let inner : Invoker Unit := fun _ _ => (.done, ())
  let server := (attached .far).register 5 (inner.watched 5)
  have hregistry : server.registry.contains 5 = true := by
    simp [server, Engine.register, Registry.insert, Registry.contains]
  have hserver : server.Serves config [] := .register (.attach (.new hnew) (hattach .far))
  let served := server.handleFrame (c .far).watched 0 first
  have hdoes : Engine.Does (c .far) server (.handle 0 first) served := .handle
  have hserved : served.Serves config [first] := by
    refine .does (d := .handle 0 first) hserver ?_ hdoes
    intro f hf
    rw [List.mem_singleton.mp hf]
    exact hregistry
  let waiting : Engine (Watched MemoryLink) (Unit × List (UInt16 × Bytes)) :=
    { served with outbound :=
      { served.outbound with medium := { served.outbound.medium with handed := [] } } }
  have hready : server.Attached := (hunused .far).attached.congr rfl (fun _ => rfl) rfl
  have hwaiting : waiting.Attached := (hdoes.attached hready).congr rfl (fun _ => rfl) rfl
  have hacks : waiting.config.sendAcks = true := by
    rw [hserved.newClient.recorded.config_eq]
  have hinit : waiting.isInitialized = true := by
    change served.forwarding.isSome = true
    obtain ⟨errors, outside, duplicates, heq⟩ :=
      Engine.handleFrame_eq (e := server) (c := c .far) 0 (rfl : first.header.isAck = false)
    rw [show served = _ from heq]
    rcases Engine.sendAck_eq (e := server) (c := c .far) first.header with hsame | ⟨errors', hsent⟩
    · rw [hsame]
      rfl
    · rw [hsent]
      rfl
  let start : Parties (fun _ => MemoryLink) (fun _ => Unit × List (UInt16 × Bytes)) :=
    Function.update attached .far waiting
  let near₁ := ((start .near).send (c .near).watched 0 5 [8]).2
  let x₁ := Function.update start .near near₁
  let far₁ := (x₁ .far).handleFrame (c .far).watched 1 second
  let x₂ := Function.update x₁ .far far₁
  let near₂ := (x₂ .near).handleFrame (c .near).watched 2 ⟨.ack 0, []⟩
  let x₃ := Function.update x₂ .near near₂
  have hsend : Run c start [⟨.near, .send 0 5 0 [8]⟩] x₁ := .step .stop nofun .send
  have hhandle : Run c start [⟨.near, .send 0 5 0 [8]⟩, ⟨.far, .handle 1 second⟩] x₂ := by
    refine .step hsend ?_ .handle
    rintro clock frame ⟨⟩
    exact ⟨⟨.new 5 0 1, [8], true⟩, List.mem_singleton_self _, rfl⟩
  have hrun : Run c start events x₃ := by
    refine .step hhandle ?_ .handle
    rintro clock frame ⟨⟩
    obtain ⟨taken, hhanded⟩ := Engine.handed_handleFrame (e := waiting) (c := c .far) 1
      (rfl : second.header.isAck = false) hacks hinit
    refine ⟨⟨.ack 0, [], taken⟩, ?_, rfl⟩
    exact hhanded ▸ List.mem_append_right _ (List.mem_singleton_self _)
  have hattached : ∀ s, (start s).Attached := by
    intro s
    cases s with
    | near => exact (hunused .near).attached
    | far => exact hwaiting
  have hregistered :
      ∀ f ∈ arrivals .far events, (start .far).registry.contains f.header.id = true := by
    intro f hf
    obtain rfl := List.mem_singleton.mp hf
    change served.registry.contains 5 = true
    rw [hdoes.registry_eq]
    exact hregistry
  have hserves : (start .far).Serves config [first] := hserved.newClient
  have hresult := executed_unless_remembered (s := .near) hrun hattached (hunused .near) nofun
    hserves hregistered
  have hcalls : (start .far).outside.2 = [first.call] := hserves.recorded.calls
  refine ⟨start, x₃, hrun, hattached, hunused .near, nofun, hserves, hregistered, rfl, rfl, ?_⟩
  exact hresult.1.trans (congrArg (· ++ []) hcalls)

end Dialogue

end Courier
