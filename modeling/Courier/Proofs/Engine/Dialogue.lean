import Courier.Proofs.Engine.Deeds

/-!
# No false success

Two engines send to each other over a network that may lose, delay, repeat and reorder what it
is handed. Whatever is under way stems from a deed: a frame from a call of its sender, and an
acknowledgment from a frame that its sender has handled. Therefore a success is published only
for a call that has reached the other side.
-/

namespace Courier

namespace Dialogue

/-- A deed of one of two engines. -/
structure Happening where
  side : Side
  deed : Engine.Deed

variable {σ ρ : Side → Type}

/-- Two engines, each over a transport of its own. -/
abbrev Parties (σ ρ : Side → Type) := (s : Side) → Engine (Watched (σ s)) (ρ s)

/-- Whether a frame may reach a side: the other side has handed it to its transport at some
time, no matter when, how often, and what else it has handed over since. -/
def MayReach (x : Parties σ ρ) (s : Side) (frame : Frame) : Prop :=
  ∃ t ∈ (x s.opposite).outbound.medium.handed, frame = ⟨t.header, t.payload⟩

/-- Deeds of two engines in any order. -/
inductive Run (c : (s : Side) → Carrier (σ s)) (start : Parties σ ρ) :
    List Happening → Parties σ ρ → Prop
  | stop : Run c start [] start
  | step {x : Parties σ ρ} {events : List Happening} {s : Side} {d : Engine.Deed}
      {e : Engine (Watched (σ s)) (ρ s)} : Run c start events x →
      (∀ clock frame, d = .handle clock frame → MayReach x s frame) →
      Engine.Does (c s) (x s) d e →
      Run c start (events ++ [⟨s, d⟩]) (Function.update x s e)

/-- A payload that was sent to an endpoint under a number. -/
structure Call where
  id : UInt16
  seq : UInt16
  payload : Bytes
deriving DecidableEq, Repr

/-- The call that a side makes, if this is one. -/
def Happening.call? (s : Side) : Happening → Option Call
  | ⟨side, .send _ id seq payload⟩ => if side = s then some ⟨id, seq, payload⟩ else none
  | _ => none

/-- The calls of a side, in order; each has drawn a number. -/
def calls (s : Side) (events : List Happening) : List Call := events.filterMap (·.call? s)

/-- A side has sent a payload to an endpoint under a number. -/
def Sent (events : List Happening) (s : Side) (id seq : UInt16) (payload : Bytes) : Prop :=
  ∃ clock, ⟨s, .send clock id seq payload⟩ ∈ events

/-- A side has handled a frame that the other side had sent under a number. -/
def Confirmed (events : List Happening) (s : Side) (seq : UInt16) : Prop :=
  ∃ clock clock' header payload, header.isAck = false ∧ header.seq = seq ∧
    [⟨s.opposite, .send clock header.id seq payload⟩,
      ⟨s, .handle clock' ⟨header, payload⟩⟩].Sublist events

/-- A side has sent a payload, then the other side has handled it, and then an acknowledgment of
it has come back. -/
def Arrived (events : List Happening) (s : Side) (id seq : UInt16) (payload : Bytes) : Prop :=
  ∃ clock clock' clock'' header, header.id = id ∧ header.seq = seq ∧ header.isAck = false ∧
    [⟨s, .send clock id seq payload⟩, ⟨s.opposite, .handle clock' ⟨header, payload⟩⟩,
      ⟨s, .handle clock'' ⟨.ack seq, []⟩⟩].Sublist events

/-- Whatever belongs to a sequence number of a side stems from a call under it, and there are not
more outcomes and frames in flight than calls. -/
structure Traced (events : List Happening) (s : Side) (seq : UInt16) (v : Slice) : Prop where
  record : ∀ record, v.record = some record → ∃ payload, Sent events s record.endpoint seq payload
  copy : ∀ copy, v.copy = some copy → Sent events s copy.header.id seq copy.payload
  handed : ∀ t ∈ v.handed, t.header.isAck = false → Sent events s t.header.id seq t.payload
  told : ∀ status ∈ v.told, status.outcome = .success →
    ∃ payload, Arrived events s status.endpoint seq payload
  once : v.told.length + (if v.record.isSome then 1 else 0) ≤
    ((calls s events).map (·.seq)).count seq

/-- Whatever acknowledgment a side has handed over stems from a frame that it has handled. -/
def Answered (events : List Happening) (s : Side) (seq : UInt16) (v : Slice) : Prop :=
  ∀ t ∈ v.handed, t.header.isAck = true →
    t.header = .ack seq ∧ t.payload = [] ∧ Confirmed events s seq

variable {events : List Happening} {s : Side} {id seq : UInt16} {payload : Bytes} {h : Happening}
  {v v' : Slice}

/-! ## Histories grow -/

/-- What was sent has been sent, whatever happens next. -/
theorem Sent.append (hsent : Sent events s id seq payload) (h : Happening) :
    Sent (events ++ [h]) s id seq payload := by
  obtain ⟨clock, hmem⟩ := hsent
  exact ⟨clock, List.mem_append_left _ hmem⟩

/-- What was confirmed has been confirmed. -/
theorem Confirmed.append (hconfirmed : Confirmed events s seq) (h : Happening) :
    Confirmed (events ++ [h]) s seq := by
  obtain ⟨clock, clock', header, payload, hack, hseq, hsub⟩ := hconfirmed
  exact ⟨clock, clock', header, payload, hack, hseq, hsub.trans (List.sublist_append_left _ _)⟩

/-- What has arrived has arrived. -/
theorem Arrived.append (harrived : Arrived events s id seq payload) (h : Happening) :
    Arrived (events ++ [h]) s id seq payload := by
  obtain ⟨clock, clock', clock'', header, hid, hseq, hack, hsub⟩ := harrived
  exact ⟨clock, clock', clock'', header, hid, hseq, hack,
    hsub.trans (List.sublist_append_left _ _)⟩

/-- A new happening adds its call, if it is one, to those of its side. -/
theorem calls_append (s : Side) (events : List Happening) (h : Happening) :
    calls s (events ++ [h]) = calls s events ++ (h.call? s).toList := by
  cases hcall : h.call? s <;> simp [calls, hcall]

/-- Calls under a number do not become fewer. -/
theorem count_calls_le (s : Side) (events : List Happening) (h : Happening) (seq : UInt16) :
    ((calls s events).map (·.seq)).count seq ≤
      ((calls s (events ++ [h])).map (·.seq)).count seq := by
  rw [calls_append, List.map_append, List.count_append]
  omega

/-- What stems from the events so far stems from them and one more. -/
theorem Traced.append (htraced : Traced events s seq v) (h : Happening) :
    Traced (events ++ [h]) s seq v where
  record record hrec := by
    obtain ⟨payload, hsent⟩ := htraced.record record hrec
    exact ⟨payload, hsent.append h⟩
  copy copy hcopy := (htraced.copy copy hcopy).append h
  handed t ht hack := (htraced.handed t ht hack).append h
  told status hstatus hsuccess := by
    obtain ⟨payload, harrived⟩ := htraced.told status hstatus hsuccess
    exact ⟨payload, harrived.append h⟩
  once := Nat.le_trans htraced.once (count_calls_le s events h seq)

/-- What was answered by the events so far was answered by them and one more. -/
theorem Answered.append (hanswered : Answered events s seq v) (h : Happening) :
    Answered (events ++ [h]) s seq v := by
  intro t ht hack
  obtain ⟨hheader, hempty, hconfirmed⟩ := hanswered t ht hack
  exact ⟨hheader, hempty, hconfirmed.append h⟩

/-- A call is found among the calls of its side exactly if it was sent. -/
theorem mem_calls : ⟨id, seq, payload⟩ ∈ calls s events ↔ Sent events s id seq payload := by
  simp only [calls, List.mem_filterMap]
  constructor
  · rintro ⟨⟨side, d⟩, hmem, hcall⟩
    cases d with
    | send clock id' seq' payload' =>
      simp only [Happening.call?] at hcall
      split at hcall
      · next hside =>
        subst hside
        cases hcall
        exact ⟨clock, hmem⟩
      · cases hcall
    | scan => cases hcall
    | handle => cases hcall
    | aside => cases hcall
  · rintro ⟨clock, hmem⟩
    exact ⟨_, hmem, by simp [Happening.call?]⟩

/-! ## Numbers -/

/-- Two calls under one number are the same as long as no number was drawn twice. -/
theorem Sent.unique {id' : UInt16} {payload' : Bytes}
    (hnodup : ((calls s events).map (·.seq)).Nodup)
    (hsent : Sent events s id seq payload) (hsent' : Sent events s id' seq payload') :
    id = id' ∧ payload = payload' := by
  have heq := List.inj_on_of_nodup_map hnodup (mem_calls.mpr hsent) (mem_calls.mpr hsent') rfl
  exact ⟨congrArg Call.id heq, congrArg Call.payload heq⟩

/-- Both sides stay attached throughout a run. -/
theorem Run.attached {c : (s : Side) → Carrier (σ s)} {start x : Parties σ ρ}
    (hrun : Run c start events x) (hstart : ∀ s, (start s).Attached) (s : Side) :
    (x s).Attached := by
  induction hrun with
  | stop => exact hstart s
  | @step x events side d e _ _ hdoes ih =>
    by_cases hs : s = side
    · subst hs
      rw [Function.update_self]
      exact hdoes.attached ih
    · rw [Function.update_of_ne hs]
      exact ih

/-- What one side does is no call of the other. -/
theorem call?_of_ne {side : Side} {d : Engine.Deed} (hs : s ≠ side) :
    Happening.call? s ⟨side, d⟩ = none := by
  have hs' : side ≠ s := fun h => hs h.symm
  cases d with
  | send => simp [Happening.call?, hs']
  | _ => rfl

/-- A side numbers its calls one after the other. -/
theorem Run.numbered {c : (s : Side) → Carrier (σ s)} {start x : Parties σ ρ}
    (hrun : Run c start events x) (hstart : ∀ s, (start s).Attached) (s : Side) :
    Sequence.Consecutive (start s).dispatcher.sequence.upcoming ((calls s events).map (·.seq))
      (x s).dispatcher.sequence.upcoming := by
  induction hrun with
  | stop => exact .nil
  | @step x events side d e hrun _ hdoes ih =>
    rw [calls_append, List.map_append]
    by_cases hs : s = side
    · subst hs
      rw [Function.update_self]
      rcases hdoes.upcoming_eq (hrun.attached hstart s) with
        ⟨clock, id, payload, rfl, hnext⟩ | ⟨hno, hnext⟩
      · have hcall :
            Happening.call? s ⟨s, .send clock id (x s).dispatcher.sequence.upcoming payload⟩ =
              some ⟨id, (x s).dispatcher.sequence.upcoming, payload⟩ := by simp [Happening.call?]
        rw [hcall, hnext]
        exact ih.concat
      · have hcall : Happening.call? s ⟨s, d⟩ = none := by
          cases d with
          | send clock id seq payload => exact absurd rfl (hno clock id seq payload)
          | _ => rfl
        rw [hcall, hnext]
        simpa using ih
    · rw [Function.update_of_ne hs, call?_of_ne hs]
      simpa using ih

/-- A side that has made at most as many calls as there are numbers has used none twice. -/
theorem Run.nodup_calls {c : (s : Side) → Carrier (σ s)} {start x : Parties σ ρ}
    (hrun : Run c start events x) (hstart : ∀ s, (start s).Attached) (s : Side)
    (hfew : (calls s events).length ≤ 65536) : ((calls s events).map (·.seq)).Nodup :=
  (hrun.numbered hstart s).nodup (by rwa [List.length_map])

/-! ## The side that sends -/

/-- Whatever is handed over stems from a call, if what is new does. -/
theorem Traced.hand (htraced : Traced events s seq v) {t : Transmission}
    (ht : t.header.isAck = false → Sent events s t.header.id seq t.payload) :
    Traced events s seq (v.hand t) where
  record := htraced.record
  copy := htraced.copy
  handed t' ht' := by
    rcases List.mem_append.mp ht' with ht' | ht'
    · exact htraced.handed t' ht'
    · rw [List.mem_singleton.mp ht']
      exact ht
  told := htraced.told
  once := htraced.once

/-- A frame that ends with a success has arrived. -/
theorem Traced.settle (htraced : Traced events s seq v) {status : DeliveryStatus}
    (hrec : v.record.isSome = true)
    (hstatus : status.outcome = .success →
      ∃ payload, Arrived events s status.endpoint seq payload) :
    Traced events s seq (v.settle status) where
  record := nofun
  copy := nofun
  handed := htraced.handed
  told status' hmem hsuccess := by
    rcases List.mem_append.mp hmem with hmem | hmem
    · exact htraced.told status' hmem hsuccess
    · obtain rfl := List.mem_singleton.mp hmem
      exact hstatus hsuccess
  once := by
    have honce := htraced.once
    rw [hrec] at honce
    simpa [Slice.settle, Slice.tell] using honce

/-- What a late frame comes to stems from the same call as before. -/
theorem Traced.late {clock : Time} {record : InFlight} (htraced : Traced events s seq v)
    (hrec : v.record = some record)
    (hlate : Slice.Late clock ⟨record.endpoint, seq, .timeout⟩ { v with record := none } v') :
    Traced events s seq v' := by
  have hsome : v.record.isSome = true := by simp [hrec]
  cases hlate with
  | untracked => exact htraced.settle hsome nofun
  | exhausted => exact htraced.settle hsome nofun
  | @abandoned copy hcopy =>
    exact (htraced.hand (t := ⟨copy.header, copy.payload, false⟩) fun _ =>
      htraced.copy copy hcopy).settle hsome nofun
  | @resent copy hcopy =>
    have hcopied := htraced.copy copy hcopy
    have hhanded := htraced.hand (t := ⟨copy.header, copy.payload, true⟩) fun _ => hcopied
    exact {
      record := by
        rintro record ⟨⟩
        exact ⟨copy.payload, hcopied⟩
      copy := by
        rintro copy ⟨⟩
        exact hcopied
      handed := hhanded.handed
      told := hhanded.told
      once := by
        have honce := htraced.once
        rw [hsome] at honce
        exact honce }

/-- Whatever a side does about a number continues to stem from its calls, if acknowledgments
stem from what the other side has handled. -/
theorem Traced.follows {d : Engine.Deed} (htraced : Traced events s seq v)
    (hfollows : v.Follows seq d v') (hnodup : ((calls s events).map (·.seq)).Nodup)
    (hreach : ∀ clock frame, d = .handle clock frame → frame.header.isAck = true →
      frame = ⟨.ack frame.header.seq, []⟩ ∧ Confirmed events s.opposite frame.header.seq) :
    Traced (events ++ [⟨s, d⟩]) s seq v' := by
  have happend := htraced.append ⟨s, d⟩
  cases hfollows with
  | same => exact happend
  | late hrec hlate => exact happend.late hrec hlate
  | @sent clock id payload header taken copy hid hseq hack hcopy =>
    have hsent : Sent (events ++ [⟨s, .send clock id seq payload⟩]) s header.id seq payload :=
      ⟨clock, by simp [hid]⟩
    have hhanded := happend.hand (t := ⟨header, payload, taken⟩) fun _ => hsent
    exact {
      record := by
        intro record hrec
        cases taken with
        | false => cases hrec
        | true =>
          obtain rfl := Option.some.inj hrec
          exact ⟨payload, hsent⟩
      copy := by
        intro copy hsome
        obtain ⟨hheader, hpayload⟩ := hcopy copy hsome
        rw [hheader, hpayload]
        exact hsent
      handed := hhanded.handed
      told := happend.told
      once := by
        have honce := Nat.le_of_add_right_le htraced.once
        have hcall :
            Happening.call? s ⟨s, .send clock id seq payload⟩ = some ⟨id, seq, payload⟩ := by
          simp [Happening.call?]
        rw [calls_append, hcall, Option.toList_some, List.map_append, List.count_append]
        simp only [List.map_cons, List.map_nil, List.count_singleton_self]
        refine Nat.add_le_add honce ?_
        split <;> omega }
  | confirmed =>
    refine happend.hand ?_
    nofun
  | @acknowledged clock frame record hack hseq hrec =>
    refine happend.settle (by simp [hrec]) fun _ => ?_
    obtain ⟨hframe, hconfirmed⟩ := hreach clock frame rfl hack
    rw [hseq] at hframe hconfirmed
    obtain ⟨clock₁, clock₂, header, payload, hack', hseq', hsub⟩ := hconfirmed
    rw [Side.opposite_opposite] at hsub
    have hcall : Sent events s header.id seq payload := ⟨clock₁, hsub.subset List.mem_cons_self⟩
    obtain ⟨payload', hcall'⟩ := htraced.record record hrec
    obtain ⟨hid, -⟩ := hcall.unique hnodup hcall'
    rw [hid] at hsub
    refine ⟨payload, clock₁, clock₂, clock, header, hid, hseq', hack', ?_⟩
    rw [hframe]
    exact hsub.append (List.Sublist.refl _)

/-! ## The side that answers -/

/-- Whatever a side acknowledges continues to stem from what it has handled, if that stems from
calls of the other side. -/
theorem Answered.follows {d : Engine.Deed} (hanswered : Answered events s seq v)
    (hproper : v.Proper seq) (hfollows : v.Follows seq d v')
    (hreach : ∀ clock frame, d = .handle clock frame → frame.header.isAck = false →
      Sent events s.opposite frame.header.id frame.header.seq frame.payload) :
    Answered (events ++ [⟨s, d⟩]) s seq v' := by
  have happend := hanswered.append ⟨s, d⟩
  have hhand {t : Transmission} (ht : t.header.isAck = false) :
      Answered (events ++ [⟨s, d⟩]) s seq (v.hand t) := by
    intro t' ht' hack
    rcases List.mem_append.mp ht' with ht' | ht'
    · exact happend t' ht' hack
    · rw [List.mem_singleton.mp ht', ht] at hack
      cases hack
  cases hfollows with
  | same => exact happend
  | acknowledged => exact happend
  | sent hid hseq hack => exact hhand hack
  | late hrec hlate =>
    cases hlate with
    | untracked => exact happend
    | exhausted => exact happend
    | abandoned hcopy => exact hhand (hproper _ hcopy).2
    | resent hcopy => exact hhand (hproper _ hcopy).2
  | @confirmed clock frame taken hack hseq =>
    intro t ht hack'
    rcases List.mem_append.mp ht with ht | ht
    · exact happend t ht hack'
    · rw [List.mem_singleton.mp ht]
      obtain ⟨clock', hmem⟩ := hreach clock frame rfl hack
      rw [hseq] at hmem
      exact ⟨rfl, rfl, clock', clock, frame.header, frame.payload, hack, hseq,
        (List.singleton_sublist.mpr hmem).append (List.Sublist.refl _)⟩

/-! ## Both sides -/

variable {c : (s : Side) → Carrier (σ s)} {start x : Parties σ ρ}

/-- At every point of a run what a side does stems from its calls, and what the other side
acknowledges stems from what has reached it, if neither has anything under way at the start. -/
theorem Run.traced (hrun : Run c start events x) (hattached : ∀ s, (start s).Attached)
    (hself : ∀ seq, (start s).slices seq = {}) (hpeer : (start s.opposite).Silent)
    (hfew : (calls s events).length ≤ 65536) (seq : UInt16) :
    Traced events s seq ((x s).slices seq) ∧
      Answered events s.opposite seq ((x s.opposite).slices seq) := by
  induction hrun generalizing seq with
  | stop =>
    constructor
    · rw [hself]
      exact ⟨nofun, nofun, nofun, nofun, Nat.zero_le _⟩
    · intro t ht hack
      rw [hpeer t (List.mem_of_mem_filter ht)] at hack
      cases hack
  | @step x events side d e hrun hreach hdoes ih =>
    have hfew' : (calls s events).length ≤ 65536 := by
      rw [calls_append, List.length_append] at hfew
      omega
    have hattached' := hrun.attached hattached
    by_cases hs : side = s
    · subst hs
      have hother : side.opposite ≠ side := by cases side <;> nofun
      rw [Function.update_self, Function.update_of_ne hother]
      obtain ⟨htraced, hanswered⟩ := ih hfew' seq
      refine ⟨htraced.follows (hdoes.follows (hattached' side) seq)
        (hrun.nodup_calls hattached side hfew') ?_, hanswered.append _⟩
      rintro clock frame rfl hack
      obtain ⟨t, ht, rfl⟩ := hreach clock frame rfl
      obtain ⟨hheader, hempty, hconfirmed⟩ :=
        (ih hfew' t.header.seq).2 t (Engine.mem_slices_of_mem_handed ht) hack
      exact ⟨by rw [← hheader, ← hempty], hconfirmed⟩
    · obtain rfl : side = s.opposite := by cases side <;> cases s <;> simp_all [Side.opposite]
      have hother : s ≠ s.opposite := fun h => hs h.symm
      rw [Function.update_self, Function.update_of_ne hother]
      obtain ⟨htraced, hanswered⟩ := ih hfew' seq
      refine ⟨htraced.append _, hanswered.follows ((hattached' s.opposite).ready.proper seq)
        (hdoes.follows (hattached' s.opposite) seq) ?_⟩
      rintro clock frame rfl hack
      obtain ⟨t, ht, rfl⟩ := hreach clock frame rfl
      rw [Side.opposite_opposite] at ht ⊢
      exact (ih hfew' t.header.seq).1.handed t (Engine.mem_slices_of_mem_handed ht) hack

/-- A list with one member at most consists of the member that it has. -/
theorem eq_singleton_of_mem {α : Type} {l : List α} {a : α} (ha : a ∈ l) (hl : l.length ≤ 1) :
    l = [a] := by
  obtain ⟨b, rfl⟩ := List.length_eq_one_iff.mp (Nat.le_antisymm hl (List.length_pos_of_mem ha))
  rw [List.mem_singleton.mp ha]

/-- A side that publishes a success has made one call under its number and publishes nothing
else about it, and it has handled an acknowledgment after the other side had handled what was
sent. -/
theorem Run.arrived_of_success (hrun : Run c start events x)
    (hattached : ∀ s, (start s).Attached) (hself : ∀ seq, (start s).slices seq = {})
    (hpeer : (start s.opposite).Silent) (hfew : (calls s events).length < 65536)
    {status : DeliveryStatus} (hstatus : status ∈ (x s).delivered)
    (hsuccess : status.outcome = .success) :
    (x s).delivered.filter (·.seq = status.seq) = [status] ∧
      ∃ payload, (calls s events).filter (·.seq = status.seq) =
          [⟨status.endpoint, status.seq, payload⟩] ∧
        Arrived events s status.endpoint status.seq payload := by
  have hfew := Nat.le_of_lt hfew
  have htraced := (hrun.traced hattached hself hpeer hfew status.seq).1
  have hnodup := hrun.nodup_calls hattached s hfew
  have hcount := List.nodup_iff_count_le_one.mp hnodup status.seq
  have hmem : status ∈ (x s).delivered.filter (·.seq = status.seq) :=
    List.mem_filter.mpr ⟨hstatus, decide_eq_true rfl⟩
  obtain ⟨payload, harrived⟩ := htraced.told status (List.mem_append_left _ hmem) hsuccess
  refine ⟨?_, payload, ?_, harrived⟩
  · refine eq_singleton_of_mem hmem ?_
    have htold := Nat.le_trans (Nat.le_of_add_right_le htraced.once) hcount
    rw [Engine.slices, Slice.after, List.length_append] at htold
    omega
  · refine eq_singleton_of_mem ?_ ?_
    · obtain ⟨clock, _, _, _, -, -, -, hsub⟩ := harrived
      have hcall : Sent events s status.endpoint status.seq payload :=
        ⟨clock, hsub.subset List.mem_cons_self⟩
      exact List.mem_filter.mpr ⟨mem_calls.mpr hcall, decide_eq_true rfl⟩
    · rw [List.count, List.countP_map, List.countP_eq_length_filter] at hcount
      exact hcount

/-- However frames are lost, delayed, repeated and reordered on both ways: if neither side makes
as many calls as there are numbers, then a side that publishes a success has made one call under
its number and publishes nothing else about it, and it has handled an acknowledgment after the
other side had handled exactly what was sent. -/
theorem no_false_success (hrun : Run c start events x) (hstart : ∀ s, (start s).Unused)
    (hfew : ∀ s, (calls s events).length < 65536) {s : Side} {status : DeliveryStatus}
    (hstatus : status ∈ (x s).delivered) (hsuccess : status.outcome = .success) :
    (x s).delivered.filter (·.seq = status.seq) = [status] ∧
      ∃ payload header clock clock' clock'',
        (calls s events).filter (·.seq = status.seq) = [⟨status.endpoint, status.seq, payload⟩] ∧
        header.id = status.endpoint ∧ header.seq = status.seq ∧ header.isAck = false ∧
        [⟨s, .send clock status.endpoint status.seq payload⟩,
          ⟨s.opposite, .handle clock' ⟨header, payload⟩⟩,
          ⟨s, .handle clock'' ⟨.ack status.seq, []⟩⟩].Sublist events := by
  obtain ⟨honce, payload, hcall, harrived⟩ :=
    hrun.arrived_of_success (fun s => (hstart s).attached) (hstart s).blank
      (hstart s.opposite).silent (hfew s) hstatus hsuccess
  obtain ⟨clock, clock', clock'', header, hid, hseq, hack, hsub⟩ := harrived
  exact ⟨honce, payload, header, clock, clock', clock'', hcall, hid, hseq, hack, hsub⟩

/-- A payload that is sent, handled and acknowledged is a success. -/
theorem no_false_success_of_answer :
    let c (s : Side) := MemoryLink.carrier s
    let idle : Engine (Watched MemoryLink) Unit := {
      config := {}
      outbound := { tracker := { timeout := .ofMillis 1000 }, medium := ⟨{}, []⟩ }
      duplicates := .new 0
      outside := () }
    let start : Parties (fun _ => MemoryLink) (fun _ => Unit) := fun s =>
      (idle.attach (c s).watched ⟨{}, []⟩).2
    let events : List Happening :=
      [⟨.near, .send 0 3 0 [9]⟩, ⟨.far, .handle 1 ⟨.new 3 0 1, [9]⟩⟩,
        ⟨.near, .handle 2 ⟨.ack 0, []⟩⟩]
    (∀ s, (start s).Unused) ∧ (∀ s, (calls s events).length < 65536) ∧
      ∃ x, Run c start events x ∧ (x .near).delivered.filter (·.seq = 0) = [⟨3, 0, .success⟩] := by
  intro c idle start events
  have hstart : ∀ s, (start s).Unused := by
    intro s
    have hnew : Engine.new {} ⟨{}, []⟩ () = .ok idle := rfl
    have hattach : idle.attach (c s).watched ⟨{}, []⟩ = (.ok (), start s) := by cases s <;> rfl
    exact Engine.unused_of_attach hnew rfl hattach
  have hfew : ∀ s, (calls s events).length < 65536 := by
    intro s
    cases s <;> decide
  let near₁ := ((start .near).send (c .near).watched 0 3 [9]).2
  let x₁ := Function.update start .near near₁
  let far₁ := (x₁ .far).handleFrame (c .far).watched 1 ⟨.new 3 0 1, [9]⟩
  let x₂ := Function.update x₁ .far far₁
  let near₂ := (x₂ .near).handleFrame (c .near).watched 2 ⟨.ack 0, []⟩
  let x₃ := Function.update x₂ .near near₂
  have hsend : Run c start [⟨.near, .send 0 3 0 [9]⟩] x₁ := .step .stop nofun .send
  have hhandle :
      Run c start [⟨.near, .send 0 3 0 [9]⟩, ⟨.far, .handle 1 ⟨.new 3 0 1, [9]⟩⟩] x₂ := by
    refine .step hsend ?_ .handle
    rintro clock frame ⟨⟩
    exact ⟨⟨.new 3 0 1, [9], true⟩, List.mem_singleton_self _, rfl⟩
  have hrun : Run c start events x₃ := by
    refine .step hhandle ?_ .handle
    rintro clock frame ⟨⟩
    exact ⟨⟨.ack 0, [], true⟩, List.mem_singleton_self _, rfl⟩
  have hdelivered : (x₃ .near).delivered = [⟨3, 0, .success⟩] := by rfl
  have hmem : (⟨3, 0, .success⟩ : DeliveryStatus) ∈ (x₃ .near).delivered := by
    rw [hdelivered]
    exact List.mem_singleton_self _
  exact ⟨hstart, hfew, x₃, hrun, (no_false_success hrun hstart hfew hmem rfl).1⟩

end Dialogue

end Courier
