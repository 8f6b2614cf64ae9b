import Courier.Proofs.Delivery.Transitions
import Mathlib.Data.List.Nodup
import Mathlib.Logic.Relation

/-!
# Listeners that use the tracker

Whoever is told of an outcome may use the tracker before the next outcome is published: track
frames, with any time of sending, acknowledge them, or stop to track them. A scan therefore takes
the overdue records out first and publishes afterwards. What listeners do in between is written
down beside the tracker, and the records that a scan leaves are read off it.
-/

namespace Courier

/-- Something that happened at a tracker. -/
inductive Notice where
  /-- An outcome was published. -/
  | told (status : DeliveryStatus)
  /-- A frame was tracked. -/
  | added (seq endpoint : UInt16) (sentAt : Time)
  /-- A record was taken out. -/
  | removed (seq : UInt16)
deriving DecidableEq, Repr

namespace Notice

/-- What it does to the tracker. -/
def apply (t : Tracker) : Notice → Tracker
  | told _ => t
  | added seq endpoint sentAt => t.add seq endpoint sentAt
  | removed seq => t.erase seq

/-- Whether it changes the record of a number. Acknowledgments are not tracked. -/
def Touches (seq : UInt16) : Notice → Prop
  | told _ => False
  | added other endpoint _ => other = seq ∧ endpoint ≠ ackId
  | removed other => other = seq

/-- The timeout that it publishes. -/
def timeout? : Notice → Option DeliveryStatus
  | told status => if status.outcome = .timeout then some status else none
  | added .. | removed .. => none

/-- What does not touch a number leaves its record alone. -/
theorem getElem?_apply {t : Tracker} {seq : UInt16} {n : Notice} (h : ¬n.Touches seq) :
    (n.apply t).pending[seq]? = t.pending[seq]? := by
  cases n with
  | told status => rfl
  | removed other =>
    have hother : other ≠ seq := h
    simp [apply, Tracker.getElem?_erase, hother]
  | added other endpoint sentAt =>
    by_cases hack : endpoint = ackId
    · simp [apply, Tracker.add, hack]
    · have hother : other ≠ seq := fun e => h ⟨e, hack⟩
      simp [apply, Tracker.getElem?_add hack, hother]

/-- Nothing that a listener does changes how long frames may wait. -/
@[simp] theorem timeout_apply (t : Tracker) (n : Notice) : (n.apply t).timeout = t.timeout := by
  cases n <;> simp [apply]

/-- A record that nothing touches stays as it is. -/
theorem getElem?_foldl_apply {seq : UInt16} {notices : List Notice} {t : Tracker}
    (h : ∀ n ∈ notices, ¬n.Touches seq) :
    (notices.foldl apply t).pending[seq]? = t.pending[seq]? := by
  induction notices generalizing t with
  | nil => rfl
  | cons n notices ih =>
    rw [List.foldl_cons, ih fun n hn => h n (List.mem_cons_of_mem _ hn),
      getElem?_apply (h n List.mem_cons_self)]

/-- Whatever a listener does, in however many steps, leaves the time that frames may wait. -/
theorem timeout_foldl_apply (notices : List Notice) (t : Tracker) :
    (notices.foldl apply t).timeout = t.timeout := by
  induction notices generalizing t with
  | nil => rfl
  | cons n notices ih => rw [List.foldl_cons, ih, timeout_apply]

end Notice

namespace TrackerHost

variable {σ : Type}

/-- Ends the tracking of some records and publishes it in their order. -/
def expireInOrder (h : TrackerHost σ) (late : List (UInt16 × InFlight)) (s : σ) : Nat × σ :=
  (late.length, (late.map fun (seq, record) => ⟨record.endpoint, seq, .timeout⟩).foldl
    (fun s status => h.publish status s)
    (h.set s (late.foldl (fun t (seq, _) => t.erase seq) (h.get s))))

/-- A scan expires the overdue records by their numbers. -/
theorem scan_eq_expireInOrder (h : TrackerHost σ) (now : Time) (s : σ) :
    h.scan now s = h.expireInOrder ((h.get s).overdue now) s := by
  simp [scan, expireInOrder, Tracker.expire]

end TrackerHost

/-- A tracker, those who listen to it and whatever they have besides, and what happened at the
tracker so far. -/
structure Monitor (τ κ : Type) where
  tracker : Tracker
  status : Signal κ := {}
  own : τ
  notices : List Notice := []

namespace Monitor

variable {τ κ : Type} {call : κ → DeliveryStatus → Monitor τ κ → Monitor τ κ}
  {m m' m'' : Monitor τ κ} {seq : UInt16} {now : Time}

/-- Writes down what happened and does it to the tracker. -/
def note (m : Monitor τ κ) (n : Notice) : Monitor τ κ :=
  { m with tracker := n.apply m.tracker, notices := m.notices ++ [n] }

/-- The tracker as a part of the whole. An outcome goes to everybody who listens when it is
published. -/
def host (call : κ → DeliveryStatus → Monitor τ κ → Monitor τ κ) : TrackerHost (Monitor τ κ) where
  get := tracker
  set m tracker := { m with tracker }
  publish status m := m.status.emit call status (m.note (.told status))

/-- One thing that a listener may do while it is called. -/
inductive Does (m : Monitor τ κ) : Monitor τ κ → Prop
  /-- It minds its own affairs, or somebody starts or stops to listen. -/
  | aside (status : Signal κ) (own : τ) : Does m { m with status, own }
  /-- It tracks a frame. -/
  | add (seq endpoint : UInt16) (sentAt : Time) : Does m (m.note (.added seq endpoint sentAt))
  /-- It stops to track a frame. -/
  | cancel (seq : UInt16) : Does m (m.note (.removed seq))
  /-- It acknowledges a frame in flight, up to the point where the listeners are called. -/
  | acknowledge {seq : UInt16} {record : InFlight} : m.tracker.pending[seq]? = some record →
      Does m ((m.note (.removed seq)).note (.told ⟨record.endpoint, seq, .success⟩))

/-- Any number of such things, one after the other. -/
abbrev Reacts : Monitor τ κ → Monitor τ κ → Prop := Relation.ReflTransGen Does

/-- If every listener does such things only, so do all that are called together. -/
theorem reacts_emit (hcall : ∀ k status m, Reacts m (call k status m)) (s : Signal κ)
    (status : DeliveryStatus) (m : Monitor τ κ) : Reacts m (s.emit call status m) := by
  unfold Signal.emit Signal.callAll
  induction s.slots generalizing m with
  | nil => exact .refl
  | cons slot slots ih => exact (hcall slot.handler status m).trans (ih _)

/-- A listener acknowledges a frame, which it notes if the frame is in flight. -/
def acknowledge (call : κ → DeliveryStatus → Monitor τ κ → Monitor τ κ) (seq : UInt16)
    (m : Monitor τ κ) : Bool × Monitor τ κ :=
  (host call).acknowledge seq
    (if m.tracker.isPending seq then { m with notices := m.notices ++ [.removed seq] } else m)

/-- Acknowledging a frame from inside a notification is allowed, with all that is done by the
listeners who are told of it. -/
theorem reacts_acknowledge (hcall : ∀ k status m, Reacts m (call k status m)) (seq : UInt16)
    (m : Monitor τ κ) : Reacts m (m.acknowledge call seq).2 := by
  cases hrecord : m.tracker.pending[seq]? with
  | none =>
    simp only [acknowledge, Tracker.isPending_eq, hrecord, TrackerHost.acknowledge, host,
      Tracker.settle, Option.isSome_none, Bool.false_eq_true, if_false]
    exact .refl
  | some record =>
    simp only [acknowledge, Tracker.isPending_eq, hrecord, TrackerHost.acknowledge, host,
      Tracker.settle, Option.isSome_some, if_true]
    exact .head (.acknowledge hrecord) (reacts_emit hcall _ _ _)

/-- What happened between two states of a tracker, and that nothing else did. -/
structure Passes (m : Monitor τ κ) (notices : List Notice) (m' : Monitor τ κ) : Prop where
  notices_eq : m'.notices = m.notices ++ notices
  tracker_eq : m'.tracker = notices.foldl Notice.apply m.tracker

/-- Where nothing happens no notices are passed. -/
theorem Passes.refl (m : Monitor τ κ) : Passes m [] m := ⟨by simp, rfl⟩

/-- Notices that are passed one after the other are passed. -/
theorem Passes.trans {before after : List Notice} (h : Passes m before m')
    (h' : Passes m' after m'') : Passes m (before ++ after) m'' where
  notices_eq := by rw [h'.notices_eq, h.notices_eq, List.append_assoc]
  tracker_eq := by rw [h'.tracker_eq, h.tracker_eq, List.foldl_append]

/-- The timeouts that were published, in order. -/
def timeouts (notices : List Notice) : List DeliveryStatus := notices.filterMap Notice.timeout?

/-- A listener publishes no timeout. -/
theorem Does.passes (h : Does m m') : ∃ notices, Passes m notices m' ∧ timeouts notices = [] := by
  cases h with
  | aside status own => exact ⟨[], ⟨by simp, rfl⟩, rfl⟩
  | add seq endpoint sentAt => exact ⟨[.added seq endpoint sentAt], ⟨rfl, rfl⟩, rfl⟩
  | cancel seq => exact ⟨[.removed seq], ⟨rfl, rfl⟩, rfl⟩
  | @acknowledge seq record hrecord =>
    exact ⟨[.removed seq, .told ⟨record.endpoint, seq, .success⟩], ⟨by simp [note], rfl⟩, rfl⟩

/-- A handler that only reacts passes no timeouts. -/
theorem Reacts.passes (h : Reacts m m') :
    ∃ notices, Passes m notices m' ∧ timeouts notices = [] := by
  induction h with
  | refl => exact ⟨[], .refl m, rfl⟩
  | tail _ hstep ih =>
    obtain ⟨before, hbefore, hnone⟩ := ih
    obtain ⟨after, hafter, hnone'⟩ := hstep.passes
    exact ⟨before ++ after, hbefore.trans hafter, by simp_all [timeouts]⟩

/-- Publishing timeouts one after the other publishes these and no others, whatever the listeners
do in between. -/
theorem passes_foldl_publish (hcall : ∀ k status m, Reacts m (call k status m))
    (statuses : List DeliveryStatus) (houtcome : ∀ status ∈ statuses, status.outcome = .timeout)
    (m : Monitor τ κ) :
    ∃ notices, Passes m notices
        (statuses.foldl (fun m status => (host call).publish status m) m) ∧
      timeouts notices = statuses := by
  induction statuses generalizing m with
  | nil => exact ⟨[], .refl m, rfl⟩
  | cons status statuses ih =>
    obtain ⟨notices, hpasses, hnone⟩ :=
      (reacts_emit hcall m.status status (m.note (.told status))).passes
    obtain ⟨rest, hrest, htimeouts⟩ := ih (fun s hs => houtcome s (List.mem_cons_of_mem _ hs))
      ((host call).publish status m)
    have htold : Passes m [.told status] (m.note (.told status)) := ⟨rfl, rfl⟩
    refine ⟨[.told status] ++ notices ++ rest, (htold.trans hpasses).trans hrest, ?_⟩
    have hlate : Notice.timeout? (.told status) = some status :=
      if_pos (houtcome status List.mem_cons_self)
    simp only [timeouts] at hnone htimeouts ⊢
    simp [hnone, htimeouts, hlate]

/-- The records that are overdue are taken out before anything is published, in whatever order
they are found. -/
theorem passes_expireInOrder (hcall : ∀ k status m, Reacts m (call k status m))
    (late : List (UInt16 × InFlight)) (m : Monitor τ κ) :
    ∃ notices,
      Passes { m with tracker := late.foldl (fun t (seq, _) => t.erase seq) m.tracker } notices
        ((host call).expireInOrder late m).2 ∧
      timeouts notices = late.map fun (seq, record) => ⟨record.endpoint, seq, .timeout⟩ :=
  passes_foldl_publish hcall _ (fun status h => by
    obtain ⟨late, _, rfl⟩ := List.mem_map.mp h
    rfl) _

/-- The outcomes that are published about overdue records. -/
theorem mem_late_iff {t : Tracker} {late : List (UInt16 × InFlight)}
    (hlate : late.Perm (t.overdue now)) (status : DeliveryStatus) :
    (status ∈ late.map fun (seq, record) => (⟨record.endpoint, seq, .timeout⟩ : DeliveryStatus)) ↔
      ∃ record, t.pending[status.seq]? = some record ∧ t.timeout.nanos < now - record.sentAt ∧
        status = ⟨record.endpoint, status.seq, .timeout⟩ := by
  simp only [List.mem_map, Prod.exists, hlate.mem_iff, Tracker.mem_overdue, Tracker.isOverdue,
    decide_eq_true_eq]
  constructor
  · rintro ⟨seq, record, ⟨hrecord, hover⟩, rfl⟩
    exact ⟨record, hrecord, hover, rfl⟩
  · rintro ⟨record, hrecord, hover, hstatus⟩
    exact ⟨status.seq, record, ⟨hrecord, hover⟩, hstatus.symm⟩

/-- A number is among those that are taken out if its record is overdue. -/
theorem mem_late_keys_iff {t : Tracker} {late : List (UInt16 × InFlight)} {record : InFlight}
    (hlate : late.Perm (t.overdue now)) (hrecord : t.pending[seq]? = some record) :
    seq ∈ late.map (·.1) ↔ t.timeout.nanos < now - record.sentAt := by
  simp [hlate.mem_iff, Tracker.mem_overdue, Tracker.isOverdue, hrecord]

/-- A scan is exact whatever the listeners do at the tracker while they are called. -/
theorem scan_exact_under_reentry (hcall : ∀ k status m, Reacts m (call k status m))
    (m : Monitor τ κ) (now : Time) :
    (host call).scan now m = (host call).expireInOrder (m.tracker.overdue now) m ∧
    ∀ late, late.Perm (m.tracker.overdue now) →
      ∃ n m' notices, (host call).expireInOrder late m = (n, m') ∧
        m'.notices = m.notices ++ notices ∧
        n = (timeouts notices).length ∧ (timeouts notices).Nodup ∧
        (∀ status, status ∈ timeouts notices ↔ ∃ record,
          m.tracker.pending[status.seq]? = some record ∧
          m.tracker.timeout.nanos < now - record.sentAt ∧
          status = ⟨record.endpoint, status.seq, .timeout⟩) ∧
        m'.tracker.timeout = m.tracker.timeout ∧
        (∀ seq record, m.tracker.pending[seq]? = some record →
          (∀ n ∈ notices, ¬n.Touches seq) →
          m'.tracker.pending[seq]? =
            if m.tracker.timeout.nanos < now - record.sentAt then none else some record) ∧
        ∀ seq endpoint sentAt before after, endpoint ≠ ackId →
          notices = before ++ .added seq endpoint sentAt :: after →
          (∀ n ∈ after, ¬n.Touches seq) →
          m'.tracker.pending[seq]? = some ⟨endpoint, sentAt⟩ := by
  refine ⟨TrackerHost.scan_eq_expireInOrder .., fun late hlate => ?_⟩
  obtain ⟨notices, hpasses, htimeouts⟩ := passes_expireInOrder hcall late m
  refine ⟨_, ((host call).expireInOrder late m).2, notices, rfl, hpasses.notices_eq, ?_, ?_, ?_, ?_,
    ?_, ?_⟩
  · rw [htimeouts, List.length_map]
  · rw [htimeouts]
    have hkeys : (late.map (·.1)).Nodup :=
      (hlate.map _).nodup_iff.mpr (Tracker.nodup_overdue now)
    refine List.Nodup.of_map DeliveryStatus.seq ?_
    rwa [List.map_map]
  · intro status
    rw [htimeouts]
    exact mem_late_iff hlate status
  · rw [hpasses.tracker_eq, Notice.timeout_foldl_apply, Outbound.timeout_foldl_erase]
  · intro seq record hrecord huntouched
    rw [hpasses.tracker_eq, Notice.getElem?_foldl_apply huntouched, Outbound.getElem?_foldl_erase,
      hrecord]
    exact if_congr (mem_late_keys_iff hlate hrecord) rfl rfl
  · intro seq endpoint sentAt before after hack hsplit hafter
    rw [hpasses.tracker_eq, hsplit, List.foldl_append, List.foldl_cons,
      Notice.getElem?_foldl_apply hafter]
    simp [Notice.apply, Tracker.getElem?_add hack]

/-- A listener that puts every late frame back on track as if it had been sent at the start, stops
to track another frame and acknowledges a third. -/
def meddle : Unit → DeliveryStatus → Monitor Unit Unit → Monitor Unit Unit
  | _, ⟨endpoint, seq, .timeout⟩, m =>
    (((m.note (.added seq endpoint 0)).note (.removed 3)).acknowledge (fun _ _ m => m) 4).2
  | _, ⟨_, _, .success⟩, m => m

/-- The handler that meddles with the tracker only reacts. -/
theorem reacts_meddle (k : Unit) (status : DeliveryStatus) (m : Monitor Unit Unit) :
    Reacts m (meddle k status m) := by
  obtain ⟨endpoint, seq, outcome⟩ := status
  cases outcome with
  | success => exact .refl
  | timeout =>
    exact .head (.add seq endpoint 0) (.head (.cancel 3)
      (reacts_acknowledge (fun _ _ m => .refl) 4 _))

/-- Two overdue frames, two that are in time, and the listener. -/
def meddled : Monitor Unit Unit where
  tracker := ((({ timeout := ⟨10⟩ : Tracker }.add 1 10 0).add 2 20 89).add 3 30 90).add 4 40 95
  status := ({} : Signal Unit).connect () |>.2
  own := ()

/-- Both overdue frames are expired once and are then on track again, overdue as they are. -/
theorem scan_exact_while_meddled :
    (∀ k status m, Reacts m (meddle k status m)) ∧
    (meddled.tracker.overdue 100).Perm (meddled.tracker.overdue 100) ∧
    ∃ m', (host meddle).scan 100 meddled = (2, m') ∧ (timeouts m'.notices).length = 2 ∧
      (timeouts m'.notices).Nodup ∧
      (∀ status ∈ timeouts m'.notices, ∃ record,
        meddled.tracker.pending[status.seq]? = some record ∧ 10 < 100 - record.sentAt) ∧
      m'.tracker.pending.toList = [(1, ⟨10, 0⟩), (2, ⟨20, 0⟩)] := by
  refine ⟨reacts_meddle, .refl _, ?_⟩
  obtain ⟨hscan, hexact⟩ := scan_exact_under_reentry reacts_meddle meddled 100
  obtain ⟨n, m', notices, h, hnotices, hn, hnodup, hmem, _⟩ := hexact _ (.refl _)
  have hrun : (host meddle).scan 100 meddled = (n, m') := hscan.trans h
  have hcount : ((host meddle).scan 100 meddled).1 = 2 := by decide +kernel
  have hleft : ((host meddle).scan 100 meddled).2.tracker.pending.toList =
      [(1, ⟨10, 0⟩), (2, ⟨20, 0⟩)] := by decide +kernel
  rw [hrun] at hcount hleft
  obtain rfl : m'.notices = notices := hnotices
  refine ⟨m', hrun.trans (congrArg (·, m') hcount), hn.symm.trans hcount, hnodup, ?_, hleft⟩
  intro status hstatus
  obtain ⟨record, hrecord, hover, _⟩ := (hmem status).mp hstatus
  exact ⟨record, hrecord, hover⟩

end Monitor

end Courier
