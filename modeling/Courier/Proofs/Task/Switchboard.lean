import Courier.Task.Call
import Courier.Task.Delegate
import Courier.Proofs.Task.Holding
import Courier.Proofs.Task.Leaving
import Mathlib.Logic.Function.Basic

/-!
# A worker and its callers

Others call a worker and wait for the result, or what runs on the worker calls it and goes on when
the work has come to its end. Meanwhile everything else can happen to the worker. The work of a call
is in one place as long as it has not come to its end: at the door, in the queue, or running.
-/

namespace Courier

variable {α β τ : Type} {name : String} {config : QueueConfig} {now : Time}

/-- What a worker has to do: the work of a call, which goes by its number, or something else. -/
inductive Duty (α : Type) where
  | other (work : α)
  | call (number : Nat)
deriving DecidableEq, Repr

/-- Whether a task is the work of a call. -/
def Task.isCall (n : Nat) (t : Task (Duty α)) : Bool :=
  match t.work with
  | .call m => m == n
  | .other _ => false

/-- The work of a call is found by its number. -/
theorem isCall_self (priority : Priority) (n : Nat) :
    Task.isCall n (⟨priority, .call n⟩ : Task (Duty α)) = true := beq_self_eq_true n

/-- The work of a call is not found by the number of another call. -/
theorem isCall_of_ne {n m : Nat} (h : n ≠ m) (priority : Priority) :
    Task.isCall n (⟨priority, .call m⟩ : Task (Duty α)) = false := beq_false_of_ne (Ne.symm h)

/-- How often a task is there after it was offered. -/
def Offer.copies (offer : Offer) : Nat := if offer.admits then 1 else 0

/-- How often the work of a call with this fate is still there. -/
def Fate.copies : Fate β → Nat
  | .queued => 1
  | _ => 0

/-- How the work of a call with this fate has ended, if it has. -/
def Fate.endings : Fate β → List (Ending β)
  | .queued | .dropped => []
  | .returned value => [some value]
  | .panicked => [none]

/-- How far a caller has come. -/
inductive Stage where
  /-- It waits for room. -/
  | door
  /-- Its work was accepted, and it waits for the result. -/
  | waiting (since : Time)
  /-- Its work runs on its own thread. -/
  | inline
  | refused (error : TaskError)
  /-- It has been told what came of its call. -/
  | answered
deriving DecidableEq, Repr

/-- A caller of a worker. -/
structure Caller (α β : Type) where
  delegate : WaitDelegate Unit α
  fate : Fate β
  stage : Stage

namespace Caller

/-- A caller whose work was offered to the worker. Work that is refused is dropped. -/
def offered (d : WaitDelegate Unit α) (now : Time) : Offer → Caller α β
  | .accepted => ⟨d, .queued, .waiting now⟩
  | .refused error => ⟨d, .dropped, .refused error⟩
  | .full => ⟨d, .queued, .door⟩

/-- A caller whose work was dropped. -/
def drop (c : Caller α β) : Caller α β := { c with fate := .dropped }

/-- What a caller can be told. One that waits is told when it hears what became of its work, or when
it has waited long enough. -/
inductive Answers (thread : String) (now : Time) (c : Caller α β) : Except TaskError β → Prop
  | refused {error : TaskError} : c.stage = .refused error → Answers thread now c (.error error)
  | waited {since : Time} : c.stage = .waiting since →
      (c.fate = .queued → since + c.delegate.timeout.nanos ≤ now) →
      Answers thread now c (Call.answer thread c.delegate.timeout c.fate)
  | inline {ending : Ending β} : c.stage = .inline → c.fate = .ofEnding ending →
      Answers thread now c (Call.inline thread ending)

end Caller

/-- A worker and those who call it. -/
structure Switchboard (α β τ : Type) where
  worker : Worker (Duty α) τ
  callers : Nat → Option (Caller α β) := fun _ => none
  /-- The calls whose work runs, the innermost first. -/
  active : List Nat := []

namespace Switchboard

/-- What happens in one go to a worker or to a caller. -/
inductive Event (α β τ : Type) where
  /-- What happens to the worker, other than that a call is brought. -/
  | work (incident : Worker.Incident (Duty α) τ)
  /-- A call from another thread. -/
  | call (number : Nat) (delegate : WaitDelegate Unit α) (offer : Offer)
  /-- A call from the worker itself. -/
  | inline (number : Nat) (delegate : WaitDelegate Unit α)
  /-- A call through a delegate that is bound to nothing. -/
  | unbound (number : Nat) (delegate : WaitDelegate Unit α)
  /-- The work of a call comes to its end, and its caller can hear of it. What it came to is put
  into the channel to the caller right after it, by the same thread: nothing that anybody can see
  lies between. Work has finished when what it came to is in the channel. -/
  | ended (number : Nat) (ending : Ending β)
  | answered (number : Nat) (result : Except TaskError β)

/-- A worker that nobody has called. -/
def new (name : String) (config : QueueConfig) : Switchboard α β τ :=
  { worker := .new name config }

variable {s s' : Switchboard α β τ}

/-- Replaces what is known about the caller of a call. -/
def setCaller (s : Switchboard α β τ) (n : Nat) (c : Caller α β) : Switchboard α β τ :=
  { s with callers := Function.update s.callers n (some c) }

/-- Notes that the work of calls was dropped. -/
def dropAll (s : Switchboard α β τ) (dropped : List (Task (Duty α))) : Switchboard α β τ :=
  { s with
    callers := fun n =>
      if dropped.any (Task.isCall n) then (s.callers n).map Caller.drop else s.callers n }

/-- How a worker and its callers change with what happens at a clock reading. The number of a call
is a new one. The loop takes no step while the work of a call runs. The fate of a call is the state
of the channel to its caller, which is filled with the end of the work in one go: a caller that
stops to wait before that is told of a timeout, and one that looks afterwards finds the end. -/
inductive Performs (now : Time) (s : Switchboard α β τ) :
    Event α β τ → Switchboard α β τ → Prop
  | other {i : Worker.Incident (Duty α) τ} {w : Worker (Duty α) τ} :
      Worker.Performs now s.worker i w → (∀ t ∈ i.tasks, ∃ work, t.work = .other work) →
      (i.own = true → s.active = []) → Performs now s (.work i) { s with worker := w }
  | retry {priority : Priority} {n : Nat} {offer : Offer} {c : Caller α β}
      {w : Worker (Duty α) τ} :
      Worker.Performs now s.worker (.retry ⟨priority, .call n⟩ offer) w → s.callers n = some c →
      Performs now s (.work (.retry ⟨priority, .call n⟩ offer))
        ({ s with worker := w }.setCaller n (.offered c.delegate now offer))
  | start {priority : Priority} {n : Nat} {w : Worker (Duty α) τ} :
      Worker.Performs now s.worker (.look (.start ⟨priority, .call n⟩)) w → s.active = [] →
      Performs now s (.work (.look (.start ⟨priority, .call n⟩)))
        { s with worker := w, active := [n] }
  | leave {dropped : List (Task (Duty α))} {w : Worker (Duty α) τ} :
      Worker.Performs now s.worker (.look (.leave dropped)) w → s.active = [] →
      Performs now s (.work (.look (.leave dropped))) ({ s with worker := w }.dropAll dropped)
  | call {n : Nat} {d : WaitDelegate Unit α} {target : α} {offer : Offer}
      {w : Worker (Duty α) τ} :
      s.callers n = none → d.binding.bound? = some ((), target) →
      Worker.Performs now s.worker (.post ⟨d.priority, .call n⟩ offer) w →
      Performs now s (.call n d offer)
        ({ s with worker := w }.setCaller n (.offered d now offer))
  | inline {n : Nat} {d : WaitDelegate Unit α} {target : α} :
      s.callers n = none → d.binding.bound? = some ((), target) →
      ((∃ began due, s.worker.phase = .firing began due) ∨
        ∃ task, s.worker.phase = .running task) →
      Performs now s (.inline n d)
        ({ s with active := n :: s.active }.setCaller n ⟨d, .queued, .inline⟩)
  | unbound {n : Nat} {d : WaitDelegate Unit α} :
      s.callers n = none → d.binding.bound? = none →
      Performs now s (.unbound n d) (s.setCaller n ⟨d, .dropped, .refused .emptyTarget⟩)
  | ended {n : Nat} {rest : List Nat} {c : Caller α β} (ending : Ending β) :
      s.active = n :: rest → s.callers n = some c →
      Performs now s (.ended n ending)
        ({ s with active := rest }.setCaller n { c with fate := .ofEnding ending })
  | answered {n : Nat} {c : Caller α β} {result : Except TaskError β} :
      s.callers n = some c → c.Answers s.worker.name now result →
      Performs now s (.answered n result) (s.setCaller n { c with stage := .answered })

/-- Events one after the other, while the clock goes on. -/
inductive Run : Time → Switchboard α β τ → List (Event α β τ) → Time → Switchboard α β τ → Prop
  | stop {now : Time} {s : Switchboard α β τ} : Run now s [] now s
  | step {now now₁ now' : Time} {s s₁ s' : Switchboard α β τ} {e : Event α β τ}
      {events : List (Event α β τ)} :
      now ≤ now₁ → Performs now₁ s e s₁ → Run now₁ s₁ events now' s' →
      Run now s (e :: events) now' s'

/-! ## One call -/

/-- What there is of a call: how often its work is held by the worker, how often it runs, and its
caller. -/
structure View (α β : Type) where
  held : Nat
  active : Nat
  caller : Option (Caller α β)

/-- What has become of the work of a call. A call that nobody made has none that could run. -/
def View.fate (v : View α β) : Fate β :=
  match v.caller with
  | some c => c.fate
  | none => .dropped

/-- What there is of the call with a number. -/
def view (s : Switchboard α β τ) (n : Nat) : View α β :=
  ⟨s.worker.room.held.countP (Task.isCall n), s.active.count n, s.callers n⟩

/-- Why a call can be refused. -/
def refusals (name : String) (config : QueueConfig) : List TaskError :=
  [.queueFull name config.maxDepth.toNat, .threadStopped name, .emptyTarget]

/-- Whether an event is that the work of a call starts to run. -/
def Event.starts (n : Nat) : Event α β τ → Bool
  | .work i => i.started.any (Task.isCall n)
  | .inline m _ => m == n
  | _ => false

/-- How the work of a call ends in an event, if it does. -/
def Event.endings (n : Nat) : Event α β τ → List (Ending β)
  | .ended m ending => if m = n then [ending] else []
  | _ => []

/-- Whether an event is that the work of a call from another thread is accepted. -/
def Event.accepts (n : Nat) : Event α β τ → Bool
  | .call m _ .accepted => m == n
  | .work (.retry t .accepted) => t.isCall n
  | _ => false

/-- How a call is made in an event, if it is. -/
def Event.delegate? (n : Nat) : Event α β τ → Option (WaitDelegate Unit α)
  | .call m d _ | .inline m d | .unbound m d => if m = n then some d else none
  | _ => none

/-- What an event comes to for one call. -/
inductive Turn (name : String) (config : QueueConfig) (now : Time) (n : Nat) :
    Event α β τ → View α β → View α β → Prop
  | aside {e : Event α β τ} {v : View α β} : e.starts n = false → e.endings n = [] →
      Turn name config now n e v v
  | call {d : WaitDelegate Unit α} {offer : Offer} {held active : Nat} :
      (∀ error, offer = .refused error → error ∈ refusals name config) →
      Turn name config now n (.call n d offer) ⟨held, active, none⟩
        ⟨held + offer.copies, active, some (.offered d now offer)⟩
  | inline {d : WaitDelegate Unit α} {held active : Nat} :
      Turn name config now n (.inline n d) ⟨held, active, none⟩
        ⟨held, active + 1, some ⟨d, .queued, .inline⟩⟩
  | unbound {d : WaitDelegate Unit α} {held active : Nat} :
      Turn name config now n (.unbound n d) ⟨held, active, none⟩
        ⟨held, active, some ⟨d, .dropped, .refused .emptyTarget⟩⟩
  | retry {priority : Priority} {offer : Offer} {held active : Nat} {c : Caller α β} :
      (∀ error, offer = .refused error → error ∈ refusals name config) →
      Turn name config now n (.work (.retry ⟨priority, .call n⟩ offer))
        ⟨held + 1, active, some c⟩
        ⟨held + offer.copies, active, some (.offered c.delegate now offer)⟩
  | start {priority : Priority} {held : Nat} {caller : Option (Caller α β)} :
      Turn name config now n (.work (.look (.start ⟨priority, .call n⟩)))
        ⟨held + 1, 0, caller⟩ ⟨held, 1, caller⟩
  | leave {dropped : List (Task (Duty α))} {held lost active : Nat}
      {caller : Option (Caller α β)} :
      Turn name config now n (.work (.look (.leave dropped)))
        ⟨held + (lost + 1), active, caller⟩
        ⟨held, active, caller.map Caller.drop⟩
  | ended {ending : Ending β} {held active : Nat} {c : Caller α β} :
      Turn name config now n (.ended n ending) ⟨held, active + 1, some c⟩
        ⟨held, active, some { c with fate := .ofEnding ending }⟩
  | answered {result : Except TaskError β} {held active : Nat} {c : Caller α β} :
      Turn name config now n (.answered n result) ⟨held, active, some c⟩
        ⟨held, active, some { c with stage := .answered }⟩

/-- What there is of a call at any time. Its work is there once, if it has not come to its end, and
what was refused does not run. -/
structure View.Sound (name : String) (config : QueueConfig) (v : View α β) : Prop where
  copies : v.held + v.active = v.fate.copies
  refused : ∀ c error, v.caller = some c → c.stage = .refused error →
    c.fate = .dropped ∧ error ∈ refusals name config

variable {n : Nat} {e : Event α β τ} {v v' : View α β} {c c' : Caller α β}

/-- Work that has come to its end is not there any longer. -/
@[simp] theorem fate_copies_ofEnding (ending : Ending β) : (Fate.ofEnding ending).copies = 0 := by
  cases ending <;> rfl

/-- The end that it has come to is the only one. -/
@[simp] theorem fate_endings_ofEnding (ending : Ending β) :
    (Fate.ofEnding ending).endings = [ending] := by
  cases ending <;> rfl

/-- The work of a call is never there twice. -/
theorem fate_copies_le (fate : Fate β) : fate.copies ≤ 1 := by
  cases fate <;> simp [Fate.copies]

/-- Work that was offered is there exactly if it was admitted. -/
@[simp] theorem copies_offered (d : WaitDelegate Unit α) (now : Time) (offer : Offer) :
    (Caller.offered d now offer : Caller α β).fate.copies = offer.copies := by
  cases offer <;> rfl

/-- Work that was only offered has not come to its end. -/
@[simp] theorem endings_offered (d : WaitDelegate Unit α) (now : Time) (offer : Offer) :
    (Caller.offered d now offer : Caller α β).fate.endings = [] := by
  cases offer <;> rfl

/-- Whatever comes of the offer, a caller has the delegate that it called with. -/
@[simp] theorem delegate_offered (d : WaitDelegate Unit α) (now : Time) (offer : Offer) :
    (Caller.offered d now offer : Caller α β).delegate = d := by
  cases offer <;> rfl

/-- Work that is still there has not come to its end. -/
theorem View.Sound.fate_eq_queued (hv : v.Sound name config) (h : v.held + v.active ≠ 0) :
    v.fate = .queued := by
  rw [hv.copies] at h
  cases hfate : v.fate with
  | queued => rfl
  | _ => exact absurd (by rw [hfate]; rfl) h

/-- Work that is offered is there as often as it is admitted. -/
theorem sound_offered {d : WaitDelegate Unit α} {offer : Offer} {held active : Nat}
    (hoffer : ∀ error, offer = .refused error → error ∈ refusals name config)
    (hnone : held + active = 0) :
    (⟨held + offer.copies, active, some (.offered d now offer)⟩ : View α β).Sound name config := by
  constructor
  · change held + offer.copies + active = (Caller.offered d now offer : Caller α β).fate.copies
    rw [copies_offered]
    omega
  · intro c error hc hstage
    cases hc
    cases offer with
    | refused error =>
      cases hstage
      exact ⟨rfl, hoffer error rfl⟩
    | _ => cases hstage

/-- Whatever happens to a call leaves it sound. -/
theorem Turn.sound (h : Turn name config now n e v v') (hv : v.Sound name config) :
    v'.Sound name config := by
  obtain ⟨hcopies, hrefused⟩ := hv
  cases h with
  | aside => exact ⟨hcopies, hrefused⟩
  | call hoffer => exact sound_offered hoffer hcopies
  | @retry _ _ held active c hoffer =>
    have hle : held + 1 + active ≤ 1 := hcopies ▸ fate_copies_le c.fate
    exact sound_offered hoffer (by omega)
  | @inline _ held active =>
    have hnone : held + active = 0 := hcopies
    refine ⟨congrArg (· + 1) hnone, fun c error hc hstage => ?_⟩
    cases hc
    cases hstage
  | unbound =>
    refine ⟨hcopies, fun c error hc hstage => ?_⟩
    cases hc
    cases hstage
    exact ⟨rfl, by simp [refusals]⟩
  | start => exact ⟨hcopies, hrefused⟩
  | @leave _ held lost active caller =>
    cases caller with
    | none => exact absurd hcopies (by simp [View.fate, Fate.copies])
    | some c =>
      have hle : held + (lost + 1) + active ≤ 1 := hcopies ▸ fate_copies_le c.fate
      refine ⟨show held + active = 0 by omega, fun c' error hc hstage => ?_⟩
      cases hc
      exact ⟨rfl, (hrefused c error rfl hstage).2⟩
  | @ended ending held active c =>
    have hle : held + (active + 1) ≤ 1 := hcopies ▸ fate_copies_le c.fate
    refine ⟨?_, fun c' error hc hstage => ?_⟩
    · change held + active = (Fate.ofEnding ending).copies
      rw [fate_copies_ofEnding]
      omega
    · cases hc
      have hdropped : c.fate = .dropped := (hrefused c error rfl hstage).1
      have hcopies : held + (active + 1) = c.fate.copies := hcopies
      rw [hdropped] at hcopies
      cases hcopies
  | answered =>
    refine ⟨hcopies, fun c' error hc hstage => ?_⟩
    cases hc
    cases hstage

/-- Work that starts runs until it ends. -/
theorem Turn.active_eq (h : Turn name config now n e v v') :
    v.active + (if e.starts n then 1 else 0) = v'.active + (e.endings n).length := by
  cases h with
  | aside hstarts hendings => rw [hstarts, hendings]; rfl
  | ended => simp [Event.starts, Event.endings]
  | inline => simp [Event.starts, Event.endings]
  | _ => simp [Event.starts, Event.endings, Worker.Incident.started, Task.isCall]

/-- The fate of a call tells how its work has ended. -/
theorem Turn.endings_eq (h : Turn name config now n e v v') (hv : v.Sound name config) :
    v.fate.endings ++ e.endings n = v'.fate.endings := by
  have hqueued := hv.fate_eq_queued
  cases h with
  | aside _ hendings => rw [hendings, List.append_nil]
  | call => exact (endings_offered ..).symm
  | inline => rfl
  | unbound => rfl
  | retry =>
    rw [hqueued (by simp)]
    exact (endings_offered ..).symm
  | start => exact List.append_nil _
  | @leave _ _ _ _ caller =>
    rw [hqueued (by simp)]
    cases caller <;> rfl
  | ended =>
    rw [hqueued (by simp)]
    simp only [Event.endings, if_true, View.fate, fate_endings_ofEnding]
    rfl
  | answered => exact List.append_nil _

/-- What has become of work is not changed any more. -/
theorem Turn.fate_eq (h : Turn name config now n e v v') (hv : v.Sound name config)
    (hc : v.caller = some c) (hfate : c.fate ≠ .queued) :
    ∃ c', v'.caller = some c' ∧ c'.fate = c.fate := by
  have hnone : v.held + v.active = 0 := by
    refine Classical.byContradiction fun hsome => hfate ?_
    simpa only [View.fate, hc] using hv.fate_eq_queued hsome
  cases h with
  | aside => exact ⟨c, hc, rfl⟩
  | answered =>
    cases hc
    exact ⟨_, rfl, rfl⟩
  | call | inline | unbound => cases hc
  | retry | start | leave | ended =>
    simp only at hnone
    omega

/-- Who waits for a result has been accepted. -/
theorem Turn.accepts_or (h : Turn name config now n e v v') {since : Time}
    (hc' : v'.caller = some c') (hstage : c'.stage = .waiting since) :
    e.accepts n = true ∨ ∃ c since, v.caller = some c ∧ c.stage = .waiting since := by
  cases h with
  | aside => exact .inr ⟨c', since, hc', hstage⟩
  | @call _ offer | @retry _ offer =>
    cases hc'
    cases offer with
    | accepted => exact .inl (by simp [Event.accepts, Task.isCall])
    | _ => cases hstage
  | inline | unbound | answered =>
    cases hc'
    cases hstage
  | start => exact .inr ⟨c', since, hc', hstage⟩
  | @leave _ _ _ _ caller =>
    cases caller with
    | none => cases hc'
    | some c =>
      cases hc'
      exact .inr ⟨c, since, rfl, hstage⟩
  | @ended _ _ _ c =>
    cases hc'
    exact .inr ⟨c, since, rfl, hstage⟩

/-- A caller has made its call through the delegate that it is known by. -/
theorem Turn.delegate_or (h : Turn name config now n e v v') (hc' : v'.caller = some c') :
    e.delegate? n = some c'.delegate ∨ ∃ c, v.caller = some c ∧ c.delegate = c'.delegate := by
  cases h with
  | aside => exact .inr ⟨c', hc', rfl⟩
  | call | inline | unbound =>
    cases hc'
    exact .inl (by simp [Event.delegate?])
  | @retry _ _ _ _ c =>
    cases hc'
    exact .inr ⟨c, rfl, (delegate_offered ..).symm⟩
  | start => exact .inr ⟨c', hc', rfl⟩
  | @leave _ _ _ _ caller =>
    cases caller with
    | none => cases hc'
    | some c =>
      cases hc'
      exact .inr ⟨c, rfl, rfl⟩
  | @ended _ _ _ c | @answered _ _ _ c =>
    cases hc'
    exact .inr ⟨c, rfl, rfl⟩

end Switchboard

end Courier
