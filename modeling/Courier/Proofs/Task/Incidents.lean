import Courier.Task.Worker
import Courier.Proofs.Task.Order

/-!
# What happens to a worker

The loop of a worker takes its steps while others bring tasks, close the queue and register timers,
and all of these can come between any two steps of the loop. An incident is what happens in one go:
as long as somebody holds the queue or the timers, or when a waiting loop is woken. Whatever is done
to a worker is made up of incidents, and a run of incidents is also a run of its queue.
-/

namespace Courier

namespace Room

variable {α : Type} (r : Room α) (number : Nat) (t : Task α) (p : Producer α) (policy : FullPolicy)
  (mode : ShutdownMode)

/-- Telling a producer does not touch the queue. -/
@[simp] theorem notifyOne_queue : r.notifyOne.queue = r.queue := by
  unfold notifyOne
  split <;> rfl

/-- A producer is answered as the queue answers its offer. -/
@[simp] theorem push_fst : (r.push number t policy).1 = (r.queue.offer t policy).1 := by
  unfold push
  split <;> next heq => rw [heq]

/-- What a push does to the queue is what the offer does. -/
@[simp] theorem push_queue : (r.push number t policy).2.queue = (r.queue.offer t policy).2 := by
  unfold push
  split
  · next heq =>
    have hsame : (r.queue.offer t policy).2 = r.queue := TaskQueue.offer_eq_self (by simp [heq])
    exact hsame.symm
  · next heq => rw [heq]

/-- To try again is to offer the task once more, and to wait once more if there is no place. -/
@[simp] theorem retry_fst : (r.retry p).1 = (r.queue.offer p.task .block).1 := push_fst ..

/-- Trying again does to the queue what the offer does. -/
@[simp] theorem retry_queue : (r.retry p).2.queue = (r.queue.offer p.task .block).2 :=
  push_queue ..

/-- A producer that must not wait leaves the others at the door as they are. -/
theorem push_fail :
    r.push number t .fail =
      ((r.queue.offer t .fail).1, { r with queue := (r.queue.offer t .fail).2 }) := by
  unfold push
  split
  · next heq =>
    have hnever := TaskQueue.offer_fail_ne_full r.queue t
    rw [heq] at hnever
    exact absurd rfl hnever
  · next heq => rw [heq]

/-- Whoever closes a room hears what the queue says. -/
@[simp] theorem close_fst : (r.close mode).1 = (r.queue.close mode).1 := by
  unfold close
  split <;> simp_all

/-- Closing a room closes its queue. -/
@[simp] theorem close_queue : (r.close mode).2.queue = (r.queue.close mode).2 := by
  unfold close
  split
  · next heq => rw [heq]; rfl
  · next heq =>
    unfold TaskQueue.close at heq ⊢
    split at heq
    · cases heq
    · rw [if_neg ‹_›]

end Room

namespace Worker

variable {α τ : Type} {w w' w₁ : Worker α τ} {now now' : Time}

/-- What happens to a worker in one go, with what comes of it. -/
inductive Incident (α τ : Type) where
  /-- A task is brought from another thread. -/
  | post (task : Task α) (offer : Offer)
  /-- A producer that had to wait and was told tries again. -/
  | retry (task : Task α) (offer : Offer)
  /-- What runs on the worker brings a task. -/
  | postOwn (task : Task α) (offer : Offer)
  | close (mode : ShutdownMode) (done : Bool)
  | register (timer : Timer τ)
  | cancel (id : Nat) (removed : Bool)
  /-- A waiting loop is told to look at the queue again. -/
  | wake
  /-- A pass begins. -/
  | begin
  | fire (timer : Timer τ)
  /-- The loop begins to wait for a task. -/
  | await (deadline : Time)
  | look (move : Move α τ)
  | timeOut
  /-- The task that runs comes to an end. -/
  | finish (panicked : Bool)

/-- How a worker changes with what happens to it at a clock reading. -/
inductive Performs (now : Time) (w : Worker α τ) : Incident α τ → Worker α τ → Prop
  | post (number : Nat) (t : Task α) :
      (∀ p ∈ w.room.waiting ++ w.room.notified, p.number ≠ number) →
      Performs now w (.post t (w.room.push number t w.room.queue.config.fullPolicy).1)
        { w with room := (w.room.push number t w.room.queue.config.fullPolicy).2 }
  | retry (p : Producer α) : p ∈ w.room.notified →
      Performs now w (.retry p.task (w.room.retry p).1) { w with room := (w.room.retry p).2 }
  | postOwn (t : Task α) :
      ((∃ began due, w.phase = .firing began due) ∨ ∃ task, w.phase = .running task) →
      Performs now w (.postOwn t (w.postOwn t).1) (w.postOwn t).2
  | close (mode : ShutdownMode) :
      Performs now w (.close mode (w.room.close mode).1) { w with room := (w.room.close mode).2 }
  | register (period : Duration) (callback : τ) :
      Performs now w (.register ⟨w.timers.nextId, period, now + period.nanos, callback⟩)
        { w with timers := (w.timers.insert now period callback).2 }
  | cancel (id : Nat) : Performs now w (.cancel id (w.cancelTimer id).1) (w.cancelTimer id).2
  | wake : Performs now w .wake w.wake
  | begin : w.phase = .passing → Performs now w .begin (w.step now).2
  | fire {began : Time} {timer : Timer τ} {due : List (Timer τ)} :
      w.phase = .firing began (timer :: due) → Performs now w (.fire timer) (w.step now).2
  | await {began : Time} :
      w.phase = .firing began [] → Performs now w (.await (w.deadline began)) (w.step now).2
  | look {deadline : Time} :
      w.phase = .waiting deadline false → Performs now w (.look (w.step now).1) (w.step now).2
  | timeOut {deadline : Time} :
      w.phase = .waiting deadline true → deadline ≤ now → Performs now w .timeOut (w.step now).2
  | finish {task : Task α} (panicked : Bool) :
      w.phase = .running task → Performs now w (.finish panicked) (w.finish panicked).2

/-- However a task ends, the loop goes on to its next pass. -/
@[simp] theorem finish_snd (w : Worker α τ) (panicked : Bool) :
    (w.finish panicked).2 = { w with phase := .passing } := by
  cases panicked <;> rfl

/-- Incidents one after the other, while the clock goes on. -/
inductive Run : Time → Worker α τ → List (Incident α τ) → Time → Worker α τ → Prop
  | stop {now : Time} {w : Worker α τ} : Run now w [] now w
  | step {now now₁ now' : Time} {w w₁ w' : Worker α τ} {i : Incident α τ}
      {incidents : List (Incident α τ)} :
      now ≤ now₁ → Performs now₁ w i w₁ → Run now₁ w₁ incidents now' w' →
      Run now w (i :: incidents) now' w'

/-- One incident is a run. -/
theorem Performs.run {i : Incident α τ} (h : Performs now w i w') : Run now w [i] now w' :=
  .step (Nat.le_refl now) h .stop

/-- A run goes on where another one ended. -/
theorem Run.append {incidents more : List (Incident α τ)} {now₁ : Time}
    (h : Run now w incidents now₁ w₁) (h' : Run now₁ w₁ more now' w') :
    Run now w (incidents ++ more) now' w' := by
  induction h with
  | stop => exact h'
  | step hle hperforms _ ih => exact .step hle hperforms (ih h')

/-- A run can be taken apart after any of its incidents. -/
theorem Run.split {before after : List (Incident α τ)} (h : Run now w (before ++ after) now' w') :
    ∃ now₁ w₁, Run now w before now₁ w₁ ∧ Run now₁ w₁ after now' w' := by
  induction before generalizing now w with
  | nil => exact ⟨now, w, .stop, h⟩
  | cons i before ih =>
    cases h with
    | step hle hperforms hrun =>
      obtain ⟨now₁, w₁, hbefore, hafter⟩ := ih hrun
      exact ⟨now₁, w₁, .step hle hperforms hbefore, hafter⟩

/-! ## What is done to a worker -/

/-- Bringing a task wakes the loop if the task is accepted. -/
theorem run_post {number : Nat} {t : Task α}
    (hnumber : ∀ p ∈ w.room.waiting ++ w.room.notified, p.number ≠ number) :
    Run now w
      (.post t (w.post number t).1 :: if (w.post number t).1 = .accepted then [.wake] else [])
      now (w.post number t).2 := by
  have hpost : Performs now w _ _ := .post number t hnumber
  unfold Worker.post
  generalize w.room.push number t w.room.queue.config.fullPolicy = result at hpost
  obtain ⟨offer, room⟩ := result
  cases offer with
  | accepted => exact .step (Nat.le_refl now) hpost Performs.wake.run
  | refused => exact hpost.run
  | full => exact hpost.run

/-- Closing the queue wakes the loop if it was open. -/
theorem run_close (mode : ShutdownMode) :
    Run now w (.close mode (w.close mode).1 :: if (w.close mode).1 then [.wake] else [])
      now (w.close mode).2 := by
  have hclose : Performs now w _ _ := .close mode
  unfold Worker.close
  generalize w.room.close mode = result at hclose
  obtain ⟨done, room⟩ := result
  cases done with
  | true => exact .step (Nat.le_refl now) hclose Performs.wake.run
  | false => exact hclose.run

/-- Registering a timer wakes the loop, which may have to wait for a shorter time now. -/
theorem run_addTimer (period : Duration) (callback : τ) :
    Run now w [.register ⟨w.timers.nextId, period, now + period.nanos, callback⟩, .wake] now
      (w.addTimer now period callback).2 :=
  .step (Nat.le_refl now) (.register period callback) Performs.wake.run

/-- Each step of the loop is an incident, unless it rests: it waits, it has exited, or a task
runs. -/
theorem rests_or_performs_step (w : Worker α τ) (now : Time) :
    w.step now = (.rest, w) ∨ ∃ i, Performs now w i (w.step now).2 := by
  cases hphase : w.phase with
  | passing => exact .inr ⟨_, .begin hphase⟩
  | firing began due =>
    cases due with
    | nil => exact .inr ⟨_, .await hphase⟩
    | cons timer due => exact .inr ⟨_, .fire hphase⟩
  | waiting deadline asleep =>
    cases asleep with
    | false => exact .inr ⟨_, .look hphase⟩
    | true =>
      rcases Nat.lt_or_ge now deadline with hearly | hlate
      · left
        simp [step, hphase, hearly]
      · exact .inr ⟨_, .timeOut hphase hlate⟩
  | running task =>
    left
    simp [step, hphase]
  | exited =>
    left
    simp [step, hphase]

/-! ## What becomes of the queue -/

/-- What an incident does to the queue. A loop that leaves has found the mark and drops what is
left. -/
def Incident.deals : Incident α τ → List (TaskQueue.Event α)
  | .post t offer | .retry t offer | .postOwn t offer => [.push t offer]
  | .close mode done => [.close mode done]
  | .look (.start t) => [.pop (.task t)]
  | .look (.leave dropped) => [.pop .exit, .clear dropped]
  | .look _ => [.pop .idle]
  | _ => []

/-- What a look at the queue comes to. -/
inductive Looks (w : Worker α τ) (deadline : Time) : Move α τ × Worker α τ → Prop
  | start {t : Task α} {room : Room α} : w.room.queue.pop = (.task t, room.queue) →
      Looks w deadline (.start t, { w with room, phase := .running t })
  | leave {queue : TaskQueue α} {room : Room α} : w.room.queue.pop = (.exit, queue) →
      room.queue = queue.clear.2 →
      Looks w deadline
        (.leave queue.clear.1, { w with room, timers := w.timers.clear, phase := .exited })
  | sleep {room : Room α} : w.room.queue.pop = (.idle, room.queue) →
      Looks w deadline (.proceed, { w with room, phase := .waiting deadline true })

/-- Taking what is in the queue is a look at it. -/
theorem looks_take (w : Worker α τ) (deadline : Time) : w.Looks deadline (w.take deadline) := by
  unfold take Room.pop
  rcases hpop : w.room.queue.pop with ⟨found, queue⟩
  cases found with
  | task t => exact .start (by simp [hpop])
  | exit => exact .leave hpop rfl
  | idle => exact .sleep hpop

/-- The step of a loop that waits and is awake is a look at the queue. -/
theorem looks_step {deadline : Time} (hphase : w.phase = .waiting deadline false) :
    w.Looks deadline (w.step now) := by
  have hstep : w.step now = w.take deadline := by simp [step, hphase]
  rw [hstep]
  exact looks_take w deadline

/-- To be woken does nothing to the queue or its door. -/
@[simp] theorem wake_room (w : Worker α τ) : w.wake.room = w.room := by
  unfold wake
  split <;> rfl

/-- To be woken calls no timer. -/
@[simp] theorem wake_timers (w : Worker α τ) : w.wake.timers = w.timers := by
  unfold wake
  split <;> rfl

/-- What is brought goes to the room; the loop is only woken. -/
theorem post_eq (w : Worker α τ) (number : Nat) (t : Task α) :
    (w.post number t).1 = (w.room.push number t w.room.queue.config.fullPolicy).1 ∧
      (w.post number t).2.room = (w.room.push number t w.room.queue.config.fullPolicy).2 := by
  unfold post
  generalize w.room.push number t w.room.queue.config.fullPolicy = pushed
  obtain ⟨offer, room⟩ := pushed
  cases offer with
  | accepted => exact ⟨rfl, wake_room _⟩
  | refused => exact ⟨rfl, rfl⟩
  | full => exact ⟨rfl, rfl⟩

/-- An incident does to the queue what its deals say. -/
theorem Performs.deals_run {i : Incident α τ} (h : Performs now w i w') :
    TaskQueue.Run w.room.queue i.deals w'.room.queue := by
  cases h with
  | post number t =>
    simp only [Incident.deals, Room.push_fst, Room.push_queue]
    exact .step (.push t _) .stop
  | retry p =>
    simp only [Incident.deals, Room.retry_fst, Room.retry_queue]
    exact .step (.push p.task .block) .stop
  | postOwn t =>
    unfold Worker.postOwn
    rw [Room.push_fail]
    exact .step (.push t .fail) .stop
  | close mode =>
    simp only [Incident.deals, Room.close_fst, Room.close_queue]
    exact .step (.close mode) .stop
  | register => exact .stop
  | cancel => exact .stop
  | wake =>
    rw [wake_room]
    exact .stop
  | begin hphase | fire hphase | await hphase => simpa [step, hphase] using .stop
  | timeOut hphase hle =>
    have hlate : ¬ now < _ := Nat.not_lt.mpr hle
    simp only [step, hphase, if_neg hlate]
    split <;> exact .stop
  | finish => simpa using .stop
  | look hphase =>
    have hlooks : w.Looks _ (w.step now) := looks_step hphase
    generalize w.step now = result at hlooks
    have hpop : w.room.queue.Performs (.pop w.room.queue.pop.1) w.room.queue.pop.2 := .pop
    cases hlooks with
    | start heq =>
      rw [heq] at hpop
      exact .step hpop .stop
    | leave heq hroom =>
      rw [heq] at hpop
      rw [hroom]
      exact .step hpop (.step .clear .stop)
    | sleep heq =>
      rw [heq] at hpop
      exact .step hpop .stop

/-- A run of a worker is a run of its queue. -/
theorem Run.deals_run {incidents : List (Incident α τ)} (h : Run now w incidents now' w') :
    TaskQueue.Run w.room.queue (incidents.flatMap Incident.deals) w'.room.queue := by
  induction h with
  | stop => exact .stop
  | step _ hperforms _ ih =>
    rw [List.flatMap_cons]
    exact hperforms.deals_run.append ih

end Worker

end Courier
