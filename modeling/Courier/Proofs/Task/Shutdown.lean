import Courier.Proofs.Task.Leaving
import Courier.Proofs.Task.Ledger

/-!
# The end of a worker

A worker is closed from outside or by one of its own tasks, and its loop goes on until it finds the
mark. If the queue is drained every task that was accepted has run by then; if it is discarded, none
is taken after the close and those that are left are dropped. It makes no difference that tasks
bring further tasks, or that they panic.
-/

namespace Courier.Worker

variable {α τ : Type} {w w' : Worker α τ} {now now' : Time} {i : Incident α τ}
  {incidents : List (Incident α τ)}

/-- Whether an incident is that a task came to its end. -/
def Incident.finishes : Incident α τ → Bool
  | .finish _ => true
  | _ => false

/-- The incident with no panic in it. -/
def Incident.calm : Incident α τ → Incident α τ
  | .finish _ => .finish false
  | i => i

/-- The queue gives out what the loop starts, and nothing else. -/
theorem returned_deals (i : Incident α τ) :
    i.deals.flatMap TaskQueue.Event.returned = i.started := by
  cases i with
  | look move => cases move <;> rfl
  | _ => rfl

/-- The queue drops what is left when the loop leaves, and nothing else. -/
theorem dropped_deals (i : Incident α τ) : i.deals.flatMap TaskQueue.Event.dropped = i.dropped := by
  cases i with
  | look move =>
    cases move with
    | leave tasks => exact List.append_nil tasks
    | _ => rfl
  | _ => rfl

/-! ## One task after the other -/

/-- The number of tasks that run at the moment. -/
def load (w : Worker α τ) : Nat :=
  match w.phase with
  | .running _ => 1
  | _ => 0

/-- To be woken starts no task and ends none. -/
theorem load_wake (w : Worker α τ) : w.wake.load = w.load := by
  unfold wake
  cases hphase : w.phase <;> simp [load, hphase]

/-- A task is started only when none runs, and then runs until it comes to its end. -/
theorem Performs.load_eq (h : Performs now w i w') :
    w.load + i.started.length = w'.load + if i.finishes then 1 else 0 := by
  cases h with
  | wake =>
    rw [load_wake]
    rfl
  | begin hphase | fire hphase | await hphase =>
    simp [load, step, hphase, Incident.started, Incident.finishes]
  | finish panicked hphase => simp [load, hphase, Incident.started, Incident.finishes]
  | timeOut hphase hle =>
    simp only [step, hphase, if_neg (Nat.not_lt.mpr hle)]
    split <;> simp [load, hphase, Incident.started, Incident.finishes]
  | look hphase =>
    have hlooks : w.Looks _ (w.step now) := looks_step hphase
    generalize w.step now = result at hlooks
    cases hlooks <;> simp [load, hphase, Incident.started, Incident.finishes]
  | _ => rfl

/-- In a run every task that was started has come to its end or runs at the moment. -/
theorem Run.load_eq (h : Run now w incidents now' w') :
    w.load + (incidents.flatMap Incident.started).length =
      w'.load + incidents.countP Incident.finishes := by
  induction h with
  | stop => rfl
  | step _ hperforms _ ih =>
    have hstep := hperforms.load_eq
    rw [List.flatMap_cons, List.length_append, List.countP_cons]
    omega

/-- Between the starts of two tasks the first one comes to its end. -/
theorem Run.finish_between {before between after : List (Incident α τ)} {t u : Task α}
    (h : Run now w (before ++ .look (.start t) :: (between ++ .look (.start u) :: after)) now' w') :
    ∃ panicked, .finish panicked ∈ between := by
  obtain ⟨_, w₁, -, h₁⟩ := h.split
  cases h₁ with
  | @step _ _ _ _ w₂ _ _ _ _ hstart h₂ =>
    obtain ⟨_, w₃, hbetween, h₃⟩ := h₂.split
    cases h₃ with
    | step _ hstart' _ =>
      have hbusy : w₂.load = 1 := by
        obtain ⟨_, -, hlooks⟩ := hstart.looks
        cases hlooks
        rfl
      have hidle : w₃.load = 0 := by
        obtain ⟨_, hphase, -⟩ := hstart'.looks
        simp [load, hphase]
      have hload := hbetween.load_eq
      have hcount : 0 < between.countP Incident.finishes := by omega
      obtain ⟨i, hi, hfinishes⟩ := List.countP_pos_iff.mp hcount
      cases i with
      | finish panicked => exact ⟨panicked, hi⟩
      | _ => cases hfinishes

/-- Incidents that are alike but for panics are the same one or two ends of a task. -/
theorem eq_or_finish_of_calm_eq {other : Incident α τ} (h : other.calm = i.calm) :
    other = i ∨ ∃ panicked panicked', i = .finish panicked ∧ other = .finish panicked' := by
  unfold Incident.calm at h
  split at h <;> split at h <;> simp_all

/-- It makes no difference to anything else whether a task panics. -/
theorem Performs.of_calm_eq {other : Incident α τ} (h : Performs now w i w')
    (hcalm : other.calm = i.calm) : Performs now w other w' := by
  rcases eq_or_finish_of_calm_eq hcalm with rfl | ⟨panicked, panicked', rfl, rfl⟩
  · exact h
  · cases h with
    | finish _ hphase =>
      rw [finish_snd, ← finish_snd w panicked']
      exact .finish panicked' hphase

/-- A run may have other tasks panic and lead to the same worker. -/
theorem Run.of_calm_eq {others : List (Incident α τ)} (h : Run now w incidents now' w')
    (hcalm : others.map Incident.calm = incidents.map Incident.calm) :
    Run now w others now' w' := by
  induction h generalizing others with
  | stop =>
    rw [List.map_eq_nil_iff.mp hcalm]
    exact .stop
  | step hle hperforms _ ih =>
    cases others with
    | nil => cases hcalm
    | cons other others =>
      obtain ⟨hfirst, hrest⟩ := List.cons_eq_cons.mp hcalm
      exact .step hle (hperforms.of_calm_eq hfirst) (ih hrest)

/-! ## What others are told -/

/-- A closed worker cannot be closed again. -/
theorem close_eq_self (hshut : w.room.queue.accepting = false) (mode : ShutdownMode) :
    w.close mode = (false, w) := by
  have hroom : w.room.close mode = (false, w.room) := by
    unfold Room.close TaskQueue.close
    rw [hshut]
    rfl
  unfold close
  rw [hroom]

/-- A task never waits for room in the queue of the worker that runs it. -/
theorem postOwn_of_full {t : Task α} (hopen : w.room.queue.accepting = true)
    (hfull : w.room.queue.hasRoom = false) :
    w.postOwn t = (.refused (.queueFull w.name w.room.queue.maxDepth), w) := by
  unfold postOwn
  rw [Room.push_fail, TaskQueue.offer, hopen, hfull]
  rfl

/-- A task that brings another one to its own worker does not wait. -/
theorem Performs.postOwn_ne_full {t : Task α} {offer : Offer}
    (h : Performs now w (.postOwn t offer) w') : offer ≠ .full := by
  generalize hi : Incident.postOwn t offer = i at h
  cases h with
  | postOwn =>
    cases hi
    unfold Worker.postOwn
    rw [Room.push_fail]
    exact TaskQueue.offer_fail_ne_full _ _
  | _ => cases hi

/-- In no run does a task that brings another one to its own worker wait. -/
theorem Run.postOwn_ne_full {t : Task α} {offer : Offer} (h : Run now w incidents now' w')
    (hmem : .postOwn t offer ∈ incidents) : offer ≠ .full := by
  obtain ⟨before, after, rfl⟩ := List.append_of_mem hmem
  obtain ⟨_, _, -, hrest⟩ := h.split
  cases hrest with
  | step _ hperforms _ => exact hperforms.postOwn_ne_full

/-! ## The worker as a whole -/

/-- A worker runs one task after the other, in the order in which books of its queue have them: each
is the most urgent pending one that was accepted first, and none is started twice. Once the queue
was closed no task is accepted, it cannot be closed again, and the loop does not fall asleep and
leaves in the end. A queue that is to be drained drops nothing; of one whose tasks are to be
discarded none is started. When the loop has left, every task that was started has come to its end,
and those that were started and those that were dropped are all that were accepted. Nothing of this
depends on which tasks panic. A task that brings another one to its own worker never waits, and is
refused if the queue is full, whatever others have to do then. -/
theorem Run.shuts_down_in_order {name : String} {config : QueueConfig} {began : Time}
    (h : Run began (new name config) incidents now w) :
    ∃ books : TaskQueue.Ledger α,
      TaskQueue.Ledger.Keeps {} (incidents.flatMap Incident.deals) books ∧ books.Balanced ∧
      books.Lists books.returned (incidents.flatMap Incident.started) ∧
      books.Lists books.dropped (incidents.flatMap Incident.dropped) ∧
      (∀ before t between u after,
        incidents = before ++ .look (.start t) :: (between ++ .look (.start u) :: after) →
        ∃ panicked, .finish panicked ∈ between) ∧
      (∀ before mode after, incidents = before ++ .close mode true :: after →
        (∀ t offer, .push t offer ∈ after.flatMap Incident.deals →
          offer = .refused (.threadStopped name)) ∧
        (∀ mode' done, .close mode' done ∈ after → done = false) ∧
        (∀ mode', w.close mode' = (false, w)) ∧
        .look .proceed ∉ after ∧
        (mode = .drain → incidents.flatMap Incident.dropped = []) ∧
        (mode = .discard → after.flatMap Incident.started = []) ∧
        ∀ course : Course α τ, course.worker 0 = w → course.Fair →
          ∃ n, (course.worker n).phase = .exited) ∧
      (w.phase = .exited →
        (∃ mode, .close mode true ∈ incidents) ∧ books.pending = [] ∧
        (incidents.flatMap Incident.started ++ incidents.flatMap Incident.dropped).Perm
          books.accepted ∧
        incidents.countP Incident.finishes = (incidents.flatMap Incident.started).length) ∧
      (∀ others, others.map Incident.calm = incidents.map Incident.calm →
        Run began (new name config) others now w) ∧
      (∀ t offer, .postOwn t offer ∈ incidents → offer ≠ .full) ∧
      ∀ t, w.isRunning = true → config.maxDepth ≠ 0 →
        books.pending.length = config.maxDepth.toNat →
        w.postOwn t = (.refused (.queueFull name config.maxDepth.toNat), w) := by
  have hdeals : TaskQueue.Run { name, config } (incidents.flatMap Incident.deals) w.room.queue :=
    h.deals_run
  obtain ⟨books, hkeeps, hbooks, hcounted⟩ := TaskQueue.Ledger.exists_matches hdeals
  have hnothing : ({} : TaskQueue.Ledger α).Lists [] [] := rfl
  obtain ⟨hreturned, hdropped⟩ := hkeeps.lists hnothing hnothing
  simp only [List.nil_append, List.flatMap_assoc, returned_deals, dropped_deals]
    at hreturned hdropped
  refine ⟨books, hkeeps, hbooks.balanced, hreturned, hdropped, ?_, ?_, ?_,
    fun _ hcalm => h.of_calm_eq hcalm, fun _ _ => h.postOwn_ne_full, ?_⟩
  · rintro before t between u after rfl
    exact h.finish_between
  · rintro before mode after rfl
    obtain ⟨hbefore, _, w₁, hafter, hw₁, hname⟩ := h.split_close
    obtain ⟨hw, hawake, hdrain, hdiscard⟩ := hafter.after_close hw₁
    obtain ⟨hpush, hclose⟩ := hafter.deals_run.refused hw₁.accepting
    refine ⟨hname ▸ hpush, ?_, close_eq_self hw.accepting, hawake, ?_, hdiscard, ?_⟩
    · intro mode' done hmem
      exact hclose mode' done (List.mem_flatMap.mpr ⟨_, hmem, List.mem_singleton_self _⟩)
    · intro hmode
      rw [List.flatMap_append, List.flatMap_cons, hbefore, hdrain hmode]
      rfl
    · rintro course rfl hfair
      exact course.leaves hfair hw
  · intro hexited
    obtain ⟨hempty, hclosed⟩ := h.of_exited hexited
    have hpending : books.pending = [] := by
      refine List.eq_nil_of_length_eq_zero ?_
      rw [hbooks.length_pending, TaskQueue.tasks, hempty]
      rfl
    refine ⟨hclosed, hpending, hbooks.balanced.perm_accepted hpending hreturned hdropped, ?_⟩
    have hload := h.load_eq
    have hbegan : (new name config : Worker α τ).load = 0 := rfl
    have hleft : w.load = 0 := by simp [load, hexited]
    omega
  · intro t hopen hbounded hfull
    obtain ⟨hname, hconfig, -⟩ := hdeals.frame
    have hmax : w.room.queue.maxDepth = config.maxDepth.toNat :=
      congrArg (·.maxDepth.toNat) hconfig
    have hroom : w.room.queue.hasRoom = false := by
      rw [Bool.eq_false_iff]
      intro hroom
      rw [TaskQueue.hasRoom_iff, hmax, hcounted, hfull] at hroom
      have hzero : config.maxDepth.toNat ≠ 0 := fun h => hbounded (UInt64.toNat_inj.mp h)
      omega
    rw [postOwn_of_full hopen hroom, hmax]
    congr 2
    exact congrArg (TaskError.queueFull · _) hname

/-- There is room for one task. The one that runs brings another one, is refused a third, closes the
queue to drain it, and panics. The second one runs all the same before the loop leaves. -/
theorem Run.shuts_down_in_order_of_panic :
    let config : QueueConfig := { maxDepth := 1 }
    let incidents : List (Incident Nat Unit) :=
      [.post ⟨.normal, 1⟩ .accepted, .begin, .await 100000000, .look (.start ⟨.normal, 1⟩),
        .postOwn ⟨.low, 2⟩ .accepted, .postOwn ⟨.critical, 3⟩ (.refused (.queueFull "worker" 1)),
        .close .drain true, .finish true, .begin, .await 100000000, .look (.start ⟨.low, 2⟩),
        .finish false, .begin, .await 100000000, .look (.leave [])]
    ∃ w, Run 0 (new "worker" config) incidents 0 w ∧ w.phase = .exited ∧
      ∃ books : TaskQueue.Ledger Nat, [⟨.normal, 1⟩, ⟨.low, 2⟩].Perm books.accepted ∧
        incidents.countP Incident.finishes = 2 := by
  intro config incidents
  let state (phase : Phase Nat Unit) (entries : List (Entry Nat)) (nextTicket depth : Nat)
      (accepting : Bool) : Worker Nat Unit :=
    { room := { queue := { name := "worker", config, entries, nextTicket, depth, accepting } }
      phase }
  let one : Entry Nat := ⟨2, 0, some ⟨.normal, 1⟩⟩
  let two : Entry Nat := ⟨1, 1, some ⟨.low, 2⟩⟩
  let mark : Entry Nat := ⟨0, 2, none⟩
  have hpost : Performs 0 (new "worker" config) (.post ⟨.normal, 1⟩ .accepted)
      (state .passing [one] 1 1 true) := .post 1 ⟨.normal, 1⟩ (by simp [new])
  have hbegin : Performs 0 (state .passing [one] 1 1 true) .begin
      (state (.firing 0 []) [one] 1 1 true) := .begin rfl
  have hawait : Performs 0 (state (.firing 0 []) [one] 1 1 true) (.await 100000000)
      (state (.waiting 100000000 false) [one] 1 1 true) := .await rfl
  have hstart : Performs 0 (state (.waiting 100000000 false) [one] 1 1 true)
      (.look (.start ⟨.normal, 1⟩)) (state (.running ⟨.normal, 1⟩) [] 1 0 true) := .look rfl
  have hown : Performs 0 (state (.running ⟨.normal, 1⟩) [] 1 0 true) (.postOwn ⟨.low, 2⟩ .accepted)
      (state (.running ⟨.normal, 1⟩) [two] 2 1 true) := .postOwn _ (.inr ⟨_, rfl⟩)
  have hfull : Performs 0 (state (.running ⟨.normal, 1⟩) [two] 2 1 true)
      (.postOwn ⟨.critical, 3⟩ (.refused (.queueFull "worker" 1)))
      (state (.running ⟨.normal, 1⟩) [two] 2 1 true) := .postOwn _ (.inr ⟨_, rfl⟩)
  have hclose : Performs 0 (state (.running ⟨.normal, 1⟩) [two] 2 1 true) (.close .drain true)
      (state (.running ⟨.normal, 1⟩) [two, mark] 3 1 false) := .close .drain
  have hpanic : Performs 0 (state (.running ⟨.normal, 1⟩) [two, mark] 3 1 false) (.finish true)
      (state .passing [two, mark] 3 1 false) := .finish true rfl
  have hbegin₂ : Performs 0 (state .passing [two, mark] 3 1 false) .begin
      (state (.firing 0 []) [two, mark] 3 1 false) := .begin rfl
  have hawait₂ : Performs 0 (state (.firing 0 []) [two, mark] 3 1 false) (.await 100000000)
      (state (.waiting 100000000 false) [two, mark] 3 1 false) := .await rfl
  have hstart₂ : Performs 0 (state (.waiting 100000000 false) [two, mark] 3 1 false)
      (.look (.start ⟨.low, 2⟩)) (state (.running ⟨.low, 2⟩) [mark] 3 0 false) := .look rfl
  have hfinish : Performs 0 (state (.running ⟨.low, 2⟩) [mark] 3 0 false) (.finish false)
      (state .passing [mark] 3 0 false) := .finish false rfl
  have hbegin₃ : Performs 0 (state .passing [mark] 3 0 false) .begin
      (state (.firing 0 []) [mark] 3 0 false) := .begin rfl
  have hawait₃ : Performs 0 (state (.firing 0 []) [mark] 3 0 false) (.await 100000000)
      (state (.waiting 100000000 false) [mark] 3 0 false) := .await rfl
  have hleave : Performs 0 (state (.waiting 100000000 false) [mark] 3 0 false) (.look (.leave []))
      (state .exited [] 3 0 false) := .look rfl
  have hrun : Run 0 (new "worker" config) incidents 0 (state .exited [] 3 0 false) :=
    hpost.run.append <| hbegin.run.append <| hawait.run.append <| hstart.run.append <|
      hown.run.append <| hfull.run.append <| hclose.run.append <| hpanic.run.append <|
      hbegin₂.run.append <| hawait₂.run.append <| hstart₂.run.append <| hfinish.run.append <|
      hbegin₃.run.append <| hawait₃.run.append hleave.run
  obtain ⟨books, -, -, -, -, -, -, hexit, -⟩ := hrun.shuts_down_in_order
  obtain ⟨-, -, hperm, hfinished⟩ := hexit rfl
  exact ⟨_, hrun, rfl, books, hperm, hfinished⟩

end Courier.Worker
