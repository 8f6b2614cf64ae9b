import Courier.Proofs.Task.Holding

/-!
# A crowded queue

Producers wait where a queue is full, and for every task that is taken one of them is told. What
one was told of may be gone when it tries again, but then a task has come in its place. So as long
as producers wait, the tasks in the queue and the producers that were told would fill it: taking a
task, bringing one and trying again move from the one to the other, and closing or clearing the
queue tells everybody.
-/

namespace Courier

namespace TaskQueue

variable {α : Type} {q : TaskQueue α} {mark : Option ShutdownMode}

/-- As long as a queue accepts tasks, it holds nothing else. -/
theorem Orderly.length_entries (h : q.Orderly mark) (haccepting : q.accepting = true) :
    q.entries.length = q.depth := by
  have hmarked := h.marked
  rw [h.unmarked haccepting] at hmarked
  have hnone : q.entries.filter (·.task.isNone) = [] := List.map_eq_nil_iff.mp hmarked
  rw [h.counted, tasks, eq_comm, List.filterMap_length_eq_length]
  intro e he
  have hsome := List.filter_eq_nil_iff.mp hnone e he
  rwa [Bool.not_eq_true, Option.isNone_eq_false_iff] at hsome

/-- A producer has to wait only if the queue is open and full. -/
theorem full_of_offer {t : Task α} {policy : FullPolicy} (h : (q.offer t policy).1 = .full) :
    q.accepting = true ∧ 0 < q.maxDepth ∧ q.maxDepth ≤ q.depth := by
  have hoffers := offers_offer q t policy
  generalize q.offer t policy = result at h hoffers
  cases hoffers with
  | closed | accepted | refused => cases h
  | full haccepting hroom =>
    rw [← Bool.not_eq_true, hasRoom_iff] at hroom
    exact ⟨haccepting, by omega, by omega⟩

/-- A task that is taken no longer counts. -/
theorem depth_pop (q : TaskQueue α) : q.pop.2.depth = q.depth - q.pop.1.taken.length := by
  unfold TaskQueue.pop
  split
  · rfl
  · dsimp only
    split <;> rfl

end TaskQueue

/-- Where the numbers are different, no more than one producer goes by any of them. -/
theorem length_le_filter_number {α : Type} {producers : List (Producer α)}
    (hdistinct : (producers.map (·.number)).Nodup) (number : Nat) :
    producers.length ≤ (producers.filter (·.number ≠ number)).length + 1 := by
  by_cases hexists : ∃ p ∈ producers, p.number = number
  · obtain ⟨p, hp, rfl⟩ := hexists
    exact Nat.le_of_eq (perm_cons_filter_number hdistinct hp).length_eq
  · have hall : ∀ p ∈ producers, decide (p.number ≠ number) = true := fun p hp =>
      decide_eq_true fun heq => hexists ⟨p, hp, heq⟩
    rw [List.filter_eq_self.mpr hall]
    exact Nat.le_succ _

namespace Room

variable {α : Type} {r : Room α} {short : Nat}

/-- What is taken through the door is what is taken from the queue. -/
theorem pop_queue (r : Room α) : r.pop.2.queue = r.queue.pop.2 := by
  unfold Room.pop
  split <;> next heq => simp [heq]

/-- At a closed queue everybody is turned away. -/
theorem push_of_closed (hclosed : r.queue.accepting = false) (number : Nat) (t : Task α)
    (policy : FullPolicy) :
    r.push number t policy = (.refused (.threadStopped r.queue.name), r) := by
  have hoffer : r.queue.offer t policy = (.refused (.threadStopped r.queue.name), r.queue) := by
    simp [TaskQueue.offer, hclosed]
  rw [Room.push, hoffer]

/-- As long as producers wait, the queue is open, and the tasks in it and the producers that were
told would fill it, but for a few. -/
def Crowded (r : Room α) (short : Nat) : Prop :=
  r.waiting ≠ [] → r.queue.accepting = true ∧
    r.queue.maxDepth ≤ r.queue.depth + r.notified.length + short

/-- A few more are few enough, too. -/
theorem Crowded.mono {more : Nat} (h : r.Crowded short) (hle : short ≤ more) : r.Crowded more := by
  intro hwaiting
  obtain ⟨haccepting, hdepth⟩ := h hwaiting
  exact ⟨haccepting, by omega⟩

/-- At a closed queue nobody waits to be told. -/
theorem Crowded.waiting_eq_nil (h : r.Crowded short) (hclosed : r.queue.accepting = false) :
    r.waiting = [] := by
  cases hwaiting : r.waiting with
  | nil => rfl
  | cons =>
    have hopen := (h (by simp [hwaiting])).1
    rw [hclosed] at hopen
    cases hopen

/-- A push makes up for one that is missing: it brings a task, or finds the queue full without. -/
theorem Crowded.push (h : r.Crowded 1) (number : Nat) (t : Task α) (policy : FullPolicy) :
    (r.push number t policy).2.Crowded 0 := by
  have hoffers := TaskQueue.offers_offer r.queue t policy
  unfold Room.push
  generalize r.queue.offer t policy = result at hoffers
  intro hwaiting
  cases hoffers with
  | closed hclosed => exact absurd (h.waiting_eq_nil hclosed) hwaiting
  | accepted haccepting =>
    obtain ⟨-, hdepth⟩ := h hwaiting
    refine ⟨haccepting, ?_⟩
    change r.queue.maxDepth ≤ r.queue.depth + 1 + r.notified.length
    omega
  | refused haccepting hroom | full haccepting hroom =>
    have hfull : r.queue.maxDepth ≤ r.queue.depth := by
      rw [← Bool.not_eq_true, TaskQueue.hasRoom_iff] at hroom
      omega
    exact ⟨haccepting, Nat.le_trans hfull (Nat.le_add_right _ _)⟩

/-- Telling a producer makes up for one that is missing. -/
theorem Crowded.notifyOne (h : r.Crowded 1) : r.notifyOne.Crowded 0 := by
  unfold Room.notifyOne
  split
  · next hnobody => exact fun hwaiting => absurd hnobody hwaiting
  · next p rest hfirst =>
    intro _
    obtain ⟨haccepting, hdepth⟩ := h (by simp [hfirst])
    refine ⟨haccepting, ?_⟩
    simp only [List.length_append, List.length_singleton]
    omega

/-- Whoever takes a task tells somebody who waits that there is room. -/
theorem Crowded.pop (h : r.Crowded 0) : r.pop.2.Crowded 0 := by
  obtain ⟨-, hconfig, haccepting⟩ := (TaskQueue.Performs.pop (q := r.queue)).frame
  have hopen : r.queue.pop.2.accepting = r.queue.accepting := by
    simpa [TaskQueue.Event.closes] using haccepting
  have hmax : r.queue.pop.2.maxDepth = r.queue.maxDepth := congrArg (·.maxDepth.toNat) hconfig
  have hdepth := r.queue.depth_pop
  -- Before anybody is told, a task that was taken is missing, and nothing else can be.
  have hleft {queue : TaskQueue α} (hqueue : r.queue.pop.2 = queue) {missing : Nat}
      (hmissing : r.queue.pop.1.taken.length ≤ missing) :
      ({ r with queue } : Room α).Crowded missing := by
    intro hwaiting
    obtain ⟨haccepting, hfull⟩ := h hwaiting
    rw [← hqueue]
    refine ⟨hopen.trans haccepting, ?_⟩
    rw [hmax, hdepth]
    change r.queue.maxDepth ≤ r.queue.depth - _ + r.notified.length + missing
    omega
  unfold Room.pop
  split
  · next heq => exact (hleft (by rw [heq]) (by simp [heq, Found.taken])).notifyOne
  · next found queue htask heq =>
    refine hleft (by rw [heq]) ?_
    rw [heq]
    cases found with
    | task t => exact absurd rfl (htask t)
    | exit | idle => exact Nat.le_refl 0

/-- At a closed queue nobody waits. -/
theorem Crowded.close (h : r.Crowded 0) (mode : ShutdownMode) : (r.close mode).2.Crowded 0 := by
  unfold Room.close
  split
  · exact fun hwaiting => absurd rfl hwaiting
  · exact h

/-- After everything was dropped nobody waits. -/
theorem crowded_clear (r : Room α) : r.clear.2.Crowded 0 := fun hwaiting => absurd rfl hwaiting

end Room

end Courier
