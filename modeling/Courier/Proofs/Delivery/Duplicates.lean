import Courier.Delivery.Duplicates
import Mathlib.Data.List.DropRight
import Mathlib.Data.List.Nodup

/-!
# What the duplicate filter remembers

The filter keeps its window twice, as a queue and as a set. Both hold the keys that were
accepted last, as many of them as there is room for, and a key is rejected exactly if it is one
of these. This holds whatever a new filter is asked, however often, and whenever it is cleared.
-/

namespace Courier.DuplicateFilter

variable {f f' : DuplicateFilter} {accepted : List FrameKey} {key : FrameKey}

/-- A filter that has accepted these keys, one after the other, since it was last cleared. -/
structure Remembers (f : DuplicateFilter) (accepted : List FrameKey) : Prop where
  window : f.window.toList = accepted.rtake f.capacity
  seen : ∀ key, key ∈ f.seen ↔ key ∈ accepted.rtake f.capacity
  nodup : (accepted.rtake f.capacity).Nodup

/-- A new filter remembers that nothing was accepted. -/
theorem remembers_new (capacity : Nat) : (new capacity).Remembers [] where
  window := by simp [new]
  seen key := by simp [new]
  nodup := by simp

/-- A filter that was cleared remembers that nothing was accepted. -/
theorem remembers_clear : f.clear.Remembers [] where
  window := by simp [DuplicateFilter.clear]
  seen key := by simp [DuplicateFilter.clear]
  nodup := by simp

/-- A key is recent exactly if it is among the last ones that were accepted, as many as the filter
has room for. -/
theorem Remembers.isRecent_eq (h : f.Remembers accepted) (key : FrameKey) :
    f.isRecent key = decide (key ∈ accepted.rtake f.capacity) := by
  rw [isRecent, Bool.eq_iff_iff, Std.HashSet.contains_iff_mem, h.seen, decide_eq_true_iff]

/-- Remembering a key does not change how much room there is. -/
@[simp] theorem capacity_remember : (f.remember key).capacity = f.capacity := by
  unfold remember
  dsimp only
  split
  · split <;> rfl
  · rfl

/-- One key more pushes the oldest one out if there is no room for both. -/
theorem rtake_concat {capacity : Nat} (hpos : 0 < capacity) :
    (accepted ++ [key]).rtake capacity =
      if accepted.length < capacity then accepted.rtake capacity ++ [key]
      else (accepted.rtake capacity).tail ++ [key] := by
  obtain ⟨n, rfl⟩ := Nat.exists_eq_succ_of_ne_zero (Nat.ne_of_gt hpos)
  rw [List.rtake_concat_succ]
  split
  · next h =>
    have hleft : accepted.length - n = 0 := by omega
    have hright : accepted.length - (n + 1) = 0 := by omega
    rw [List.rtake, List.rtake, hleft, hright]
  · next h =>
    have hnext : accepted.length - n = accepted.length - (n + 1) + 1 := by omega
    rw [List.rtake, List.rtake, List.tail_drop, hnext]

/-- The last keys are as many as there are, up to the room. -/
theorem length_rtake (capacity : Nat) :
    (accepted.rtake capacity).length = min capacity accepted.length := by
  rw [List.rtake, List.length_drop]
  omega

/-- Whether there is room for one key more. -/
theorem Remembers.lt_size_iff (h : f.Remembers accepted) :
    f.capacity < (f.window.push key).size ↔ ¬ accepted.length < f.capacity := by
  have hsize : (f.window.push key).size = min f.capacity accepted.length + 1 := by
    rw [← Fifo.length_toList, Fifo.toList_push, h.window, List.length_append, length_rtake]
    rfl
  omega

/-- A key that is not remembered takes the place of the oldest one. -/
theorem Remembers.remember (h : f.Remembers accepted) (hpos : 0 < f.capacity)
    (hnew : key ∉ accepted.rtake f.capacity) : (f.remember key).Remembers (accepted ++ [key]) := by
  by_cases hroom : accepted.length < f.capacity
  · have hremember : f.remember key =
        { f with window := f.window.push key, seen := f.seen.insert key } := by
      simp only [DuplicateFilter.remember, h.lt_size_iff, hroom, not_true, if_false]
    have hrtake : (accepted ++ [key]).rtake f.capacity = accepted.rtake f.capacity ++ [key] := by
      rw [rtake_concat hpos, if_pos hroom]
    rw [hremember]
    refine ⟨?_, ?_, ?_⟩
    · rw [hrtake, Fifo.toList_push, h.window]
    · intro other
      rw [hrtake, Std.HashSet.mem_insert, h.seen, List.mem_append, List.mem_singleton, beq_iff_eq]
      grind
    · rw [hrtake]
      exact List.nodup_append_comm.mp (List.nodup_cons.mpr ⟨hnew, h.nodup⟩)
  · have hlength : 0 < (accepted.rtake f.capacity).length := by
      rw [length_rtake]
      omega
    obtain ⟨oldest, rest, hwindow⟩ := List.exists_cons_of_length_pos hlength
    have hrtake : (accepted ++ [key]).rtake f.capacity = rest ++ [key] := by
      rw [rtake_concat hpos, if_neg hroom, hwindow, List.tail_cons]
    have hpushed : (f.window.push key).toList = oldest :: (rest ++ [key]) := by
      rw [Fifo.toList_push, h.window, hwindow, List.cons_append]
    have hnodup : (oldest :: rest ++ [key]).Nodup := by
      rw [← hwindow]
      exact List.nodup_append_comm.mp (List.nodup_cons.mpr ⟨hnew, h.nodup⟩)
    cases hpop : (f.window.push key).pop? with
    | none =>
      rw [Fifo.pop?_eq_none_iff, hpushed] at hpop
      cases hpop
    | some popped =>
      obtain ⟨first, window⟩ := popped
      have hfirst := hpushed.symm.trans (Fifo.toList_of_pop? hpop)
      obtain ⟨rfl, htail⟩ := List.cons.inj hfirst
      have hremember : f.remember key =
          { f with window, seen := (f.seen.insert key).erase oldest } := by
        simp only [DuplicateFilter.remember, h.lt_size_iff, hroom, not_false_iff, if_true, hpop]
      rw [hremember]
      refine ⟨?_, ?_, ?_⟩
      · rw [hrtake, htail]
      · intro other
        rw [hrtake, Std.HashSet.mem_erase, Std.HashSet.mem_insert, h.seen, hwindow]
        grind
      · rw [hrtake]
        exact (List.nodup_cons.mp hnodup).2

/-- A key that is remembered is rejected, and only the count of rejections changes. -/
theorem Remembers.check_of_mem (h : f.Remembers accepted)
    (hmem : key ∈ accepted.rtake f.capacity) :
    f.check key = (false, { f with suppressed := f.suppressed + 1 }) := by
  have hpos : f.capacity ≠ 0 := by
    intro hzero
    rw [hzero, List.rtake_zero] at hmem
    cases hmem
  have hrecent : f.isRecent key = true := by rw [h.isRecent_eq, decide_eq_true hmem]
  rw [check, if_neg hpos, if_pos hrecent]

/-- A key that is not remembered is accepted, and remembered if there is room for any. -/
theorem Remembers.check_of_not_mem (h : f.Remembers accepted)
    (hmem : key ∉ accepted.rtake f.capacity) :
    ∃ f', f.check key = (true, f') ∧ f'.capacity = f.capacity ∧
      f'.Remembers (accepted ++ [key]) := by
  by_cases hzero : f.capacity = 0
  · have hnone (l : List FrameKey) : l.rtake f.capacity = [] := by rw [hzero, List.rtake_zero]
    refine ⟨f, by rw [check, if_pos hzero], rfl, ?_, ?_, ?_⟩
    · rw [h.window, hnone, hnone]
    · intro other
      rw [h.seen, hnone, hnone]
    · rw [hnone]
      exact List.nodup_nil
  · have hrecent : ¬ f.isRecent key = true := by
      rw [h.isRecent_eq, decide_eq_false hmem]
      nofun
    refine ⟨f.remember key, by rw [check, if_neg hzero, if_neg hrecent], capacity_remember, ?_⟩
    exact h.remember (Nat.pos_of_ne_zero hzero) hmem

/-! ## In the course of its use -/

/-- Something that is done to a filter, with what comes of it. -/
inductive Event where
  | check (key : FrameKey) (accepted : Bool)
  | clear
deriving DecidableEq, Repr

/-- How a filter changes with what is done to it. -/
inductive Performs (f : DuplicateFilter) : Event → DuplicateFilter → Prop
  | check (key : FrameKey) : Performs f (.check key (f.check key).1) (f.check key).2
  | clear : Performs f .clear f.clear

/-- Things done to a filter one after the other. -/
inductive Run : DuplicateFilter → List Event → DuplicateFilter → Prop
  | stop {f : DuplicateFilter} : Run f [] f
  | step {f f₁ f' : DuplicateFilter} {e : Event} {events : List Event} :
      Performs f e f₁ → Run f₁ events f' → Run f (e :: events) f'

/-- The keys that were accepted since the last clear, after one event more. -/
def Event.after (accepted : List FrameKey) : Event → List FrameKey
  | .check key true => accepted ++ [key]
  | .check _ false => accepted
  | .clear => []

/-- The keys that were accepted since the last clear, in the order of their acceptance. -/
def acceptedIn (events : List Event) : List FrameKey := events.foldl Event.after []

/-- Whether an event is that a key was rejected. -/
def Event.rejects : Event → Bool
  | .check _ accepted => !accepted
  | .clear => false

/-- A history can be gone on with. -/
theorem Run.append {events more : List Event} {f₁ : DuplicateFilter} (h : Run f events f₁)
    (h' : Run f₁ more f') : Run f (events ++ more) f' := by
  induction h with
  | stop => exact h'
  | step hperforms _ ih => exact .step hperforms (ih h')

/-- A history can be divided anywhere. -/
theorem Run.split {before after : List Event} (h : Run f (before ++ after) f') :
    ∃ f₁, Run f before f₁ ∧ Run f₁ after f' := by
  induction before generalizing f with
  | nil => exact ⟨f, .stop, h⟩
  | cons e before ih =>
    cases h with
    | step hperforms hrun =>
      obtain ⟨f₁, hbefore, hafter⟩ := ih hrun
      exact ⟨f₁, .step hperforms hbefore, hafter⟩

/-- Only a check counts what was rejected; remembering a key does not. -/
@[simp] theorem suppressed_remember : (f.remember key).suppressed = f.suppressed := by
  unfold remember
  dsimp only
  split
  · split <;> rfl
  · rfl

/-- Only a rejection is counted. -/
theorem suppressed_check (f : DuplicateFilter) (key : FrameKey) :
    (f.check key).2.suppressed = f.suppressed + if (f.check key).1 then 0 else 1 := by
  unfold check
  split
  · rfl
  · split
    · rfl
    · exact suppressed_remember

/-- A check rejects exactly what the filter remembers. -/
theorem Remembers.check_fst (h : f.Remembers accepted) (key : FrameKey) :
    (f.check key).1 = !decide (key ∈ accepted.rtake f.capacity) := by
  by_cases hmem : key ∈ accepted.rtake f.capacity
  · rw [h.check_of_mem hmem, decide_eq_true hmem]
    rfl
  · obtain ⟨f', hcheck, -⟩ := h.check_of_not_mem hmem
    rw [hcheck, decide_eq_false hmem]
    rfl

/-- What a filter remembers after one event more. -/
theorem Remembers.performs {e : Event} (h : f.Remembers accepted) (hperforms : f.Performs e f') :
    f'.capacity = f.capacity ∧ f'.Remembers (e.after accepted) ∧
      f'.suppressed = f.suppressed + if e.rejects then 1 else 0 := by
  cases hperforms with
  | clear => exact ⟨rfl, remembers_clear, rfl⟩
  | check key =>
    have hsuppressed := suppressed_check f key
    by_cases hmem : key ∈ accepted.rtake f.capacity
    · rw [h.check_of_mem hmem]
      exact ⟨rfl, ⟨h.window, h.seen, h.nodup⟩, rfl⟩
    · obtain ⟨f', hcheck, hcapacity, hremembers⟩ := h.check_of_not_mem hmem
      rw [hcheck] at hsuppressed ⊢
      exact ⟨hcapacity, hremembers, hsuppressed⟩

/-- Through a whole history the filter remembers what the keys that were accepted come to, and
counts each that was not. -/
theorem Remembers.run {events : List Event} (h : f.Remembers accepted) (hrun : Run f events f') :
    f'.capacity = f.capacity ∧ f'.Remembers (events.foldl Event.after accepted) ∧
      f'.suppressed = f.suppressed + events.countP Event.rejects := by
  induction hrun generalizing accepted with
  | stop => exact ⟨rfl, h, rfl⟩
  | step hperforms _ ih =>
    obtain ⟨hcapacity, hremembers, hsuppressed⟩ := h.performs hperforms
    obtain ⟨hcapacity', hremembers', hsuppressed'⟩ := ih hremembers
    refine ⟨hcapacity'.trans hcapacity, hremembers', ?_⟩
    rw [hsuppressed', hsuppressed, List.countP_cons]
    omega

/-- A new filter after a run, and what it remembers. -/
theorem Run.remembers {capacity : Nat} {events : List Event} (h : Run (new capacity) events f) :
    f.capacity = capacity ∧ f.Remembers (acceptedIn events) ∧
      f.suppressed = events.countP Event.rejects := by
  obtain ⟨hcapacity, hremembers, hsuppressed⟩ := (remembers_new capacity).run h
  exact ⟨hcapacity, hremembers, hsuppressed.trans (Nat.zero_add _)⟩

/-- A filter without room stays as it was made. -/
theorem Run.eq_new_zero {events : List Event} (h : Run (new 0) events f) : f = new 0 := by
  generalize hnew : new 0 = f₀ at h
  induction h with
  | stop => rfl
  | step hperforms _ ih =>
    subst hnew
    cases hperforms with
    | check key => exact ih rfl
    | clear => exact ih rfl

/-- Whatever is done to a new filter, its window lists the keys that it accepted last since it was
cleared, as many of them as there is room for, in the order of their acceptance and each of them
once; the set holds the same keys. A check has rejected a key exactly if it was among them then,
which is what the filter says of the key when it is asked without being told of it. A rejection
changes nothing but the count of rejections. A filter without room accepts everything and stores
nothing. -/
theorem Run.remembers_last_accepted {capacity : Nat} {events : List Event}
    (h : Run (new capacity) events f) :
    f.window.toList = (acceptedIn events).rtake capacity ∧
      f.window.size = min capacity (acceptedIn events).length ∧
      f.window.toList.Nodup ∧
      (∀ key, key ∈ f.seen ↔ key ∈ f.window.toList) ∧
      f.suppressed = events.countP Event.rejects ∧
      (∀ before key accepted after, events = before ++ .check key accepted :: after →
        (accepted = false ↔ key ∈ (acceptedIn before).rtake capacity)) ∧
      (∀ key, f.isRecent key = !(f.check key).1) ∧
      (∀ key, (f.check key).1 = false →
        (f.check key).2 = { f with suppressed := f.suppressed + 1 }) ∧
      (capacity = 0 → f = new 0 ∧ ∀ key, f.check key = (true, f)) := by
  obtain ⟨hcapacity, hremembers, hsuppressed⟩ := h.remembers
  have hwindow := hremembers.window
  have hseen := hremembers.seen
  refine ⟨hcapacity ▸ hwindow, ?_, hwindow ▸ hremembers.nodup, hwindow ▸ hseen, hsuppressed, ?_, ?_,
    ?_, ?_⟩
  · rw [← Fifo.length_toList, hwindow, length_rtake, hcapacity]
  · rintro before key accepted after rfl
    obtain ⟨f₁, hbefore, hrest⟩ := h.split
    obtain ⟨hcapacity₁, hremembers₁, -⟩ := hbefore.remembers
    cases hrest with
    | step hperforms _ =>
      cases hperforms with
      | check => simp [hremembers₁.check_fst, hcapacity₁]
  · intro key
    rw [hremembers.isRecent_eq, hremembers.check_fst, Bool.not_not]
  · intro key hrejected
    have hmem : key ∈ (acceptedIn events).rtake f.capacity := by
      simpa [hremembers.check_fst] using hrejected
    rw [hremembers.check_of_mem hmem]
  · rintro rfl
    obtain rfl := h.eq_new_zero
    exact ⟨rfl, fun key => rfl⟩

/-- There is room for two keys. The first one is rejected while it is remembered, which does not
make it any younger: it is forgotten for the third one and can then be accepted again. -/
theorem Run.remembers_last_accepted_of_aged_key :
    let key (seq : UInt16) : FrameKey := ⟨1, seq⟩
    let events : List Event :=
      [.check (key 9) true, .clear, .check (key 1) true, .check (key 2) true, .check (key 1) false,
        .check (key 3) true, .check (key 1) true]
    ∃ f, Run (new 2) events f ∧ f.window.toList = [key 3, key 1] ∧ f.suppressed = 1 := by
  intro key events
  -- What a check answers is read off the keys that were accepted before it.
  have hnext {f : DuplicateFilter} {past : List Event} (h : Run (new 2) past f) (seq : UInt16)
      (accepted : Bool) (hanswer : (!decide (key seq ∈ (acceptedIn past).rtake 2)) = accepted) :
      ∃ f', Run (new 2) (past ++ [.check (key seq) accepted]) f' := by
    obtain ⟨hcapacity, hremembers, -⟩ := h.remembers
    have hcheck : f.Performs (.check (key seq) (f.check (key seq)).1) _ := .check (key seq)
    rw [hremembers.check_fst, hcapacity, hanswer] at hcheck
    exact ⟨_, h.append (.step hcheck .stop)⟩
  have hcleared {f : DuplicateFilter} {past : List Event} (h : Run (new 2) past f) :
      Run (new 2) (past ++ [.clear]) f.clear := h.append (.step .clear .stop)
  obtain ⟨f₁, h₁⟩ := hnext .stop 9 true (by decide)
  obtain ⟨f₂, h₂⟩ := hnext (hcleared h₁) 1 true (by decide)
  obtain ⟨f₃, h₃⟩ := hnext h₂ 2 true (by decide)
  obtain ⟨f₄, h₄⟩ := hnext h₃ 1 false (by decide)
  obtain ⟨f₅, h₅⟩ := hnext h₄ 3 true (by decide)
  obtain ⟨f, hrun⟩ := hnext h₅ 1 true (by decide)
  replace hrun : Run (new 2) events f := hrun
  obtain ⟨hwindow, -, -, -, hsuppressed, -⟩ := hrun.remembers_last_accepted
  exact ⟨f, hrun, hwindow, hsuppressed⟩

end Courier.DuplicateFilter
