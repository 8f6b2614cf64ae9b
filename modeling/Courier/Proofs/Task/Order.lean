import Courier.Task.Queue

/-!
# The order in a queue

Of the entries in a queue one leads all others: it is the most urgent one, and of the most urgent
ones the one that came first. As tickets are never issued twice, taking it removes nothing else.
The mark of a closed queue stands among the entries like a task, behind the last of them or before
the first, until it is taken or the queue is cleared.
-/

namespace Courier

namespace Entry

variable {α : Type} {a b c first : Entry α} {rest : List (Entry α)}

/-- An entry leads every entry that is not given out before it. -/
def Leads (a b : Entry α) : Prop := b.rank < a.rank ∨ a.rank = b.rank ∧ a.ticket ≤ b.ticket

/-- An entry is not given out before itself. -/
theorem Leads.refl (a : Entry α) : a.Leads a := .inr ⟨rfl, Nat.le_refl _⟩

/-- Leading goes on from entry to entry. -/
theorem Leads.trans (hab : a.Leads b) (hbc : b.Leads c) : a.Leads c := by
  unfold Leads at *
  omega

/-- The more urgent entry goes before the other one, and of equally urgent ones the older. -/
theorem goesBefore_iff :
    a.goesBefore b = true ↔ b.rank < a.rank ∨ a.rank = b.rank ∧ a.ticket < b.ticket := by
  simp [goesBefore]

/-- Whatever goes before an entry leads it. -/
theorem leads_of_goesBefore (h : a.goesBefore b = true) : a.Leads b := by
  rw [goesBefore_iff] at h
  unfold Leads
  omega

/-- Of two entries one leads the other. -/
theorem leads_of_not_goesBefore (h : ¬ a.goesBefore b = true) : b.Leads a := by
  rw [goesBefore_iff] at h
  unfold Leads
  omega

/-- The foremost entry is one of those that it is chosen from. -/
theorem foremost_mem (first : Entry α) (rest : List (Entry α)) :
    foremost first rest ∈ first :: rest := by
  induction rest generalizing first with
  | nil => exact List.mem_singleton_self first
  | cons e rest ih =>
    rw [foremost]
    rcases List.mem_cons.mp (ih (if e.goesBefore first then e else first)) with heq | hmem
    · rw [heq]
      split
      · exact List.mem_cons_of_mem first List.mem_cons_self
      · exact List.mem_cons_self
    · exact List.mem_cons_of_mem first (List.mem_cons_of_mem e hmem)

/-- The foremost entry leads all that it is chosen from. -/
theorem foremost_leads (first : Entry α) (rest : List (Entry α)) :
    ∀ e ∈ first :: rest, (foremost first rest).Leads e := by
  induction rest generalizing first with
  | nil =>
    intro e he
    rw [List.mem_singleton.mp he]
    exact Leads.refl first
  | cons e rest ih =>
    -- The winner of the first comparison leads both, and is itself led by the foremost entry.
    have hwinner : (if e.goesBefore first then e else first).Leads e ∧
        (if e.goesBefore first then e else first).Leads first := by
      split
      · next h => exact ⟨Leads.refl e, leads_of_goesBefore h⟩
      · next h => exact ⟨leads_of_not_goesBefore h, Leads.refl first⟩
    have hlead := ih (if e.goesBefore first then e else first)
    have hfirst := hlead _ List.mem_cons_self
    rw [foremost]
    intro other hother
    rcases List.mem_cons.mp hother with rfl | hother
    · exact hfirst.trans hwinner.2
    · rcases List.mem_cons.mp hother with rfl | hother
      · exact hfirst.trans hwinner.1
      · exact hlead other (List.mem_cons_of_mem _ hother)

end Entry

namespace TaskQueue

variable {α : Type} {q q' q₁ : TaskQueue α} {mark : Option ShutdownMode}

/-! ## What is done to a queue -/

/-- Something that is done to a queue, with what comes of it. -/
inductive Event (α : Type) where
  | push (task : Task α) (offer : Offer)
  | pop (found : Found α)
  | close (mode : ShutdownMode) (done : Bool)
  | clear (dropped : List (Task α))
  | count (depth : Nat)
deriving DecidableEq

/-- How a queue changes with what is done to it. A task may be pushed under any policy, whatever
the policy of the queue is. -/
inductive Performs (q : TaskQueue α) : Event α → TaskQueue α → Prop
  | push (t : Task α) (policy : FullPolicy) :
      Performs q (.push t (q.offer t policy).1) (q.offer t policy).2
  | pop : Performs q (.pop q.pop.1) q.pop.2
  | close (mode : ShutdownMode) : Performs q (.close mode (q.close mode).1) (q.close mode).2
  | clear : Performs q (.clear q.clear.1) q.clear.2
  | count : Performs q (.count q.depth) q

/-- Things done to a queue one after the other. -/
inductive Run : TaskQueue α → List (Event α) → TaskQueue α → Prop
  | stop {q : TaskQueue α} : Run q [] q
  | step {q q₁ q' : TaskQueue α} {e : Event α} {events : List (Event α)} :
      Performs q e q₁ → Run q₁ events q' → Run q (e :: events) q'

/-- The mark that stands in a queue after an event: closing the queue sets it up, and it is taken
away when a consumer finds it and when the queue is cleared. -/
def Event.marks (mark : Option ShutdownMode) : Event α → Option ShutdownMode
  | .close mode true => some mode
  | .pop .exit => none
  | .clear _ => none
  | _ => mark

/-- A queue as its operations leave it, with the mark that stands in it. -/
structure Orderly (q : TaskQueue α) (mark : Option ShutdownMode) : Prop where
  ascending : q.entries.Pairwise (·.ticket < ·.ticket)
  issued : ∀ e ∈ q.entries, e.ticket < q.nextTicket
  ranked : ∀ e ∈ q.entries, ∀ t, e.task = some t → e.rank = t.priority.rank
  counted : q.depth = q.tasks.length
  marked : (q.entries.filter (·.task.isNone)).map (·.rank) = mark.toList.map exitRank
  unmarked : q.accepting = true → mark = none

/-- What a push comes to. -/
inductive Offers (q : TaskQueue α) (t : Task α) : Offer × TaskQueue α → Prop
  | closed : q.accepting = false → Offers q t (.refused (.threadStopped q.name), q)
  | accepted : q.accepting = true → q.hasRoom = true →
      Offers q t (.accepted, { q.insert t.priority.rank (some t) with depth := q.depth + 1 })
  | refused : q.accepting = true → q.hasRoom = false →
      Offers q t (.refused (.queueFull q.name q.maxDepth), q)
  | full : q.accepting = true → q.hasRoom = false → Offers q t (.full, q)

/-- What a consumer takes: nothing, if there is nothing, and else the entry that leads all. -/
inductive Takes (q : TaskQueue α) : Found α × TaskQueue α → Prop
  | idle : q.entries = [] → Takes q (.idle, q)
  | task {front back : List (Entry α)} {e : Entry α} {t : Task α} :
      q.entries = front ++ e :: back → (∀ other ∈ q.entries, e.Leads other) → e.task = some t →
      Takes q (.task t, { q with entries := front ++ back, depth := q.depth - 1 })
  | exit {front back : List (Entry α)} {e : Entry α} :
      q.entries = front ++ e :: back → (∀ other ∈ q.entries, e.Leads other) → e.task = none →
      Takes q (.exit, { q with entries := front ++ back })

/-- An offer comes to one of these: a closed queue refuses it, an open one accepts it while there is
room, and a full one refuses it or lets it wait. -/
theorem offers_offer (q : TaskQueue α) (t : Task α) (policy : FullPolicy) :
    q.Offers t (q.offer t policy) := by
  unfold offer
  cases haccepting : q.accepting with
  | false => exact .closed haccepting
  | true =>
    cases hroom : q.hasRoom with
    | true => exact .accepted haccepting hroom
    | false =>
      cases policy with
      | fail => exact .refused haccepting hroom
      | block => exact .full haccepting hroom

/-- A queue without a bound always has room. -/
theorem hasRoom_iff : q.hasRoom = true ↔ q.maxDepth = 0 ∨ q.depth < q.maxDepth := by
  simp [hasRoom]

section Split

variable {front back : List (Entry α)} {e : Entry α}

/-- An entry with others before and behind it is one of the entries. -/
theorem mem_of_split (h : q.entries = front ++ e :: back) : e ∈ q.entries := by
  rw [h]
  exact List.mem_append_right front List.mem_cons_self

/-- What is left when an entry is taken out is a part of the entries. -/
theorem sublist_of_split (h : q.entries = front ++ e :: back) :
    (front ++ back).Sublist q.entries := by
  rw [h]
  exact List.Sublist.append_left (List.sublist_cons_self e back) front

/-- Removing an entry by its ticket removes no other one. -/
theorem entries_without
    (hascending : q.entries.Pairwise (·.ticket < ·.ticket))
    (hentries : q.entries = front ++ e :: back) :
    q.without e.ticket = { q with entries := front ++ back } := by
  rw [hentries, List.pairwise_append, List.pairwise_cons] at hascending
  obtain ⟨-, ⟨hback, -⟩, hfront⟩ := hascending
  have hkept : q.entries.filter (·.ticket ≠ e.ticket) = front ++ back := by
    rw [hentries, List.filter_append, List.filter_cons_of_neg (by simp)]
    congr 1
    · refine List.filter_eq_self.mpr fun other hother => decide_eq_true ?_
      have := hfront other hother e List.mem_cons_self
      omega
    · refine List.filter_eq_self.mpr fun other hother => decide_eq_true ?_
      have := hback other hother
      omega
  rw [without, hkept]

end Split

/-- A pop takes the entry that leads all others, and only this one, as no two of them have one
ticket. -/
theorem takes_pop (hascending : q.entries.Pairwise (·.ticket < ·.ticket)) : q.Takes q.pop := by
  unfold pop
  split
  · next hentries => exact .idle hentries
  · next first rest hentries =>
    have hmem := Entry.foremost_mem first rest
    have hleads := Entry.foremost_leads first rest
    rw [← hentries] at hmem hleads
    obtain ⟨front, back, hsplit⟩ := List.append_of_mem hmem
    dsimp only
    rw [entries_without hascending hsplit]
    split
    · next t htask => exact .task hsplit hleads htask
    · next htask => exact .exit hsplit hleads htask

/-! ## What operations preserve -/

/-- A new queue is orderly, and no mark stands in it. -/
theorem orderly_new (name : String) (config : QueueConfig) :
    ({ name, config } : TaskQueue α).Orderly none where
  ascending := .nil
  issued := by simp
  ranked := by simp
  counted := rfl
  marked := rfl
  unmarked _ := rfl

/-- Tickets ascend when an entry is added, as every new one is the largest so far. -/
theorem Orderly.ascending_insert (h : q.Orderly mark) (rank : Nat) (task : Option (Task α)) :
    (q.insert rank task).entries.Pairwise (·.ticket < ·.ticket) := by
  refine List.pairwise_append.mpr ⟨h.ascending, List.pairwise_singleton _ _, ?_⟩
  intro e he new hnew
  rw [List.mem_singleton.mp hnew]
  exact h.issued e he

/-- The next ticket is always one that no entry has. -/
theorem Orderly.issued_insert (h : q.Orderly mark) (rank : Nat) (task : Option (Task α)) :
    ∀ e ∈ (q.insert rank task).entries, e.ticket < (q.insert rank task).nextTicket := by
  intro e he
  rcases List.mem_append.mp he with he | he
  · exact Nat.lt_succ_of_lt (h.issued e he)
  · rw [List.mem_singleton.mp he]
    exact Nat.lt_succ_self _

/-- An offer leaves a queue orderly and sets up no mark. -/
theorem Orderly.offer (h : q.Orderly mark) (t : Task α) (policy : FullPolicy) :
    (q.offer t policy).2.Orderly mark := by
  have hoffers := offers_offer q t policy
  generalize q.offer t policy = result at hoffers
  cases hoffers with
  | closed => exact h
  | refused => exact h
  | full => exact h
  | accepted haccepting =>
    refine ⟨h.ascending_insert _ _, h.issued_insert _ _, ?_, ?_, ?_, h.unmarked⟩
    · intro e he u hu
      rcases List.mem_append.mp he with he | he
      · exact h.ranked e he u hu
      · rw [List.mem_singleton.mp he] at hu ⊢
        rw [← Option.some.inj hu]
    · have hone : (q.insert t.priority.rank (some t)).tasks = q.tasks ++ [t] :=
        List.filterMap_append
      change q.depth + 1 = (q.insert t.priority.rank (some t)).tasks.length
      rw [hone, List.length_append, h.counted, List.length_singleton]
    · have hmarked := h.marked
      simp only [insert, List.filter_append, List.map_append]
      rw [hmarked]
      exact List.append_nil _

/-- Closing a queue leaves it orderly, with the mark if it was open. -/
theorem Orderly.close (h : q.Orderly mark) (mode : ShutdownMode) :
    (q.close mode).2.Orderly ((.close mode (q.close mode).1 : Event α).marks mark) := by
  unfold TaskQueue.close
  split
  · next haccepting =>
    refine ⟨h.ascending_insert _ _, h.issued_insert _ _, ?_, ?_, ?_, by simp⟩
    · intro e he u hu
      rcases List.mem_append.mp he with he | he
      · exact h.ranked e he u hu
      · rw [List.mem_singleton.mp he] at hu
        cases hu
    · have hnone : (q.insert (exitRank mode) none).tasks = q.tasks ++ [] :=
        List.filterMap_append
      change q.depth = (q.insert (exitRank mode) none).tasks.length
      rw [hnone, List.append_nil, h.counted]
    · have hmarked := h.marked
      rw [h.unmarked haccepting] at hmarked
      simp only [insert, List.filter_append, List.map_append]
      rw [hmarked]
      rfl
  · exact h

/-- A pop leaves a queue orderly. There is only one mark, so no further one is left when it is
found. -/
theorem Orderly.pop (h : q.Orderly mark) :
    q.pop.2.Orderly ((.pop q.pop.1 : Event α).marks mark) := by
  have htakes := takes_pop h.ascending
  generalize q.pop = result at htakes
  -- What remains of the entries is a part of them, and keeps whatever holds of each.
  cases htakes with
  | idle => exact h
  | @task front back e t hsplit _ htask =>
    have hsub := sublist_of_split hsplit
    refine ⟨h.ascending.sublist hsub, fun e he => h.issued e (hsub.subset he),
      fun e he => h.ranked e (hsub.subset he), ?_, ?_, h.unmarked⟩
    · have hcounted := h.counted
      simp only [tasks, hsplit, List.filterMap_append, List.filterMap_cons, htask,
        List.length_append, List.length_cons] at hcounted ⊢
      omega
    · have hmarked := h.marked
      rw [hsplit, List.filter_append, List.filter_cons_of_neg (by simp [htask]),
        ← List.filter_append] at hmarked
      exact hmarked
  | @exit front back e hsplit _ htask =>
    have hsub := sublist_of_split hsplit
    refine ⟨h.ascending.sublist hsub, fun e he => h.issued e (hsub.subset he),
      fun e he => h.ranked e (hsub.subset he), ?_, ?_, fun _ => rfl⟩
    · have hcounted := h.counted
      simp only [tasks, hsplit, List.filterMap_append, List.filterMap_cons, htask] at hcounted ⊢
      exact hcounted
    · have hlength := congrArg List.length h.marked
      rw [hsplit, List.filter_append, List.filter_cons_of_pos (by simp [htask])] at hlength
      simp only [List.length_map, List.length_append, List.length_cons] at hlength
      have hone : mark.toList.length ≤ 1 := by cases mark <;> simp
      have hnil : (front ++ back).filter (·.task.isNone) = [] := by
        rw [List.filter_append]
        refine List.eq_nil_of_length_eq_zero ?_
        rw [List.length_append]
        omega
      change ((front ++ back).filter (·.task.isNone)).map (·.rank) = []
      rw [hnil, List.map_nil]

/-- Whatever is done to an orderly queue leaves it orderly. -/
theorem Performs.orderly {e : Event α} (hperforms : q.Performs e q') (h : q.Orderly mark) :
    q'.Orderly (e.marks mark) := by
  cases hperforms with
  | push t policy => exact h.offer t policy
  | pop => exact h.pop
  | close mode => exact h.close mode
  | clear =>
    exact ⟨.nil, by simp [TaskQueue.clear], by simp [TaskQueue.clear], rfl, rfl, fun _ => rfl⟩
  | count => exact h

/-- A queue stays orderly in a run, and its mark is what the events made of it. -/
theorem Run.orderly {events : List (Event α)} (hrun : Run q events q') (h : q.Orderly mark) :
    q'.Orderly (events.foldl Event.marks mark) := by
  induction hrun generalizing mark with
  | stop => exact h
  | step hperforms _ ih => exact ih (hperforms.orderly h)

/-! ## What a consumer finds -/

/-- No task is as little urgent as the mark of a queue that is to be drained, and none is as urgent
as that of a queue whose tasks are to be discarded. -/
theorem rank_bounds (p : Priority) : exitRank .drain < p.rank ∧ p.rank < exitRank .discard := by
  cases p <;> decide

/-- The mark is an entry without a task. -/
theorem Orderly.exists_mark {mode : ShutdownMode} (h : q.Orderly (some mode)) :
    ∃ e ∈ q.entries, e.task = none ∧ e.rank = exitRank mode := by
  have hmem : exitRank mode ∈ (q.entries.filter (·.task.isNone)).map (·.rank) := by
    rw [h.marked]
    exact List.mem_singleton_self _
  obtain ⟨e, he, hrank⟩ := List.mem_map.mp hmem
  obtain ⟨he, hnone⟩ := List.mem_filter.mp he
  exact ⟨e, he, Option.isNone_iff_eq_none.mp hnone, hrank⟩

/-- An entry without a task is the mark. -/
theorem Orderly.mark_eq {e : Entry α} (h : q.Orderly mark) (he : e ∈ q.entries)
    (hnone : e.task = none) : ∃ mode, mark = some mode ∧ e.rank = exitRank mode := by
  have hmem : e.rank ∈ (q.entries.filter (·.task.isNone)).map (·.rank) :=
    List.mem_map_of_mem (List.mem_filter.mpr ⟨he, Option.isNone_iff_eq_none.mpr hnone⟩)
  rw [h.marked] at hmem
  obtain ⟨mode, hmode, hrank⟩ := List.mem_map.mp hmem
  exact ⟨mode, Option.mem_toList.mp hmode, hrank.symm⟩

/-- While a mark stands, a consumer finds something. -/
theorem Orderly.pop_ne_idle {mode : ShutdownMode} (h : q.Orderly (some mode)) :
    q.pop.1 ≠ .idle := by
  obtain ⟨m, hm, -, -⟩ := h.exists_mark
  have htakes := takes_pop h.ascending
  generalize q.pop = result at htakes
  cases htakes with
  | idle hentries =>
    rw [hentries] at hm
    cases hm
  | task => simp
  | exit => simp

/-- The mark of a queue that was closed to discard its tasks is found before all of them, and that
of a queue that was closed to be drained is found behind them. -/
theorem Orderly.pop_eq_exit_iff {mode : ShutdownMode} (h : q.Orderly (some mode)) :
    q.pop.1 = .exit ↔ mode = .discard ∨ q.tasks = [] := by
  obtain ⟨m, hm, -, hrank⟩ := h.exists_mark
  have htakes := takes_pop h.ascending
  generalize q.pop = result at htakes
  cases htakes with
  | idle hentries =>
    rw [hentries] at hm
    cases hm
  | @task front back e t hsplit hleads htask =>
    have he := mem_of_split hsplit
    have hmem : t ∈ q.tasks := List.mem_filterMap.mpr ⟨e, he, htask⟩
    refine iff_of_false (by simp) ?_
    rintro (rfl | hnone)
    · have hlead := hleads m hm
      have hbound := (rank_bounds t.priority).2
      rw [Entry.Leads, hrank, h.ranked e he t htask] at hlead
      omega
    · rw [hnone] at hmem
      cases hmem
  | @exit front back e hsplit hleads htask =>
    refine iff_of_true rfl ?_
    cases mode with
    | discard => exact .inl rfl
    | drain =>
      refine .inr (List.filterMap_eq_nil_iff.mpr ?_)
      have he := mem_of_split hsplit
      obtain ⟨mode, hmode, hrank'⟩ := h.mark_eq he htask
      cases hmode
      intro other hother
      cases ht : other.task with
      | none => rfl
      | some t =>
        have hlead := hleads other hother
        have hbound := (rank_bounds t.priority).1
        rw [Entry.Leads, hrank', h.ranked other hother t ht] at hlead
        omega

/-- Finding the mark leaves the tasks where they are. -/
theorem Orderly.tasks_of_exit (h : q.Orderly mark) (hexit : q.pop.1 = .exit) :
    q.pop.2.tasks = q.tasks := by
  have htakes := takes_pop h.ascending
  generalize q.pop = result at hexit htakes
  cases htakes with
  | idle => cases hexit
  | task => cases hexit
  | exit hsplit _ htask =>
    simp only [tasks, hsplit, List.filterMap_append, List.filterMap_cons, htask]

/-- Without a mark no consumer finds one. -/
theorem Orderly.pop_ne_exit (h : q.Orderly none) : q.pop.1 ≠ .exit := by
  have htakes := takes_pop h.ascending
  generalize q.pop = result at htakes
  cases htakes with
  | idle => simp
  | task => simp
  | @exit front back e hsplit _ htask =>
    have he := mem_of_split hsplit
    obtain ⟨mode, hmode, -⟩ := h.mark_eq he htask
    cases hmode

/-! ## What a run of operations leads to -/

/-- Whether an event is that the queue was closed. -/
def Event.closes : Event α → Bool
  | .close _ done => done
  | _ => false

/-- A run goes on where another one ended. -/
theorem Run.append {events more : List (Event α)} (h : Run q events q₁) (h' : Run q₁ more q') :
    Run q (events ++ more) q' := by
  induction h with
  | stop => exact h'
  | step hperforms _ ih => exact .step hperforms (ih h')

/-- A run can be taken apart after any of its events. -/
theorem Run.split {before after : List (Event α)} (h : Run q (before ++ after) q') :
    ∃ q₁, Run q before q₁ ∧ Run q₁ after q' := by
  induction before generalizing q with
  | nil => exact ⟨q, .stop, h⟩
  | cons e before ih =>
    cases h with
    | step hperforms hrun =>
      obtain ⟨q₁, hbefore, hafter⟩ := ih hrun
      exact ⟨q₁, .step hperforms hbefore, hafter⟩

/-- A queue keeps its name and settings, and is closed by the event that says so. -/
theorem Performs.frame {e : Event α} (h : q.Performs e q') :
    q'.name = q.name ∧ q'.config = q.config ∧ q'.accepting = (q.accepting && !e.closes) := by
  cases h with
  | push t policy =>
    have hoffers := offers_offer q t policy
    generalize q.offer t policy = result at hoffers
    cases hoffers <;> simp [Event.closes, insert]
  | pop =>
    unfold TaskQueue.pop
    split
    · simp [Event.closes]
    · dsimp only
      split <;> simp [Event.closes, without]
  | close mode =>
    unfold TaskQueue.close
    cases haccepting : q.accepting <;> simp [Event.closes, insert, haccepting]
  | clear => simp [Event.closes, TaskQueue.clear]
  | count => simp [Event.closes]

/-- After a run as well, a queue has its name and settings, and it is closed if one of the events
closed it. -/
theorem Run.frame {events : List (Event α)} (h : Run q events q') :
    q'.name = q.name ∧ q'.config = q.config ∧
      q'.accepting = (q.accepting && !events.any Event.closes) := by
  induction h with
  | stop => simp
  | step hperforms _ ih =>
    obtain ⟨hname, hconfig, haccepting⟩ := hperforms.frame
    obtain ⟨hname', hconfig', haccepting'⟩ := ih
    refine ⟨hname'.trans hname, hconfig'.trans hconfig, ?_⟩
    rw [haccepting', haccepting, List.any_cons, Bool.not_or, Bool.and_assoc]

/-- A closed queue is never opened again. -/
theorem Performs.shut {e : Event α} (h : q.Performs e q') (hclosed : q.accepting = false) :
    q'.accepting = false := by
  rw [h.frame.2.2, hclosed, Bool.false_and]

/-- A queue that was closed before a run is closed after it. -/
theorem Run.shut {events : List (Event α)} (h : Run q events q') (hclosed : q.accepting = false) :
    q'.accepting = false := by
  rw [h.frame.2.2, hclosed, Bool.false_and]

/-- A closed queue accepts no task again, and cannot be closed again. -/
theorem Run.refused {events : List (Event α)} (h : Run q events q')
    (hclosed : q.accepting = false) :
    (∀ t offer, .push t offer ∈ events → offer = .refused (.threadStopped q.name)) ∧
      ∀ mode done, .close mode done ∈ events → done = false := by
  induction h with
  | stop => simp
  | @step q q₁ q' e events hperforms _ ih =>
    obtain ⟨hpush, hclose⟩ := ih (hperforms.shut hclosed)
    rw [hperforms.frame.1] at hpush
    constructor
    · intro t offer hmem
      rcases List.mem_cons.mp hmem with rfl | hmem
      · cases hperforms with
        | push t policy => simp [TaskQueue.offer, hclosed]
      · exact hpush t offer hmem
    · intro mode done hmem
      rcases List.mem_cons.mp hmem with rfl | hmem
      · cases hperforms with
        | close mode => simp [TaskQueue.close, hclosed]
      · exact hclose mode done hmem

/-- What a queue is like from the moment when it was closed. -/
theorem Run.after_close {name : String} {config : QueueConfig} {mode : ShutdownMode}
    {before after : List (Event α)}
    (h : Run { name, config } (before ++ .close mode true :: after) q) :
    ∃ q₁, Run q₁ after q ∧ q₁.Orderly (some mode) ∧ q₁.accepting = false ∧ q₁.name = name := by
  obtain ⟨q₀, hbefore, hrest⟩ := h.split
  cases hrest with
  | @step _ q₁ _ _ _ hclose hafter =>
    obtain ⟨hname, -, haccepting⟩ := hclose.frame
    refine ⟨q₁, hafter, hclose.orderly (hbefore.orderly (orderly_new name config)), ?_, ?_⟩
    · simpa [Event.closes] using haccepting
    · exact hname.trans hbefore.frame.1

/-- A bounded queue holds no more tasks than it may. -/
theorem Performs.depth_le {e : Event α} (h : q.Performs e q')
    (hdepth : q.maxDepth = 0 ∨ q.depth ≤ q.maxDepth) :
    q'.maxDepth = 0 ∨ q'.depth ≤ q'.maxDepth := by
  cases h with
  | push t policy =>
    have hoffers := offers_offer q t policy
    generalize q.offer t policy = result at hoffers
    cases hoffers with
    | closed => exact hdepth
    | refused => exact hdepth
    | full => exact hdepth
    | accepted _ hroom =>
      rw [hasRoom_iff] at hroom
      change q.maxDepth = 0 ∨ q.depth + 1 ≤ q.maxDepth
      omega
  | pop =>
    unfold TaskQueue.pop
    split
    · exact hdepth
    · dsimp only
      split
      · change q.maxDepth = 0 ∨ q.depth - 1 ≤ q.maxDepth
        omega
      · exact hdepth
  | close mode =>
    unfold TaskQueue.close
    split <;> exact hdepth
  | clear => exact .inr (Nat.zero_le _)
  | count => exact hdepth

/-- A bounded queue never holds more tasks than it may in the course of a run. -/
theorem Run.depth_le {events : List (Event α)} (h : Run q events q')
    (hdepth : q.maxDepth = 0 ∨ q.depth ≤ q.maxDepth) :
    q'.maxDepth = 0 ∨ q'.depth ≤ q'.maxDepth := by
  induction h with
  | stop => exact hdepth
  | step hperforms _ ih => exact ih (hperforms.depth_le hdepth)

/-- A task that is not accepted leaves the queue as it is. -/
theorem offer_eq_self {t : Task α} {policy : FullPolicy} (h : (q.offer t policy).1 ≠ .accepted) :
    (q.offer t policy).2 = q := by
  have hoffers := offers_offer q t policy
  generalize q.offer t policy = result at h hoffers
  cases hoffers with
  | closed => rfl
  | refused => rfl
  | full => rfl
  | accepted => exact absurd rfl h

/-- A task that is refused when the queue is full never waits. -/
theorem offer_fail_ne_full (q : TaskQueue α) (t : Task α) : (q.offer t .fail).1 ≠ .full := by
  unfold offer
  split
  · simp
  · split <;> simp

/-- A task is accepted exactly if the queue is open and has room. -/
theorem offer_eq_accepted_iff {t : Task α} {policy : FullPolicy} :
    (q.offer t policy).1 = .accepted ↔ q.accepting = true ∧ q.hasRoom = true := by
  have hoffers := offers_offer q t policy
  generalize q.offer t policy = result at hoffers
  cases hoffers with
  | closed haccepting => simp [haccepting]
  | refused _ hroom => simp [hroom]
  | full _ hroom => simp [hroom]
  | accepted haccepting hroom => simp [haccepting, hroom]

end TaskQueue

end Courier
