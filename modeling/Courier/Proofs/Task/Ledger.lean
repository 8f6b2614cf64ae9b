import Courier.Proofs.Task.Order
import Mathlib.Data.List.Perm.Basic

/-!
# The books of a queue

Books are kept of what a queue accepts, gives out and drops, without a look at its entries or its
tickets: a task goes by its place in the order in which the tasks were accepted. They show that the
queue is a stable priority queue, that it neither loses a task nor gives one out twice, and that the
number it counts along is that of the tasks it holds.
-/

namespace Courier.TaskQueue

variable {α : Type} {q q' : TaskQueue α} {mark : Option ShutdownMode}

/-- What has become of the tasks that were accepted, the oldest first. -/
structure Ledger (α : Type) where
  accepted : List (Task α) := []
  pending : List Nat := []
  returned : List Nat := []
  dropped : List Nat := []

/-- The tasks that an event gives out. -/
def Event.returned : Event α → List (Task α)
  | .pop (.task t) => [t]
  | _ => []

/-- The tasks that an event drops. -/
def Event.dropped : Event α → List (Task α)
  | .clear tasks => tasks
  | _ => []

namespace Ledger

variable {books books' : Ledger α}

/-- The tasks that were accepted at some places. -/
def Lists (books : Ledger α) (places : List Nat) (tasks : List (Task α)) : Prop :=
  places.map (books.accepted[·]?) = tasks.map some

/-- A pending task is the next one if none is more urgent, and none of the equally urgent ones was
accepted earlier. -/
structure IsNext (books : Ledger α) (place : Nat) (t : Task α) : Prop where
  pending : place ∈ books.pending
  accepted : books.accepted[place]? = some t
  first : ∀ other ∈ books.pending, ∀ u, books.accepted[other]? = some u →
    u.priority.rank < t.priority.rank ∨ u.priority.rank = t.priority.rank ∧ place ≤ other

/-- How the books change with an event. -/
inductive Enters (books : Ledger α) : Event α → Ledger α → Prop
  | accepted {t : Task α} :
      Enters books (.push t .accepted)
        { books with
          accepted := books.accepted ++ [t]
          pending := books.pending ++ [books.accepted.length] }
  | turnedAway {t : Task α} {offer : Offer} : offer ≠ .accepted → Enters books (.push t offer) books
  | returned {place : Nat} {t : Task α} : books.IsNext place t →
      Enters books (.pop (.task t))
        { books with
          pending := books.pending.erase place
          returned := books.returned ++ [place] }
  | exit : Enters books (.pop .exit) books
  | idle : books.pending = [] → Enters books (.pop .idle) books
  | close {mode : ShutdownMode} {done : Bool} : Enters books (.close mode done) books
  | cleared {tasks : List (Task α)} : books.Lists books.pending tasks →
      Enters books (.clear tasks)
        { books with pending := [], dropped := books.dropped ++ books.pending }
  | count : Enters books (.count books.pending.length) books

/-- Books that are kept of one event after the other. -/
inductive Keeps : Ledger α → List (Event α) → Ledger α → Prop
  | stop {books : Ledger α} : Keeps books [] books
  | step {books books₁ books' : Ledger α} {e : Event α} {events : List (Event α)} :
      Enters books e books₁ → Keeps books₁ events books' → Keeps books (e :: events) books'

/-- Every task that was accepted is pending, was returned or was dropped, and only one of these and
only once. -/
def Balanced (books : Ledger α) : Prop :=
  (books.pending ++ books.returned ++ books.dropped).Perm (List.range books.accepted.length)

/-- Books that agree with a queue. As only accepted tasks draw tickets before the queue is closed,
and nothing is accepted afterwards, a ticket is the place of its task. -/
structure Matches (books : Ledger α) (q : TaskQueue α) : Prop where
  pending_eq : books.pending = (q.entries.filter (·.task.isSome)).map (·.ticket)
  accepted_eq : ∀ e ∈ q.entries, ∀ t, e.task = some t → books.accepted[e.ticket]? = some t
  next_eq : q.accepting = true → q.nextTicket = books.accepted.length
  balanced : books.Balanced

/-- The books of a new queue are empty. -/
theorem matches_new (name : String) (config : QueueConfig) :
    ({} : Ledger α).Matches { name, config } where
  pending_eq := rfl
  accepted_eq := by simp
  next_eq _ := rfl
  balanced := .nil

/-- The places that are pending are those of the tasks in the queue, in its order. -/
theorem Matches.lists (h : books.Matches q) : books.Lists books.pending q.tasks := by
  obtain ⟨hpending, haccepted, -, -⟩ := h
  rw [Lists, hpending, tasks]
  generalize q.entries = entries at haccepted
  induction entries with
  | nil => rfl
  | cons e entries ih =>
    have hrest := ih fun other hother => haccepted other (List.mem_cons_of_mem e hother)
    cases htask : e.task with
    | none =>
      rw [List.filter_cons_of_neg (by simp [htask]), List.filterMap_cons_none htask]
      exact hrest
    | some t =>
      rw [List.filter_cons_of_pos (by simp [htask]), List.filterMap_cons_some htask, List.map_cons,
        List.map_cons, List.map_cons, hrest, haccepted e List.mem_cons_self t htask]

/-- As many places are pending as there are tasks in the queue. -/
theorem Matches.length_pending (h : books.Matches q) : books.pending.length = q.tasks.length := by
  have hlength := congrArg List.length h.lists
  rwa [List.length_map, List.length_map] at hlength

/-- A pending place is the ticket of an entry with its task. -/
theorem Matches.exists_entry (h : books.Matches q) {place : Nat} (hplace : place ∈ books.pending) :
    ∃ e ∈ q.entries, e.ticket = place ∧ e.task = books.accepted[place]? ∧ e.task.isSome := by
  rw [h.pending_eq] at hplace
  obtain ⟨e, he, rfl⟩ := List.mem_map.mp hplace
  obtain ⟨he, hsome⟩ := List.mem_filter.mp he
  obtain ⟨t, ht⟩ := Option.isSome_iff_exists.mp hsome
  exact ⟨e, he, rfl, ht.trans (h.accepted_eq e he t ht).symm, hsome⟩

/-! ## What is entered -/

/-- Whatever comes of an offer can be entered. -/
theorem Matches.offer (h : books.Matches q) (t : Task α) (policy : FullPolicy) :
    ∃ books', Enters books (.push t (q.offer t policy).1) books' ∧
      books'.Matches (q.offer t policy).2 := by
  have hoffers := offers_offer q t policy
  generalize q.offer t policy = result at hoffers
  cases hoffers with
  | closed => exact ⟨books, .turnedAway (by simp), h⟩
  | refused => exact ⟨books, .turnedAway (by simp), h⟩
  | full => exact ⟨books, .turnedAway (by simp), h⟩
  | accepted haccepting _ =>
    have hnext := h.next_eq haccepting
    refine ⟨_, .accepted, ?_, ?_, ?_, ?_⟩
    · simp only [insert, List.filter_append, List.map_append, h.pending_eq, hnext]
      rfl
    · intro e he u hu
      rcases List.mem_append.mp he with he | he
      · have hold := h.accepted_eq e he u hu
        obtain ⟨hlt, -⟩ := List.getElem?_eq_some_iff.mp hold
        exact (List.getElem?_append_left hlt).trans hold
      · rw [List.mem_singleton.mp he] at hu ⊢
        rw [hnext, List.getElem?_concat_length, ← hu]
    · intro _
      rw [List.length_append, ← hnext]
      rfl
    · have hbalanced := h.balanced
      rw [Balanced] at hbalanced ⊢
      rw [List.length_append, List.length_singleton, List.range_succ, List.append_assoc,
        List.append_assoc, List.singleton_append]
      rw [List.append_assoc] at hbalanced
      exact (List.perm_middle.trans (hbalanced.cons _)).trans (List.perm_append_singleton _ _).symm

/-- The task of an entry that leads all others is the next one. -/
theorem Matches.isNext {e : Entry α} {t : Task α} (h : books.Matches q) (hq : q.Orderly mark)
    (he : e ∈ q.entries) (hleads : ∀ other ∈ q.entries, e.Leads other) (htask : e.task = some t) :
    books.IsNext e.ticket t where
  pending := by
    rw [h.pending_eq]
    exact List.mem_map_of_mem (List.mem_filter.mpr ⟨he, by simp [htask]⟩)
  accepted := h.accepted_eq e he t htask
  first := by
    intro place hplace u hu
    obtain ⟨other, hother, rfl, htask', -⟩ := h.exists_entry hplace
    have hlead := hleads other hother
    rw [Entry.Leads, hq.ranked e he t htask, hq.ranked other hother u (htask'.trans hu)] at hlead
    omega

/-- As no ticket is drawn twice, a task that is taken out leaves the places of the others. -/
theorem Matches.erase_pending {front back : List (Entry α)} {e : Entry α} (h : books.Matches q)
    (hq : q.Orderly mark) (hsplit : q.entries = front ++ e :: back) (htask : e.task.isSome) :
    books.pending.erase e.ticket = ((front ++ back).filter (·.task.isSome)).map (·.ticket) := by
  have hearlier : e.ticket ∉ (front.filter (·.task.isSome)).map (·.ticket) := by
    intro hmem
    obtain ⟨other, hother, hticket⟩ := List.mem_map.mp hmem
    have hascending := hq.ascending
    rw [hsplit, List.pairwise_append] at hascending
    have hlt := hascending.2.2 other (List.mem_filter.mp hother).1 e List.mem_cons_self
    omega
  rw [h.pending_eq, hsplit, List.filter_append, List.filter_cons_of_pos (by exact htask),
    List.map_append, List.map_cons, List.erase_append_right _ hearlier, List.erase_cons_head,
    List.filter_append, List.map_append]

/-- Giving out a pending task moves its place to those that were returned. -/
theorem Balanced.give {place : Nat} (h : books.Balanced) (hplace : place ∈ books.pending) :
    Balanced { books with
      pending := books.pending.erase place
      returned := books.returned ++ [place] } := by
  refine List.Perm.trans (List.Perm.append_right _ ?_) h
  rw [← List.append_assoc]
  refine (List.perm_append_singleton _ _).trans ?_
  exact (List.perm_cons_erase hplace).symm.append_right _

/-- Whatever is found can be entered: an orderly queue gives out the next task. -/
theorem Matches.pop (h : books.Matches q) (hq : q.Orderly mark) :
    ∃ books', Enters books (.pop q.pop.1) books' ∧ books'.Matches q.pop.2 := by
  have htakes := takes_pop hq.ascending
  generalize q.pop = result at htakes
  cases htakes with
  | idle hentries =>
    refine ⟨books, .idle ?_, h⟩
    rw [h.pending_eq, hentries]
    rfl
  | exit hsplit _ htask =>
    refine ⟨books, .exit, ?_, ?_, h.next_eq, h.balanced⟩
    · rw [h.pending_eq, hsplit, List.filter_append, List.filter_append,
        List.filter_cons_of_neg (by simp [htask])]
    · intro other hother
      exact h.accepted_eq other ((sublist_of_split hsplit).subset hother)
  | task hsplit hleads htask =>
    have hnext := h.isNext hq (mem_of_split hsplit) hleads htask
    have hplaces := h.erase_pending hq hsplit (by simp [htask])
    refine ⟨_, .returned hnext, hplaces, ?_, h.next_eq, h.balanced.give hnext.pending⟩
    intro other hother
    exact h.accepted_eq other ((sublist_of_split hsplit).subset hother)

/-- Whatever happens to an orderly queue can be entered. -/
theorem Matches.performs {e : Event α} (h : books.Matches q) (hq : q.Orderly mark)
    (hperforms : q.Performs e q') : ∃ books', Enters books e books' ∧ books'.Matches q' := by
  cases hperforms with
  | push t policy => exact h.offer t policy
  | pop => exact h.pop hq
  | close mode =>
    unfold TaskQueue.close
    split
    · refine ⟨books, .close, ?_, ?_, by simp, h.balanced⟩
      · rw [h.pending_eq]
        simp only [insert, List.filter_append, List.map_append]
        exact (List.append_nil _).symm
      · intro e he t ht
        rcases List.mem_append.mp he with he | he
        · exact h.accepted_eq e he t ht
        · rw [List.mem_singleton.mp he] at ht
          cases ht
    · exact ⟨books, .close, h⟩
  | clear =>
    refine ⟨_, .cleared h.lists, rfl, by simp [TaskQueue.clear], h.next_eq, ?_⟩
    refine List.Perm.trans ?_ h.balanced
    simp only [List.nil_append]
    refine (List.Perm.append_left _ List.perm_append_comm).trans ?_
    rw [← List.append_assoc]
    exact List.perm_append_comm.append_right _
  | count =>
    have hlength : q.depth = books.pending.length := hq.counted.trans h.length_pending.symm
    rw [hlength]
    exact ⟨books, .count, h⟩

/-- Books can be kept of a whole run. The queue stays orderly from event to event, and so its books
always agree with it. -/
theorem Matches.run {events : List (Event α)} (h : books.Matches q) (hq : q.Orderly mark)
    (hrun : Run q events q') : ∃ books', Keeps books events books' ∧ books'.Matches q' := by
  induction hrun generalizing books mark with
  | stop => exact ⟨books, .stop, h⟩
  | step hperforms _ ih =>
    obtain ⟨books₁, henters, hbooks₁⟩ := h.performs hq hperforms
    obtain ⟨books', hkeeps, hbooks'⟩ := ih hbooks₁ (hperforms.orderly hq)
    exact ⟨books', .step henters hkeeps, hbooks'⟩

/-! ## What the books tell of a run -/

section Told

variable {places : List Nat} {tasks returned dropped : List (Task α)}

/-- Accepting a task changes none of the places before it. -/
theorem Lists.of_accepted {t : Task α} (h : books.Lists places tasks)
    (haccepted : books'.accepted = books.accepted ++ [t]) : books'.Lists places tasks := by
  have hsame : ∀ place ∈ places, books'.accepted[place]? = books.accepted[place]? := by
    intro place hplace
    have hmem : books.accepted[place]? ∈ tasks.map some := h ▸ List.mem_map_of_mem hplace
    obtain ⟨u, -, hu⟩ := List.mem_map.mp hmem
    obtain ⟨hlt, -⟩ := List.getElem?_eq_some_iff.mp hu.symm
    rw [haccepted, List.getElem?_append_left hlt]
  exact (List.map_congr_left hsame).trans h

/-- Places that are listed one after the other. -/
theorem Lists.append {more : List Nat} {others : List (Task α)} (h : books.Lists places tasks)
    (h' : books.Lists more others) : books.Lists (places ++ more) (tasks ++ others) := by
  rw [Lists, List.map_append, List.map_append, h, h']

/-- An event adds the places of the tasks that it gives out or drops, and no other. -/
theorem Enters.lists {e : Event α} (h : Enters books e books')
    (hreturned : books.Lists books.returned returned)
    (hdropped : books.Lists books.dropped dropped) :
    books'.Lists books'.returned (returned ++ e.returned) ∧
      books'.Lists books'.dropped (dropped ++ e.dropped) := by
  cases h with
  | accepted =>
    simp only [Event.returned, Event.dropped, List.append_nil]
    exact ⟨hreturned.of_accepted rfl, hdropped.of_accepted rfl⟩
  | returned hnext =>
    simp only [Event.returned, Event.dropped, List.append_nil]
    exact ⟨hreturned.append (congrArg (fun t => [t]) hnext.accepted), hdropped⟩
  | cleared hlists =>
    simp only [Event.returned, Event.dropped, List.append_nil]
    exact ⟨hreturned, hdropped.append hlists⟩
  | turnedAway | exit | idle | close | count =>
    simp only [Event.returned, Event.dropped, List.append_nil]
    exact ⟨hreturned, hdropped⟩

/-- The books tell which tasks a run gave out and which it dropped. -/
theorem Keeps.lists {events : List (Event α)} (h : Keeps books events books')
    (hreturned : books.Lists books.returned returned)
    (hdropped : books.Lists books.dropped dropped) :
    books'.Lists books'.returned (returned ++ events.flatMap Event.returned) ∧
      books'.Lists books'.dropped (dropped ++ events.flatMap Event.dropped) := by
  induction h generalizing returned dropped with
  | stop => simpa using And.intro hreturned hdropped
  | step henters _ ih =>
    obtain ⟨hreturned', hdropped'⟩ := henters.lists hreturned hdropped
    rw [List.flatMap_cons, List.flatMap_cons, ← List.append_assoc, ← List.append_assoc]
    exact ih hreturned' hdropped'

/-- If nothing is pending, the tasks that were given out and those that were dropped are those that
were accepted. -/
theorem Balanced.perm_accepted (h : books.Balanced) (hpending : books.pending = [])
    (hreturned : books.Lists books.returned returned)
    (hdropped : books.Lists books.dropped dropped) : (returned ++ dropped).Perm books.accepted := by
  have hplaces : (books.returned ++ books.dropped).Perm (List.range books.accepted.length) := by
    rwa [Balanced, hpending, List.nil_append] at h
  have htold := hplaces.map (books.accepted[·]?)
  have hall : (List.range books.accepted.length).map (books.accepted[·]?) =
      books.accepted.map some := by
    refine List.ext_getElem (by simp) fun place _ hplace => ?_
    rw [List.length_map] at hplace
    simp [List.getElem?_eq_getElem hplace]
  rw [hreturned.append hdropped, hall] at htold
  have hsome := htold.filterMap id
  rwa [List.filterMap_map, List.filterMap_map, Function.id_comp, List.filterMap_some,
    List.filterMap_some] at hsome

end Told

/-- Books can be kept of everything that is done to a new queue. -/
theorem exists_matches {name : String} {config : QueueConfig} {events : List (Event α)}
    (h : Run { name, config } events q) :
    ∃ books : Ledger α, Keeps {} events books ∧ books.Matches q ∧
      q.depth = books.pending.length := by
  have hnew : ({ name, config } : TaskQueue α).Orderly none := orderly_new name config
  obtain ⟨books, hkeeps, hbooks⟩ := (matches_new name config).run hnew h
  exact ⟨books, hkeeps, hbooks, (h.orderly hnew).counted.trans hbooks.length_pending.symm⟩

end Ledger

/-! ## The queue as a whole -/

/-- A queue is a stable priority queue with a bound. Books can be kept of everything that is done to
it: what is taken is always the most urgent pending task that was accepted first, and each accepted
task is pending, returned or dropped, once. The queue holds the pending tasks, counts them and no
mark, and never holds more than it may. A task that it does not accept leaves it as it was; one is
accepted as long as the queue was not closed and there is room, and none is once it was closed. -/
theorem Run.stable_bounded_order {name : String} {config : QueueConfig} {events : List (Event α)}
    (h : Run { name, config } events q) :
    ∃ books : Ledger α, Ledger.Keeps {} events books ∧ books.Balanced ∧
      books.Lists books.pending q.tasks ∧ q.depth = books.pending.length ∧
      (config.maxDepth ≠ 0 → books.pending.length ≤ config.maxDepth.toNat) ∧
      (∀ t policy, (q.offer t policy).1 ≠ .accepted → (q.offer t policy).2 = q) ∧
      (∀ t policy, (q.offer t policy).1 = .accepted ↔ (∀ mode, .close mode true ∉ events) ∧
        (config.maxDepth = 0 ∨ books.pending.length < config.maxDepth.toNat)) ∧
      ∀ before mode after, events = before ++ .close mode true :: after →
        ∀ t offer, .push t offer ∈ after → offer = .refused (.threadStopped name) := by
  obtain ⟨books, hkeeps, hbooks, hcounted⟩ := Ledger.exists_matches h
  obtain ⟨-, hconfig, haccepting⟩ := h.frame
  have hzero : q.maxDepth = 0 ↔ config.maxDepth = 0 := by
    rw [maxDepth, hconfig, ← UInt64.toNat_inj]
    rfl
  have hmax : q.maxDepth = config.maxDepth.toNat := congrArg (·.maxDepth.toNat) hconfig
  refine ⟨books, hkeeps, hbooks.balanced, hbooks.lists, hcounted, ?_, fun _ _ => offer_eq_self,
    ?_, ?_⟩
  · intro hbounded
    have hdepth := h.depth_le (.inr (Nat.zero_le _))
    rw [hcounted, hzero, hmax] at hdepth
    exact hdepth.resolve_left hbounded
  · intro t policy
    have hopen : q.accepting = true ↔ ∀ mode, .close mode true ∉ events := by
      rw [haccepting, Bool.true_and, Bool.not_eq_true', List.any_eq_false]
      constructor
      · intro hnone mode hmem
        exact hnone _ hmem rfl
      · intro hnone e he hcloses
        cases e with
        | close mode done => exact hnone mode (hcloses ▸ he)
        | _ => cases hcloses
    rw [offer_eq_accepted_iff, hopen, hasRoom_iff, hcounted, hzero, hmax]
  · intro before mode after hevents t offer hmem
    obtain ⟨q₁, hafter, -, hclosed, hname⟩ := (hevents ▸ h).after_close
    exact hname ▸ (hafter.refused hclosed).1 t offer hmem

/-- There is room for two tasks, and a third one is refused, however urgent it is. Of two equally
urgent tasks the older one comes first; the mark comes behind both. -/
theorem Run.stable_bounded_order_of_full_queue :
    let config : QueueConfig := { maxDepth := 2 }
    let events : List (Event Nat) :=
      [.push ⟨.high, 1⟩ .accepted, .push ⟨.high, 2⟩ .accepted,
        .push ⟨.critical, 3⟩ (.refused (.queueFull "door" 2)), .close .drain true,
        .pop (.task ⟨.high, 1⟩), .pop (.task ⟨.high, 2⟩), .pop .exit]
    ∃ q, Run { name := "door", config } events q ∧
      ∃ books : Ledger Nat, Ledger.Keeps {} events books ∧ books.Balanced ∧ q.depth = 0 ∧
        books.pending = [] := by
  intro config events
  let door (entries : List (Entry Nat)) (depth nextTicket : Nat) (accepting : Bool) :
      TaskQueue Nat := { name := "door", config, entries, nextTicket, depth, accepting }
  let one : Entry Nat := ⟨3, 0, some ⟨.high, 1⟩⟩
  let two : Entry Nat := ⟨3, 1, some ⟨.high, 2⟩⟩
  let mark : Entry Nat := ⟨0, 2, none⟩
  have hone : (door [] 0 0 true).Performs (.push ⟨.high, 1⟩ .accepted) (door [one] 1 1 true) :=
    .push _ .block
  have htwo : (door [one] 1 1 true).Performs (.push ⟨.high, 2⟩ .accepted)
      (door [one, two] 2 2 true) := .push _ .block
  have hfull : (door [one, two] 2 2 true).Performs
      (.push ⟨.critical, 3⟩ (.refused (.queueFull "door" 2))) (door [one, two] 2 2 true) :=
    .push _ .fail
  have hclose : (door [one, two] 2 2 true).Performs (.close .drain true)
      (door [one, two, mark] 2 3 false) := .close .drain
  have hfirst : (door [one, two, mark] 2 3 false).Performs (.pop (.task ⟨.high, 1⟩))
      (door [two, mark] 1 3 false) := .pop
  have hsecond : (door [two, mark] 1 3 false).Performs (.pop (.task ⟨.high, 2⟩))
      (door [mark] 0 3 false) := .pop
  have hexit : (door [mark] 0 3 false).Performs (.pop .exit) (door [] 0 3 false) := .pop
  have hrun : Run { name := "door", config } events (door [] 0 3 false) :=
    .step hone <| .step htwo <| .step hfull <| .step hclose <| .step hfirst <| .step hsecond <|
      .step hexit .stop
  obtain ⟨books, hkeeps, hbalanced, -, hdepth, -⟩ := hrun.stable_bounded_order
  exact ⟨_, hrun, books, hkeeps, hbalanced, rfl, List.eq_nil_of_length_eq_zero hdepth.symm⟩

end Courier.TaskQueue
