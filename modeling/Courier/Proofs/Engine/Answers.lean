import Courier.Proofs.Delivery.Failures
import Courier.Proofs.Engine.Waiting

/-!
# What callers that wait are answered

The slot of a call that waits holds the last outcome that was published under its number since the
slot was made, and there is a slot for no other number. From this it follows what each call is
answered, that an outcome of a frame for which nobody waits wakes nobody, and that no caller sleeps
on whose outcome has come.
-/

namespace Courier

namespace Hall

variable {σ ρ : Type}

/-! ## What has happened under a number -/

/-- The outcome that is published under a number. -/
def Event.outcome? (seq : UInt16) : Event → Option Outcome
  | .told status _ => if status.seq = seq then some status.outcome else none
  | _ => none

/-- The outcomes that were published under a number, in order. -/
def outcomes (seq : UInt16) (events : List Event) : List Outcome :=
  events.filterMap (·.outcome? seq)

/-- Whether a number is drawn for a call that waits, if it is drawn. -/
def Event.draw? (seq : UInt16) : Event → Option Bool
  | .drawn seq' waits => if seq' = seq then some waits else none
  | _ => none

/-- For whom a number was drawn, in order. -/
def draws (seq : UInt16) (events : List Event) : List Bool := events.filterMap (·.draw? seq)

/-- The outcomes that were published, in order. -/
def published (events : List Event) : List DeliveryStatus :=
  events.filterMap fun
    | .told status _ => some status
    | _ => none

/-- Whether the wait under a number begins or ends. -/
def Event.turns (seq : UInt16) : Event → Bool
  | .registered _ seq' => seq' = seq
  | .returned _ seq' _ => seq' = seq
  | _ => false

/-- A call has its slot and was not answered yet; `since` is what has happened from then on. -/
def Waits (events : List Event) (id seq : UInt16) (since : List Event) : Prop :=
  ∃ before, events = before ++ .registered id seq :: since ∧ ∀ n ∈ since, n.turns seq = false

/-- What a call is answered, by what has happened since it had its slot: if its payload was sent,
the last outcome of its number, or that there was none; and otherwise why it was not sent. -/
inductive Answered (id seq : UInt16) (limit : Nat) (since : List Event) :
    Except NetworkError UInt16 → Prop
  | acknowledged : .dispatched seq (.ok ()) ∈ since →
      (outcomes seq since).getLast? = some .success → Answered id seq limit since (.ok seq)
  | undelivered {attempts : Nat} : .dispatched seq (.ok ()) ∈ since →
      (outcomes seq since).getLast? = some .timeout →
      Answered id seq limit since (.error (.delivery id seq attempts))
  | expired : .dispatched seq (.ok ()) ∈ since → outcomes seq since = [] →
      Answered id seq limit since (.error (.timeout s!"send_and_wait to endpoint {id}" limit))
  | unsent {error : NetworkError} : .dispatched seq (.error error) ∈ since →
      error.kind ≠ .delivery → Answered id seq limit since (.error error)

/-- What an event has to do with the events before it: an outcome is found to have a slot if
somebody waits under its number, and not if the number was drawn last for somebody who does not
wait; an answer is due to a call that waits. -/
def Justified (limit : Nat) (before : List Event) : Event → Prop
  | .told status found => (found = true ↔ ∃ id since, Waits before id status.seq since) ∧
      ((draws status.seq before).getLast? = some false → found = false)
  | .returned id seq result =>
    ∃ since, Waits before id seq since ∧ Answered id seq limit since result
  | _ => True

/-- Every event of a run has to do with the events before it. -/
def Throughout (P : List Event → Event → Prop) (events : List Event) : Prop :=
  ∀ before n after, events = before ++ n :: after → P before n

variable {c : Carrier σ} {start : Engine σ ρ} {events since : List Event} {h h' : Hall σ ρ}
  {n : Event} {id seq : UInt16} {P : List Event → Event → Prop}

/-- Of no events there is nothing to say. -/
theorem Throughout.nil : Throughout P [] := by
  intro before n after heq
  simp at heq

/-- What holds of all events before and of a new one holds of all. -/
theorem Throughout.concat (h : Throughout P events) (hn : P events n) :
    Throughout P (events ++ [n]) := by
  intro before m after heq
  rcases List.eq_nil_or_concat after with rfl | ⟨after, last, rfl⟩
  · obtain ⟨rfl, hm⟩ := List.append_inj' heq rfl
    rwa [← (List.cons.inj hm).1]
  · rw [List.concat_eq_append, ← List.cons_append, ← List.append_assoc] at heq
    exact h before m after (List.append_inj' heq rfl).1

/-- A new event adds its outcome, if it has one, to those of a number. -/
theorem outcomes_concat : outcomes seq (events ++ [n]) =
    outcomes seq events ++ (n.outcome? seq).toList := by
  cases hn : n.outcome? seq <;> simp [outcomes, hn]

/-- A new event adds its draw, if it is one, to those of a number. -/
theorem draws_concat : draws seq (events ++ [n]) = draws seq events ++ (n.draw? seq).toList := by
  cases hn : n.draw? seq <;> simp [draws, hn]

/-- An event without an outcome for a number leaves the outcomes under it as they are. -/
theorem outcomes_concat_of_none (hn : n.outcome? seq = none) :
    outcomes seq (events ++ [n]) = outcomes seq events := by
  rw [outcomes_concat, hn, Option.toList_none, List.append_nil]

/-- An event that draws another number, or none, leaves the draws of a number as they are. -/
theorem draws_concat_of_none (hn : n.draw? seq = none) :
    draws seq (events ++ [n]) = draws seq events := by
  rw [draws_concat, hn, Option.toList_none, List.append_nil]

/-- Who has just made a slot waits, and nothing has happened since. -/
theorem Waits.registered : Waits (events ++ [.registered id seq]) id seq [] :=
  ⟨events, rfl, by simp⟩

/-- A call goes on waiting unless its slot is made anew or its caller returns. -/
theorem Waits.concat (h : Waits events id seq since) (hn : n.turns seq = false) :
    Waits (events ++ [n]) id seq (since ++ [n]) := by
  obtain ⟨before, rfl, hsince⟩ := h
  refine ⟨before, by simp, ?_⟩
  intro m hm
  rcases List.mem_append.mp hm with hm | hm
  · exact hsince m hm
  · rwa [List.mem_singleton.mp hm]

/-- Who waits has its slot since just now, or waited before. -/
theorem Waits.of_concat (h : Waits (events ++ [n]) id seq since) :
    n = .registered id seq ∨ n.turns seq = false ∧ ∃ earlier, Waits events id seq earlier := by
  obtain ⟨before, heq, hsince⟩ := h
  rcases List.eq_nil_or_concat since with rfl | ⟨earlier, last, rfl⟩
  · exact .inl (List.cons.inj (List.append_inj' heq rfl).2).1
  · rw [List.concat_eq_append] at heq hsince
    rw [← List.cons_append, ← List.append_assoc] at heq
    obtain ⟨rfl, hlast⟩ := List.append_inj' heq rfl
    obtain rfl := (List.cons.inj hlast).1
    refine .inr ⟨hsince n (by simp), earlier, before, rfl, ?_⟩
    intro m hm
    exact hsince m (List.mem_append_left _ hm)

/-- After the slot of a call that waits no other slot is made under its number. -/
theorem eq_of_append_registered {id' : UInt16} {between since' : List Event}
    (hsince : ∀ n ∈ since, n.turns seq = false)
    (heq : .registered id seq :: since = between ++ .registered id' seq :: since') :
    id = id' ∧ since = since' := by
  cases between with
  | nil =>
    obtain ⟨hfirst, hsame⟩ := List.cons.inj heq
    cases hfirst
    exact ⟨rfl, hsame⟩
  | cons m between =>
    obtain ⟨-, rfl⟩ := List.cons.inj heq
    have hturns : (Event.registered id' seq).turns seq = true := decide_eq_true rfl
    rw [hsince _ (by simp)] at hturns
    cases hturns

/-- At most one call waits under a number. -/
theorem Waits.unique {id' : UInt16} {since' : List Event} (h : Waits events id seq since)
    (h' : Waits events id' seq since') : id = id' ∧ since = since' := by
  obtain ⟨before, rfl, hsince⟩ := h
  obtain ⟨before', heq, hsince'⟩ := h'
  rcases List.append_eq_append_iff.mp heq with ⟨between, -, hrest⟩ | ⟨between, -, hrest⟩
  · exact eq_of_append_registered hsince hrest
  · obtain ⟨rfl, rfl⟩ := eq_of_append_registered hsince' hrest
    exact ⟨rfl, rfl⟩

/-! ## The slots -/

/-- What is known of a call that has its slot, given what has happened since. -/
def Stage.Fits (seq : UInt16) (since : List Event) : Stage → Prop
  | .numbered => False
  | .registered => True
  | .unsent error => .dispatched seq (.error error) ∈ since ∧ error.kind ≠ .delivery
  | .looking | .asleep | .late => .dispatched seq (.ok ()) ∈ since

/-- What goes by a number: nobody, a call without a slot, or a call that waits, whose slot holds
the last outcome that was published since it was made. -/
inductive Stands (events : List Event) (seq : UInt16) :
    Option Call → Option (Option Outcome) → Prop
  | nobody : (∀ id since, ¬ Waits events id seq since) → Stands events seq none none
  | numbered {id : UInt16} {payload : Bytes} : (∀ id since, ¬ Waits events id seq since) →
      Stands events seq (some ⟨id, payload, .numbered⟩) none
  | waiting {id : UInt16} {payload : Bytes} {stage : Stage} {since : List Event} :
      Waits events id seq since → stage.Fits seq since →
      Stands events seq (some ⟨id, payload, stage⟩) (some (outcomes seq since).getLast?)

variable {call : Option Call} {slot : Option (Option Outcome)} {payload : Bytes}
  {stage stage' : Stage} {w : Waiters} {status : DeliveryStatus}

/-- How far a caller has come does not become wrong when something else happens. -/
theorem Stage.Fits.concat (hfits : stage.Fits seq since) (n : Event) :
    stage.Fits seq (since ++ [n]) := by
  cases stage with
  | numbered => exact hfits
  | registered => trivial
  | unsent error => exact ⟨List.mem_append_left _ hfits.1, hfits.2⟩
  | looking => exact List.mem_append_left _ hfits
  | asleep => exact List.mem_append_left _ hfits
  | late => exact List.mem_append_left _ hfits

/-- Where nobody waits, nobody does until a slot is made. -/
theorem not_waits_concat (hnone : ∀ id since, ¬ Waits events id seq since)
    (hn : ∀ id, n ≠ .registered id seq) (id : UInt16) (since : List Event) :
    ¬ Waits (events ++ [n]) id seq since := by
  intro hwaits
  rcases hwaits.of_concat with hmade | ⟨-, earlier, hbefore⟩
  · exact hn id hmade
  · exact hnone id earlier hbefore

/-- Once a call is answered nobody waits under its number. -/
theorem not_waits_concat_returned {result : Except NetworkError UInt16} (id' : UInt16)
    (since : List Event) : ¬ Waits (events ++ [.returned id seq result]) id' seq since := by
  intro hwaits
  rcases hwaits.of_concat with hmade | ⟨hturns, -⟩
  · cases hmade
  · have hends : (Event.returned id seq result).turns seq = true := decide_eq_true rfl
    rw [hturns] at hends
    cases hends

/-- While a call waits, no slot is made under its number. -/
theorem ne_registered_of_turns (hn : n.turns seq = false) (id : UInt16) :
    n ≠ .registered id seq := by
  rintro rfl
  have hturns : (Event.registered id seq).turns seq = true := decide_eq_true rfl
  rw [hn] at hturns
  cases hturns

/-- What neither begins nor ends a wait under a number nor tells an outcome of it changes
nothing there. -/
theorem Stands.concat (h : Stands events seq call slot) (hn : n.turns seq = false)
    (htold : n.outcome? seq = none) : Stands (events ++ [n]) seq call slot := by
  have hmade := ne_registered_of_turns hn
  cases h with
  | nobody hnone => exact .nobody (not_waits_concat hnone hmade)
  | numbered hnone => exact .numbered (not_waits_concat hnone hmade)
  | @waiting id payload stage since hwaits hfits =>
    rw [← outcomes_concat_of_none htold]
    exact .waiting (hwaits.concat hn) (hfits.concat n)

/-- An outcome takes the place of an earlier one in the slot of its number. -/
theorem Stands.told (h : Stands events seq call slot) (status : DeliveryStatus) (found : Bool) :
    Stands (events ++ [.told status found]) seq call
      (if status.seq = seq then slot.map fun _ => some status.outcome else slot) := by
  have hn : (Event.told status found).turns seq = false := rfl
  have hmade := ne_registered_of_turns hn
  by_cases hs : status.seq = seq
  · rw [if_pos hs]
    cases h with
    | nobody hnone => exact .nobody (not_waits_concat hnone hmade)
    | numbered hnone => exact .numbered (not_waits_concat hnone hmade)
    | @waiting id payload stage since hwaits hfits =>
      have hlast : (outcomes seq (since ++ [.told status found])).getLast? =
          some status.outcome := by
        rw [outcomes_concat, Event.outcome?, if_pos hs, Option.toList_some,
          List.getLast?_concat]
      rw [Option.map_some, ← hlast]
      exact .waiting (hwaits.concat hn) (hfits.concat _)
  · rw [if_neg hs]
    exact h.concat hn (if_neg hs)

/-- A slot that is made is empty, and no other slot is touched. -/
theorem getElem?_register (s seq : UInt16) :
    (w.register s).slots[seq]? = if s = seq then some none else w.slots[seq]? := by
  simp [Waiters.register, Std.ExtTreeMap.getElem?_insert, Std.LawfulEqCmp.compare_eq_iff_eq]

/-- A slot that is given up is gone, and no other slot is touched. -/
theorem getElem?_cancel (s seq : UInt16) :
    (w.cancel s).slots[seq]? = if s = seq then none else w.slots[seq]? := by
  simp [Waiters.cancel, Std.ExtTreeMap.getElem?_erase, Std.LawfulEqCmp.compare_eq_iff_eq]

/-- An outcome goes into the slot of its frame, if there is one, and into no other. -/
theorem getElem?_complete (status : DeliveryStatus) (seq : UInt16) :
    (w.complete status).slots[seq]? =
      if status.seq = seq then w.slots[seq]?.map fun _ => some status.outcome
      else w.slots[seq]? := by
  unfold Waiters.complete
  by_cases hs : status.seq = seq
  · subst hs
    rw [if_pos rfl]
    split
    · next hfound =>
      obtain ⟨outcome, hslot⟩ := Option.isSome_iff_exists.mp
        (Std.ExtTreeMap.isSome_getElem?_eq_contains.trans hfound)
      rw [hslot]
      simp
    · next hfound =>
      have hnone : w.slots[status.seq]? = none := by
        rw [← Option.not_isSome_iff_eq_none, Std.ExtTreeMap.isSome_getElem?_eq_contains]
        exact hfound
      rw [hnone]
      rfl
  · rw [if_neg hs]
    split
    · simp [Std.ExtTreeMap.getElem?_insert, Std.LawfulEqCmp.compare_eq_iff_eq, hs]
    · rfl

/-- There is a slot under a number exactly if a call waits under it. -/
theorem Stands.isSome_iff (h : Stands events seq call slot) :
    slot.isSome = true ↔ ∃ id since, Waits events id seq since := by
  cases h with
  | nobody hnone => simpa using hnone
  | numbered hnone => simpa using hnone
  | waiting hwaits => exact ⟨fun _ => ⟨_, _, hwaits⟩, fun _ => rfl⟩

/-- What a caller finds in its slot. -/
theorem outcome?_eq (h : Stands events seq (some ⟨id, payload, stage⟩) w.slots[seq]?)
    (hslot : stage ≠ .numbered) : ∃ since, Waits events id seq since ∧ stage.Fits seq since ∧
      w.outcome? seq = (outcomes seq since).getLast? := by
  generalize hw : w.slots[seq]? = slot at h
  cases h with
  | numbered => exact absurd rfl hslot
  | waiting hwaits hfits =>
    refine ⟨_, hwaits, hfits, ?_⟩
    rw [Waiters.outcome?, hw]
    rfl

/-- A caller that looks takes its slot away if there is an outcome. -/
theorem poll_cases (e : Engine σ ρ) (id seq : UInt16) :
    (e.waiters.outcome? seq = none ∧ e.poll id seq = (none, e)) ∨
      ∃ outcome, e.waiters.outcome? seq = some outcome ∧
        e.poll id seq = (some (e.waitAnswer id seq (some outcome)),
          { e with waiters := e.waiters.cancel seq }) := by
  unfold Engine.poll Waiters.poll
  cases hout : e.waiters.outcome? seq with
  | none => exact .inl ⟨rfl, rfl⟩
  | some outcome => exact .inr ⟨outcome, rfl, rfl⟩

/-! ## One step -/

/-- What a caller is answered goes by the last outcome of its number. -/
theorem answered_waitAnswer (hsent : .dispatched seq (.ok ()) ∈ since) (e : Engine σ ρ) :
    Answered id seq e.config.waitTimeout.toNat since
      (e.waitAnswer id seq (outcomes seq since).getLast?) := by
  cases hlast : (outcomes seq since).getLast? with
  | none => exact .expired hsent (List.getLast?_eq_none_iff.mp hlast)
  | some outcome =>
    cases outcome with
    | success => exact .acknowledged hsent hlast
    | timeout => exact .undelivered hsent hlast

/-- What is kept up around an engine. -/
structure Kept (start : Engine σ ρ) (events : List Event) (h : Hall σ ρ) : Prop where
  config_eq : h.engine.config = start.config
  stands : ∀ seq, Stands events seq (h.calls seq) h.engine.waiters.slots[seq]?
  /-- Where the number was drawn last for somebody who does not wait, nobody waits. -/
  plain : ∀ seq, (draws seq events).getLast? = some false → h.calls seq = none
  /-- A sleeping caller whose outcome has come will be woken. -/
  woken : ∀ seq call, h.calls seq = some call → call.stage = .asleep →
    h.engine.waiters.outcome? seq ≠ none → 0 < h.alarms
  justified : Throughout (Justified start.config.waitTimeout.toNat) events

/-- At first nobody waits and nothing has happened. -/
theorem Kept.opened (hempty : start.waiters = {}) :
    Kept start [] ({ engine := start } : Hall σ ρ) where
  config_eq := rfl
  stands seq := by
    have hslot : start.waiters.slots[seq]? = none := by
      rw [hempty]
      exact Std.ExtTreeMap.getElem?_empty
    rw [hslot]
    refine .nobody ?_
    rintro id since ⟨before, heq, -⟩
    simp at heq
  plain seq hlast := by cases hlast
  woken seq call hcall := by cases hcall
  justified := .nil

/-- An event that is only about one number, under which a call comes, goes on or goes. -/
theorem Kept.put {e' : Engine σ ρ} (hkept : Kept start events h)
    (hconfig : e'.config = h.engine.config)
    (hslots : ∀ s, s ≠ seq → e'.waiters.slots[s]? = h.engine.waiters.slots[s]?)
    (hothers : ∀ s, s ≠ seq → n.turns s = false ∧ n.outcome? s = none ∧ n.draw? s = none)
    (hstands : Stands (events ++ [n]) seq call e'.waiters.slots[seq]?)
    (hplain : (draws seq (events ++ [n])).getLast? = some false → call = none)
    (hasleep : ∀ own, call = some own → own.stage = .asleep →
      e'.waiters.outcome? seq = none)
    (hjustified : Justified start.config.waitTimeout.toNat events n) :
    Kept start (events ++ [n]) ({ h with engine := e' }.put seq call) where
  config_eq := hconfig.trans hkept.config_eq
  stands s := by
    by_cases hs : s = seq
    · subst hs
      simpa [Hall.put] using hstands
    · obtain ⟨hturns, htold, -⟩ := hothers s hs
      have hsame := (hkept.stands s).concat hturns htold
      rw [← hslots s hs] at hsame
      simpa [Hall.put, hs] using hsame
  plain s hlast := by
    by_cases hs : s = seq
    · subst hs
      simpa [Hall.put] using hplain hlast
    · obtain ⟨-, -, hdraw⟩ := hothers s hs
      rw [draws_concat_of_none hdraw] at hlast
      simpa [Hall.put, hs] using hkept.plain s hlast
  woken s own hown hsleeps hcome := by
    by_cases hs : s = seq
    · subst hs
      have hcall : call = some own := by simpa [Hall.put] using hown
      exact absurd (hasleep own hcall hsleeps) hcome
    · have hcall : h.calls s = some own := by simpa [Hall.put, hs] using hown
      have houtcome : e'.waiters.outcome? s = h.engine.waiters.outcome? s :=
        congrArg Option.join (hslots s hs)
      exact hkept.woken s own hcall hsleeps (houtcome ▸ hcome)
  justified := hkept.justified.concat hjustified

/-- A call that is there goes on or goes. -/
theorem Kept.advance {e' : Engine σ ρ} {own : Call} (hkept : Kept start events h)
    (hown : h.calls seq = some own) (hconfig : e'.config = h.engine.config)
    (hslots : ∀ s, s ≠ seq → e'.waiters.slots[s]? = h.engine.waiters.slots[s]?)
    (hothers : ∀ s, s ≠ seq → n.turns s = false)
    (hkind : ∀ s, n.outcome? s = none ∧ n.draw? s = none)
    (hstands : Stands (events ++ [n]) seq call e'.waiters.slots[seq]?)
    (hasleep : ∀ own, call = some own → own.stage = .asleep →
      e'.waiters.outcome? seq = none)
    (hjustified : Justified start.config.waitTimeout.toNat events n) :
    Kept start (events ++ [n]) ({ h with engine := e' }.put seq call) := by
  refine hkept.put hconfig hslots (fun s hs => ⟨hothers s hs, hkind s⟩) hstands ?_ hasleep
    hjustified
  intro hlast
  rw [draws_concat_of_none (hkind seq).2] at hlast
  rw [hkept.plain seq hlast] at hown
  cases hown

/-- A call that waits goes on to another stage and leaves its slot as it is. -/
theorem Kept.goOn {e' : Engine σ ρ} (hkept : Kept start events h)
    (hcall : h.calls seq = some ⟨id, payload, stage⟩) (hslot : stage ≠ .numbered)
    (hconfig : e'.config = h.engine.config) (hwaiters : e'.waiters = h.engine.waiters)
    (hkind : ∀ s, n.turns s = false ∧ n.outcome? s = none ∧ n.draw? s = none)
    (hfits : ∀ since, stage.Fits seq since → stage'.Fits seq (since ++ [n]))
    (hasleep : stage' = .asleep → h.engine.waiters.outcome? seq = none)
    (hjustified : Justified start.config.waitTimeout.toNat events n) :
    Kept start (events ++ [n])
      ({ h with engine := e' }.put seq (some ⟨id, payload, stage'⟩)) := by
  refine hkept.advance hcall hconfig (fun s _ => by rw [hwaiters]) (fun s _ => (hkind s).1)
    (fun s => (hkind s).2) ?_ ?_ hjustified
  · obtain ⟨hturns, htold, -⟩ := hkind seq
    have hstands := hkept.stands seq
    rw [hcall] at hstands
    rw [hwaiters]
    generalize h.engine.waiters.slots[seq]? = slot at hstands
    cases hstands with
    | numbered => exact absurd rfl hslot
    | @waiting _ _ _ since hwaits hstage =>
      rw [← outcomes_concat_of_none htold]
      exact .waiting (hwaits.concat hturns) (hfits since hstage)
  · rintro own hown hsleeps
    cases hown
    rw [hwaiters]
    exact hasleep hsleeps

/-- A call that waits is answered and leaves no slot behind. -/
theorem Kept.answer {e' : Engine σ ρ} {result : Except NetworkError UInt16}
    (hkept : Kept start events h) (hcall : h.calls seq = some ⟨id, payload, stage⟩)
    (hslot : stage ≠ .numbered) (hconfig : e'.config = h.engine.config)
    (hwaiters : e'.waiters = h.engine.waiters.cancel seq)
    (hanswer : ∀ since, stage.Fits seq since →
      h.engine.waiters.outcome? seq = (outcomes seq since).getLast? →
      Answered id seq start.config.waitTimeout.toNat since result) :
    Kept start (events ++ [.returned id seq result])
      ({ h with engine := e' }.put seq none) := by
  refine hkept.advance hcall hconfig ?_ ?_ (fun s => ⟨rfl, rfl⟩) ?_ nofun ?_
  · intro s hs
    rw [hwaiters, getElem?_cancel, if_neg hs.symm]
  · intro s hs
    exact decide_eq_false hs.symm
  · rw [hwaiters, getElem?_cancel, if_pos rfl]
    exact .nobody not_waits_concat_returned
  · have hstands := hkept.stands seq
    rw [hcall] at hstands
    obtain ⟨since, hwaits, hfits, houtcome⟩ := outcome?_eq hstands hslot
    exact ⟨since, hwaits, hanswer since hfits houtcome⟩

/-- Somebody who sends without waiting draws a number under which nobody waits. -/
theorem Kept.send (hkept : Kept start events h) (hfree : h.calls h.upcoming = none) :
    Kept start (events ++ [.drawn h.upcoming false]) { h with engine := afterDraw h.engine } where
  config_eq := hkept.config_eq
  stands seq := (hkept.stands seq).concat rfl rfl
  plain seq hlast := by
    by_cases hs : h.upcoming = seq
    · rwa [← hs]
    · have hother : (Event.drawn h.upcoming false).draw? seq = none := if_neg hs
      rw [draws_concat_of_none hother] at hlast
      exact hkept.plain seq hlast
  woken := hkept.woken
  justified := hkept.justified.concat trivial

/-- A call begins. -/
theorem Kept.begin (hkept : Kept start events h) (hfree : h.calls h.upcoming = none) :
    Kept start (events ++ [.drawn h.upcoming true])
      ({ h with engine := afterDraw h.engine }.put h.upcoming
        (some ⟨id, payload, .numbered⟩)) := by
  refine hkept.put rfl (fun _ _ => rfl) ?_ ?_ ?_ ?_ trivial
  · intro s hs
    exact ⟨rfl, rfl, if_neg hs.symm⟩
  · have hstands := (hkept.stands h.upcoming).concat (n := .drawn h.upcoming true) rfl rfl
    rw [hfree] at hstands
    change Stands _ _ _ h.engine.waiters.slots[h.upcoming]?
    generalize h.engine.waiters.slots[h.upcoming]? = slot at hstands
    cases hstands with
    | nobody hnone => exact .numbered hnone
  · intro hlast
    rw [draws_concat, Event.draw?, if_pos rfl, Option.toList_some, List.getLast?_concat] at hlast
    cases hlast
  · rintro own ⟨⟩ ⟨⟩

/-- A call makes its slot. -/
theorem Kept.register (hkept : Kept start events h)
    (hcall : h.calls seq = some ⟨id, payload, .numbered⟩) :
    Kept start (events ++ [.registered id seq])
      ({ h with engine := { h.engine with waiters := h.engine.waiters.register seq } }.put seq
        (some ⟨id, payload, .registered⟩)) := by
  refine hkept.advance hcall rfl ?_ ?_ (fun s => ⟨rfl, rfl⟩) ?_ ?_ trivial
  · intro s hs
    rw [getElem?_register, if_neg hs.symm]
  · intro s hs
    exact decide_eq_false hs.symm
  · rw [getElem?_register, if_pos rfl]
    have hstage : Stage.Fits seq [] .registered := trivial
    exact .waiting .registered hstage
  · rintro own ⟨⟩ ⟨⟩

/-- An outcome is published. -/
theorem Kept.tell (hkept : Kept start events h) (status : DeliveryStatus)
    (rest : List (Unit × DeliveryStatus)) :
    Kept start (events ++ [.told status (h.engine.waiters.slots.contains status.seq)])
      { h with
        engine := afterTelling status rest h.engine
        alarms := h.alarms + (h.engine.waiters.slots.contains status.seq).toNat } where
  config_eq := hkept.config_eq
  stands seq := by
    change Stands _ _ _ (h.engine.waiters.complete status).slots[seq]?
    rw [getElem?_complete]
    exact (hkept.stands seq).told status _
  plain seq hlast := by
    rw [draws_concat_of_none rfl] at hlast
    exact hkept.plain seq hlast
  woken seq call hcall hsleeps hcome := by
    dsimp only
    by_cases hs : status.seq = seq
    · have hfound : h.engine.waiters.slots.contains status.seq = true := by
        by_contra hmissing
        refine hcome ?_
        change (h.engine.waiters.complete status).outcome? seq = none
        rw [Waiters.complete, if_neg hmissing, Waiters.outcome?, ← hs,
          Std.ExtTreeMap.getElem?_eq_none hmissing]
        rfl
      rw [hfound]
      exact Nat.succ_pos _
    · have hsame : (h.engine.waiters.complete status).outcome? seq =
          h.engine.waiters.outcome? seq := by
        rw [Waiters.outcome?, getElem?_complete, if_neg hs]
        rfl
      have hdue := hkept.woken seq call hcall hsleeps (hsame ▸ hcome)
      omega
  justified := by
    have hstands := hkept.stands status.seq
    refine hkept.justified.concat ⟨?_, ?_⟩
    · rw [← Std.ExtTreeMap.isSome_getElem?_eq_contains]
      exact hstands.isSome_iff
    · intro hlast
      rw [hkept.plain status.seq hlast] at hstands
      rw [← Std.ExtTreeMap.isSome_getElem?_eq_contains]
      generalize h.engine.waiters.slots[status.seq]? = slot at hstands
      cases hstands with
      | nobody => rfl

/-- The sleeping callers are woken. -/
theorem Kept.ring (hkept : Kept start events h) :
    Kept start (events ++ [.rang])
      { h with calls := fun seq => (h.calls seq).map (·.wake), alarms := h.alarms - 1 } where
  config_eq := hkept.config_eq
  stands seq := by
    have hstands := (hkept.stands seq).concat (n := .rang) rfl rfl
    change Stands _ _ ((h.calls seq).map (·.wake)) h.engine.waiters.slots[seq]?
    generalize h.calls seq = call, h.engine.waiters.slots[seq]? = slot at hstands
    cases hstands with
    | nobody hnone => exact .nobody hnone
    | numbered hnone => exact .numbered hnone
    | @waiting id payload stage since hwaits hfits =>
      have hwoken : ∃ stage', Call.wake ⟨id, payload, stage⟩ = ⟨id, payload, stage'⟩ ∧
          stage'.Fits seq since := by
        unfold Call.wake
        split
        · next hasleep =>
          cases hasleep
          exact ⟨.looking, rfl, hfits⟩
        · exact ⟨stage, rfl, hfits⟩
      obtain ⟨stage', hwake, hfits'⟩ := hwoken
      rw [Option.map_some, hwake]
      exact .waiting hwaits hfits'
  plain seq hlast := by
    rw [draws_concat_of_none rfl] at hlast
    exact Option.map_eq_none_iff.mpr (hkept.plain seq hlast)
  woken seq call hcall hsleeps := by
    obtain ⟨earlier, -, rfl⟩ := Option.map_eq_some_iff.mp hcall
    unfold Call.wake at hsleeps
    split at hsleeps
    · cases hsleeps
    · contradiction
  justified := hkept.justified.concat trivial

/-- Whatever happens, all this is kept up. -/
theorem Step.kept (hc : c.Candid)
    (hkept : Kept start events h) (hstep : Step c h n h') : Kept start (events ++ [n]) h' := by
  have hlimit : start.config.waitTimeout = h.engine.config.waitTimeout := by
    rw [hkept.config_eq]
  cases hstep with
  | send hfree => exact hkept.send hfree
  | begin hfree => exact hkept.begin hfree
  | register hcall => exact hkept.register hcall
  | @dispatch clock id seq payload sent hcall hsent =>
    have hcandid := h.engine.dispatcher.candid_dispatchWith hc clock id seq payload
      h.engine.outbound
    rw [hsent] at hcandid
    refine hkept.goOn hcall nofun rfl rfl (fun s => ⟨rfl, rfl, rfl⟩) ?_ ?_ trivial
    · intro since _
      cases hresult : sent.1 with
      | ok a => exact List.mem_append_right _ (List.mem_singleton_self _)
      | error error =>
        exact ⟨List.mem_append_right _ (List.mem_singleton_self _), hcandid error hresult⟩
    · cases sent.1 <;> exact nofun
  | @refuse id seq payload error hcall =>
    refine hkept.answer hcall nofun rfl rfl ?_
    intro since hfits _
    exact .unsent hfits.1 hfits.2
  | @tell status rest _ => exact hkept.tell status rest
  | ring => exact hkept.ring
  | stir hcall =>
    exact hkept.goOn hcall nofun rfl rfl (fun s => ⟨rfl, rfl, rfl⟩)
      (fun since hfits => List.mem_append_left _ hfits) nofun trivial
  | @take id seq payload result hcall hresult =>
    rcases poll_cases h.engine id seq with ⟨-, hpoll⟩ | ⟨outcome, houtcome, hpoll⟩
    · rw [hpoll] at hresult
      cases hresult
    · rw [hpoll] at hresult ⊢
      obtain rfl := Option.some.inj hresult
      refine hkept.answer hcall nofun rfl rfl ?_
      intro since hsent hlast
      rw [hlimit, ← houtcome, hlast]
      exact answered_waitAnswer hsent h.engine
  | @sleep id seq payload hcall hresult =>
    rcases poll_cases h.engine id seq with ⟨houtcome, hpoll⟩ | ⟨outcome, -, hpoll⟩
    · rw [hpoll]
      exact hkept.goOn hcall nofun rfl rfl (fun s => ⟨rfl, rfl, rfl⟩)
        (fun since hfits => List.mem_append_left _ hfits) (fun _ => houtcome) trivial
    · rw [hpoll] at hresult
      cases hresult
  | expire hcall =>
    exact hkept.goOn hcall nofun rfl rfl (fun s => ⟨rfl, rfl, rfl⟩)
      (fun since hfits => List.mem_append_left _ hfits) nofun trivial
  | @giveUp id seq payload hcall =>
    refine hkept.answer hcall nofun rfl rfl ?_
    intro since hsent hlast
    change Answered id seq _ since (h.engine.waitAnswer id seq (h.engine.waiters.outcome? seq))
    rw [hlimit, hlast]
    exact answered_waitAnswer hsent h.engine
  | aside hbeside => exact {
      config_eq := hbeside.config_eq.trans hkept.config_eq
      stands := by
        intro seq
        rw [hbeside.waiters_eq]
        exact (hkept.stands seq).concat rfl rfl
      plain := by
        intro seq hlast
        rw [draws_concat_of_none rfl] at hlast
        exact hkept.plain seq hlast
      woken := by
        intro seq call hcall hsleeps hcome
        rw [hbeside.waiters_eq] at hcome
        exact hkept.woken seq call hcall hsleeps hcome
      justified := hkept.justified.concat trivial }

/-- Throughout a run, what was noticed and where everybody stands belong together. -/
theorem Run.kept (hc : c.Candid)
    (hempty : start.waiters = {}) (hrun : Run c start events h) : Kept start events h := by
  induction hrun with
  | opened => exact .opened hempty
  | step _ hstep ih => exact hstep.kept hc ih

/-! ## Whole runs -/

/-- Whether the sleeping callers are woken. -/
def Event.rings : Event → Bool
  | .rang => true
  | _ => false

/-- Whether an outcome is found to have a slot. -/
def Event.finds : Event → Bool
  | .told _ found => found
  | _ => false

/-- Nobody is woken but for an outcome that was found to have a slot. -/
theorem Run.alarms_eq (hrun : Run c start events h) :
    h.alarms + events.countP Event.rings = events.countP Event.finds := by
  induction hrun with
  | opened => rfl
  | @step events n h h' _ hstep ih =>
    rw [List.countP_append, List.countP_append]
    cases hstep with
    | @tell status =>
      generalize h.engine.waiters.slots.contains status.seq = found
      cases found with
      | true =>
        have hone : [Event.told status true].countP Event.finds = 1 := rfl
        have hnone : [Event.told status true].countP Event.rings = 0 := rfl
        rw [hone, hnone, Bool.toNat_true]
        dsimp only
        omega
      | false => exact ih
    | ring hdue =>
      have hone : [Event.rang].countP Event.rings = 1 := rfl
      have hnone : [Event.rang].countP Event.finds = 0 := rfl
      rw [hone, hnone]
      dsimp only
      omega
    | _ => exact ih

/-- A caller that looks into its slot publishes nothing. -/
theorem poll_delivered (e : Engine σ ρ) (id seq : UInt16) :
    (e.poll id seq).2.delivered = e.delivered := by
  rcases poll_cases e id seq with ⟨-, hpoll⟩ | ⟨outcome, -, hpoll⟩ <;> rw [hpoll]

/-- What the events tell was published by the engine. -/
theorem Run.delivered_eq (hrun : Run c start events h) :
    h.engine.delivered = start.delivered ++ published events := by
  induction hrun with
  | opened => exact (List.append_nil _).symm
  | @step events n h h' _ hstep ih =>
    have hpublished : published (events ++ [n]) = published events ++ published [n] :=
      List.filterMap_append
    rw [hpublished, ← List.append_assoc, ← ih]
    cases hstep with
    | tell => rfl
    | aside hbeside => exact hbeside.delivered_eq.trans (List.append_nil _).symm
    | @take id seq => exact (poll_delivered _ id seq).trans (List.append_nil _).symm
    | @sleep id seq => exact (poll_delivered _ id seq).trans (List.append_nil _).symm
    | _ => exact (List.append_nil _).symm

/-- However callers that wait, callers that do not, outcomes, deadlines and wake-ups follow each
other: as long as no number is drawn under which a call still waits, there are slots for the calls
that wait and for no others, and each holds the last outcome of its number since it was made. Every
call is answered by this outcome, or by a timeout if there was none, or by the failure to send it.
An outcome is found to have a slot exactly if a call waits under its number, which is not so if it
was drawn for somebody who does not wait; nobody is woken for another outcome, and no caller sleeps
on whose outcome has come. -/
theorem Run.answered_by_own_outcome
    (hc : c.Candid) (hempty : start.waiters = {})
    (hrun : Run c start events h) :
    (∀ seq outcome, h.engine.waiters.slots[seq]? = some outcome ↔
      ∃ id since, Waits events id seq since ∧ (outcomes seq since).getLast? = outcome) ∧
    (∀ seq, h.calls seq = none → h.engine.waiters.slots[seq]? = none) ∧
    (∀ before id seq result after, events = before ++ .returned id seq result :: after →
      ∃ since, Waits before id seq since ∧
        Answered id seq start.config.waitTimeout.toNat since result) ∧
    (∀ before status found after, events = before ++ .told status found :: after →
      (found = true ↔ ∃ id since, Waits before id status.seq since) ∧
        ((draws status.seq before).getLast? = some false → found = false)) ∧
    h.engine.delivered = start.delivered ++ published events ∧
    h.alarms + events.countP Event.rings = events.countP Event.finds ∧
    ∀ seq call, h.calls seq = some call → call.stage = .asleep →
      h.engine.waiters.outcome? seq ≠ none → 0 < h.alarms := by
  have hkept := hrun.kept hc hempty
  refine ⟨?_, ?_, ?_, ?_, hrun.delivered_eq, hrun.alarms_eq, hkept.woken⟩
  · intro seq outcome
    have hstands := hkept.stands seq
    generalize h.engine.waiters.slots[seq]? = slot, h.calls seq = call at hstands
    cases hstands with
    | nobody hnone =>
      refine ⟨nofun, ?_⟩
      rintro ⟨id, since, hwaits, -⟩
      exact absurd hwaits (hnone id since)
    | numbered hnone =>
      refine ⟨nofun, ?_⟩
      rintro ⟨id, since, hwaits, -⟩
      exact absurd hwaits (hnone id since)
    | waiting hwaits =>
      constructor
      · intro hslot
        exact ⟨_, _, hwaits, Option.some.inj hslot⟩
      · rintro ⟨id', since', hwaits', rfl⟩
        obtain ⟨-, rfl⟩ := hwaits.unique hwaits'
        rfl
  · intro seq hgone
    have hstands := hkept.stands seq
    rw [hgone] at hstands
    generalize h.engine.waiters.slots[seq]? = slot at hstands
    cases hstands with
    | nobody => rfl
  · intro before id seq result after heq
    exact hkept.justified before _ after heq
  · intro before status found after heq
    exact hkept.justified before _ after heq

/-- An outcome that is published before its caller begins to wait is not lost. -/
theorem Run.answered_by_own_outcome_of_early_outcome :
    let c := (MemoryLink.carrier .near).watched
    let start := Engine.onLink {} .near ()
    let status : DeliveryStatus := ⟨7, 0, .success⟩
    ∃ h : Hall (Watched MemoryLink) Unit, start.waiters = {} ∧
      Run c start [.drawn 0 true, .registered 7 0, .dispatched 0 (.ok ()), .aside,
        .told status true, .returned 7 0 (.ok 0)] h ∧
      h.engine.waiters.slots[(0 : UInt16)]? = none ∧ h.engine.delivered = [status] := by
  intro c start status
  have hcandid : c.Candid := fun header payload w =>
    MemoryLink.candid_carrier .near header payload w.state
  let numbered : Hall (Watched MemoryLink) Unit :=
    { engine := afterDraw start : Hall _ _ }.put 0 (some ⟨7, [9], .numbered⟩)
  let registered := { numbered with
    engine := { numbered.engine with waiters := numbered.engine.waiters.register 0 } }.put 0
      (some ⟨7, [9], .registered⟩)
  let sent := registered.engine.dispatcher.dispatchWith (Engine.layers c 0) 7 0 [9]
    registered.engine.outbound
  let looking := { registered with engine := { registered.engine with outbound := sent.2 } }.put 0
    (some ⟨7, [9], .looking⟩)
  let acked := { looking with engine := { looking.engine with
    outbound := (looking.engine.outbound.acknowledge c 1 0).2 } }
  have hnumbered : Run c start [.drawn 0 true] numbered := .step .opened (.begin rfl)
  have hregistered : Run c start [.drawn 0 true, .registered 7 0] registered :=
    .step hnumbered (.register rfl)
  have hlooking : Run c start [.drawn 0 true, .registered 7 0, .dispatched 0 (.ok ())] looking :=
    .step hregistered (@Step.dispatch _ _ _ _ 0 7 0 [9] sent rfl rfl)
  have hacked : Run c start [.drawn 0 true, .registered 7 0, .dispatched 0 (.ok ()), .aside]
      acked := .step hlooking (.aside ⟨rfl, rfl, rfl, rfl⟩)
  have htold : Run c start [.drawn 0 true, .registered 7 0, .dispatched 0 (.ok ()), .aside,
      .told status true]
      { acked with engine := afterTelling status [] acked.engine, alarms := 1 } :=
    .step hacked (.tell rfl)
  have hanswered : Run c start [.drawn 0 true, .registered 7 0, .dispatched 0 (.ok ()), .aside,
      .told status true, .returned 7 0 (.ok 0)] _ := .step htold (.take rfl rfl)
  obtain ⟨-, hslots, -, -, hdelivered, -, -⟩ := hanswered.answered_by_own_outcome hcandid rfl
  exact ⟨_, rfl, hanswered, hslots 0 rfl, hdelivered⟩

end Hall

end Courier
