import Courier.Signal
import Mathlib.Data.List.Induction
import Mathlib.Logic.Relation

/-!
# Slots that use their signal

A slot may connect others while it is called, disconnect any of them and itself, or remove them all.
An emission works on a copy of the list of slots that was made when it began: it calls those slots,
each one once and in the order of their connection, whatever they do to the list in between. What
they do to it concerns the emissions that come later. Everything that happens at a signal is
written down beside it, and the list of its slots is read off that history.
-/

namespace Courier

namespace Signal

variable {κ α : Type}

/-- Something that happened at a signal. -/
inductive Event (κ α : Type) where
  | connected (slot : Slot κ)
  /-- Somebody gave up a connection and was told whether its slot was there. -/
  | disconnected (id : Nat) (removed : Bool)
  /-- All slots were removed. -/
  | cleared
  | called (handler : κ) (value : α)

namespace Event

/-- What it does to the list of slots. -/
def apply (slots : List (Slot κ)) : Event κ α → List (Slot κ)
  | connected slot => slots ++ [slot]
  | disconnected id _ => slots.filter (·.id ≠ id)
  | cleared => []
  | called .. => slots

/-- The slot that it connects. -/
def slot? : Event κ α → Option (Slot κ)
  | connected slot => some slot
  | disconnected .. | cleared | called .. => none

/-- The handler that it calls, with the value. -/
def call? : Event κ α → Option (κ × α)
  | called handler value => some (handler, value)
  | connected .. | disconnected .. | cleared => none

end Event

variable {history more events during : List (Event κ α)} {slots : List (Slot κ)} {slot : Slot κ}
  {e : Event κ α} {id : Nat} {removed : Bool}

/-- The slots that a history leaves connected. -/
def slotsAfter (history : List (Event κ α)) : List (Slot κ) := history.foldl Event.apply []

/-- The slots that were connected, whether they still are or not. -/
def everConnected (history : List (Event κ α)) : List (Slot κ) := history.filterMap Event.slot?

/-- The calls that were made, in order. -/
def callsIn (history : List (Event κ α)) : List (κ × α) := history.filterMap Event.call?

/-- Nothing that happens takes this slot away. -/
def Spares (slot : Slot κ) (events : List (Event κ α)) : Prop :=
  .cleared ∉ events ∧ ∀ removed, .disconnected slot.id removed ∉ events

/-- What a history leaves connected is worked out event by event. -/
@[simp] theorem slotsAfter_append (history more : List (Event κ α)) :
    slotsAfter (history ++ more) = more.foldl Event.apply (slotsAfter history) :=
  List.foldl_append

/-- The calls of a longer history are those of its parts. -/
@[simp] theorem callsIn_append (history more : List (Event κ α)) :
    callsIn (history ++ more) = callsIn history ++ callsIn more := List.filterMap_append

/-- The slots that were ever connected in a longer history are those of its parts. -/
@[simp] theorem everConnected_append (history more : List (Event κ α)) :
    everConnected (history ++ more) = everConnected history ++ everConnected more :=
  List.filterMap_append

/-- A slot was connected exactly if this has happened. -/
theorem mem_everConnected : slot ∈ everConnected history ↔ .connected slot ∈ history := by
  unfold everConnected
  rw [List.mem_filterMap]
  constructor
  · rintro ⟨e, he, hslot⟩
    cases e with
    | connected other =>
      cases hslot
      exact he
    | _ => cases hslot
  · exact fun h => ⟨_, h, rfl⟩

/-- One event more adds its slot, if it connects one. -/
theorem mem_everConnected_concat :
    slot ∈ everConnected (history ++ [e]) ↔ slot ∈ everConnected history ∨ e.slot? = some slot := by
  rw [everConnected_append, List.mem_append]
  simp [everConnected]

/-- Only what was connected is left, in the order in which it was. -/
theorem slotsAfter_sublist (history : List (Event κ α)) :
    (slotsAfter history).Sublist (everConnected history) := by
  induction history using List.reverseRecOn with
  | nil => exact .refl _
  | append_singleton history e ih =>
    rw [slotsAfter_append, everConnected_append]
    cases e with
    | connected slot => exact ih.append (.refl [slot])
    | disconnected id removed => exact (List.filter_sublist.trans ih).trans (by simp)
    | cleared => exact List.nil_sublist _
    | called => exact ih.trans (by simp)

/-- Where in a list a slot is connected: at its head or further on. -/
theorem exists_connected_cons {P : List (Event κ α) → Prop} :
    (∃ before after, e :: events = before ++ .connected slot :: after ∧ P after) ↔
      e = .connected slot ∧ P events ∨
        ∃ before after, events = before ++ .connected slot :: after ∧ P after := by
  constructor
  · rintro ⟨before, after, heq, hafter⟩
    cases before with
    | nil =>
      obtain ⟨rfl, rfl⟩ := List.cons.inj heq
      exact .inl ⟨rfl, hafter⟩
    | cons first before => exact .inr ⟨before, after, (List.cons.inj heq).2, hafter⟩
  · rintro (⟨rfl, hevents⟩ | ⟨before, after, rfl, hafter⟩)
    · exact ⟨[], events, rfl, hevents⟩
    · exact ⟨e :: before, after, rfl, hafter⟩

/-- A slot is connected after some events if it was before, or was connected by one of them, and
nothing has taken it away since. -/
theorem mem_foldl_apply :
    slot ∈ events.foldl Event.apply slots ↔ slot ∈ slots ∧ Spares slot events ∨
      ∃ before after, events = before ++ .connected slot :: after ∧ Spares slot after := by
  induction events generalizing slots with
  | nil => simp [Spares]
  | cons e events ih =>
    rw [List.foldl_cons, ih, exists_connected_cons]
    cases e with
    | connected other =>
      simp [Event.apply, Spares, or_and_right, or_assoc, eq_comm]
    | disconnected id removed =>
      have hspares : Spares slot (.disconnected id removed :: events) ↔
          slot.id ≠ id ∧ Spares slot events := by grind [Spares]
      simp [Event.apply, hspares, and_assoc]
    | cleared => simp [Event.apply, Spares]
    | called => simp [Event.apply, Spares]

/-! ## Histories of a signal -/

/-- Whether something may happen after a history: a connection gets a greater number than all
before it, and whoever gives one up is told the truth. -/
def Event.Follows (history : List (Event κ α)) : Event κ α → Prop
  | connected slot => ∀ other ∈ everConnected history, other.id < slot.id
  | disconnected id removed => removed = true ↔ ∃ slot ∈ slotsAfter history, slot.id = id
  | cleared | called .. => True

/-- A history in which everything follows from what was before. -/
def Faithful (history : List (Event κ α)) : Prop :=
  ∀ before e after, history = before ++ e :: after → Event.Follows before e

/-- Nothing has to follow where nothing has happened. -/
theorem faithful_nil : Faithful ([] : List (Event κ α)) := by
  intro before e after h
  simp at h

/-- A history goes on faithfully with what follows from it. -/
theorem Faithful.concat (h : Faithful history) (he : e.Follows history) :
    Faithful (history ++ [e]) := by
  intro before other after heq
  rcases List.eq_nil_or_concat after with rfl | ⟨after, last, rfl⟩
  · obtain ⟨rfl, hlast⟩ := List.append_inj' heq rfl
    obtain rfl := List.singleton_inj.mp hlast
    exact he
  · rw [List.concat_eq_append, ← List.cons_append, ← List.append_assoc] at heq
    exact h before other after (List.append_inj' heq rfl).1

/-- Every beginning of a faithful history is one. -/
theorem Faithful.of_append (h : Faithful (history ++ more)) : Faithful history := by
  rintro before e after rfl
  exact h before e (after ++ more) (by simp)

/-- Connections are numbered in the order in which they were made. -/
theorem Faithful.ascending (h : Faithful history) :
    (everConnected history).Pairwise (·.id < ·.id) := by
  induction history using List.reverseRecOn with
  | nil => exact .nil
  | append_singleton history e ih =>
    rw [everConnected_append]
    cases e with
    | connected slot =>
      refine List.pairwise_append.mpr ⟨ih h.of_append, List.pairwise_singleton _ _, ?_⟩
      intro other hother new hnew
      rw [List.mem_singleton.mp hnew]
      exact h history _ [] rfl other hother
    | disconnected | cleared | called =>
      rw [show everConnected [_] = [] from rfl, List.append_nil]
      exact ih h.of_append

/-- The slots that are left are sorted by their numbers. -/
theorem Faithful.ascending_slotsAfter (h : Faithful history) :
    (slotsAfter history).Pairwise (·.id < ·.id) := h.ascending.sublist (slotsAfter_sublist history)

/-- A connection has its slot taken away at most once. -/
theorem Faithful.removed_once {before after : List (Event κ α)} {again : Bool}
    (h : Faithful (before ++ .disconnected id true :: after))
    (hagain : .disconnected id again ∈ after) : again = false := by
  obtain ⟨slot, hslot, rfl⟩ := (h before _ after rfl).mp rfl
  obtain ⟨between, rest, rfl⟩ := List.append_of_mem hagain
  have htold : Event.Follows (before ++ .disconnected slot.id true :: between)
      (.disconnected slot.id again) := h _ _ rest (by simp)
  rw [← Bool.not_eq_true]
  intro hremoved
  obtain ⟨other, hother, hid⟩ := htold.mp hremoved
  rw [slotsAfter_append, List.foldl_cons, mem_foldl_apply] at hother
  rcases hother with ⟨hleft, -⟩ | ⟨front, back, rfl, -⟩
  · -- It was not left there the first time.
    have hne : other.id ≠ slot.id := by simpa using (List.mem_filter.mp hleft).2
    exact hne hid
  · -- It was not connected since: its number had been issued before.
    have hgreater : Event.Follows (before ++ .disconnected slot.id true :: front)
        (.connected other) := h _ _ (back ++ .disconnected slot.id again :: rest) (by simp)
    have hmem : slot ∈ everConnected (before ++ .disconnected slot.id true :: front) := by
      rw [everConnected_append]
      exact List.mem_append_left _ ((slotsAfter_sublist before).mem hslot)
    exact absurd hid (Nat.ne_of_gt (hgreater slot hmem))

end Signal

open Signal

/-- A signal, those who are connected to it and whatever they have besides, and what happened at the
signal so far. -/
structure Audience (τ κ α : Type) where
  signal : Signal κ := {}
  own : τ
  history : List (Event κ α) := []

namespace Audience

variable {τ κ α : Type} {call : κ → α → Audience τ κ α → Audience τ κ α} {g g' : Audience τ κ α}
  {e : Event κ α}

/-- Writes down what happened. -/
def note (g : Audience τ κ α) (e : Event κ α) : Audience τ κ α :=
  { g with history := g.history ++ [e] }

/-- Connects a handler and gives the number of the connection. -/
def connect (g : Audience τ κ α) (handler : κ) : Nat × Audience τ κ α :=
  let (id, signal) := g.signal.connect handler
  (id, { g with signal }.note (.connected ⟨id, handler⟩))

/-- Gives up a connection and says whether its slot was there. -/
def disconnect (g : Audience τ κ α) (id : Nat) : Bool × Audience τ κ α :=
  let (removed, signal) := g.signal.disconnect id
  (removed, { g with signal }.note (.disconnected id removed))

/-- Removes all slots. -/
def disconnectAll (g : Audience τ κ α) : Audience τ κ α :=
  { g with signal := g.signal.disconnectAll }.note .cleared

/-- Emits a value to those who are connected. -/
def emit (call : κ → α → Audience τ κ α → Audience τ κ α) (value : α) (g : Audience τ κ α) :
    Audience τ κ α :=
  g.signal.emit (fun handler value g => call handler value (g.note (.called handler value))) value g

/-- One thing that a slot may do while it is called. -/
inductive Does (g : Audience τ κ α) : Audience τ κ α → Prop
  /-- It minds its own affairs. -/
  | aside (own : τ) : Does g { g with own }
  | connect (handler : κ) : Does g (g.connect handler).2
  /-- It gives up a connection, be it its own. -/
  | disconnect (id : Nat) : Does g (g.disconnect id).2
  | disconnectAll : Does g g.disconnectAll

/-- Any number of such things, one after the other. -/
abbrev Reacts : Audience τ κ α → Audience τ κ α → Prop := Relation.ReflTransGen Does

/-- What happens at a signal from outside: the same things, and a value is emitted. -/
inductive Step (call : κ → α → Audience τ κ α → Audience τ κ α) (g : Audience τ κ α) :
    Audience τ κ α → Prop
  | does {g' : Audience τ κ α} : Does g g' → Step call g g'
  | emit (value : α) : Step call g (g.emit call value)

/-- Any number of such steps. -/
abbrev Run (call : κ → α → Audience τ κ α → Audience τ κ α) :
    Audience τ κ α → Audience τ κ α → Prop := Relation.ReflTransGen (Step call)

/-! ## The slots are those that the history leaves -/

/-- An audience whose history tells which slots are connected. -/
structure Recorded (g : Audience τ κ α) : Prop where
  slots : g.signal.slots = slotsAfter g.history
  issued : ∀ slot ∈ everConnected g.history, slot.id < g.signal.nextId
  faithful : Faithful g.history

/-- A new audience has no history. -/
theorem recorded_new (own : τ) : ({ own } : Audience τ κ α).Recorded where
  slots := rfl
  issued := by simp [everConnected]
  faithful := faithful_nil

/-- What is done to the signal and noted keeps the history in step with the slots. -/
theorem Recorded.note {signal : Signal κ} (hg : g.Recorded)
    (hslots : signal.slots = e.apply g.signal.slots) (hnext : g.signal.nextId ≤ signal.nextId)
    (hnew : ∀ slot, e.slot? = some slot → slot.id < signal.nextId)
    (hfollows : e.Follows g.history) : ({ g with signal }.note e).Recorded where
  slots := by
    rw [Audience.note, slotsAfter_append, ← hg.slots]
    exact hslots
  issued slot hslot := by
    rcases mem_everConnected_concat.mp hslot with hold | heq
    · exact Nat.lt_of_lt_of_le (hg.issued slot hold) hnext
    · exact hnew slot heq
  faithful := hg.faithful.concat hfollows

/-- A call that is noted leaves the slots alone. -/
theorem Recorded.note_called (hg : g.Recorded) (handler : κ) (value : α) :
    (g.note (.called handler value)).Recorded :=
  hg.note rfl (Nat.le_refl _) (by simp [Event.slot?]) trivial

/-- Whatever a slot does is in the history. -/
theorem Does.recorded (h : Does g g') (hg : g.Recorded) : g'.Recorded := by
  cases h with
  | aside own => exact ⟨hg.slots, hg.issued, hg.faithful⟩
  | connect handler =>
    refine hg.note rfl (Nat.le_succ _) (fun slot hslot => ?_) hg.issued
    cases hslot
    exact Nat.lt_succ_self _
  | disconnect id =>
    refine hg.note rfl (Nat.le_refl _) (by simp [Event.slot?]) ?_
    show g.signal.isConnected id = true ↔ _
    simp [isConnected, hg.slots]
  | disconnectAll => exact hg.note rfl (Nat.le_refl _) (by simp [Event.slot?]) trivial

/-! ## An emission calls the slots that were there when it began -/

/-- One audience comes from another by events among which some calls are. -/
def Proceeds (g : Audience τ κ α) (calls : List (κ × α)) (g' : Audience τ κ α) : Prop :=
  ∃ events, g'.history = g.history ++ events ∧ callsIn events = calls

/-- Without events there are no calls. -/
theorem Proceeds.refl (g : Audience τ κ α) : Proceeds g [] g := ⟨[], by simp, rfl⟩

/-- Events that come one after the other make their calls one after the other. -/
theorem Proceeds.trans {calls more : List (κ × α)} {g'' : Audience τ κ α}
    (h : Proceeds g calls g') (h' : Proceeds g' more g'') : Proceeds g (calls ++ more) g'' := by
  obtain ⟨events, hevents, rfl⟩ := h
  obtain ⟨events', hevents', rfl⟩ := h'
  exact ⟨events ++ events', by rw [hevents', hevents, List.append_assoc], by simp⟩

/-- What is noted is all that happens. -/
theorem proceeds_note (g : Audience τ κ α) (e : Event κ α) :
    Proceeds g (callsIn [e]) (g.note e) := ⟨[e], rfl, rfl⟩

/-- What a slot does is to call nobody. -/
theorem Does.proceeds (h : Does g g') : Proceeds g [] g' := by
  cases h with
  | aside own => exact .refl g
  | connect handler => exact proceeds_note _ _
  | disconnect id => exact proceeds_note _ _
  | disconnectAll => exact proceeds_note _ _

/-- Whatever a slot does in several steps, the history records it. -/
theorem Reacts.recorded (h : Reacts g g') (hg : g.Recorded) : g'.Recorded := by
  induction h with
  | refl => exact hg
  | tail _ hdoes ih => exact hdoes.recorded ih

/-- However much a slot does, it calls nobody. -/
theorem Reacts.proceeds (h : Reacts g g') : Proceeds g [] g' := by
  induction h with
  | refl => exact .refl g
  | tail _ hdoes ih => exact ih.trans hdoes.proceeds

/-- Slots are called one after the other, each once, whatever they do. -/
theorem callAll_spec (hcall : ∀ handler value g, Reacts g (call handler value g)) (value : α)
    (snapshot : List (Slot κ)) (hg : g.Recorded) :
    let g' := callAll (fun handler value g => call handler value (g.note (.called handler value)))
      value snapshot g
    g'.Recorded ∧ Proceeds g (snapshot.map fun slot => (slot.handler, value)) g' := by
  induction snapshot generalizing g with
  | nil => exact ⟨hg, .refl g⟩
  | cons slot snapshot ih =>
    have hcalled := hcall slot.handler value (g.note (.called slot.handler value))
    obtain ⟨hrecorded, hrest⟩ := ih (hcalled.recorded (hg.note_called slot.handler value))
    exact ⟨hrecorded, ((proceeds_note g _).trans hcalled.proceeds).trans hrest⟩

/-- What an emission consists of: calls of those who were connected, and what they did to the
list. -/
structure Emission (call : κ → α → Audience τ κ α → Audience τ κ α) (g : Audience τ κ α)
    (value : α) (during : List (Event κ α)) : Prop where
  history : (g.emit call value).history = g.history ++ during
  calls : callsIn during = g.signal.slots.map fun slot => (slot.handler, value)
  slots : (g.emit call value).signal.slots = during.foldl Event.apply g.signal.slots

/-- The history of an emission tells who was called, and stays in step with the slots. -/
theorem Recorded.emit (hg : g.Recorded) (hcall : ∀ handler value g, Reacts g (call handler value g))
    (value : α) : (g.emit call value).Recorded ∧ ∃ during, Emission call g value during := by
  obtain ⟨hrecorded, during, hhistory, hcalls⟩ := callAll_spec hcall value g.signal.slots hg
  refine ⟨hrecorded, during, hhistory, hcalls, hrecorded.slots.trans ?_⟩
  rw [hhistory, slotsAfter_append, ← hg.slots]

/-- Whatever is done from outside, the history goes on and tells which slots are connected. -/
theorem Run.recorded (hcall : ∀ handler value g, Reacts g (call handler value g))
    (h : Run call g g') (hg : g.Recorded) : g'.Recorded ∧ ∃ calls, Proceeds g calls g' := by
  induction h with
  | refl => exact ⟨hg, [], .refl g⟩
  | tail _ hstep ih =>
    obtain ⟨hmiddle, calls, hproceeds⟩ := ih
    cases hstep with
    | does hdoes => exact ⟨hdoes.recorded hmiddle, _, hproceeds.trans hdoes.proceeds⟩
    | emit value =>
      obtain ⟨hrecorded, during, hemission⟩ := hmiddle.emit hcall value
      exact ⟨hrecorded, _, hproceeds.trans ⟨during, hemission.history, hemission.calls⟩⟩

/-- An emission calls exactly the slots that were connected when it began, each once and in the
order of their connection, and leaves the slots that come of what they did. Those that were
connected meanwhile are not among them. Whoever is connected at any later time, and so is called by
an emission then, was connected when this one began or has been since, and was not disconnected
after that. Giving up a connection takes away its own slot only, and is answered with true at most
once. -/
theorem Run.emission_is_a_snapshot (hcall : ∀ handler value g, Reacts g (call handler value g))
    {own : τ} (h : Run call { own } g) (value : α) (h' : Run call (g.emit call value) g') :
    ∃ during later, Emission call g value during ∧ g'.history = g.history ++ during ++ later ∧
      g.signal.slots.Pairwise (·.id < ·.id) ∧
      (∀ slot, .connected slot ∈ during ++ later → ∀ old ∈ g.signal.slots, old.id < slot.id) ∧
      (∀ slot, slot ∈ g'.signal.slots ↔ slot ∈ g.signal.slots ∧ Spares slot (during ++ later) ∨
        ∃ before after, during ++ later = before ++ .connected slot :: after ∧
          Spares slot after) ∧
      (∀ next, ∃ events, Emission call g' next events) ∧
      g'.signal.slots = slotsAfter g'.history ∧
      ∀ before id removed after, g'.history = before ++ .disconnected id removed :: after →
        (slotsAfter before).Pairwise (·.id < ·.id) ∧
        (removed = true ↔ ∃ slot ∈ slotsAfter before, slot.id = id) ∧
        slotsAfter (before ++ [.disconnected id removed]) =
          (slotsAfter before).filter (·.id ≠ id) ∧
        (removed = true → ∀ again, .disconnected id again ∈ after → again = false) := by
  have hg : g.Recorded := (h.recorded hcall (recorded_new own)).1
  obtain ⟨hemitted, during, hemission⟩ := hg.emit hcall value
  obtain ⟨hg', _, later, hlater, -⟩ := h'.recorded hcall hemitted
  rw [hemission.history] at hlater
  have hascending : (everConnected (g.history ++ (during ++ later))).Pairwise (·.id < ·.id) := by
    rw [← List.append_assoc, ← hlater]
    exact hg'.faithful.ascending
  refine ⟨during, later, hemission, hlater, ?_, ?_, ?_, fun next => (hg'.emit hcall next).2,
    hg'.slots, ?_⟩
  · rw [hg.slots]
    exact hg.faithful.ascending_slotsAfter
  · intro slot hslot old hold
    rw [everConnected_append] at hascending
    rw [hg.slots] at hold
    exact (List.pairwise_append.mp hascending).2.2 old ((slotsAfter_sublist _).mem hold) slot
      (mem_everConnected.mpr hslot)
  · intro slot
    rw [hg'.slots, hlater, List.append_assoc, slotsAfter_append, ← hg.slots, mem_foldl_apply]
  · intro before id removed after heq
    have hfaithful := hg'.faithful
    refine ⟨?_, hfaithful before _ after heq, slotsAfter_append before _, ?_⟩
    · rw [heq] at hfaithful
      exact hfaithful.of_append.ascending_slotsAfter
    · rintro rfl again hagain
      rw [heq] at hfaithful
      exact hfaithful.removed_once hagain

/-- The first of two slots disconnects both of them and connects a third one. The second slot is
called all the same, and the next emission calls the third slot only. -/
theorem Run.emission_is_a_snapshot_of_self_disconnect :
    let call (first : Bool) (_ : Nat) (g : Audience Unit Bool Nat) : Audience Unit Bool Nat :=
      if first then (((g.disconnect 1).2.disconnect 2).2.connect false).2 else g
    let start : Audience Unit Bool Nat := { own := () }
    let g := ((start.connect true).2.connect false).2
    let g' := (g.emit call 7).emit call 8
    (∀ handler value g, Reacts g (call handler value g)) ∧ Run call start g ∧
      Run call (g.emit call 7) g' ∧ g'.signal.slots = [⟨3, false⟩] ∧
      (∃ during, Emission call g 7 during ∧ callsIn during = [(true, 7), (false, 7)]) ∧
      ∃ events, Emission call g' 9 events ∧ callsIn events = [(false, 9)] := by
  intro call start g g'
  have hcall (handler : Bool) (value : Nat) (g : Audience Unit Bool Nat) :
      Reacts g (call handler value g) := by
    cases handler with
    | false => exact .refl
    | true => exact .tail (.tail (.single (.disconnect 1)) (.disconnect 2)) (.connect false)
  have hrun : Run call start g := .tail (.single (.does (.connect true))) (.does (.connect false))
  have hlater : Run call (g.emit call 7) g' := .single (.emit 8)
  obtain ⟨during, _, hemission, -, -, -, -, hnext, -⟩ :=
    Run.emission_is_a_snapshot hcall hrun 7 hlater
  obtain ⟨events, hevents⟩ := hnext 9
  exact ⟨hcall, hrun, hlater, rfl, ⟨during, hemission, hemission.calls⟩, events, hevents,
    hevents.calls⟩

end Audience

end Courier
