import Courier.Engine.Inbound
import Courier.Proofs.Engine.Deeds
import Mathlib.Logic.Function.Basic

/-!
# Callers that wait

Any number of callers send a payload each and wait for what becomes of it, while others send
without waiting, outcomes are published, deadlines pass and sleeping callers are woken, in any
order. As long as nobody draws a number under which a caller still waits, every caller is
answered by the outcomes of its own number, none of them is lost, and nothing is left behind.
-/

namespace Courier

namespace Hall

/-- How far a call that waits has come. -/
inductive Stage where
  /-- It has its number. -/
  | numbered
  /-- It has its slot. -/
  | registered
  /-- Sending failed. -/
  | unsent (error : NetworkError)
  /-- It is about to look into its slot. -/
  | looking
  | asleep
  /-- It was not woken before its deadline. -/
  | late
deriving DecidableEq, Repr

/-- A call that waits. -/
structure Call where
  id : UInt16
  payload : Bytes
  stage : Stage
deriving DecidableEq, Repr

/-- A call that is woken looks again. -/
def Call.wake (call : Call) : Call :=
  if call.stage = .asleep then { call with stage := .looking } else call

end Hall

/-- An engine and those who wait for it. -/
structure Hall (σ ρ : Type) where
  engine : Engine σ ρ
  /-- The calls that wait, by their numbers. -/
  calls : UInt16 → Option Hall.Call := fun _ => none
  /-- How often the sleeping callers are still to be woken. -/
  alarms : Nat := 0

namespace Hall

variable {σ ρ : Type}

/-- What happens around an engine. -/
inductive Event where
  /-- A number is drawn, for a call that waits or for one that does not. -/
  | drawn (seq : UInt16) (waits : Bool)
  | registered (id seq : UInt16)
  | dispatched (seq : UInt16) (result : Except NetworkError Unit)
  /-- An outcome is published; if it is found to have a slot, sleeping callers will be woken. -/
  | told (status : DeliveryStatus) (found : Bool)
  /-- The sleeping callers are woken. -/
  | rang
  /-- A caller that found nothing falls asleep, wakes up for no reason, or sleeps past its
  deadline. -/
  | slept (seq : UInt16)
  | stirred (seq : UInt16)
  | expired (seq : UInt16)
  /-- A call that waited is answered. -/
  | returned (id seq : UInt16) (result : Except NetworkError UInt16)
  /-- Something else is done to the engine. -/
  | aside

/-- Puts a call in the place of another one, or removes it. -/
def put (seq : UInt16) (call : Option Call) (h : Hall σ ρ) : Hall σ ρ :=
  { h with calls := Function.update h.calls seq call }

/-- The number that is drawn next. -/
def upcoming (h : Hall σ ρ) : UInt16 := h.engine.dispatcher.sequence.upcoming

/-- The engine after a number was drawn. -/
def afterDraw (e : Engine σ ρ) : Engine σ ρ := { e with dispatcher := e.dispatcher.draw.2 }

/-- The engine after the oldest outcome that its layers have published was passed on. -/
def afterTelling (status : DeliveryStatus) (rest : List (Unit × DeliveryStatus))
    (e : Engine σ ρ) : Engine σ ρ :=
  { e with
    outbound := { e.outbound with heard := rest }
    waiters := e.waiters.complete status
    delivered := e.delivered ++ [status] }

/-- What a call does next whose payload was sent, or was not. -/
def Stage.afterSending : Except NetworkError Unit → Stage
  | .ok () => .looking
  | .error error => .unsent error

/-- Whatever else was done to an engine, nobody drew a number, and no slot was touched and no
outcome published. -/
structure Beside (e e' : Engine σ ρ) : Prop where
  waiters_eq : e'.waiters = e.waiters
  delivered_eq : e'.delivered = e.delivered
  config_eq : e'.config = e.config
  sequence_eq : e'.dispatcher.sequence = e.dispatcher.sequence

/-- What can happen next. A call that waits goes through its stages, and may wake up for no reason;
whatever else is done to the engine leaves the slots and the counter of numbers alone. -/
inductive Step (c : Carrier σ) (h : Hall σ ρ) : Event → Hall σ ρ → Prop
  | send : h.calls h.upcoming = none →
      Step c h (.drawn h.upcoming false) { h with engine := afterDraw h.engine }
  | begin {id : UInt16} {payload : Bytes} : h.calls h.upcoming = none →
      Step c h (.drawn h.upcoming true)
        ({ h with engine := afterDraw h.engine }.put h.upcoming (some ⟨id, payload, .numbered⟩))
  | register {id seq : UInt16} {payload : Bytes} :
      h.calls seq = some ⟨id, payload, .numbered⟩ →
      Step c h (.registered id seq)
        ({ h with engine := { h.engine with waiters := h.engine.waiters.register seq } }.put seq
          (some ⟨id, payload, .registered⟩))
  | dispatch {clock : Time} {id seq : UInt16} {payload : Bytes}
      {sent : Except NetworkError Unit × Outbound σ Unit} :
      h.calls seq = some ⟨id, payload, .registered⟩ →
      h.engine.dispatcher.dispatchWith (Engine.layers c clock) id seq payload
        h.engine.outbound = sent →
      Step c h (.dispatched seq sent.1)
        ({ h with engine := { h.engine with outbound := sent.2 } }.put seq
          (some ⟨id, payload, Stage.afterSending sent.1⟩))
  | refuse {id seq : UInt16} {payload : Bytes} {error : NetworkError} :
      h.calls seq = some ⟨id, payload, .unsent error⟩ →
      Step c h (.returned id seq (.error error))
        ({ h with engine :=
          ({ h.engine with waiters := h.engine.waiters.cancel seq }.reported (α := UInt16) id
            (.error error)).2 }.put seq none)
  | tell {status : DeliveryStatus} {rest : List (Unit × DeliveryStatus)} :
      h.engine.outbound.heard = ((), status) :: rest →
      Step c h (.told status (h.engine.waiters.slots.contains status.seq))
        { h with
          engine := afterTelling status rest h.engine
          alarms := h.alarms + (h.engine.waiters.slots.contains status.seq).toNat }
  | ring : 0 < h.alarms →
      Step c h .rang
        { h with calls := fun seq => (h.calls seq).map (·.wake), alarms := h.alarms - 1 }
  | stir {id seq : UInt16} {payload : Bytes} : h.calls seq = some ⟨id, payload, .asleep⟩ →
      Step c h (.stirred seq) (h.put seq (some ⟨id, payload, .looking⟩))
  | take {id seq : UInt16} {payload : Bytes} {result : Except NetworkError UInt16} :
      h.calls seq = some ⟨id, payload, .looking⟩ → (h.engine.poll id seq).1 = some result →
      Step c h (.returned id seq result)
        ({ h with engine := (h.engine.poll id seq).2 }.put seq none)
  | sleep {id seq : UInt16} {payload : Bytes} :
      h.calls seq = some ⟨id, payload, .looking⟩ → (h.engine.poll id seq).1 = none →
      Step c h (.slept seq)
        ({ h with engine := (h.engine.poll id seq).2 }.put seq (some ⟨id, payload, .asleep⟩))
  | expire {id seq : UInt16} {payload : Bytes} : h.calls seq = some ⟨id, payload, .asleep⟩ →
      Step c h (.expired seq) (h.put seq (some ⟨id, payload, .late⟩))
  | giveUp {id seq : UInt16} {payload : Bytes} : h.calls seq = some ⟨id, payload, .late⟩ →
      Step c h (.returned id seq (h.engine.giveUp id seq).1)
        ({ h with engine := (h.engine.giveUp id seq).2 }.put seq none)
  | aside {e' : Engine σ ρ} : Beside h.engine e' → Step c h .aside { h with engine := e' }

/-- What happens around an engine for which nobody waits at first. -/
inductive Run (c : Carrier σ) (start : Engine σ ρ) : List Event → Hall σ ρ → Prop
  | opened : Run c start [] { engine := start }
  | step {events : List Event} {n : Event} {h h' : Hall σ ρ} : Run c start events h →
      Step c h n h' → Run c start (events ++ [n]) h'

/-! ## What engines do -/

variable {c : Carrier σ} {start e e' e'' : Engine σ ρ} {events : List Event} {h : Hall σ ρ}
  {clock : Time}

/-- If nothing is done, nothing is touched. -/
theorem Beside.rfl : Beside e e := ⟨.refl _, .refl _, .refl _, .refl _⟩

/-- What is done beside the slots twice in a row is done beside them. -/
theorem Beside.trans (hfirst : Beside e e') (hsecond : Beside e' e'') : Beside e e'' where
  waiters_eq := hsecond.waiters_eq.trans hfirst.waiters_eq
  delivered_eq := hsecond.delivered_eq.trans hfirst.delivered_eq
  config_eq := hsecond.config_eq.trans hfirst.config_eq
  sequence_eq := hsecond.sequence_eq.trans hfirst.sequence_eq

/-- A failure is published beside the slots. -/
theorem beside_reported {α : Type} (id : UInt16) (result : Except NetworkError α)
    (e : Engine σ ρ) : Beside e (e.reported id result).2 := by
  cases result with
  | ok a => exact .rfl
  | error error => exact ⟨rfl, rfl, rfl, rfl⟩

/-- An acknowledgment is sent beside them. -/
theorem beside_sendAck (header : Header) (e : Engine σ ρ) : Beside e (e.sendAck c header) := by
  unfold Engine.sendAck
  split
  · generalize e.outbound.sendRaw c (.ack header.seq) [] = sent
    have hsent : Beside e { e with outbound := sent.2 } := ⟨rfl, rfl, rfl, rfl⟩
    exact hsent.trans (beside_reported header.id sent.1 _)
  · exact .rfl

/-- An endpoint is called beside them. -/
theorem beside_invoke (frame : Frame) (e : Engine σ ρ) : Beside e (e.invoke frame) := by
  unfold Engine.invoke
  dsimp only
  split
  · exact ⟨rfl, rfl, rfl, rfl⟩
  · split <;> exact ⟨rfl, rfl, rfl, rfl⟩

/-- A frame that is not an acknowledgment is no concern of those who wait. -/
theorem beside_handleFrame {frame : Frame} (hframe : frame.header.isAck = false)
    (e : Engine σ ρ) : Beside e (e.handleFrame c clock frame) := by
  unfold Engine.handleFrame
  simp only [hframe, Bool.false_eq_true, if_false]
  have hacked : Beside e (e.sendAck c frame.header) := beside_sendAck frame.header e
  split
  · next duplicates _ =>
    have hchecked : Beside (e.sendAck c frame.header)
        { e.sendAck c frame.header with duplicates } := ⟨rfl, rfl, rfl, rfl⟩
    exact hacked.trans (hchecked.trans (beside_invoke frame _))
  · next duplicates _ =>
    have hchecked : Beside (e.sendAck c frame.header)
        { e.sendAck c frame.header with duplicates } := ⟨rfl, rfl, rfl, rfl⟩
    exact hacked.trans hchecked

/-- If nothing was heard, there is nothing to pass on. -/
theorem absorb_of_heard_nil (hheard : e.outbound.heard = []) : e.absorb = e := by
  have houtbound : { e.outbound with heard := [] } = e.outbound := by rw [← hheard]
  simp only [Engine.absorb, hheard, houtbound, List.map_nil, List.foldl_nil, List.append_nil]

/-- Outcomes are passed on one after the other. -/
theorem absorb_of_heard_cons {status : DeliveryStatus} {rest : List (Unit × DeliveryStatus)}
    (hheard : e.outbound.heard = ((), status) :: rest) :
    e.absorb = (afterTelling status rest e).absorb := by
  simp only [Engine.absorb, afterTelling, hheard, List.map_cons, List.foldl_cons,
    List.append_assoc, List.singleton_append]

/-- Whatever the layers have published is passed on. -/
theorem Run.absorb (hrun : Run c start events h) : ∃ more alarms,
    Run c start (events ++ more) { h with engine := h.engine.absorb, alarms } := by
  generalize hheard : h.engine.outbound.heard = heard
  induction heard generalizing events h with
  | nil =>
    refine ⟨[], h.alarms, ?_⟩
    rw [absorb_of_heard_nil hheard, List.append_nil]
    exact hrun
  | cons first rest ih =>
    obtain ⟨⟨⟩, status⟩ := first
    obtain ⟨more, alarms, hmore⟩ := ih (hrun.step (.tell hheard)) rfl
    rw [List.append_assoc] at hmore
    rw [absorb_of_heard_cons hheard]
    exact ⟨_, alarms, hmore⟩

/-- Something is done to the layers, and what they publish is passed on. -/
theorem Run.operate (hrun : Run c start events h) (outbound : Outbound σ Unit) :
    ∃ more alarms, Run c start (events ++ more)
      { h with engine := { h.engine with outbound }.absorb, alarms } := by
  have hbeside : Beside h.engine { h.engine with outbound } := ⟨rfl, rfl, rfl, rfl⟩
  obtain ⟨more, alarms, hmore⟩ := (hrun.step (.aside hbeside)).absorb
  rw [List.append_assoc] at hmore
  exact ⟨_, alarms, hmore⟩

/-- Looking for late frames is among what can happen around an engine. -/
theorem Run.scan (hrun : Run c start events h) (now : Time) (clock : UInt16 → Time) :
    ∃ more alarms,
    Run c start (events ++ more) { h with engine := (h.engine.scan c now clock).2, alarms } :=
  hrun.operate (h.engine.outbound.scan c now clock).2

/-- Handling a frame is among what can happen around an engine. -/
theorem Run.handleFrame (hrun : Run c start events h) (clock : Time) (frame : Frame) :
    ∃ more alarms, Run c start (events ++ more)
      { h with engine := h.engine.handleFrame c clock frame, alarms } := by
  cases hframe : frame.header.isAck with
  | true =>
    have hack : h.engine.handleFrame c clock frame =
        h.engine.acknowledge c clock frame.header.seq := by
      rw [Engine.handleFrame, if_pos hframe]
    rw [hack]
    exact hrun.operate (h.engine.outbound.acknowledge c clock frame.header.seq).2
  | false => exact ⟨_, h.alarms, hrun.step (.aside (beside_handleFrame hframe h.engine))⟩

/-- Sending without waiting is among what can happen around an engine, if nobody waits under the
number that is drawn. -/
theorem Run.send (hrun : Run c start events h) (hfree : h.calls h.upcoming = none)
    (clock : Time) (id : UInt16) (payload : Bytes) : ∃ more alarms,
      Run c start (events ++ more)
        { h with engine := (h.engine.send c clock id payload).2, alarms } := by
  have hreport (outbound : Outbound σ Unit) (result : Except NetworkError UInt16)
      (drawn : Hall σ ρ) (before : List Event) (hdrawn : Run c start before drawn) :
      ∃ more alarms, Run c start (before ++ more) { drawn with
        engine := ({ drawn.engine with outbound }.absorb.reported id result).2, alarms } := by
    obtain ⟨more, alarms, hmore⟩ := hdrawn.operate outbound
    have hreported := hmore.step (.aside (beside_reported id result _))
    rw [List.append_assoc] at hreported
    exact ⟨_, alarms, hreported⟩
  unfold Engine.send
  cases hlayer : h.engine.dispatcher.layer with
  | none =>
    simp only [Dispatcher.dispatch, hlayer]
    exact hreport _ _ h events hrun
  | some layer =>
    have hdispatch := @Dispatcher.dispatch_eq _ h.engine.dispatcher (Engine.layers c clock) layer
      h.engine.outbound id payload hlayer
    generalize h.engine.dispatcher.dispatch (Engine.layers c clock) id payload h.engine.outbound =
      sent at hdispatch
    obtain ⟨result, dispatcher, outbound⟩ := sent
    obtain ⟨rfl, rfl⟩ := Prod.mk.inj hdispatch
    have hdrawn : Run c start (events ++ [.drawn h.upcoming false])
        { h with engine := afterDraw h.engine } := hrun.step (.send hfree)
    obtain ⟨more, alarms, hmore⟩ := hreport (Dispatcher.sendOn (Engine.layers c clock) layer id
      h.engine.dispatcher.sequence.upcoming payload h.engine.outbound).2 result _ _ hdrawn
    rw [List.append_assoc] at hmore
    exact ⟨_, alarms, hmore⟩

/-- The engine after a number was drawn and a slot was made for it. -/
def afterRegister (e : Engine σ ρ) : Engine σ ρ :=
  { afterDraw e with waiters := e.waiters.register e.dispatcher.sequence.upcoming }

/-- What beginning to wait comes to, by the result of sending. -/
theorem beginWait_cases (e : Engine σ ρ) (clock : Time) (id : UInt16) (payload : Bytes) :
    let seq := e.dispatcher.sequence.upcoming
    ∃ sent, (afterRegister e).dispatcher.dispatchWith (Engine.layers c clock) id seq payload
        (afterRegister e).outbound = sent ∧
      let told := { afterRegister e with outbound := sent.2 }.absorb
      (sent.1 = .ok () ∧ e.beginWait c clock id payload = (.ok seq, told) ∨
        ∃ error, sent.1 = .error error ∧ e.beginWait c clock id payload =
          (.error error, ({ told with waiters := told.waiters.cancel seq }.reported
            (α := UInt16) id (.error error)).2)) := by
  intro seq
  refine ⟨_, rfl, ?_⟩
  have hdraw : e.dispatcher.draw = (seq, (afterRegister e).dispatcher) := rfl
  rw [Engine.beginWait, hdraw]
  dsimp only
  have hsame : (afterRegister e).outbound = e.outbound := rfl
  rw [hsame]
  generalize (afterRegister e).dispatcher.dispatchWith (Engine.layers c clock) id seq payload
    e.outbound = sent
  obtain ⟨error | ⟨⟩, outbound⟩ := sent
  · exact .inr ⟨error, rfl, rfl⟩
  · exact .inl ⟨rfl, rfl⟩

/-- Everything that a caller does until it waits is among what can happen around an engine: it is
about to look into its slot, or has been told that sending failed. -/
theorem Run.beginWait (hrun : Run c start events h) (hfree : h.calls h.upcoming = none)
    (clock : Time) (id : UInt16) (payload : Bytes) : ∃ more alarms,
      Run c start (events ++ more)
        ({ h with engine := (h.engine.beginWait c clock id payload).2, alarms }.put h.upcoming
          (if (h.engine.beginWait c clock id payload).1.isOk then
            some ⟨id, payload, .looking⟩ else none)) := by
  obtain ⟨sent, hdispatch, hcases⟩ := beginWait_cases (c := c) h.engine clock id payload
  have hbegun : Run c start (events ++ [.drawn h.upcoming true]) _ :=
    hrun.step (@Step.begin _ _ _ _ id payload hfree)
  have hregistered := hbegun.step (.register (Function.update_self ..))
  have hsent := hregistered.step (.dispatch (Function.update_self ..) hdispatch)
  obtain ⟨more, alarms, htold⟩ := hsent.absorb
  rcases hcases with ⟨hresult, hbegin⟩ | ⟨error, hresult, hbegin⟩
  · rw [hbegin]
    rw [hresult] at htold
    simp only [Hall.put, Function.update_idem, List.append_assoc] at htold ⊢
    exact ⟨_, alarms, htold⟩
  · rw [hbegin]
    rw [hresult] at htold
    have hrefused := htold.step (.refuse (Function.update_self ..))
    simp only [Hall.put, Function.update_idem, List.append_assoc] at hrefused ⊢
    exact ⟨_, alarms, hrefused⟩

end Hall

end Courier
