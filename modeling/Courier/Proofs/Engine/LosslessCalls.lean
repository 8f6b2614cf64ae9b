import Courier.Argument.Binary
import Courier.Proofs.Engine.Headway
import Courier.Proofs.Engine.Ways
import Mathlib.Logic.Relation

/-!
# Remote calls over a link that loses nothing

Two engines stand at the ends of a link within the process that loses nothing, and one of them calls
endpoints behind the other. What has been done at any time is what would have been done if the
endpoints had been called directly, but for the calls that are still on their way; and these can
always be brought to their ends.
-/

namespace Courier

namespace Joint

variable {κ : Type} {Value : κ → Type} {ρ ρ' χ χ' : Type} {j j' : Joint Value ρ ρ' χ χ'}
  {w : Way Value} {registry : Registry (ρ' × List (UInt16 × Argument Value))} {window : Nat}
  {event : Event Value} {events : List (Event Value)} {nearConfig farConfig : EngineConfig}
  {outside : ρ} {outside' : ρ'}

/-! ## Both threads can go on -/

/-- Two engines whose threads can go on. -/
structure Lively (j : Joint Value ρ ρ' χ χ') : Prop where
  near : j.near.worker.Ready
  far : j.far.worker.Ready

/-- Both threads can go on after every step. -/
theorem Step.lively (h : j.Lively) (hstep : Step j event j') : j'.Lively := by
  cases hstep with
  | tick => exact ⟨h.near, h.far⟩
  | called => exact ⟨h.near, h.far⟩
  | receivedNear hfree => exact ⟨(Station.ready_receive (s := j.nearEnd) h.near hfree).1, h.far⟩
  | receivedFar hfree => exact ⟨h.near, (Station.ready_receive (s := j.farEnd) h.far hfree).1⟩
  | workedNear hperforms hi => exact ⟨h.near.performs hperforms hi, h.far⟩
  | workedFar hperforms hi => exact ⟨h.near, h.far.performs hperforms hi⟩

/-- Both threads can go on at the start. -/
theorem Opened.lively (h : j.Opened nearConfig farConfig outside outside') : j.Lively :=
  ⟨h.near.ready, h.far.ready⟩

/-- Both threads can go on throughout a run. -/
theorem Run.lively {start : Joint Value ρ ρ' χ χ'} (hrun : Run start events j)
    (hstart : start.Lively) : j.Lively := by
  induction hrun with
  | start => exact hstart
  | step _ hstep ih => exact hstep.lively ih

/-! ## What is on its way comes to its end -/

/-- Two engines that are done with the calls that were made. -/
structure Done (sent : List (Errand Value)) (j : Joint Value ρ ρ' χ χ') : Prop where
  received : j.far.engine.outside.2 = sent.map Errand.received
  delivered : j.near.engine.delivered = sent.map Errand.success
  inFlight : j.near.engine.inFlight = 0
  retryPending : j.near.engine.retryPending = 0

/-- Nothing more is to be done when no call is on its way. -/
theorem Carries.done (h : j.Carries registry window w) (hnone : w.waiting = []) :
    j.Done w.all := by
  have hsettled : w.all = w.settled := by rw [Way.all, hnone, List.append_nil]
  have hserved : w.all = w.served := by
    have hlate : w.taken ++ w.sent = [] :=
      (List.append_eq_nil_iff.mp ((List.append_assoc ..).symm.trans hnone)).2
    rw [w.all_eq, List.append_assoc, hlate, List.append_nil]
  exact {
    received := by rw [hserved, h.far.received]
    delivered := by rw [hsettled, h.delivered]
    inFlight := by rw [h.near.inFlight_eq, hnone, List.length_nil]
    retryPending := by rw [h.near.retryPending_eq, hnone, List.length_nil, ite_self] }

/-- Something happens, but no call is made. -/
def Onward (j j' : Joint Value ρ ρ' χ χ') : Prop := ∃ event, event.call? = none ∧ Step j event j'

/-- Things happen one after the other, but no call is made. -/
abbrev Reaches : Joint Value ρ ρ' χ χ' → Joint Value ρ ρ' χ χ' → Prop :=
  Relation.ReflTransGen Onward

/-- What can be reached without a call goes on with a run. -/
theorem Run.of_reaches {start : Joint Value ρ ρ' χ χ'} (hrun : Run start events j)
    (hreaches : j.Reaches j') : ∃ more, Run start (events ++ more) j' ∧ calls more = [] := by
  induction hreaches with
  | refl => exact ⟨[], by rwa [List.append_nil], rfl⟩
  | tail _ honward ih =>
    obtain ⟨more, hrun, hcalls⟩ := ih
    obtain ⟨event, hevent, hstep⟩ := honward
    refine ⟨more ++ [event], ?_, ?_⟩
    · rw [← List.append_assoc]
      exact hrun.step hstep
    · rw [calls_concat, hcalls, hevent]
      rfl

/-- Two engines that can bring the calls on their way to their ends, as no frame is late. -/
structure Able (registry : Registry (ρ' × List (UInt16 × Argument Value))) (window : Nat)
    (all : List (Errand Value)) (w : Way Value) (j : Joint Value ρ ρ' χ χ') : Prop where
  carries : j.Carries registry window w
  all : w.all = all
  lively : j.Lively
  few : w.waiting.length ≤ 65536
  inTime : j.near.engine.outbound.tracker.overdue j.clock = []

namespace Able

variable {all : List (Errand Value)}

/-- The near thread does something. -/
theorem workNear (h : j.Able registry window all w) {i : Worker.Incident (EngineTask χ) Unit}
    {worker : Worker (EngineTask χ) Unit} (hperforms : j.near.worker.Performs j.clock i worker)
    (hi : i.IsOrdinary) : ∃ j' w', j.Onward j' ∧ j'.Able registry window all w' ∧
      j'.near.worker = worker ∧ w'.confirmed = w.confirmed ∧ w'.taken = w.taken ∧
        w'.sent = w.sent := by
  obtain ⟨hinTime, front, back, htold, -, hcarries⟩ :=
    h.carries.workedNear h.few hperforms hi fun _ _ => h.inTime
  have hstep : Step j _ _ := .workedNear hperforms hi fun _ _ => h.inTime
  have hall := h.all
  have hfew := h.few
  refine ⟨_, _, ⟨_, rfl, hstep⟩, ⟨hcarries, ?_, hstep.lively h.lively, ?_, hinTime h.inTime⟩,
    rfl, rfl, rfl, rfl⟩
  · simpa [Way.all, Way.waiting, htold] using hall
  · simp only [Way.waiting, List.length_append, htold] at hfew ⊢
    omega

/-- The far thread does something. -/
theorem workFar (h : j.Able registry window all w) (hwindow : window ≤ 65535)
    {i : Worker.Incident (EngineTask χ') Unit} {worker : Worker (EngineTask χ') Unit}
    (hperforms : j.far.worker.Performs j.clock i worker) (hi : i.IsOrdinary) :
    ∃ j' w', j.Onward j' ∧ j'.Able registry window all w' ∧ j'.far.worker = worker ∧
      w'.sent = w.sent := by
  obtain ⟨front, back, htaken, hcarries⟩ := h.carries.workedFar hwindow hperforms hi
  have hstep : Step j _ _ := .workedFar hperforms hi
  have hall := h.all
  have hfew := h.few
  refine ⟨_, _, ⟨_, rfl, hstep⟩, ⟨hcarries, ?_, hstep.lively h.lively, ?_, h.inTime⟩, rfl, rfl⟩
  · simpa [Way.all, Way.waiting, htaken] using hall
  · simp only [Way.waiting, List.length_append, htaken] at hfew ⊢
    omega

/-- The near thread handles the acknowledgments that it has. -/
theorem drainNear (h : j.Able registry window all w) :
    ∃ j' w', j.Reaches j' ∧ j'.Able registry window all w' ∧ j'.near.worker.room.load = 0 ∧
      w'.confirmed = w.confirmed ∧ w'.taken = w.taken ∧ w'.sent = w.sent := by
  generalize hworker : j.near.worker = worker
  -- The thread takes steps after which it has less to do, as long as there is something to do.
  induction worker using Worker.lighter_wf.induction generalizing j w with
  | _ worker ih =>
    subst hworker
    rcases Nat.eq_zero_or_pos j.near.worker.room.load with hzero | hpos
    · exact ⟨j, w, .refl, h, hzero, rfl, rfl, rfl⟩
    · obtain ⟨i, worker', hperforms, hi, hlighter⟩ := h.lively.near.exists_lighter hpos j.clock
      obtain ⟨j₁, w₁, honward, hable, hworker, hconfirmed, htaken, hsent⟩ :=
        h.workNear hperforms hi
      obtain ⟨j', w', hreaches, hable', hload, hconfirmed', htaken', hsent'⟩ :=
        ih worker' hlighter hable hworker
      exact ⟨j', w', .head honward hreaches, hable', hload, hconfirmed'.trans hconfirmed,
        htaken'.trans htaken, hsent'.trans hsent⟩

/-- The far thread serves the calls that it has. -/
theorem drainFar (h : j.Able registry window all w) (hwindow : window ≤ 65535) :
    ∃ j' w', j.Reaches j' ∧ j'.Able registry window all w' ∧ w'.taken = [] ∧
      w'.sent = w.sent := by
  generalize hworker : j.far.worker = worker
  induction worker using Worker.lighter_wf.induction generalizing j w with
  | _ worker ih =>
    subst hworker
    rcases Nat.eq_zero_or_pos j.far.worker.room.load with hzero | hpos
    · have hlane := (h.lively.far.lane_eq_nil hzero).1
      rw [h.carries.taken] at hlane
      exact ⟨j, w, .refl, h, List.map_eq_nil_iff.mp hlane, rfl⟩
    · obtain ⟨i, worker', hperforms, hi, hlighter⟩ := h.lively.far.exists_lighter hpos j.clock
      obtain ⟨j₁, w₁, honward, hable, hworker, hsent⟩ := h.workFar hwindow hperforms hi
      obtain ⟨j', w', hreaches, hable', htaken, hsent'⟩ := ih worker' hlighter hable hworker
      exact ⟨j', w', .head honward hreaches, hable', htaken, hsent'.trans hsent⟩

/-- The far station receives the calls on the link. -/
theorem receiveFar (h : j.Able registry window all w) :
    ∃ j' w', j.Reaches j' ∧ j'.Able registry window all w' ∧ w'.sent = [] := by
  induction hlength : w.sent.length generalizing j w with
  | zero => exact ⟨j, w, .refl, h, List.eq_nil_of_length_eq_zero hlength⟩
  | succ n ih =>
    have hdoor : j.far.worker.room.door = [] :=
      h.lively.far.prompt.door_eq_nil (congrArg UInt64.toNat h.carries.unlimited)
    have hfree : j.far.Free := Station.free_of_door_eq_nil hdoor
    obtain ⟨front, back, hsent, hfewer, hcarries⟩ := h.carries.receivedFar hfree
    rw [hlength, Nat.add_sub_cancel] at hfewer
    have hstep : Step j _ _ := .receivedFar hfree
    have hable : Able registry window all _ _ := {
      carries := hcarries
      all := by simpa [Way.all, Way.waiting, hsent] using h.all
      lively := hstep.lively h.lively
      few := by simpa [Way.waiting, hsent] using h.few
      inTime := h.inTime }
    obtain ⟨j', w', hreaches, hable', hdone⟩ := ih hable hfewer
    exact ⟨j', w', .head ⟨_, rfl, hstep⟩ hreaches, hable', hdone⟩

/-- The near station receives and handles the acknowledgments on the link, one after the other. -/
theorem receiveNear (h : j.Able registry window all w) (hload : j.near.worker.room.load = 0) :
    ∃ j' w', j.Reaches j' ∧ j'.Able registry window all w' ∧ w'.told = [] ∧ w'.confirmed = [] ∧
      w'.taken = w.taken ∧ w'.sent = w.sent := by
  induction hlength : w.confirmed.length generalizing j w with
  | zero =>
    have hlane := (h.lively.near.lane_eq_nil hload).1
    rw [h.carries.told] at hlane
    exact ⟨j, w, .refl, h, List.map_eq_nil_iff.mp hlane, List.eq_nil_of_length_eq_zero hlength,
      rfl, rfl⟩
  | succ n ih =>
    obtain ⟨-, hdoor, hroom⟩ := h.lively.near.lane_eq_nil hload
    have hfree : j.near.Free := Station.free_of_door_eq_nil hdoor
    have hwilling : j.near.Willing := fun frame error =>
      Worker.post_of_hasRoom h.lively.near.inLane hroom 0 ⟨.normal, .handle frame⟩ error
    obtain ⟨front, back, hconfirmed, hfewer, hcarries⟩ := h.carries.receivedNear hfree hwilling
    rw [hlength, Nat.add_sub_cancel] at hfewer
    have hstep : Step j _ _ := .receivedNear hfree hwilling
    have htracker := (Station.ready_receive (s := j.nearEnd) (c := MemoryLink.carrier .near)
      h.lively.near hfree).2
    have hable : Able registry window all _ _ := {
      carries := hcarries
      all := by simpa [Way.all, Way.waiting, hconfirmed] using h.all
      lively := hstep.lively h.lively
      few := by simpa [Way.waiting, hconfirmed] using h.few
      inTime := (congrArg (·.overdue j.clock) htracker).trans h.inTime }
    obtain ⟨j₁, w₁, hdrains, hable₁, hload₁, hconfirmed₁, htaken₁, hsent₁⟩ := hable.drainNear
    obtain ⟨j', w', hreaches, hable', htold, hdone, htaken, hsent⟩ :=
      ih hable₁ hload₁ ((congrArg List.length hconfirmed₁).trans hfewer)
    exact ⟨j', w', .head ⟨_, rfl, hstep⟩ (hdrains.trans hreaches), hable', htold, hdone,
      htaken.trans htaken₁, hsent.trans hsent₁⟩

/-- All calls can be brought to their ends: the link is emptied and both threads work off what they
have. -/
theorem exists_done (h : j.Able registry window all w) (hwindow : window ≤ 65535) :
    ∃ j', j.Reaches j' ∧ j'.Done all := by
  obtain ⟨j₁, w₁, hreaches₁, hable₁, hsent₁⟩ := h.receiveFar
  obtain ⟨j₂, w₂, hreaches₂, hable₂, htaken₂, hsent₂⟩ := hable₁.drainFar hwindow
  obtain ⟨j₃, w₃, hreaches₃, hable₃, hload₃, -, htaken₃, hsent₃⟩ := hable₂.drainNear
  obtain ⟨j₄, w₄, hreaches₄, hable₄, htold, hconfirmed, htaken₄, hsent₄⟩ :=
    hable₃.receiveNear hload₃
  have hnone : w₄.waiting = [] := by
    rw [Way.waiting, htold, hconfirmed, htaken₄, htaken₃, htaken₂, hsent₄, hsent₃, hsent₂, hsent₁]
    rfl
  refine ⟨j₄, hreaches₁.trans (hreaches₂.trans (hreaches₃.trans hreaches₄)), ?_⟩
  rw [← hable₄.all]
  exact hable₄.carries.done hnone

end Able

/-! ## Remote calls and local calls -/

/-- Over a link that loses nothing, remote calls are like calls of the endpoints themselves: every
call succeeds, the endpoints are called with the arguments of the first calls, in order, and the
successes of the first of these are published, in order; the others are in flight. Once all
acknowledgments are handled, and so when nothing is under way any more, this holds of all calls; and
unless a frame is late, there is always a way to get there without another call. -/
theorem Run.remote_calls_like_local_calls {start : Joint Value ρ ρ' χ χ'}
    (hopened : start.Opened nearConfig farConfig outside outside') (hrun : Run start events j)
    (htimely : Timely events) :
    ∃ (sent : List (Errand Value)) (arrived : Nat),
      calls events = sent.map (fun x => (x.call, .ok x.seq)) ∧
      Sequence.Consecutive 0 (sent.map Errand.seq) j.near.engine.dispatcher.sequence.upcoming ∧
      acks events ≤ arrived ∧ arrived ≤ sent.length ∧
      j.far.engine.outside.2 = (sent.take arrived).map Errand.received ∧
      j.near.engine.delivered = (sent.take (acks events)).map Errand.success ∧
      j.near.engine.inFlight = sent.length - acks events ∧
      j.near.engine.retryPending =
        (if j.near.engine.outbound.retry.isSome then sent.length - acks events else 0) ∧
      (acks events = sent.length → j.Done sent) ∧
      (j.Quiet → acks events = sent.length) ∧
      (j.near.engine.outbound.tracker.overdue j.clock = [] →
        ∃ more j', Run start (events ++ more) j' ∧ calls more = [] ∧ j'.Done sent) := by
  obtain ⟨w, hcarries, hcalls, hacks, hfew⟩ :=
    hrun.carries hopened.carries hopened.window htimely
  have hlength : w.all.length = w.settled.length + w.waiting.length := List.length_append
  have hwaiting : w.all.length - w.settled.length = w.waiting.length := by omega
  have hserved : w.all.take w.served.length = w.served := by
    rw [w.all_eq, List.append_assoc, List.take_left]
  have hsettled : w.all.take w.settled.length = w.settled := List.take_left
  refine ⟨w.all, w.served.length, hcalls, hcarries.numbered, ?_, ?_, ?_, ?_, ?_, ?_, ?_, ?_, ?_⟩
  · rw [hacks, Way.served, List.length_append, List.length_append]
    omega
  · rw [w.all_eq, List.length_append, List.length_append]
    omega
  · rw [hserved, hcarries.far.received]
  · rw [hacks, hsettled, hcarries.delivered]
  · rw [hacks, hwaiting, hcarries.near.inFlight_eq]
  · rw [hacks, hwaiting, hcarries.near.retryPending_eq]
  · intro hdone
    exact hcarries.done (List.eq_nil_of_length_eq_zero (by omega))
  · intro hquiet
    have htold := List.map_eq_nil_iff.mp (hcarries.told.symm.trans hquiet.near)
    have hconfirmed := List.map_eq_nil_iff.mp (hcarries.confirmed.symm.trans (hquiet.link .near))
    have htaken := List.map_eq_nil_iff.mp (hcarries.taken.symm.trans hquiet.far)
    have hsent := List.map_eq_nil_iff.mp (hcarries.sent.symm.trans (hquiet.link .far))
    have hnone : w.waiting = [] := by
      rw [Way.waiting, htold, hconfirmed, htaken, hsent]
      rfl
    rw [hacks, Way.all, hnone, List.append_nil]
  · intro hinTime
    have hable : j.Able _ _ _ w := ⟨hcarries, rfl, hrun.lively hopened.lively, hfew, hinTime⟩
    obtain ⟨j', hreaches, hdone⟩ := hable.exists_done hopened.window
    obtain ⟨more, hrun', hmore⟩ := hrun.of_reaches hreaches
    exact ⟨more, j', hrun', hmore, hdone⟩

/-- A call with a truth value in binary form. -/
def callWithTrue : RemoteCall Shape.Value := ⟨7, ⟨.bool, true⟩, (Binary.codec .bool).serializer⟩

/-- An endpoint for this call, which does nothing. -/
def endpointForTrue : UInt16 × Invoker (Unit × List (UInt16 × Argument Shape.Value)) :=
  (7, .decoding callWithTrue.serializer (Invoker.noting 7 Shape.bool fun _ _ => (.done, ())))

/-- With the settings that there are by default, a call is made, received, served and
acknowledged. -/
theorem Run.remote_calls_like_local_calls_of_call :
    ∃ (start j : Joint Shape.Value Unit Unit Unit Unit) (events : List (Event Shape.Value)),
      start.Opened {} {} () () ∧ Run start events j ∧ Timely events ∧
      calls events = [(callWithTrue, .ok 0)] ∧ acks events = 1 ∧
      j.far.engine.outside.2 = [(7, ⟨.bool, true⟩)] ∧
      j.near.engine.delivered = [⟨7, 0, .success⟩] ∧
      j.near.engine.inFlight = 0 ∧ j.near.engine.retryPending = 0 := by
  let start : Joint Shape.Value Unit Unit Unit Unit := onLink {} {} () () [endpointForTrue]
  have hopened : start.Opened {} {} () () :=
    opened_onLink (by decide) (by decide) rfl (by decide) rfl () () [endpointForTrue]
  have hstart : Run start [] (onLink {} {} () () [endpointForTrue]) := .start
  have hcalled := hstart.step (@Step.called _ _ _ _ _ _ _ callWithTrue [1]
    ⟨rfl, ⟨_, rfl⟩, rfl, by decide, rfl⟩)
  have hfarBegun := hcalled.step (.workedFar (.begin rfl) trivial)
  have hfarReady := hfarBegun.step (.workedFar (@Worker.Performs.await _ _ _ _ 0 rfl) trivial)
  have harrived := hfarReady.step (.receivedFar nofun)
  have hserved := harrived.step (.workedFar (@Worker.Performs.look _ _ _ _ 100000000 rfl) trivial)
  have hnearBegun := hserved.step (.workedNear (.begin rfl) trivial nofun)
  have hnearReady := hnearBegun.step
    (.workedNear (@Worker.Performs.await _ _ _ _ 0 rfl) trivial nofun)
  have hconfirmed := hnearReady.step (.receivedNear nofun fun _ _ => nofun)
  have hsettled := hconfirmed.step
    (.workedNear (@Worker.Performs.look _ _ _ _ 100000000 rfl) trivial nofun)
  let events : List (Event Shape.Value) := [.called callWithTrue (.ok 0), .worked .far none,
    .worked .far none, .received .far, .worked .far (some ⟨.new 7 0 1, [1]⟩), .worked .near none,
    .worked .near none, .received .near, .worked .near (some ⟨.ack 0, []⟩)]
  have hrun : Run _ events _ := hsettled
  have htimely : Timely events := timely_of_length_le (by simp [events])
  obtain ⟨sent, arrived, hcalls, -, -, -, -, -, -, -, hdone, -, -⟩ :=
    hrun.remote_calls_like_local_calls hopened htimely
  obtain ⟨x, rfl, hx⟩ := List.map_eq_singleton_iff.mp hcalls.symm
  obtain ⟨hcall, hseq⟩ := Prod.mk.inj hx
  obtain ⟨hreceived, hdelivered, hinFlight, hpending⟩ := hdone rfl
  refine ⟨_, _, events, hopened, hrun, htimely, rfl, rfl, ?_, ?_, hinFlight, hpending⟩
  · rw [hreceived, List.map_singleton, Errand.received, hcall]
    rfl
  · rw [hdelivered, List.map_singleton, Errand.success, hcall, Except.ok.inj hseq]
    rfl

end Joint

end Courier
