import Courier.Proofs.Engine.Joint
import Mathlib.Data.List.DropRight

/-!
# Calls on their way

Every call over a link that loses nothing is at one place of its way: on the link, with the far
thread, or, as an acknowledgment, on the link or with the near thread. All of these places are
queues, so that calls do not overtake each other, and what each engine has done can be told from
where the calls are.
-/

namespace Courier

variable {κ : Type} {Value : κ → Type}

namespace Engine

variable {σ ρ χ : Type} {e : Engine σ ρ} {c : Carrier σ} {clock : Time} {frame : Frame}
  {i : Worker.Incident (EngineTask χ) Unit}

/-- Whoever waits for acknowledgments goes on in their order. -/
theorem Awaits.attend {front back : List (Errand Value)} (h : e.Awaits (front ++ back))
    (hnodup : ((front ++ back).map Errand.seq).Nodup)
    (hfront : front.map Errand.ack = i.frame?.toList)
    (hscan : ∀ timer, i = .fire timer → (e.scan c clock fun _ => clock).2 = e) :
    (e.attend c clock i).Awaits back ∧
      (e.attend c clock i).delivered = e.delivered ++ front.map Errand.success ∧
        (e.attend c clock i).dispatcher = e.dispatcher ∧
          (e.attend c clock i).outbound.medium = e.outbound.medium ∧
            ∀ now, e.outbound.tracker.overdue now = [] →
              (e.attend c clock i).outbound.tracker.overdue now = [] := by
  cases hframe : i.frame? with
  | none =>
    rw [hframe] at hfront
    obtain rfl := List.map_eq_nil_iff.mp hfront
    rw [attend_of_no_frame hframe hscan, List.map_nil, List.append_nil]
    exact ⟨h, rfl, rfl, rfl, fun _ hlate => hlate⟩
  | some f =>
    rw [hframe] at hfront
    obtain ⟨x, rfl, rfl⟩ := List.map_eq_singleton_iff.mp hfront
    rw [attend_of_frame hframe, h.handle_ack List.mem_cons_self]
    rw [List.singleton_append, List.map_cons, List.nodup_cons] at hnodup
    exact ⟨h.settled hnodup.1, rfl, rfl, rfl, fun _ => Tracker.overdue_erase_eq_nil⟩

/-- Calls are acknowledged and served in their order. -/
theorem HasServed.attend {e : Engine MemoryLink (ρ × List (UInt16 × Argument Value))}
    {registry : Registry (ρ × List (UInt16 × Argument Value))} {window : Nat}
    {done front : List (Errand Value)} (h : e.HasServed registry window done)
    (hdeliverable : ∀ x ∈ front, x.Deliverable registry)
    (hnew : ∀ x rest, front = x :: rest →
      x.frame.key ∉ (done.map fun x => x.frame.key).rtake window)
    (hlossless : e.outbound.medium.Lossless) (hfront : front.map Errand.frame = i.frame?.toList)
    (clock : Time) :
    let e' := e.attend (MemoryLink.carrier .far) clock i
    e'.HasServed registry window (done ++ front) ∧ e'.outbound.medium.Lossless ∧
      e'.outbound.medium.arrived .near =
          e.outbound.medium.arrived .near ++ front.map (fun x => x.ack.bytes) ∧
        e'.outbound.medium.arrived .far = e.outbound.medium.arrived .far := by
  cases hframe : i.frame? with
  | none =>
    rw [hframe] at hfront
    obtain rfl := List.map_eq_nil_iff.mp hfront
    have hscan (timer : Timer Unit) (_ : i = .fire timer) :
        (e.scan (MemoryLink.carrier .far) clock fun _ => clock).2 = e :=
      scan_of_overdue_eq_nil h.wired.heard (h.overdue_eq_nil clock)
    rw [attend_of_no_frame hframe hscan, List.append_nil, List.map_nil, List.append_nil]
    exact ⟨h, hlossless, rfl, rfl⟩
  | some f =>
    rw [hframe] at hfront
    obtain ⟨x, rfl, rfl⟩ := List.map_eq_singleton_iff.mp hfront
    obtain ⟨link, hsend, hlossless', hnear, hfar⟩ := hlossless.send .far x.whole_ack
    have hx : x.Deliverable registry := hdeliverable x List.mem_cons_self
    obtain ⟨hserved, hmedium⟩ := h.handle (c := MemoryLink.carrier .far) hx (hnew x [] rfl) hsend
      clock
    rw [attend_of_frame hframe]
    dsimp only
    rw [hmedium]
    exact ⟨hserved, hlossless', hnear, hfar⟩

end Engine

namespace Joint

/-! ## Where the calls are -/

/-- The calls that were made by how far they have come, each part in the order of the calls. -/
structure Way {κ : Type} (Value : κ → Type) where
  /-- The acknowledgment was handled. -/
  settled : List (Errand Value) := []
  /-- The acknowledgment is with the near thread. -/
  told : List (Errand Value) := []
  /-- The acknowledgment is on the link. -/
  confirmed : List (Errand Value) := []
  /-- The call is with the far thread. -/
  taken : List (Errand Value) := []
  /-- The call is on the link. -/
  sent : List (Errand Value) := []

namespace Way

/-- The calls that have reached their endpoints. -/
def served (w : Way Value) : List (Errand Value) := w.settled ++ w.told ++ w.confirmed

/-- The calls for whose acknowledgments the near engine waits. -/
def waiting (w : Way Value) : List (Errand Value) := w.told ++ w.confirmed ++ w.taken ++ w.sent

/-- All calls. -/
def all (w : Way Value) : List (Errand Value) := w.settled ++ w.waiting

/-- All calls, from those that are done to those that are still under way. -/
theorem all_eq (w : Way Value) : w.all = w.served ++ w.taken ++ w.sent := by
  simp [all, served, waiting]

end Way

variable {ρ ρ' χ χ' : Type} {j j' : Joint Value ρ ρ' χ χ'} {w : Way Value}
  {registry : Registry (ρ' × List (UInt16 × Argument Value))} {window : Nat}
  {event : Event Value} {events : List (Event Value)} {x : Errand Value}
  {rest : List (Errand Value)}

/-- Two engines that have done what was to be done about the calls on their way. -/
structure Carries (registry : Registry (ρ' × List (UInt16 × Argument Value))) (window : Nat)
    (w : Way Value) (j : Joint Value ρ ρ' χ χ') : Prop where
  near : j.near.engine.Awaits w.waiting
  far : j.far.engine.HasServed registry window w.served
  lossless : j.link.Lossless
  nearLane : j.near.worker.room.InLane
  farLane : j.far.worker.room.InLane
  unlimited : j.far.worker.room.queue.config.maxDepth = 0
  told : j.near.worker.room.lane = w.told.map Errand.ack
  confirmed : j.link.arrived .near = w.confirmed.map fun x => x.ack.bytes
  taken : j.far.worker.room.lane = w.taken.map Errand.frame
  sent : j.link.arrived .far = w.sent.map fun x => x.frame.bytes
  deliverable : ∀ x ∈ w.taken ++ w.sent, x.Deliverable registry
  delivered : j.near.engine.delivered = w.settled.map Errand.success
  numbered : Sequence.Consecutive 0 (w.all.map Errand.seq)
    j.near.engine.dispatcher.sequence.upcoming

namespace Carries

/-- The numbers for whose acknowledgments an engine waits differ. -/
theorem nodup_waiting (h : j.Carries registry window w) (hfew : w.waiting.length ≤ 65536) :
    (w.waiting.map Errand.seq).Nodup := by
  have hnumbered := h.numbered
  rw [Way.all, List.map_append, ← List.append_nil (List.map _ _ ++ _)] at hnumbered
  exact hnumbered.nodup_stretch (by rwa [List.length_map])

/-- The next number is not in use. -/
theorem upcoming_not_mem (h : j.Carries registry window w) (hfew : w.waiting.length < 65536) :
    j.near.engine.dispatcher.sequence.upcoming ∉ w.waiting.map Errand.seq := by
  have hnumbered := h.numbered.concat
  rw [Way.all, List.map_append, List.append_assoc, ← List.append_nil (List.map _ _ ++ _)]
    at hnumbered
  have hnodup := hnumbered.nodup_stretch (by simpa using hfew)
  exact (List.nodup_cons.mp (List.nodup_append_comm.mp hnodup)).1

/-- What is to be served next is not remembered: its number was forgotten before it came into use
again. -/
theorem key_not_mem (h : j.Carries registry window w) (hwindow : window ≤ 65535)
    (htaken : w.taken = x :: rest) :
    x.frame.key ∉ (w.served.map fun x => x.frame.key).rtake window := by
  rw [List.rtake, List.length_map, ← List.map_drop]
  set front := w.served.take (w.served.length - window) with hfront
  set recent := w.served.drop (w.served.length - window) with hrecent
  have hserved : w.served = front ++ recent := (List.take_append_drop _ _).symm
  have hnumbered := h.numbered
  have hall : w.all = front ++ (recent ++ [x]) ++ (rest ++ w.sent) := by
    rw [w.all_eq, htaken, hserved]
    simp
  rw [hall, List.map_append, List.map_append] at hnumbered
  have hfew : ((recent ++ [x]).map Errand.seq).length ≤ 65536 := by
    rw [List.length_map, List.length_append, hrecent, List.length_drop, List.length_singleton]
    omega
  have hnodup := hnumbered.nodup_stretch hfew
  rw [List.map_append, List.map_singleton] at hnodup
  have hnew := (List.nodup_cons.mp (List.nodup_append_comm.mp hnodup)).1
  intro hmem
  obtain ⟨y, hy, hkey⟩ := List.mem_map.mp hmem
  have hseq : y.seq = x.seq := congrArg FrameKey.seq hkey
  rw [← hseq] at hnew
  exact hnew (List.mem_map_of_mem hy)

/-! ## What each step does to the calls -/

/-- A call joins those that are under way to the far end. -/
theorem called (h : j.Carries registry window w) (hfew : w.waiting.length < 65536)
    {call : RemoteCall Value} {payload : Bytes}
    (hdeliverable : call.Deliverable j.far.engine.registry payload) :
    ∃ x : Errand Value, x.call = call ∧ (j.call call).1 = .ok x.seq ∧
      (j.call call).2.Carries registry window { w with sent := w.sent ++ [x] } := by
  let x : Errand Value := ⟨call, j.near.engine.dispatcher.sequence.upcoming, payload⟩
  have hx : x.Deliverable registry := by
    rw [← h.far.registry_eq]
    exact hdeliverable
  obtain ⟨link, hsend, hlossless, hfar, hnear⟩ := h.lossless.send .near hx.whole_frame
  have hcall : j.nearEnd.engine.callRemote (MemoryLink.carrier .near) j.clock call.serializer
      call.argument.value call.id = (.ok x.seq, j.nearEnd.engine.called x j.clock link) :=
    Engine.Wired.callRemote_eq (h.near.lend j.link).wired hx rfl hsend
  have hjoint : j.call call = (.ok x.seq,
      j.putNear { j.near with engine := j.nearEnd.engine.called x j.clock link }) := by
    rw [Joint.call, hcall]
  have hwaiting : { w with sent := w.sent ++ [x] }.waiting = w.waiting ++ [x] :=
    (List.append_assoc ..).symm
  have hall : { w with sent := w.sent ++ [x] }.all = w.all ++ [x] := by
    rw [Way.all, hwaiting]
    exact (List.append_assoc ..).symm
  rw [hjoint]
  refine ⟨x, rfl, rfl, ?_⟩
  exact {
    h with
    near := by
      rw [hwaiting]
      exact (h.near.lend j.link).called hx (h.upcoming_not_mem hfew)
    lossless := hlossless
    confirmed := hnear.trans h.confirmed
    sent := by
      rw [List.map_append, ← h.sent]
      exact hfar
    deliverable := by
      intro y hy
      rw [← List.append_assoc] at hy
      rcases List.mem_append.mp hy with hy | hy
      · exact h.deliverable y hy
      · rw [List.mem_singleton.mp hy]
        exact hx
    numbered := by
      rw [hall, List.map_append]
      exact h.numbered.concat }

/-- The near loop takes the first acknowledgment off the link, if there is one. -/
theorem receivedNear (h : j.Carries registry window w) (hfree : j.near.Free)
    (hwilling : j.near.Willing) :
    ∃ front back, w.confirmed = front ++ back ∧ back.length = w.confirmed.length - 1 ∧
      (j.putNear (j.nearEnd.receive (MemoryLink.carrier .near))).Carries registry window
        { w with told := w.told ++ front, confirmed := back } := by
  have harrived : j.link.arrived .near = (w.confirmed.map Errand.ack).map Frame.bytes := by
    rw [h.confirmed, List.map_map]
    rfl
  have hwhole : ∀ f ∈ w.confirmed.map Errand.ack, f.Whole := by
    intro f hf
    obtain ⟨x, -, rfl⟩ := List.mem_map.mp hf
    exact x.whole_ack
  obtain ⟨link, worker, front, back, hreceive, hsplit, htakes⟩ :=
    Station.takes_receive h.lossless harrived hwhole h.nearLane hfree hwilling
  obtain ⟨first, last, hconfirmed, rfl, rfl⟩ := List.map_eq_append_iff.mp hsplit
  have hwaiting : { w with told := w.told ++ first, confirmed := last }.waiting = w.waiting := by
    simp [Way.waiting, hconfirmed]
  have hlength : last.length = w.confirmed.length - 1 := by
    simpa [hconfirmed] using htakes.length_back
  refine ⟨first, last, hconfirmed, hlength, ?_⟩
  rw [nearEnd, hreceive]
  exact {
    h with
    near := by
      rw [hwaiting]
      exact h.near.lend link
    far := by
      have hserved : { w with told := w.told ++ first, confirmed := last }.served = w.served := by
        simp [Way.served, hconfirmed]
      rw [hserved]
      exact h.far
    lossless := htakes.lossless
    nearLane := htakes.inLane
    told := by
      rw [List.map_append, ← h.told]
      exact htakes.lane
    confirmed := by
      have harrived := htakes.arrived
      rw [List.map_map] at harrived
      exact harrived
    sent := htakes.opposite.trans h.sent
    numbered := by
      rw [Way.all, hwaiting]
      exact h.numbered }

/-- The far loop takes the first frame off the link, if there is one. -/
theorem receivedFar (h : j.Carries registry window w) (hfree : j.far.Free) :
    ∃ front back, w.sent = front ++ back ∧ back.length = w.sent.length - 1 ∧
      (j.putFar (j.farEnd.receive (MemoryLink.carrier .far))).Carries registry window
        { w with taken := w.taken ++ front, sent := back } := by
  have harrived : j.link.arrived .far = (w.sent.map Errand.frame).map Frame.bytes := by
    rw [h.sent, List.map_map]
    rfl
  have hwhole : ∀ f ∈ w.sent.map Errand.frame, f.Whole := by
    intro f hf
    obtain ⟨x, hx, rfl⟩ := List.mem_map.mp hf
    exact (h.deliverable x (List.mem_append_right _ hx)).whole_frame
  have hroom : j.far.worker.room.queue.hasRoom = true :=
    TaskQueue.hasRoom_iff.mpr (.inl (congrArg UInt64.toNat h.unlimited))
  have hwilling : j.far.Willing := fun frame error =>
    Worker.post_of_hasRoom h.farLane hroom 0 ⟨.normal, .handle frame⟩ error
  obtain ⟨link, worker, front, back, hreceive, hsplit, htakes⟩ :=
    Station.takes_receive h.lossless harrived hwhole h.farLane hfree hwilling
  obtain ⟨first, last, hsent, rfl, rfl⟩ := List.map_eq_append_iff.mp hsplit
  have hwaiting : { w with taken := w.taken ++ first, sent := last }.waiting = w.waiting := by
    simp [Way.waiting, hsent]
  have hlength : last.length = w.sent.length - 1 := by
    simpa [hsent] using htakes.length_back
  refine ⟨first, last, hsent, hlength, ?_⟩
  rw [farEnd, hreceive]
  exact {
    h with
    near := by
      rw [hwaiting]
      exact h.near
    far := h.far.lend link
    lossless := htakes.lossless
    farLane := htakes.inLane
    unlimited := htakes.config.symm ▸ h.unlimited
    confirmed := htakes.opposite.trans h.confirmed
    taken := by
      rw [List.map_append, ← h.taken]
      exact htakes.lane
    sent := by
      have harrived := htakes.arrived
      rw [List.map_map] at harrived
      exact harrived
    deliverable := by
      intro x hx
      refine h.deliverable x ?_
      rw [hsent, ← List.append_assoc]
      exact hx
    numbered := by
      rw [Way.all, hwaiting]
      exact h.numbered }

/-- The near thread handles the acknowledgment that it takes up, and the call is done. -/
theorem workedNear (h : j.Carries registry window w) (hfew : w.waiting.length ≤ 65536)
    {i : Worker.Incident (EngineTask χ) Unit} {worker : Worker (EngineTask χ) Unit}
    (hperforms : j.near.worker.Performs j.clock i worker) (hi : i.IsOrdinary)
    (hlate : ∀ timer, i = .fire timer → j.near.engine.outbound.tracker.overdue j.clock = []) :
    let j' := j.putNear (j.nearEnd.work (MemoryLink.carrier .near) j.clock i worker)
    (j.near.engine.outbound.tracker.overdue j.clock = [] →
      j'.near.engine.outbound.tracker.overdue j.clock = []) ∧
    ∃ front back, w.told = front ++ back ∧ front.length = i.frame?.toList.length ∧
      j'.Carries registry window { w with settled := w.settled ++ front, told := back } := by
  obtain ⟨hlane, hframes⟩ := hperforms.lane_eq h.nearLane hi
  rw [h.told] at hframes
  obtain ⟨front, back, htold, hfront, hback⟩ := List.map_eq_append_iff.mp hframes
  let w' : Way Value := { w with settled := w.settled ++ front, told := back }
  have hwaiting : w.waiting = front ++ w'.waiting := by
    simp [Way.waiting, htold, w']
  have hall : w'.all = w.all := by
    simp [Way.all, Way.waiting, htold, w']
  have hserved : w'.served = w.served := by
    simp [Way.served, htold, w']
  have hnear := h.near.lend j.link
  have hnodup := h.nodup_waiting hfew
  rw [hwaiting] at hnear hnodup
  have hscan (timer : Timer Unit) (htimer : i = .fire timer) :
      ((j.near.engine.lend j.link).scan (MemoryLink.carrier .near) j.clock
          fun _ => j.clock).2 =
        j.near.engine.lend j.link :=
    Engine.scan_of_overdue_eq_nil hnear.wired.heard (hlate timer htimer)
  obtain ⟨hawaits, hdelivered, hdispatcher, hmedium, hstill⟩ := hnear.attend hnodup hfront hscan
  have hlink : (j.putNear (j.nearEnd.work (MemoryLink.carrier .near) j.clock i worker)).link =
      j.link := hmedium
  have hsequence : (j.putNear (j.nearEnd.work (MemoryLink.carrier .near) j.clock i
      worker)).near.engine.dispatcher = j.near.engine.dispatcher := hdispatcher
  refine ⟨hstill j.clock, front, back, htold, ?_, ?_⟩
  · rw [← hfront, List.length_map]
  · exact {
      h with
      near := hawaits
      far := by
        rw [hserved]
        exact h.far
      lossless := by
        rw [hlink]
        exact h.lossless
      nearLane := hlane
      told := hback.symm
      confirmed := by
        rw [hlink]
        exact h.confirmed
      sent := by
        rw [hlink]
        exact h.sent
      delivered := by
        rw [List.map_append, ← h.delivered]
        exact hdelivered
      numbered := by
        rw [hall, hsequence]
        exact h.numbered }

/-- The far thread serves the frame that it takes up and acknowledges it. -/
theorem workedFar (h : j.Carries registry window w) (hwindow : window ≤ 65535)
    {i : Worker.Incident (EngineTask χ') Unit} {worker : Worker (EngineTask χ') Unit}
    (hperforms : j.far.worker.Performs j.clock i worker) (hi : i.IsOrdinary) :
    ∃ front back, w.taken = front ++ back ∧
      (j.putFar (j.farEnd.work (MemoryLink.carrier .far) j.clock i worker)).Carries registry
        window { w with confirmed := w.confirmed ++ front, taken := back } := by
  obtain ⟨hlane, hframes⟩ := hperforms.lane_eq h.farLane hi
  rw [h.taken] at hframes
  obtain ⟨front, back, htaken, hfront, hback⟩ := List.map_eq_append_iff.mp hframes
  let w' : Way Value := { w with confirmed := w.confirmed ++ front, taken := back }
  have hwaiting : w'.waiting = w.waiting := by
    simp [Way.waiting, htaken, w']
  have hserved : w'.served = w.served ++ front := by
    simp [Way.served, w']
  have hdeliverable : ∀ x ∈ front, x.Deliverable registry := by
    intro x hx
    refine h.deliverable x ?_
    rw [htaken, List.append_assoc]
    exact List.mem_append_left _ hx
  have hnew : ∀ x rest, front = x :: rest →
      x.frame.key ∉ (w.served.map fun x => x.frame.key).rtake window := by
    rintro x rest rfl
    exact h.key_not_mem hwindow htaken
  obtain ⟨hfar, hlossless, hconfirmed, hsent⟩ :=
    (h.far.lend j.link).attend hdeliverable hnew h.lossless hfront j.clock
  refine ⟨front, back, htaken, ?_⟩
  exact {
    h with
    near := by
      rw [hwaiting]
      exact h.near
    far := by
      rw [hserved]
      exact hfar
    lossless := hlossless
    farLane := hlane
    unlimited := hperforms.deals_run.frame.2.1.symm ▸ h.unlimited
    confirmed := by
      rw [List.map_append, ← h.confirmed]
      exact hconfirmed
    taken := hback.symm
    sent := hsent.trans h.sent
    deliverable := by
      intro x hx
      refine h.deliverable x ?_
      rw [htaken, List.append_assoc]
      exact List.mem_append_right _ hx
    numbered := by
      rw [Way.all, hwaiting]
      exact h.numbered }

end Carries

/-- A call is answered with its number. -/
def answered (x : Errand Value) : RemoteCall Value × Except NetworkError UInt16 :=
  (x.call, .ok x.seq)

/-- A call is added to those on their way, and all others stay behind those that were made earlier;
an acknowledgment that is handled is one that was not handled before. -/
theorem Step.carries (h : j.Carries registry window w) (hwindow : window ≤ 65535)
    (hfew : w.waiting.length ≤ 65536) (hstep : Step j event j')
    (hroom : event.call?.isSome → w.waiting.length < 65536) :
    ∃ w', j'.Carries registry window w' ∧
      w'.all.map answered = w.all.map answered ++ event.call?.toList ∧
        w'.settled.length = w.settled.length + [event].countP Event.isHandling := by
  cases hstep with
  | tick hle => exact ⟨w, { h with }, (List.append_nil _).symm, rfl⟩
  | @called call payload hdeliverable =>
    obtain ⟨x, rfl, hresult, hcarries⟩ := h.called (hroom rfl) hdeliverable
    refine ⟨_, hcarries, ?_, rfl⟩
    rw [hresult]
    simp [Way.all, Way.waiting, Event.call?, answered]
  | receivedNear hfree hwilling =>
    obtain ⟨front, back, hsplit, -, hcarries⟩ := h.receivedNear hfree hwilling
    refine ⟨_, hcarries, ?_, rfl⟩
    simp [Way.all, Way.waiting, Event.call?, hsplit]
  | receivedFar hfree =>
    obtain ⟨front, back, hsplit, -, hcarries⟩ := h.receivedFar hfree
    refine ⟨_, hcarries, ?_, rfl⟩
    simp [Way.all, Way.waiting, Event.call?, hsplit]
  | @workedNear i worker hperforms hi hlate =>
    obtain ⟨-, front, back, hsplit, hlength, hcarries⟩ := h.workedNear hfew hperforms hi hlate
    refine ⟨_, hcarries, ?_, ?_⟩
    · simp [Way.all, Way.waiting, Event.call?, hsplit]
    · rw [List.length_append, hlength]
      cases i.frame? <;> rfl
  | workedFar hperforms hi =>
    obtain ⟨front, back, hsplit, hcarries⟩ := h.workedFar hwindow hperforms hi
    refine ⟨_, hcarries, ?_, rfl⟩
    simp [Way.all, Way.waiting, Event.call?, hsplit]

/-- Throughout a run every call is somewhere on its way, in order. -/
theorem Run.carries {start : Joint Value ρ ρ' χ χ'} (hrun : Run start events j)
    (hstart : start.Carries registry window {}) (hwindow : window ≤ 65535)
    (htimely : Timely events) :
    ∃ w, j.Carries registry window w ∧ calls events = w.all.map answered ∧
      acks events = w.settled.length ∧ w.waiting.length ≤ 65536 := by
  induction hrun with
  | start => exact ⟨{}, hstart, rfl, rfl, Nat.zero_le _⟩
  | @step events event j j' hrun hstep ih =>
    obtain ⟨hbefore, hlast⟩ := htimely.of_concat
    obtain ⟨w, hcarries, hcalls, hacks, hfew⟩ := ih hbefore
    have hlength (w : Way Value) : w.all.length = w.settled.length + w.waiting.length :=
      List.length_append
    have hroom (hcall : event.call?.isSome) : w.waiting.length < 65536 := by
      have hnumber := hlast hcall
      rw [hcalls, hacks, List.length_map, hlength] at hnumber
      omega
    obtain ⟨w', hcarries', hcalls', hacks'⟩ := hstep.carries hcarries hwindow hfew hroom
    have hplace : w.waiting.length + event.call?.toList.length ≤ 65536 := by
      cases hcall : event.call? with
      | none => exact hfew
      | some call => exact hroom (by rw [hcall]; rfl)
    have hall := congrArg List.length hcalls'
    rw [List.length_append, List.length_map, List.length_map, hlength, hlength] at hall
    refine ⟨w', hcarries', ?_, ?_, by omega⟩
    · rw [hcalls', ← hcalls]
      exact calls_concat events event
    · rw [hacks', ← hacks]
      exact List.countP_append

/-! ## The beginning -/

variable {nearConfig farConfig : EngineConfig} {outside : ρ} {outside' : ρ'}

/-- Nothing is on its way when the engines were just put together. -/
theorem Opened.carries (h : j.Opened nearConfig farConfig outside outside') :
    j.Carries j.far.engine.registry farConfig.dedupeWindow.toNat {} := by
  obtain ⟨hnear, hnearRoom, -⟩ := h.near.fresh
  obtain ⟨hfar, hfarRoom, -⟩ := h.far.fresh
  have hnearLane := Room.inLane_new (χ := χ) nearConfig.threadName nearConfig.queue
  have hfarLane := Room.inLane_new (χ := χ') farConfig.threadName farConfig.queue
  rw [← hnearRoom] at hnearLane
  rw [← hfarRoom] at hfarLane
  exact {
    near := hnear.awaits
    far := hfar.hasServed h.acknowledges
    lossless := h.lossless
    nearLane := hnearLane.1
    farLane := hfarLane.1
    unlimited := by
      rw [hfarRoom]
      exact h.unlimited
    told := hnearLane.2
    confirmed := h.empty .near
    taken := hfarLane.2
    sent := h.empty .far
    deliverable := by
      intro x hx
      cases hx
    delivered := hnear.delivered
    numbered := by
      rw [hnear.upcoming]
      exact .nil }

end Joint

end Courier
