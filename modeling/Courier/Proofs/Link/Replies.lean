import Courier.Proofs.Link.Datagrams

/-!
# Where datagrams go

A transport with a fixed remote address sends everything there. One without answers whoever sent
the last datagram that it has taken for a frame, and has nobody to answer before there was one.
Whatever it sends is a whole frame within the limit.
-/

namespace Courier.UdpEnd

variable {config : UdpConfig} {events : List Event} {e e' : UdpEnd} {event : Event}
  {d : Datagram} {rest : List Datagram} {header : Header} {payload bytes : Bytes}
  {target : SocketAddress}

/-- The datagrams that were received, each with what became of it, in order. -/
def received (config : UdpConfig) (events : List Event) :
    List (Datagram × Except FrameError Frame) :=
  (arrivals config events).zip (answers events)

/-- Who sent the last datagram that was received as a frame. -/
def lastSender (config : UdpConfig) (events : List Event) : Option SocketAddress :=
  ((received config events).filter (·.2.isOk)).getLast?.map (·.1.source)

/-- Where a transport sends to after some events: to its remote address, if that is fixed. -/
def destination (config : UdpConfig) (events : List Event) : Option SocketAddress :=
  match config.remoteAddress with
  | some remote => some remote
  | none => lastSender config events

/-! ## One datagram -/

/-- A datagram is a frame that fits. -/
theorem datagram_eq_ok_iff : e.datagram header payload = .ok bytes ↔
    Frame.encode header payload = .ok bytes ∧ bytes.length ≤ e.limit := by
  unfold datagram
  cases Frame.encode header payload with
  | error cause => simp
  | ok written =>
    dsimp only
    by_cases hlong : e.limit < written.length
    · rw [if_pos hlong]
      constructor
      · rintro ⟨⟩
      · rintro ⟨⟨⟩, hfits⟩
        omega
    · rw [if_neg hlong]
      constructor
      · rintro ⟨⟩
        exact ⟨rfl, by omega⟩
      · rintro ⟨⟨⟩, -⟩
        rfl

/-- A frame is sent if it fits, there is somebody to send it to and the socket takes it. -/
theorem send_eq_ok_iff : (e.send header payload).1 = .ok (target, bytes) ↔
    e.datagram header payload = .ok bytes ∧ e.peer = some target ∧ e.refused = false := by
  unfold send
  split
  · next hdatagram => simp [hdatagram]
  · next hpeer => simp [hpeer]
  · next written peer hdatagram hpeer =>
    cases hrefused : e.refused with
    | true => simp
    | false => simp [hdatagram, hpeer, and_comm]

/-- Sending leaves the address that answers go to. -/
@[simp] theorem peer_send (e : UdpEnd) (header : Header) (payload : Bytes) :
    (e.send header payload).2.peer = e.peer := by
  unfold send
  split
  · rfl
  · rfl
  · split <;> rfl

/-- What arrives does not change who is spoken to; receiving it may. -/
@[simp] theorem peer_arrive (e : UdpEnd) (d : Datagram) : (e.arrive d).peer = e.peer := by
  unfold arrive
  split <;> rfl

/-- A frame redirects answers, unless the remote address is fixed. -/
theorem peer_receive_of_frame {f : Frame} (hframe : e.receive.1 = .ok (some f)) :
    ∃ d rest, e.inbox = d :: rest ∧
      e.receive.2.peer = if e.isConnected then e.peer else some d.source := by
  unfold receive at hframe ⊢
  split at hframe
  · cases hframe
  · next hready =>
    rw [if_neg hready]
    split at hframe
    · cases hframe
    · next d rest hinbox =>
      refine ⟨d, rest, hinbox, ?_⟩
      dsimp only at hframe ⊢
      unfold accept at hframe ⊢
      split at hframe
      · rfl
      · cases hframe

/-- Whatever else a receive comes to, answers go where they went. -/
theorem peer_receive_of_no_frame (hno : ∀ f, e.receive.1 ≠ .ok (some f)) :
    e.receive.2.peer = e.peer := by
  have hreceives := e.receives_receive
  generalize e.receive = received at hno hreceives
  cases hreceives with
  | refused => rfl
  | empty => rfl
  | frame => exact absurd rfl (hno _)
  | malformed => rfl

/-! ## A run -/

/-- What was received is told by as many arrivals as there are answers. -/
theorem Served.received_eq (h : Served config events e) :
    ∃ taken, arrivals config events = taken ++ e.inbox ∧
      taken.length = (answers events).length ∧
      received config events = taken.zip (answers events) := by
  obtain ⟨taken, htaken, hanswers⟩ := h.answered
  have hlength := hanswers.length_eq
  refine ⟨taken, htaken, hlength, ?_⟩
  have hzip : (taken ++ e.inbox).zip (answers events ++ []) =
      taken.zip (answers events) ++ e.inbox.zip [] := List.zip_append hlength
  rwa [List.append_nil, List.zip_nil_right, List.append_nil, ← htaken] at hzip

/-- What is no answer to a datagram leaves what was received. -/
theorem Served.received_of_no_answer (h : Served config events e)
    (hanswer : event.answer? = none) :
    received config (events ++ [event]) = received config events := by
  obtain ⟨taken, htaken, hlength, hreceived⟩ := h.received_eq
  rw [hreceived, received, arrivals_append, answers_append, hanswer, Option.toList_none, htaken,
    List.append_assoc, List.zip_append hlength, List.zip_nil_right, List.append_nil]

/-- An answer is one to the oldest datagram in the inbox. -/
theorem Served.received_of_answer {answer : Except FrameError Frame} (h : Served config events e)
    (hinbox : e.inbox = d :: rest) (harrival : event.datagram? config = none)
    (hanswer : event.answer? = some answer) :
    received config (events ++ [event]) = received config events ++ [(d, answer)] := by
  obtain ⟨taken, htaken, hlength, hreceived⟩ := h.received_eq
  rw [hreceived, received, arrivals_append, answers_append, hanswer, harrival, Option.toList_some,
    Option.toList_none, List.append_nil, htaken, hinbox, List.zip_append hlength]
  simp

/-- Who was heard last depends on what was received. -/
theorem lastSender_of_received_eq {earlier : List Event}
    (h : received config events = received config earlier) :
    lastSender config events = lastSender config earlier := by
  rw [lastSender, h, lastSender]

/-- Whom the next frame goes to depends on what was received. -/
theorem destination_of_received_eq {earlier : List Event}
    (h : received config events = received config earlier) :
    destination config events = destination config earlier := by
  rw [destination, lastSender_of_received_eq h, destination]

/-- Only the answers that are frames count. -/
theorem lastSender_of_received_concat {earlier : List Event} {answer : Except FrameError Frame}
    (h : received config events = received config earlier ++ [(d, answer)]) :
    lastSender config events =
      if answer.isOk then some d.source else lastSender config earlier := by
  rw [lastSender, h, List.filter_append, List.filter_singleton]
  cases answer with
  | ok f => simp [Except.isOk, Except.toBool]
  | error cause => simp [Except.isOk, Except.toBool, lastSender]

/-- At any time a transport sends to its remote address or to the last sender of a frame. -/
theorem Performs.peer_eq (hserved : Served config events e)
    (hpeer : e.peer = destination config events) (hperforms : e.Performs event e') :
    e'.peer = destination config (events ++ [event]) := by
  cases hperforms with
  | arrive d =>
    rw [peer_arrive, hpeer, destination_of_received_eq (hserved.received_of_no_answer rfl)]
  | refuse => rw [destination_of_received_eq (hserved.received_of_no_answer rfl), ← hpeer]
  | send header payload =>
    rw [peer_send, hpeer, destination_of_received_eq (hserved.received_of_no_answer rfl)]
  | receive =>
    have hreceives := e.receives_receive
    have hmoved := fun f => peer_receive_of_frame (e := e) (f := f)
    generalize e.receive = result at hmoved hreceives
    cases hreceives with
    | refused _ hkind =>
      have hanswer := answer?_of_refused hkind
      rw [destination_of_received_eq (hserved.received_of_no_answer hanswer), ← hpeer]
    | empty => rw [destination_of_received_eq (hserved.received_of_no_answer rfl), ← hpeer]
    | @malformed d _ cause _ hinbox _ =>
      have hreceived : received config (events ++ [.receive (.error (.protocol cause))]) =
          received config events ++ [(d, .error cause)] :=
        hserved.received_of_answer hinbox rfl rfl
      rw [destination, lastSender_of_received_concat hreceived]
      exact hpeer
    | @frame d _ f _ _ _ hinbox _ =>
      have hreceived : received config (events ++ [.receive (.ok (some f))]) =
          received config events ++ [(d, .ok f)] := hserved.received_of_answer hinbox rfl rfl
      obtain ⟨d', rest', hinbox', hpeer'⟩ := hmoved f rfl
      obtain ⟨rfl, -⟩ := List.cons.inj (hinbox.symm.trans hinbox')
      rw [hpeer', destination, lastSender_of_received_concat hreceived, isConnected,
        hserved.config_eq, hpeer, destination]
      cases config.remoteAddress <;> rfl

/-- Throughout a run, frames go to whom was heard last, or to whom was fixed. -/
theorem Run.peer_eq (hrun : Run config events e) : e.peer = destination config events := by
  induction hrun with
  | opened =>
    unfold destination
    cases config.remoteAddress <;> rfl
  | step hbefore hperforms ih => exact hperforms.peer_eq hbefore.served ih

/-- Every event of a run was performed after the events before it. -/
theorem Run.split {before after : List Event} (hrun : Run config (before ++ event :: after) e) :
    ∃ e₀ e₁, Run config before e₀ ∧ e₀.Performs event e₁ := by
  induction after using List.reverseRecOn generalizing e with
  | nil =>
    generalize hevents : before ++ [event] = events at hrun
    cases hrun with
    | opened => simp at hevents
    | step hbefore hperforms =>
      obtain ⟨rfl, hlast⟩ := List.append_inj' hevents rfl
      obtain rfl := (List.cons.inj hlast).1
      exact ⟨_, _, hbefore, hperforms⟩
  | append_singleton after last ih =>
    generalize hevents : before ++ event :: (after ++ [last]) = events at hrun
    cases hrun with
    | opened => simp at hevents
    | step hbefore _ =>
      rw [← List.cons_append, ← List.append_assoc] at hevents
      obtain ⟨rfl, -⟩ := List.append_inj' hevents rfl
      exact ih hbefore

/-- What a transport sends goes to its remote address, if that is fixed, and else to whoever sent
the last datagram that it received as a frame; it is the encoding of the frame that was asked for,
whole, with a length field that agrees with its payload, and within the limit. No receive that gives
no frame changes where answers go. Without a remote address, and before the first frame has come,
a frame of a fitting size is not sent and leaves everything as it is; once there is somebody to
send it to it is sent, unless there is a refusal to report. -/
theorem Run.replies_go_to_last_sender (hrun : Run config events e) :
    (∀ before header payload target bytes after,
      events = before ++ .send header payload (.ok (target, bytes)) :: after →
      (∀ remote, config.remoteAddress = some remote → target = remote) ∧
      (config.remoteAddress = none → lastSender config before = some target) ∧
      Frame.encode header payload = .ok bytes ∧ header.length.toNat = payload.length ∧
      bytes.length ≤ config.maxDatagramSize.toNat) ∧
    ((∀ f, e.receive.1 ≠ .ok (some f)) → e.receive.2.peer = e.peer) ∧
    ∀ header payload bytes, Frame.encode header payload = .ok bytes →
      bytes.length ≤ config.maxDatagramSize.toNat →
      (config.remoteAddress = none → lastSender config events = none →
        e.send header payload = (.error noPeer, e)) ∧
      ∀ target, destination config events = some target → e.refused = false →
        e.send header payload =
          (.ok (target, bytes), { e with stats := e.stats.sent bytes.length }) := by
  refine ⟨?_, peer_receive_of_no_frame, ?_⟩
  · rintro before header payload target bytes after rfl
    obtain ⟨e₀, e₁, hbefore, hperforms⟩ := hrun.split
    generalize hevent : Event.send header payload (.ok (target, bytes)) = event at hperforms
    cases hperforms with
    | send =>
      obtain ⟨rfl, rfl, hresult⟩ := Event.send.inj hevent
      obtain ⟨hdatagram, hpeer, -⟩ := send_eq_ok_iff.mp hresult.symm
      obtain ⟨hencode, hfits⟩ := datagram_eq_ok_iff.mp hdatagram
      rw [limit, hbefore.served.config_eq] at hfits
      rw [hbefore.peer_eq, destination] at hpeer
      refine ⟨?_, ?_, hencode, (Frame.encode_eq_ok_iff.mp hencode).2.1, hfits⟩
      · intro remote hremote
        rw [hremote] at hpeer
        exact (Option.some.inj hpeer).symm
      · intro hnone
        rwa [hnone] at hpeer
    | _ => cases hevent
  · intro header payload bytes hencode hfits
    rw [← hrun.served.config_eq] at hfits
    have hdatagram : e.datagram header payload = .ok bytes :=
      datagram_eq_ok_iff.mpr ⟨hencode, hfits⟩
    constructor
    · intro hnone hnobody
      have hpeer : e.peer = none := by rw [hrun.peer_eq, destination, hnone, hnobody]
      simp only [send, hdatagram, hpeer]
    · intro target htarget hready
      have hpeer : e.peer = some target := hrun.peer_eq.trans htarget
      simp only [send, hdatagram, hpeer, hready, Bool.false_eq_true, if_false]

/-- A frame comes from one address and then garbage from another one. The answer goes to the first.
Before the frame was received there was nobody to answer. -/
theorem Run.replies_go_to_last_sender_of_stray :
    let config : UdpConfig := { maxDatagramSize := 20 }
    let client : SocketAddress := .v4 127 0 0 1 2
    let stray : SocketAddress := .v4 127 0 0 1 3
    let f : Frame := ⟨.new 3 1 0, []⟩
    let ack : Header := .ack 1
    let before : List Event :=
      [.arrive ⟨client, [0x55, 0xAA, 0, 3, 0, 1, 0, 0]⟩, .arrive ⟨stray, [0xDE, 0xAD, 0, 0]⟩,
        .send ack [] (.error noPeer), .receive (.ok (some f)),
        .receive (.error (.protocol (.truncated 8 4)))]
    ∃ e, Run config (before ++ [.send ack [] (.ok (client, ack.encode))]) e ∧
      lastSender config before = some client ∧ ack.encode.length ≤ 20 := by
  intro config client stray f ack before
  let arrived : UdpEnd :=
    { config, inbox := [⟨client, [0x55, 0xAA, 0, 3, 0, 1, 0, 0]⟩, ⟨stray, [0xDE, 0xAD, 0, 0]⟩] }
  let answering : UdpEnd :=
    { config, peer := some client,
      stats := { framesReceived := 1, bytesReceived := 8, protocolErrors := 1 } }
  have harrived : Run config [.arrive _, .arrive _] arrived :=
    .step (.step (.opened rfl) (.arrive ⟨client, _⟩)) (.arrive ⟨stray, _⟩)
  have hrefused : Run config [.arrive _, .arrive _, .send ack [] (.error noPeer)] arrived :=
    .step harrived (.send ack [])
  have hreceived : Run config before answering := .step (.step hrefused .receive) .receive
  have hanswered : Run config (before ++ [.send ack [] (.ok (client, ack.encode))]) _ :=
    .step hreceived (.send ack [])
  obtain ⟨hsent, -⟩ := hanswered.replies_go_to_last_sender
  obtain ⟨-, hlast, -, -, hfits⟩ := hsent before ack [] client ack.encode [] rfl
  exact ⟨_, hanswered, hlast rfl, hfits⟩

end Courier.UdpEnd
