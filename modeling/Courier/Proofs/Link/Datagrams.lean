import Courier.Link.Datagram
import Courier.Proofs.Wire.Codec
import Mathlib.Data.List.Forall2

/-!
# Which datagrams are accepted

A socket keeps one byte more of a datagram than the transport allows and forgets the rest. The
transport judges what was kept. A datagram within the limit is accepted exactly if it is a frame; a
longer one is told from it only by its length field, and is accepted if that announces exactly what
was kept.
-/

namespace Courier.UdpEnd

/-! ## What happens to a transport -/

/-- What happens to a datagram transport, with what comes of it. -/
inductive Event where
  /-- A datagram is sent to the socket. -/
  | arrive (d : Datagram)
  /-- It comes back that an earlier datagram was refused. -/
  | refuse
  | receive (result : Except NetworkError (Option Frame))
  | send (header : Header) (payload : Bytes) (result : Except NetworkError (SocketAddress × Bytes))

/-- How a transport changes with what happens to it. -/
inductive Performs (e : UdpEnd) : Event → UdpEnd → Prop
  | arrive (d : Datagram) : Performs e (.arrive d) (e.arrive d)
  | refuse : Performs e .refuse { e with refused := true }
  | receive : Performs e (.receive e.receive.1) e.receive.2
  | send (header : Header) (payload : Bytes) :
      Performs e (.send header payload (e.send header payload).1) (e.send header payload).2

/-- What happens to a transport since it was opened. -/
inductive Run (config : UdpConfig) : List Event → UdpEnd → Prop
  | opened : config.validate = .ok () → Run config [] { config }
  | step {events : List Event} {e e' : UdpEnd} {event : Event} : Run config events e →
      Performs e event e' → Run config (events ++ [event]) e'

/-- The datagram that an event brings, if it comes from where datagrams are taken from. -/
def Event.datagram? (config : UdpConfig) : Event → Option Datagram
  | .arrive d => if config.remoteAddress.all (· = d.source) then some d else none
  | _ => none

/-- What an event says of a datagram that was received. -/
def Event.answer? : Event → Option (Except FrameError Frame)
  | .receive (.ok (some frame)) => some (.ok frame)
  | .receive (.error (.protocol cause)) => some (.error cause)
  | _ => none

/-- The datagrams that were sent to a transport, in order. -/
def arrivals (config : UdpConfig) (events : List Event) : List Datagram :=
  events.filterMap (·.datagram? config)

/-- What became of the datagrams that were received, in order. -/
def answers (events : List Event) : List (Except FrameError Frame) :=
  events.filterMap Event.answer?

/-- What becomes of a datagram, as it was sent, if at most `limit` bytes are allowed. -/
structure Judged (limit : Nat) (d : Datagram) (answer : Except FrameError Frame) : Prop where
  /-- Within the limit a datagram is accepted if it is a frame. -/
  within : d.bytes.length ≤ limit → ∀ frame, answer = .ok frame ↔
    frame.header.marker = 0x55AA ∧ Frame.encode frame.header frame.payload = .ok d.bytes
  /-- Beyond it only the bytes that were kept count. -/
  beyond : limit < d.bytes.length → ∀ frame, answer = .ok frame ↔
    frame.header.marker = 0x55AA ∧
      Frame.encode frame.header frame.payload = .ok (d.bytes.take (limit + 1))
  /-- They are a frame if the length field announces them, whatever else was sent. -/
  oversized : limit < d.bytes.length → ((∃ frame, answer = .ok frame) ↔
    d.bytes.take 2 = [0x55, 0xAA] ∧ (Frame.wordAt 6 d.bytes).toNat + 7 = limit)

variable {config : UdpConfig} {events : List Event} {e e' : UdpEnd} {event : Event}

/-! ## One datagram -/

/-- Bytes at the front stay where they are when the end is cut off. -/
theorem wordAt_take {bytes : Bytes} {place size : Nat} (h : place + 1 < size) :
    Frame.wordAt place (bytes.take size) = Frame.wordAt place bytes := by
  have hfirst : place < size := by omega
  rw [Frame.wordAt, Frame.wordAt, List.getD_eq_getElem?_getD, List.getD_eq_getElem?_getD,
    List.getElem?_take_of_lt h, List.getElem?_take_of_lt hfirst, ← List.getD_eq_getElem?_getD,
    ← List.getD_eq_getElem?_getD]

/-- The transport accepts what its socket has kept if it is a frame. -/
theorem judged_decode (limit : Nat) (d : Datagram) :
    Judged limit d (Frame.decode (d.bytes.take (limit + 1))) where
  within hwithin frame := by
    have hwhole : d.bytes.take (limit + 1) = d.bytes := List.take_of_length_le (by omega)
    rw [hwhole, Frame.decode_eq_ok_iff]
    rfl
  beyond _ frame := Frame.decode_eq_ok_iff
  oversized hbeyond := by
    have hkept : (d.bytes.take (limit + 1)).length = limit + 1 := by
      rw [List.length_take]
      omega
    rw [Frame.exists_decode_iff, hkept]
    constructor
    · rintro ⟨hlong, hmarked, hdeclared⟩
      rw [List.take_take, Nat.min_eq_left (by omega)] at hmarked
      rw [wordAt_take (by omega)] at hdeclared
      exact ⟨hmarked, by omega⟩
    · rintro ⟨hmarked, hdeclared⟩
      rw [List.take_take, Nat.min_eq_left (by omega), wordAt_take (by omega)]
      exact ⟨by omega, hmarked, by omega⟩

/-- What taking a datagram from the inbox comes to: a refusal is reported first, and else the oldest
datagram is judged and counted, if there is one. -/
inductive Receives (e : UdpEnd) : Except NetworkError (Option Frame) × UdpEnd → Prop
  | refused {error : NetworkError} : e.refused = true → (∀ cause, error ≠ .protocol cause) →
      Receives e (.error error, { e with refused := false, stats := e.stats.failed })
  | empty : e.refused = false → e.inbox = [] → Receives e (.ok none, e)
  | frame {d : Datagram} {rest : List Datagram} {f : Frame} {peer : Option SocketAddress}
      {size : Nat} : e.refused = false → e.inbox = d :: rest → Judged e.limit d (.ok f) →
      Receives e (.ok (some f), { e with inbox := rest, peer, stats := e.stats.received size })
  | malformed {d : Datagram} {rest : List Datagram} {cause : FrameError} : e.refused = false →
      e.inbox = d :: rest → Judged e.limit d (.error cause) →
      Receives e (.error (.protocol cause), { e with inbox := rest, stats := e.stats.malformed })

/-- A refusal that is reported says nothing of a datagram. -/
theorem answer?_of_refused {error : NetworkError} (hkind : ∀ cause, error ≠ .protocol cause) :
    (Event.receive (.error error)).answer? = none := by
  cases error with
  | protocol cause => exact absurd rfl (hkind cause)
  | _ => rfl

/-- Receiving finds nothing, or judges the first datagram. -/
theorem receives_receive (e : UdpEnd) : e.Receives e.receive := by
  unfold receive
  by_cases hrefused : e.refused = true
  · rw [if_pos hrefused]
    exact .refused hrefused nofun
  · have hready : e.refused = false := by simpa using hrefused
    rw [if_neg hrefused]
    split
    · next hempty => exact .empty hready hempty
    · next d rest hinbox =>
      have hjudged : Judged e.limit d (Frame.decode (e.stored d.bytes)) := judged_decode e.limit d
      have hstored : ({ e with inbox := rest } : UdpEnd).stored d.bytes = e.stored d.bytes := rfl
      simp only [accept, hstored]
      cases hdecode : Frame.decode (e.stored d.bytes) with
      | ok f =>
        rw [hdecode] at hjudged
        exact .frame hready hinbox hjudged
      | error cause =>
        rw [hdecode] at hjudged
        exact .malformed hready hinbox hjudged

/-! ## A run -/

/-- What a transport has of its run: the datagrams that were not received yet, and the numbers of
frames and of malformed datagrams among those that were. -/
structure Served (config : UdpConfig) (events : List Event) (e : UdpEnd) : Prop where
  config_eq : e.config = config
  answered : ∃ taken, arrivals config events = taken ++ e.inbox ∧
    List.Forall₂ (Judged config.maxDatagramSize.toNat) taken (answers events)
  frames : e.stats.framesReceived = (answers events).countP (·.isOk)
  malformed : e.stats.protocolErrors = (answers events).countP (!·.isOk)

/-- A new event adds the datagram that arrives, if it may be received. -/
theorem arrivals_append (events : List Event) (event : Event) :
    arrivals config (events ++ [event]) =
      arrivals config events ++ (event.datagram? config).toList := by
  cases hdatagram : event.datagram? config <;> simp [arrivals, hdatagram]

/-- A new event adds its answer, if it is one. -/
theorem answers_append (events : List Event) (event : Event) :
    answers (events ++ [event]) = answers events ++ event.answer?.toList := by
  cases hanswer : event.answer? <;> simp [answers, hanswer]

/-- Whatever neither brings a datagram nor takes one leaves everything as it was. -/
theorem Served.aside (h : Served config events e) (harrival : event.datagram? config = none)
    (hanswer : event.answer? = none) (hconfig : e'.config = e.config) (hinbox : e'.inbox = e.inbox)
    (hframes : e'.stats.framesReceived = e.stats.framesReceived)
    (hmalformed : e'.stats.protocolErrors = e.stats.protocolErrors) :
    Served config (events ++ [event]) e' where
  config_eq := hconfig.trans h.config_eq
  answered := by
    rw [arrivals_append, answers_append, harrival, hanswer, hinbox]
    simpa using h.answered
  frames := by
    rw [hframes, h.frames, answers_append, hanswer]
    simp
  malformed := by
    rw [hmalformed, h.malformed, answers_append, hanswer]
    simp

/-- The oldest datagram is taken and answered. -/
theorem Served.answer {d : Datagram} {rest : List Datagram} {answer : Except FrameError Frame}
    (h : Served config events e) (hinbox : e.inbox = d :: rest)
    (harrival : event.datagram? config = none) (hanswer : event.answer? = some answer)
    (hjudged : Judged e.limit d answer) (hconfig : e'.config = e.config) (hrest : e'.inbox = rest)
    (hframes : e'.stats.framesReceived =
      e.stats.framesReceived + if answer.isOk then 1 else 0)
    (hmalformed : e'.stats.protocolErrors =
      e.stats.protocolErrors + if answer.isOk then 0 else 1) :
    Served config (events ++ [event]) e' where
  config_eq := hconfig.trans h.config_eq
  answered := by
    obtain ⟨taken, htaken, hanswers⟩ := h.answered
    have hlimit : e.limit = config.maxDatagramSize.toNat := by rw [limit, h.config_eq]
    rw [hlimit] at hjudged
    refine ⟨taken ++ [d], ?_, ?_⟩
    · rw [arrivals_append, harrival, htaken, hinbox, hrest]
      simp
    · rw [answers_append, hanswer]
      exact List.rel_append hanswers (.cons hjudged .nil)
  frames := by
    rw [hframes, h.frames, answers_append, hanswer, Option.toList_some, List.countP_append,
      List.countP_singleton]
  malformed := by
    rw [hmalformed, h.malformed, answers_append, hanswer, Option.toList_some, List.countP_append,
      List.countP_singleton]
    cases answer.isOk <;> rfl

/-- Another arrival leaves the account of what was served. -/
theorem Served.arrive (h : Served config events e) (d : Datagram) :
    Served config (events ++ [.arrive d]) (e.arrive d) := by
  have hanswer : (Event.arrive d).answer? = none := rfl
  unfold UdpEnd.arrive
  by_cases hsource : config.remoteAddress.all (· = d.source) = true
  · have hadmitted : (Event.arrive d).datagram? config = some d := if_pos hsource
    rw [h.config_eq, if_pos hsource]
    exact {
      config_eq := rfl
      answered := by
        obtain ⟨taken, htaken, hanswers⟩ := h.answered
        refine ⟨taken, ?_, ?_⟩
        · rw [arrivals_append, hadmitted, htaken, Option.toList_some, List.append_assoc]
        · rwa [answers_append, hanswer, Option.toList_none, List.append_nil]
      frames := by
        rw [answers_append, hanswer, Option.toList_none, List.append_nil, ← h.frames]
      malformed := by
        rw [answers_append, hanswer, Option.toList_none, List.append_nil, ← h.malformed] }
  · rw [h.config_eq, if_neg hsource]
    exact h.aside (if_neg hsource) hanswer rfl rfl rfl rfl

/-- What happens to a transport leaves what was not received, and counts what was. -/
theorem Performs.served (h : Served config events e) (hperforms : e.Performs event e') :
    Served config (events ++ [event]) e' := by
  cases hperforms with
  | arrive d => exact h.arrive d
  | refuse => exact h.aside rfl rfl rfl rfl rfl rfl
  | send header payload =>
    have hsame : (e.send header payload).2.config = e.config ∧
        (e.send header payload).2.inbox = e.inbox ∧
        (e.send header payload).2.stats.framesReceived = e.stats.framesReceived ∧
        (e.send header payload).2.stats.protocolErrors = e.stats.protocolErrors := by
      unfold UdpEnd.send
      split
      · exact ⟨rfl, rfl, rfl, rfl⟩
      · exact ⟨rfl, rfl, rfl, rfl⟩
      · split
        · exact ⟨rfl, rfl, rfl, rfl⟩
        · exact ⟨rfl, rfl, rfl, rfl⟩
    obtain ⟨hconfig, hinbox, hframes, hmalformed⟩ := hsame
    exact h.aside rfl rfl hconfig hinbox hframes hmalformed
  | receive =>
    have hreceives := e.receives_receive
    generalize e.receive = received at hreceives
    cases hreceives with
    | refused _ hkind => exact h.aside rfl (answer?_of_refused hkind) rfl rfl rfl rfl
    | empty => exact h.aside rfl rfl rfl rfl rfl rfl
    | frame _ hinbox hjudged => exact h.answer hinbox rfl rfl hjudged rfl rfl rfl rfl
    | malformed _ hinbox hjudged => exact h.answer hinbox rfl rfl hjudged rfl rfl rfl rfl

/-- Throughout a run, what was received is accounted for. -/
theorem Run.served (hrun : Run config events e) : Served config events e := by
  induction hrun with
  | opened => exact ⟨rfl, ⟨[], rfl, .nil⟩, rfl, rfl⟩
  | step _ hperforms ih => exact hperforms.served ih

/-- Whatever is sent to a transport, from wherever and whenever: its datagrams are received in
order, and each gives a frame or a protocol error and is counted as one. Within the limit a datagram
gives a frame exactly if it is this frame's encoding. A longer one is cut down to one byte more than
the limit, and gives a frame exactly if the marker and the length field are those of a frame of that
size. The next receive judges the next datagram, unless it has a refusal to report. -/
theorem Run.judged_by_what_is_kept (hrun : Run config events e) :
    let limit := config.maxDatagramSize.toNat
    (∃ taken, arrivals config events = taken ++ e.inbox ∧
      List.Forall₂ (Judged limit) taken (answers events)) ∧
    e.stats.framesReceived = (answers events).countP (·.isOk) ∧
    e.stats.protocolErrors = (answers events).countP (!·.isOk) ∧
    ∀ d rest, e.inbox = d :: rest → e.refused = false → ∃ answer,
      (Event.receive e.receive.1).answer? = some answer ∧ Judged limit d answer := by
  intro limit
  have hserved := hrun.served
  refine ⟨hserved.answered, hserved.frames, hserved.malformed, ?_⟩
  intro d rest hinbox hrefused
  have hlimit : e.limit = limit := by rw [UdpEnd.limit, hserved.config_eq]
  have hreceives := e.receives_receive
  generalize e.receive = received at hreceives
  cases hreceives with
  | refused hreport =>
    rw [hrefused] at hreport
    cases hreport
  | empty _ hempty =>
    rw [hinbox] at hempty
    cases hempty
  | frame _ holdest hjudged =>
    obtain ⟨rfl, -⟩ := List.cons.inj (hinbox.symm.trans holdest)
    exact ⟨_, rfl, hlimit ▸ hjudged⟩
  | malformed _ holdest hjudged =>
    obtain ⟨rfl, -⟩ := List.cons.inj (hinbox.symm.trans holdest)
    exact ⟨_, rfl, hlimit ▸ hjudged⟩

/-- A transport that allows eight bytes keeps nine of thirteen and takes them for a frame. -/
theorem Run.judged_by_what_is_kept_of_cut_datagram :
    let config : UdpConfig := { maxDatagramSize := 8 }
    let d : Datagram := ⟨.v4 127 0 0 1 3, [0x55, 0xAA, 0, 1, 0, 0, 0, 1, 11, 12, 13, 14, 15]⟩
    let f : Frame := ⟨.new 1 0 1, [11]⟩
    ∃ e, Run config [.arrive d, .receive (.ok (some f))] e ∧ config.maxDatagramSize.toNat = 8 ∧
      d.bytes.length = 13 ∧ e.stats.framesReceived = 1 ∧ e.stats.protocolErrors = 0 := by
  intro config d f
  let opened : UdpEnd := { config }
  have harrive : Run config [.arrive d] (opened.arrive d) := .step (.opened rfl) (.arrive d)
  have hreceive : Run config [.arrive d, .receive (opened.arrive d).receive.1] _ :=
    .step harrive .receive
  have hresult : (opened.arrive d).receive.1 = .ok (some f) := by rfl
  rw [hresult] at hreceive
  obtain ⟨-, hframes, hmalformed, -⟩ := hreceive.judged_by_what_is_kept
  exact ⟨_, hreceive, rfl, rfl, hframes, hmalformed⟩

end Courier.UdpEnd
