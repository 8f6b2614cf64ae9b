import Courier.Link.Connection
import Courier.Proofs.Link.Lossless

/-!
# One connection after the other

A stream transport uses one connection at a time. What it has read and not yet cut into frames goes
when the connection goes, whether the peer has closed it, a read or a write has failed, or a new one
is taken. So no frame is put together from the bytes of two connections.
-/

namespace Courier

/-! ## Frames lie within the stream -/

/-- What follows that which was taken off a buffer is its end. -/
theorem suffix_of_next? {buffer rest : Bytes} {taken : Except FrameError Frame}
    (h : (takeFrame buffer).next? = some (taken, rest)) : rest <:+ buffer := by
  have htakes := takes_takeFrame buffer
  generalize takeFrame buffer = result at h htakes
  cases htakes with
  | short | headless | cut => cases h
  | @unmarked a b bytes =>
    cases h
    exact (dropToMarker_suffix (b :: bytes)).trans (List.suffix_cons a (b :: bytes))
  | @whole header payload rest =>
    cases h
    rw [← List.append_assoc]
    exact List.suffix_append _ rest

/-- A frame that was taken off a buffer is the front of it. -/
theorem eq_bytes_append_of_next? {buffer rest : Bytes} {f : Frame}
    (h : (takeFrame buffer).next? = some (.ok f, rest)) : buffer = f.bytes ++ rest := by
  have htakes := takes_takeFrame buffer
  generalize takeFrame buffer = result at h htakes
  cases htakes with
  | short | headless | cut | unmarked => cases h
  | whole =>
    cases h
    rw [Frame.bytes, List.append_assoc]

/-- The bytes of a frame that is found in a stream follow each other there. -/
theorem bytes_infix_of_mem_framesIn {stream : Bytes} {f : Frame} (h : f ∈ framesIn stream) :
    f.bytes <:+: stream := by
  fun_induction drain stream with
  | case1 stream hnone =>
    rw [framesIn_of_next?_eq_none hnone] at h
    cases h
  | case2 stream taken rest hsome _ ih =>
    have hsplit := framesIn_append_of_next? hsome []
    rw [List.append_nil, List.append_nil] at hsplit
    rw [hsplit] at h
    rcases List.mem_append.mp h with htaken | hrest
    · cases taken with
      | error => cases htaken
      | ok first =>
        obtain rfl : f = first := List.mem_singleton.mp htaken
        rw [eq_bytes_append_of_next? hsome]
        exact (List.prefix_append f.bytes rest).isInfix
    · exact (ih hrest).trans (suffix_of_next? hsome).isInfix

namespace TcpEnd

/-! ## What is seen of a transport -/

/-- What is seen of a transport and its connections. -/
inductive Occurrence where
  /-- A connection is taken into use. -/
  | opened (connection : Nat)
  | read (connection : Nat) (result : ReadResult)
  /-- A write to a connection fails. -/
  | torn (connection : Nat)
  /-- A receive returns a frame. -/
  | returned (frame : Frame)

/-- What is seen of an attempt to get a connection. -/
def openings : Obtained → List Occurrence
  | .connection number => [.opened number]
  | _ => []

variable {ν : Type}

/-- A network that notes down what is done with its connections. -/
def watched (net : StreamNetwork ν) : StreamNetwork (ν × List Occurrence) where
  obtain world :=
    let answer := net.obtain world.1
    (answer.1, answer.2, world.2 ++ openings answer.1)
  limit connection world :=
    let answer := net.limit connection world.1
    (answer.1, answer.2, world.2)
  read connection count world :=
    let answer := net.read connection count world.1
    (answer.1, answer.2, world.2 ++ [.read connection answer.1])
  write connection bytes world :=
    let answer := net.write connection bytes world.1
    (answer.1, answer.2, world.2 ++ answer.1.toList.map fun _ => .torn connection)

/-- The frame that a receive returns, if it does. -/
def returns : Except NetworkError (Option Frame) → List Occurrence
  | .ok (some frame) => [.returned frame]
  | _ => []

/-- What an operation on a watched network comes to, without what was noted down. -/
def unwatched {α : Type} (outcome : α × TcpEnd × ν × List Occurrence) : α × TcpEnd × ν :=
  (outcome.1, outcome.2.1, outcome.2.2.1)

/-- What happens to a transport, with what is seen of it. A server has no connection at first, and a
client its first one. Between any two steps the network may change in any way. -/
inductive Run (net : StreamNetwork ν) : List Occurrence → TcpEnd → Prop
  | server : Run net [] {}
  | client (connection : Nat) : Run net [.opened connection] (({} : TcpEnd).install connection)
  | send {seen seen' : List Occurrence} {e e' : TcpEnd} {header : Header} {payload : Bytes}
      {world world' : ν} {result : Except NetworkError Unit} : Run net seen e →
      e.send net header payload world = (result, e', world') →
      (e.send (watched net) header payload (world, seen)).2.2.2 = seen' →
      Run net seen' e'
  | receive {seen seen' : List Occurrence} {e e' : TcpEnd} {timeout : Duration} {world world' : ν}
      {result : Except NetworkError (Option Frame)} : Run net seen e →
      e.receive net timeout world = (result, e', world') →
      (e.receive (watched net) timeout (world, seen)).2.2.2 = seen' →
      Run net (seen' ++ returns result) e'
  /-- While a receive is under way, a write to the connection in use fails. -/
  | receiveTorn {seen seen' : List Occurrence} {e e' : TcpEnd} {timeout : Duration}
      {world world' : ν} {result : Except NetworkError (Option Frame)} {connection : Nat} :
      Run net seen e → e.receive net timeout world = (result, e', world') →
      (e.receive (watched net) timeout (world, seen)).2.2.2 = seen' →
      e.writing = some connection ∨ e'.writing = some connection →
      Run net (seen' ++ returns result ++ [.torn connection])
        { e' with writing := none, broken := true, stats := e'.stats.failed }

/-! ## Connections and what came of them -/

/-- A connection from when it was taken into use on. -/
structure Session where
  connection : Nat
  /-- All bytes that were read from it. -/
  bytes : Bytes := []
  /-- The frames that were returned since it is in use. -/
  frames : List Frame := []
  /-- Whether its end was read, or reading it failed. -/
  isOver : Bool := false
  /-- Whether a write to it failed. -/
  isTorn : Bool := false

/-- A connection after a read. -/
def Session.read (s : Session) : ReadResult → Session
  | .bytes first rest => { s with bytes := s.bytes ++ first :: rest }
  | .nothing => s
  | .ended | .failed _ => { s with isOver := true }

/-- A connection after a write to it has failed. -/
def Session.tear (s : Session) : Session := { s with isTorn := true }

/-- Changes the newest connection with a number. -/
def changeNewest (connection : Nat) (f : Session → Session) : List Session → List Session
  | [] => []
  | s :: older =>
    if s.connection = connection then f s :: older else s :: changeNewest connection f older

/-- The connections after something was seen, the newest first. -/
def note (sessions : List Session) : Occurrence → List Session
  | .opened connection => { connection } :: sessions
  | .read connection result => changeNewest connection (·.read result) sessions
  | .torn connection => changeNewest connection Session.tear sessions
  | .returned f => sessions.modifyHead fun s => { s with frames := s.frames ++ [f] }

/-- The connections that were in use, the newest first. -/
def sessions (seen : List Occurrence) : List Session := seen.foldl note []

/-- The frames that were returned, in order. -/
def returned (seen : List Occurrence) : List Frame :=
  seen.filterMap fun
    | .returned f => some f
    | _ => none

/-- What holds of the frames that were returned while a connection was in use. -/
structure Session.Unmixed (s : Session) : Prop where
  /-- They are the first frames that a search finds in its bytes, whatever else it brings. -/
  frames_leading : ∀ more, s.frames <+: framesIn (s.bytes ++ more)
  /-- They are all of the frames in what was read, if it is over and no write to it failed. -/
  frames_eq : s.isOver = true → s.isTorn = false → s.frames = framesIn s.bytes

/-- What a connection in use has brought, if what is left of it is in a buffer: the frames that are
found in its bytes are those that were returned and those that will be found in the buffer. -/
structure Session.Leaves (s : Session) (buffer : Bytes) : Prop where
  isOver : s.isOver = false
  framesIn_eq : ∀ more, framesIn (s.bytes ++ more) = s.frames ++ framesIn (buffer ++ more)

/-- What a transport has of what was seen of it. -/
structure Follows (seen : List Occurrence) (e : TcpEnd) : Prop where
  unmixed : ∀ s ∈ sessions seen, s.Unmixed
  returned_eq : returned seen = (sessions seen).reverse.flatMap (·.frames)
  buffer_eq_nil : e.reading = none → e.buffer = []
  reading_of_writing : ∀ connection, e.writing = some connection → e.reading = some connection
  current : ∀ connection, e.reading = some connection → ∃ s older,
    sessions seen = s :: older ∧ s.connection = connection ∧ s.Leaves e.buffer

variable {net : StreamNetwork ν} {seen : List Occurrence} {e e' : TcpEnd} {connection : Nat}
  {world : ν} {s : Session} {older : List Session} {buffer rest : Bytes}
  {taken : Except FrameError Frame}

/-! ## Watching changes nothing -/

/-- Sending is the same, watched or not. -/
theorem unwatched_send (e : TcpEnd) (header : Header) (payload : Bytes) (world : ν)
    (seen : List Occurrence) : unwatched (e.send (watched net) header payload (world, seen)) =
      e.send net header payload world := by
  unfold TcpEnd.send watched
  split
  · rfl
  · rfl
  · next bytes connection _ _ =>
    cases hanswer : net.write connection bytes world with
    | mk failure world' => cases failure <;> simp only [hanswer] <;> rfl

/-- Reading on is the same, watched or not. -/
theorem unwatched_readOn (connection reads : Nat) (e : TcpEnd) (world : ν)
    (seen : List Occurrence) :
    unwatched (e.readOn (watched net) connection reads (world, seen)) =
      e.readOn net connection reads world := by
  induction reads generalizing e world seen with
  | zero => rfl
  | succ reads ih =>
    simp only [readOn, watched]
    cases hlimit : net.limit connection world with
    | mk failure world₁ =>
      cases failure with
      | some source => rfl
      | none =>
        dsimp only
        cases hanswer : net.read connection readChunk world₁ with
        | mk result world' =>
          cases result with
          | nothing | ended | failed => rfl
          | bytes first rest =>
            dsimp only
            split
            · rfl
            · exact ih _ _ _

/-- Receiving on a connection is the same, watched or not. -/
theorem unwatched_connected (e : TcpEnd) (world : ν) (seen : List Occurrence) :
    unwatched (receive.connected (watched net) e (world, seen)) =
      receive.connected net e world := by
  unfold receive.connected watched
  split
  · rfl
  · cases hanswer : net.obtain world with
    | mk found world' => cases found <;> simp only [hanswer] <;> rfl

/-- Receiving is the same, watched or not. -/
theorem unwatched_receive (timeout : Duration) (e : TcpEnd) (world : ν) (seen : List Occurrence) :
    unwatched (e.receive (watched net) timeout (world, seen)) = e.receive net timeout world := by
  unfold TcpEnd.receive
  generalize (if e.broken then { e.disconnect with broken := false } else e) = e
  dsimp only
  split
  · rfl
  · rw [← unwatched_connected e world seen]
    obtain ⟨found, e, world, seen⟩ := receive.connected (watched net) e (world, seen)
    rcases found with error | _ | connection
    · rfl
    · rfl
    · dsimp only [unwatched]
      split
      · rfl
      · exact unwatched_readOn _ _ _ _ _

/-- What is seen of an operation beside what comes of it. -/
theorem eq_of_unwatched {α : Type} {outcome : α × TcpEnd × ν × List Occurrence} {result : α}
    {world' : ν} {seen' : List Occurrence} (hunwatched : unwatched outcome = (result, e', world'))
    (hseen : outcome.2.2.2 = seen') : outcome = (result, e', world', seen') := by
  obtain ⟨_, _, _, _⟩ := outcome
  cases hunwatched
  cases hseen
  rfl

/-! ## What is seen of a run -/

/-- The sessions of what was seen go on with what is seen next. -/
theorem sessions_append (seen more : List Occurrence) :
    sessions (seen ++ more) = more.foldl note (sessions seen) :=
  List.foldl_append

/-- Frames are returned one after the other. -/
theorem returned_append (seen more : List Occurrence) :
    returned (seen ++ more) = returned seen ++ returned more :=
  List.filterMap_append

/-- The newest session is the one that is changed if it is of the connection. -/
theorem changeNewest_cons (s : Session) (older : List Session) (f : Session → Session) :
    changeNewest s.connection f (s :: older) = f s :: older := if_pos rfl

/-- All sessions but one are as they were. -/
theorem mem_changeNewest {f : Session → Session} {known : List Session}
    (h : s ∈ changeNewest connection f known) : s ∈ known ∨ ∃ s' ∈ known, s = f s' := by
  induction known with
  | nil => cases h
  | cons newest older ih =>
    unfold changeNewest at h
    split at h
    · rcases List.mem_cons.mp h with rfl | hold
      · exact .inr ⟨newest, List.mem_cons_self, rfl⟩
      · exact .inl (List.mem_cons_of_mem newest hold)
    · rcases List.mem_cons.mp h with rfl | hold
      · exact .inl List.mem_cons_self
      · rcases ih hold with hsame | ⟨s', hs', rfl⟩
        · exact .inl (List.mem_cons_of_mem newest hsame)
        · exact .inr ⟨s', List.mem_cons_of_mem newest hs', rfl⟩

/-- What leaves the frames of one session alone leaves those of all alone. -/
theorem frames_changeNewest (f : Session → Session) (hf : ∀ s, (f s).frames = s.frames)
    (known : List Session) :
    (changeNewest connection f known).map (·.frames) = known.map (·.frames) := by
  induction known with
  | nil => rfl
  | cons newest older ih =>
    unfold changeNewest
    split
    · rw [List.map_cons, List.map_cons, hf]
    · rw [List.map_cons, List.map_cons, ih]

/-! ## Single steps -/

/-- The frames of a session that is left off are a beginning of those in its bytes. -/
theorem Session.Leaves.unmixed (h : s.Leaves buffer) : s.Unmixed where
  frames_leading more := ⟨_, (h.framesIn_eq more).symm⟩
  frames_eq hover := by
    rw [h.isOver] at hover
    cases hover

/-- More bytes are read. -/
theorem Session.Leaves.read (h : s.Leaves buffer) (first : UInt8) (rest : Bytes) :
    (s.read (.bytes first rest)).Leaves (buffer ++ first :: rest) where
  isOver := h.isOver
  framesIn_eq more := by
    rw [Session.read, List.append_assoc, List.append_assoc]
    exact h.framesIn_eq _

/-- Something is taken off the buffer. -/
theorem Session.Leaves.take (h : s.Leaves buffer)
    (htake : (takeFrame buffer).next? = some (taken, rest)) :
    { s with frames := s.frames ++ framesOf [taken] }.Leaves rest where
  isOver := h.isOver
  framesIn_eq more := by
    rw [h.framesIn_eq more, framesIn_append_of_next? htake, List.append_assoc]

/-- A connection that is over when the buffer needs more bytes has brought all of its frames. -/
theorem Session.Leaves.unmixed_of_over (h : s.Leaves buffer)
    (hshort : (takeFrame buffer).next? = none) : { s with isOver := true }.Unmixed where
  frames_leading := h.unmixed.frames_leading
  frames_eq _ _ := by
    have hframes := h.framesIn_eq []
    rw [List.append_nil, List.append_nil, framesIn_of_next?_eq_none hshort,
      List.append_nil] at hframes
    exact hframes.symm

/-- What is seen of the connection in use. -/
theorem Follows.onCurrent {occurrence : Occurrence} {s' : Session} (h : Follows seen e)
    (hsessions : sessions seen = s :: older) (hnote : note (s :: older) occurrence = s' :: older)
    (hframes : s'.frames = s.frames ++ returned [occurrence]) (hunmixed : s'.Unmixed)
    (hidle : e'.reading = none → e'.buffer = [])
    (hwriting : ∀ connection, e'.writing = some connection → e'.reading = some connection)
    (hcurrent : ∀ connection, e'.reading = some connection →
      s'.connection = connection ∧ s'.Leaves e'.buffer) :
    Follows (seen ++ [occurrence]) e' := by
  have hsessions' : sessions (seen ++ [occurrence]) = s' :: older := by
    rw [sessions_append, hsessions]
    exact hnote
  refine ⟨?_, ?_, hidle, hwriting, ?_⟩
  · rw [hsessions']
    intro known hknown
    rcases List.mem_cons.mp hknown with rfl | hold
    · exact hunmixed
    · exact h.unmixed known (hsessions ▸ List.mem_cons_of_mem s hold)
  · rw [returned_append, h.returned_eq, hsessions, hsessions']
    simp [hframes]
  · intro connection hreading
    obtain ⟨hconnection, hleaves⟩ := hcurrent connection hreading
    exact ⟨s', older, hsessions', hconnection, hleaves⟩

/-- Only the connections and the buffer matter. -/
theorem Follows.of_eq (h : Follows seen e) (hreading : e'.reading = e.reading)
    (hwriting : ∀ connection, e'.writing = some connection → e.writing = some connection)
    (hbuffer : e'.buffer = e.buffer) : Follows seen e' where
  unmixed := h.unmixed
  returned_eq := h.returned_eq
  buffer_eq_nil := by
    rw [hreading, hbuffer]
    exact h.buffer_eq_nil
  reading_of_writing connection hconnection := by
    rw [hreading]
    exact h.reading_of_writing connection (hwriting connection hconnection)
  current := by
    rw [hreading, hbuffer]
    exact h.current

/-- A connection that is given up leaves nothing behind. -/
theorem Follows.disconnect (h : Follows seen e) : Follows seen e.disconnect where
  unmixed := h.unmixed
  returned_eq := h.returned_eq
  buffer_eq_nil _ := rfl
  reading_of_writing := nofun
  current := nofun

/-- A new connection starts with nothing. -/
theorem Follows.install (h : Follows seen e) (connection : Nat) :
    Follows (seen ++ [.opened connection]) (e.install connection) where
  unmixed := by
    rw [sessions_append]
    rintro s hs
    rcases List.mem_cons.mp hs with rfl | hs
    · exact ⟨fun more => List.nil_prefix, nofun⟩
    · exact h.unmixed s hs
  returned_eq := by
    rw [returned_append, sessions_append, h.returned_eq]
    simp [returned, note]
  buffer_eq_nil := nofun
  reading_of_writing _ := id
  current := by
    rintro _ ⟨⟩
    rw [sessions_append]
    exact ⟨_, _, rfl, rfl, rfl, fun more => rfl⟩

/-- A write that fails is noted at its connection, and changes nothing else about it. -/
theorem Follows.torn (h : Follows seen e) (connection : Nat) :
    Follows (seen ++ [.torn connection]) e := by
  have hsessions : sessions (seen ++ [.torn connection]) =
      changeNewest connection Session.tear (sessions seen) := sessions_append _ _
  refine ⟨?_, ?_, h.buffer_eq_nil, h.reading_of_writing, ?_⟩
  · rw [hsessions]
    intro s hs
    rcases mem_changeNewest hs with hsame | ⟨s', hs', rfl⟩
    · exact h.unmixed s hsame
    · exact ⟨(h.unmixed s' hs').frames_leading, fun _ => nofun⟩
  · have hreturned : returned [.torn connection] = [] := rfl
    rw [returned_append, h.returned_eq, hsessions, hreturned, List.append_nil, List.flatMap_def,
      List.flatMap_def, List.map_reverse, List.map_reverse,
      frames_changeNewest Session.tear fun _ => rfl]
  · intro current hreading
    obtain ⟨s, older, hcurrent, hconnection, hleaves⟩ := h.current current hreading
    rw [hsessions, hcurrent, changeNewest]
    split
    · exact ⟨_, _, rfl, hconnection, hleaves.isOver, hleaves.framesIn_eq⟩
    · exact ⟨_, _, rfl, hconnection, hleaves⟩

/-- Whatever is taken off the buffer was found in what was read; a frame is returned. -/
theorem Follows.take (h : Follows seen e)
    (htake : (takeFrame e.buffer).next? = some (taken, rest)) (hreading : e'.reading = e.reading)
    (hwriting : e'.writing = e.writing) (hbuffer : e'.buffer = rest) :
    Follows (seen ++ (framesOf [taken]).map .returned) e' := by
  have hsome : e.reading ≠ none := by
    intro hnone
    rw [h.buffer_eq_nil hnone] at htake
    cases htake
  obtain ⟨connection, hconnection⟩ := Option.ne_none_iff_exists'.mp hsome
  obtain ⟨s, older, hsessions, hnumber, hleaves⟩ := h.current connection hconnection
  have htaken := hleaves.take htake
  have hidle : e'.reading = none → e'.buffer = [] := by
    rw [hreading, hconnection]
    nofun
  have hwritten : ∀ connection, e'.writing = some connection → e'.reading = some connection := by
    rw [hwriting, hreading]
    exact h.reading_of_writing
  cases taken with
  | ok f =>
    refine h.onCurrent hsessions rfl rfl htaken.unmixed hidle hwritten fun other hother => ?_
    rw [hreading, hconnection] at hother
    rw [hbuffer]
    exact ⟨hnumber.trans (Option.some.inj hother), htaken⟩
  | error cause =>
    have hnothing : (framesOf [.error cause]).map Occurrence.returned = [] := rfl
    rw [hnothing, List.append_nil]
    refine ⟨h.unmixed, h.returned_eq, hidle, hwritten, fun other hother => ?_⟩
    rw [hreading, hconnection] at hother
    rw [hbuffer]
    refine ⟨s, older, hsessions, hnumber.trans (Option.some.inj hother), htaken.isOver, ?_⟩
    intro more
    rw [htaken.framesIn_eq]
    exact congrArg (· ++ _) (List.append_nil _)

/-- A read from the connection in use. -/
theorem Follows.read (h : Follows seen e) (hreading : e.reading = some connection)
    (hshort : (takeFrame e.buffer).next? = none) (result : ReadResult) :
    match result with
    | .bytes first rest => Follows (seen ++ [.read connection result])
        { e with buffer := e.buffer ++ first :: rest }
    | .nothing => Follows (seen ++ [.read connection result]) e
    | .ended | .failed _ => Follows (seen ++ [.read connection result]) e.disconnect := by
  obtain ⟨s, older, hsessions, rfl, hleaves⟩ := h.current connection hreading
  have hnote (result : ReadResult) :
      note (s :: older) (.read s.connection result) = s.read result :: older :=
    changeNewest_cons s older _
  have hframes (result : ReadResult) :
      (s.read result).frames = s.frames ++ returned [.read s.connection result] := by
    cases result <;> exact (List.append_nil _).symm
  have hsame {e' : TcpEnd} (hreading' : e'.reading = e.reading) (other : Nat)
      (hother : e'.reading = some other) : s.connection = other :=
    Option.some.inj (hreading.symm.trans (hreading'.symm.trans hother))
  have hover := hleaves.unmixed_of_over hshort
  cases result with
  | bytes first rest =>
    have hread := hleaves.read first rest
    exact h.onCurrent hsessions (hnote _) (hframes _) hread.unmixed
      (fun hnone => by cases hreading.symm.trans hnone) h.reading_of_writing
      fun other hother => ⟨hsame rfl other hother, hread⟩
  | nothing =>
    exact h.onCurrent hsessions (hnote _) (hframes _) hleaves.unmixed h.buffer_eq_nil
      h.reading_of_writing fun other hother => ⟨hsame rfl other hother, hleaves⟩
  | ended => exact h.onCurrent hsessions (hnote _) (hframes _) hover (fun _ => rfl) nofun nofun
  | failed => exact h.onCurrent hsessions (hnote _) (hframes _) hover (fun _ => rfl) nofun nofun

/-- What `take?` takes is what the front of the buffer turns out to be. -/
theorem next?_of_take? {result : Except NetworkError Frame} (h : e.take? = some (result, e')) :
    ∃ taken rest, (takeFrame e.buffer).next? = some (taken, rest) ∧ e'.reading = e.reading ∧
      e'.writing = e.writing ∧ e'.buffer = rest ∧
      returns (result.map some) = (framesOf [taken]).map .returned := by
  unfold take? at h
  cases htaken : takeFrame e.buffer with
  | incomplete =>
    rw [htaken] at h
    cases h
  | frame f rest =>
    rw [htaken] at h
    cases h
    exact ⟨.ok f, rest, rfl, rfl, rfl, rfl, rfl⟩
  | malformed cause rest =>
    rw [htaken] at h
    cases h
    exact ⟨.error cause, rest, rfl, rfl, rfl, rfl, rfl⟩

/-- If nothing can be taken, the buffer holds no whole frame. -/
theorem next?_of_take?_eq_none (h : e.take? = none) : (takeFrame e.buffer).next? = none := by
  unfold take? at h
  cases htaken : takeFrame e.buffer with
  | incomplete => rfl
  | frame | malformed =>
    rw [htaken] at h
    cases h

/-- What is taken off the buffer is what the session has brought next. -/
theorem Follows.take? {result : Except NetworkError Frame} (h : Follows seen e)
    (htake : e.take? = some (result, e')) : Follows (seen ++ returns (result.map some)) e' := by
  obtain ⟨taken, rest, hnext, hreading, hwriting, hbuffer, hreturns⟩ := next?_of_take? htake
  rw [hreturns]
  exact h.take hnext hreading hwriting hbuffer

/-- What is read, up to the next frame, belongs to the session in use. -/
theorem Follows.readOn {reads : Nat} {result : Except NetworkError (Option Frame)}
    {seen' : List Occurrence} {world' : ν} (h : Follows seen e)
    (hreading : e.reading = some connection) (hshort : (takeFrame e.buffer).next? = none)
    (hread : e.readOn (watched net) connection reads (world, seen) =
      (result, e', world', seen')) : Follows (seen' ++ returns result) e' := by
  induction reads generalizing seen e world with
  | zero =>
    cases hread
    exact (List.append_nil seen').symm ▸ h
  | succ reads ih =>
    simp only [TcpEnd.readOn, watched] at hread
    cases hlimit : net.limit connection world with
    | mk failure world₁ =>
      rw [hlimit] at hread
      cases failure with
      | some source =>
        cases hread
        exact (List.append_nil _).symm ▸ h
      | none =>
        have hstep := h.read hreading hshort (net.read connection readChunk world₁).1
        cases hanswer : (net.read connection readChunk world₁).1 with
        | bytes first rest =>
          rw [hanswer] at hstep
          simp only [hanswer] at hread
          split at hread
          · next taken e₁ htake =>
            cases hread
            exact hstep.take? htake
          · next hnone => exact ih hstep hreading (next?_of_take?_eq_none hnone) hread
        | nothing | ended =>
          rw [hanswer] at hstep
          simp only [hanswer] at hread
          cases hread
          exact (List.append_nil _).symm ▸ hstep
        | failed source =>
          rw [hanswer] at hstep
          simp only [hanswer] at hread
          cases hread
          exact (List.append_nil _).symm ▸ hstep.of_eq rfl (fun _ => id) rfl

/-- A transport that a failed write has left without a connection gives up the rest of it. -/
theorem Follows.unbroken (h : Follows seen e) :
    Follows seen (if e.broken then { e.disconnect with broken := false } else e) := by
  split
  · exact h.disconnect.of_eq rfl (fun _ => id) rfl
  · exact h

/-- The connection in use stays, and else a new one may be taken into use. An attempt that fails
changes nothing. -/
theorem Follows.connected {found : Except NetworkError (Option Nat)} {seen' : List Occurrence}
    {world' : ν} (h : Follows seen e) (hshort : (takeFrame e.buffer).next? = none)
    (hconnected : receive.connected (watched net) e (world, seen) = (found, e', world', seen')) :
    Follows seen' e' ∧ (takeFrame e'.buffer).next? = none ∧
      e'.reading = found.toOption.join := by
  unfold receive.connected watched at hconnected
  split at hconnected
  · next connection hreading =>
    cases hconnected
    exact ⟨h, hshort, hreading⟩
  · next hreading =>
    cases hfound : (net.obtain world).1 with
    | nothing | rejected | unusable =>
      simp only [hfound] at hconnected
      cases hconnected
      exact ⟨(List.append_nil seen).symm ▸ h, hshort, hreading⟩
    | connection number =>
      simp only [hfound] at hconnected
      cases hconnected
      exact ⟨h.install number, rfl, rfl⟩

/-- What a receive reads belongs to the connection in use, or to the one that it takes into use. -/
theorem Follows.receive {timeout : Duration} {result : Except NetworkError (Option Frame)}
    {seen' : List Occurrence} {world' : ν} (h : Follows seen e)
    (hreceive : e.receive (watched net) timeout (world, seen) = (result, e', world', seen')) :
    Follows (seen' ++ returns result) e' := by
  unfold TcpEnd.receive at hreceive
  have hunbroken := h.unbroken
  generalize (if e.broken then { e.disconnect with broken := false } else e) = e₀
    at hreceive hunbroken
  simp only at hreceive
  split at hreceive
  · next taken e₁ htake =>
    cases hreceive
    exact hunbroken.take? htake
  · next hnone =>
    have hshort := next?_of_take?_eq_none hnone
    split at hreceive
    · next error e₁ world₁ hfound =>
      cases hreceive
      exact (List.append_nil _).symm ▸ (hunbroken.connected hshort hfound).1
    · next e₁ world₁ hfound =>
      cases hreceive
      exact (List.append_nil _).symm ▸ (hunbroken.connected hshort hfound).1
    · next connection e₁ world₁ hfound =>
      obtain ⟨hconnected, hshort, hreading⟩ := hunbroken.connected hshort hfound
      split at hreceive
      · cases hreceive
        exact (List.append_nil _).symm ▸ hconnected
      · exact hconnected.readOn hreading hshort hreceive

/-- What is sent does not touch the frames that were read. -/
theorem Follows.send {header : Header} {payload : Bytes} {result : Except NetworkError Unit}
    {seen' : List Occurrence} {world' : ν} (h : Follows seen e)
    (hsend : e.send (watched net) header payload (world, seen) = (result, e', world', seen')) :
    Follows seen' e' := by
  unfold TcpEnd.send watched at hsend
  split at hsend
  · cases hsend
    exact h
  · cases hsend
    exact h
  · next bytes connection _ _ =>
    cases hwritten : (net.write connection bytes world).1 with
    | none =>
      simp only [hwritten] at hsend
      cases hsend
      exact (List.append_nil seen).symm ▸ h.of_eq rfl (fun _ => id) rfl
    | some source =>
      simp only [hwritten] at hsend
      cases hsend
      exact (h.torn connection).of_eq rfl nofun rfl

/-- What happens to a transport keeps the frames of its connections apart. -/
theorem Run.follows (hrun : Run net seen e) : Follows seen e := by
  have hnew : Follows [] {} := ⟨nofun, rfl, fun _ => rfl, nofun, nofun⟩
  induction hrun with
  | server => exact hnew
  | client connection => exact hnew.install connection
  | send _ hsend hseen ih =>
    exact ih.send (eq_of_unwatched ((unwatched_send _ _ _ _ _).trans hsend) hseen)
  | receive _ hreceive hseen ih =>
    exact ih.receive (eq_of_unwatched ((unwatched_receive _ _ _ _).trans hreceive) hseen)
  | receiveTorn _ hreceive hseen _ ih =>
    have hreceived :=
      ih.receive (eq_of_unwatched ((unwatched_receive _ _ _ _).trans hreceive) hseen)
    exact (hreceived.torn _).of_eq rfl nofun rfl

/-- Whatever arrives on whatever connections, in whatever pieces, and whichever of them end or fail:
without a connection the buffer is empty. Each frame that was returned belongs to one connection,
and its bytes follow each other among the bytes of this connection. The frames of a connection are
the first ones, in order, that a search finds in its bytes alone. They are all of the frames in what
was read from it, if it has ended or reading it has failed, and no write to it has failed. -/
theorem Run.connections_kept_apart (hrun : Run net seen e) :
    (e.reading = none → e.buffer = []) ∧
    returned seen = (sessions seen).reverse.flatMap (·.frames) ∧
    ∀ s ∈ sessions seen, (∀ f ∈ s.frames, f.bytes <:+: s.bytes) ∧
      (∀ more, s.frames <+: framesIn (s.bytes ++ more)) ∧
      (s.isOver = true → s.isTorn = false → s.frames = framesIn s.bytes) := by
  have hfollows := hrun.follows
  refine ⟨hfollows.buffer_eq_nil, hfollows.returned_eq, fun s hs => ?_⟩
  have hunmixed := hfollows.unmixed s hs
  refine ⟨fun f hf => ?_, hunmixed.frames_leading, hunmixed.frames_eq⟩
  have hleading := hunmixed.frames_leading []
  rw [List.append_nil] at hleading
  exact bytes_infix_of_mem_framesIn (hleading.subset hf)

/-- A network whose writes all fail, which reads what the world lists, and where every new
connection has the number one. -/
def resetting : StreamNetwork (List ReadResult) where
  obtain world := (.connection 1, world)
  limit _ world := (none, world)
  read _ _ world := (world.headD .nothing, world.tail)
  write _ _ world := (some "reset", world)

/-- A write fails when a frame was read but for its last byte. The next connection brings a frame,
and ends. -/
theorem Run.connections_kept_apart_of_cut_frame :
    let f : Frame := ⟨.new 7 1 2, [5, 6]⟩
    let cut : Bytes := [0xAA, 0, 7, 0, 1, 0, 2, 5]
    ∃ seen e, Run resetting seen e ∧ e.reading = none ∧ e.buffer = [] ∧ returned seen = [f] ∧
      sessions seen =
        [⟨1, 0x55 :: cut ++ [6], [f], true, false⟩, ⟨0, 0x55 :: cut, [], false, true⟩] ∧
      [f] = framesIn (0x55 :: cut ++ [6]) := by
  intro f cut
  let opened : TcpEnd := ({} : TcpEnd).install 0
  let reading : TcpEnd := { opened with buffer := 0x55 :: cut }
  let torn : TcpEnd :=
    { reading with writing := none, broken := true, stats := reading.stats.failed }
  let other : TcpEnd := { torn.install 1 with broken := false, stats := torn.stats.received 10 }
  have hcut : opened.receive resetting ⟨1⟩ [.bytes 0x55 cut] = (.ok none, reading, []) := rfl
  have htorn : reading.send resetting f.header f.payload [] =
      (.error (.transport "Failed to write TCP frame" (some "reset")), torn, []) := rfl
  have hframe : torn.receive resetting ⟨1⟩ [.bytes 0x55 (cut ++ [6])] =
      (.ok (some f), other, []) := rfl
  have hended : other.receive resetting ⟨1⟩ [.ended] = (.ok none, other.disconnect, []) := rfl
  have hrun : Run resetting
      [.opened 0, .read 0 (.bytes 0x55 cut), .read 0 .nothing, .torn 0, .opened 1,
        .read 1 (.bytes 0x55 (cut ++ [6])), .returned f, .read 1 .ended] other.disconnect :=
    ((((Run.client 0).receive hcut rfl).send htorn rfl).receive hframe rfl).receive hended rfl
  obtain ⟨hidle, hreturned, hsessions⟩ := hrun.connections_kept_apart
  have hall := (hsessions _ List.mem_cons_self).2.2 rfl rfl
  exact ⟨_, _, hrun, rfl, hidle rfl, hreturned, rfl, hall⟩

end TcpEnd

end Courier
