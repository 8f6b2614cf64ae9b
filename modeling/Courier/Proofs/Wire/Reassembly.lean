import Courier.Wire.Stream
import Mathlib.Algebra.Order.Group.Nat
import Mathlib.Data.List.Infix
import Mathlib.Data.Nat.SuccPred

/-!
# Frames out of chunks

A connection delivers its bytes in chunks that begin and end anywhere, also inside a frame or
between the two bytes of a marker. Taking frames off the front of what has come in, as long as
that is possible, gives the frames that a search through the whole stream would find, whatever
the chunks were.
-/

namespace Courier

/-! ## What is at the front of a buffer -/

/-- What taking a frame off a buffer comes to: the buffer is too short for a marker, starts
without one, has a marker but not all of a header or of the payload that the header announces, or
holds a whole frame. -/
inductive Takes : Bytes → Taken → Prop
  | short {buffer : Bytes} : buffer.length < 2 → Takes buffer .incomplete
  | unmarked {a b : UInt8} {rest : Bytes} : ¬ (a = 0x55 ∧ b = 0xAA) →
      Takes (a :: b :: rest)
        (.malformed (.invalidMarker (word16 a b) frameMarker) (dropToMarker (b :: rest)))
  | headless {rest : Bytes} : rest.length < 6 → Takes (0x55 :: 0xAA :: rest) .incomplete
  | cut {header : Header} {body : Bytes} : header.marker = frameMarker →
      body.length < header.length.toNat → Takes (header.encode ++ body) .incomplete
  | whole {header : Header} {payload rest : Bytes} : header.marker = frameMarker →
      payload.length = header.length.toNat →
      Takes (header.encode ++ (payload ++ rest)) (.frame ⟨header, payload⟩ rest)

/-- The marker is spelt by its two bytes and no others. -/
theorem word16_eq_frameMarker_iff {a b : UInt8} :
    word16 a b = frameMarker ↔ a = 0x55 ∧ b = 0xAA := by
  have hhigh : highByte frameMarker = 0x55 := by decide
  have hlow : lowByte frameMarker = 0xAA := by decide
  constructor
  · intro h
    rw [← hhigh, ← hlow, ← h, highByte_word16, lowByte_word16]
    exact ⟨rfl, rfl⟩
  · rintro ⟨rfl, rfl⟩
    rfl

namespace Header

variable {header : Header}

/-- A header with the marker starts with the two bytes of the marker. -/
theorem encode_eq_cons (h : header.marker = frameMarker) :
    ∃ fields : Bytes, header.encode = 0x55 :: 0xAA :: fields := by
  refine ⟨wordBytes header.id ++ wordBytes header.seq ++ wordBytes header.length, ?_⟩
  rw [encode, h]
  rfl

/-- What was written is read again, whatever follows. -/
theorem decode_encode_append (h : header.marker = frameMarker) (rest : Bytes) :
    decode (header.encode ++ rest) = .ok header := by
  obtain ⟨marker, id, seq, length⟩ := header
  simp only [encode, wordBytes, List.cons_append, List.nil_append, decode, word16_highByte_lowByte]
  exact if_pos h

/-- Eight bytes that start with the marker are a header. -/
theorem exists_encode_eq (i₁ i₂ s₁ s₂ l₁ l₂ : UInt8) :
    ∃ header : Header, header.marker = frameMarker ∧
      header.encode = [0x55, 0xAA, i₁, i₂, s₁, s₂, l₁, l₂] := by
  refine ⟨⟨frameMarker, word16 i₁ i₂, word16 s₁ s₂, word16 l₁ l₂⟩, rfl, ?_⟩
  simp only [encode, wordBytes, highByte_word16, lowByte_word16]
  rfl

end Header

/-- The bytes of a header with its payload, and nothing more, are a frame. -/
theorem Frame.ofBuffer_encode_append {header : Header} {payload : Bytes}
    (h : header.marker = frameMarker) (hlength : payload.length = header.length.toNat) :
    Frame.ofBuffer (header.encode ++ payload) = .ok ⟨header, payload⟩ := by
  have hsize : (header.encode ++ payload).length = header.frameSize := by
    rw [List.length_append, Header.length_encode, hlength]
    rfl
  have hdrop : (header.encode ++ payload).drop headerSize = payload :=
    List.drop_left' (Header.length_encode header)
  simp only [ofBuffer, Header.decode_encode_append h, bind, Except.bind, hsize, hdrop]
  exact if_neg (fun hne => hne rfl)

/-- At a whole header everything depends on whether the payload is there. -/
theorem takeFrame_encode_append {header : Header} (h : header.marker = frameMarker)
    (body : Bytes) : takeFrame (header.encode ++ body) =
      if body.length < header.length.toNat then .incomplete
      else .frame ⟨header, body.take header.length.toNat⟩ (body.drop header.length.toNat) := by
  have hlength : (header.encode ++ body).length = headerSize + body.length := by
    rw [List.length_append, Header.length_encode]
  have htake (n : Nat) : (header.encode ++ body).take (headerSize + n) =
      header.encode ++ body.take n := by
    rw [← Header.length_encode header, List.take_length_add_append]
  have hdrop (n : Nat) : (header.encode ++ body).drop (headerSize + n) = body.drop n := by
    rw [← Header.length_encode header, List.drop_length_add_append]
  have hdecode : Header.decode ((header.encode ++ body).take headerSize) = .ok header :=
    htake 0 ▸ Header.decode_encode_append h _
  have hlong : ¬ (header.encode ++ body).length < headerSize := by omega
  have hsize : header.frameSize = headerSize + header.length.toNat := rfl
  obtain ⟨fields, hencode⟩ := Header.encode_eq_cons h
  have hcons : header.encode ++ body = 0x55 :: 0xAA :: (fields ++ body) := by
    rw [hencode]
    rfl
  have hmarked : ¬ word16 0x55 0xAA ≠ frameMarker := by decide
  rw [hcons, takeFrame, ← hcons, if_neg hmarked, if_neg hlong, hdecode]
  dsimp only
  rw [hsize, hlength]
  by_cases hcut : body.length < header.length.toNat
  · rw [if_pos hcut, if_pos (by omega)]
  · have hpayload : (body.take header.length.toNat).length = header.length.toNat := by
      rw [List.length_take]
      omega
    rw [if_neg hcut, if_neg (by omega), htake, hdrop, Frame.ofBuffer_encode_append h hpayload]

/-- A marker with less than the rest of a header is not enough. -/
theorem takeFrame_of_headless {rest : Bytes} (h : rest.length < 6) :
    takeFrame (0x55 :: 0xAA :: rest) = .incomplete := by
  have hmarked : ¬ word16 0x55 0xAA ≠ frameMarker := by decide
  have hshort : (0x55 :: 0xAA :: rest : Bytes).length < headerSize := by
    simp only [List.length_cons, headerSize]
    omega
  rw [takeFrame, if_neg hmarked, if_pos hshort]

/-- Taking a frame off a buffer comes to one of these. -/
theorem takes_takeFrame (buffer : Bytes) : Takes buffer (takeFrame buffer) := by
  match buffer with
  | [] => exact .short (by simp)
  | [_] => exact .short (by simp)
  | a :: b :: rest =>
    by_cases hmarked : a = 0x55 ∧ b = 0xAA
    · obtain ⟨rfl, rfl⟩ := hmarked
      -- With six more bytes there is a header, and then its length decides.
      match rest with
      | [] | [_] | [_, _] | [_, _, _] | [_, _, _, _] | [_, _, _, _, _] =>
        rw [takeFrame_of_headless (by simp)]
        exact .headless (by simp)
      | i₁ :: i₂ :: s₁ :: s₂ :: l₁ :: l₂ :: body =>
        obtain ⟨header, hmarker, hencode⟩ := Header.exists_encode_eq i₁ i₂ s₁ s₂ l₁ l₂
        have hbuffer : 0x55 :: 0xAA :: i₁ :: i₂ :: s₁ :: s₂ :: l₁ :: l₂ :: body =
            header.encode ++ body := by
          rw [hencode]
          rfl
        rw [hbuffer, takeFrame_encode_append hmarker]
        by_cases hcut : body.length < header.length.toNat
        · rw [if_pos hcut]
          exact .cut hmarker hcut
        · have hpayload : (body.take header.length.toNat).length = header.length.toNat := by
            rw [List.length_take]
            omega
          have hwhole : Takes _ (.frame _ (body.drop header.length.toNat)) :=
            .whole hmarker hpayload
          rw [if_neg hcut]
          rwa [List.take_append_drop] at hwhole
    · have hword : word16 a b ≠ frameMarker := fun h => hmarked (word16_eq_frameMarker_iff.mp h)
      rw [takeFrame, if_pos hword]
      exact .unmarked hmarked

/-- What is left after giving up bytes is the end of what there was. -/
theorem dropToMarker_suffix (buffer : Bytes) : dropToMarker buffer <:+ buffer := by
  fun_induction dropToMarker buffer with
  | case1 | case2 | case4 => exact List.suffix_rfl
  | case3 b => exact List.nil_suffix
  | case5 a b rest _ ih => exact ih.trans (List.suffix_cons a (b :: rest))

/-! ## Taking all that there is -/

/-- What was taken off a buffer, a frame or the report of bytes that start none, and what follows
it. -/
def Taken.next? : Taken → Option (Except FrameError Frame × Bytes)
  | .incomplete => none
  | .frame f rest => some (.ok f, rest)
  | .malformed error rest => some (.error error, rest)

/-- Whatever is taken off a buffer makes it shorter. -/
theorem length_lt_of_next? {buffer rest : Bytes} {taken : Except FrameError Frame}
    (h : (takeFrame buffer).next? = some (taken, rest)) : rest.length < buffer.length := by
  have htakes := takes_takeFrame buffer
  generalize takeFrame buffer = result at h htakes
  cases htakes with
  | short => cases h
  | headless => cases h
  | cut => cases h
  | @unmarked a b bytes =>
    cases h
    have hle := (dropToMarker_suffix (b :: bytes)).length_le
    rw [List.length_cons]
    omega
  | @whole header payload rest =>
    cases h
    rw [List.length_append, Header.length_encode, List.length_append, headerSize]
    omega

/-- Takes frames off a buffer until more bytes are needed, and keeps what is left. -/
def drain (buffer : Bytes) : List (Except FrameError Frame) × Bytes :=
  match h : (takeFrame buffer).next? with
  | none => ([], buffer)
  | some (taken, rest) =>
    have := length_lt_of_next? h
    (taken :: (drain rest).1, (drain rest).2)
termination_by buffer.length

/-- Adds chunks to a buffer one after the other and drains it each time. -/
def feed (buffer : Bytes) : List Bytes → List (Except FrameError Frame) × Bytes
  | [] => ([], buffer)
  | chunk :: chunks =>
    let drained := drain (buffer ++ chunk)
    let fed := feed drained.2 chunks
    (drained.1 ++ fed.1, fed.2)

/-- The frames among what was taken. -/
def framesOf (taken : List (Except FrameError Frame)) : List Frame :=
  taken.filterMap fun
    | .ok frame => some frame
    | .error _ => none

/-- The reports of bytes that start no frame among what was taken. -/
def errorsOf (taken : List (Except FrameError Frame)) : List FrameError :=
  taken.filterMap fun
    | .ok _ => none
    | .error error => some error

/-- The frames that a search finds in a stream: where it is at a marker, the frame of the length
that is announced there, after which it goes on; elsewhere it moves to the next byte. It stops at
the first frame of which something is missing. -/
def framesIn : Bytes → List Frame
  | a :: b :: rest =>
    if a = 0x55 ∧ b = 0xAA then
      match rest with
      | i₁ :: i₂ :: s₁ :: s₂ :: l₁ :: l₂ :: body =>
        let length := word16 l₁ l₂
        if length.toNat ≤ body.length then
          ⟨⟨frameMarker, word16 i₁ i₂, word16 s₁ s₂, length⟩, body.take length.toNat⟩ ::
            framesIn (body.drop length.toNat)
        else []
      | _ => []
    else framesIn (b :: rest)
  | _ => []
termination_by stream => stream.length

/-- What is left when a buffer has been drained needs more bytes. -/
theorem takeFrame_drain (buffer : Bytes) : (takeFrame (drain buffer).2).next? = none := by
  fun_induction drain buffer with
  | case1 buffer hnone => exact hnone
  | case2 buffer taken rest hsome _ ih => exact ih

/-- What is left when a buffer has been fed needs more bytes. -/
theorem takeFrame_feed (chunks : List Bytes) {buffer : Bytes}
    (h : (takeFrame buffer).next? = none) : (takeFrame (feed buffer chunks).2).next? = none := by
  induction chunks generalizing buffer with
  | nil => exact h
  | cons chunk chunks ih => exact ih (takeFrame_drain _)

/-- Reports come in the order in which their bytes were taken. -/
theorem errorsOf_append (first second : List (Except FrameError Frame)) :
    errorsOf (first ++ second) = errorsOf first ++ errorsOf second :=
  List.filterMap_append

/-- Frames come in the order in which their bytes were taken. -/
theorem framesOf_append (first second : List (Except FrameError Frame)) :
    framesOf (first ++ second) = framesOf first ++ framesOf second :=
  List.filterMap_append

/-- Bytes are only ever given up because there is no marker at their front. -/
theorem eq_invalidMarker_of_next? {buffer rest : Bytes} {error : FrameError}
    (h : (takeFrame buffer).next? = some (.error error, rest)) :
    ∃ found, error = .invalidMarker found frameMarker := by
  have htakes := takes_takeFrame buffer
  generalize takeFrame buffer = result at h htakes
  cases htakes with
  | short => cases h
  | @unmarked a b bytes hunmarked =>
    cases h
    exact ⟨_, rfl⟩
  | headless => cases h
  | cut => cases h
  | whole => cases h

/-- Draining a buffer reports nothing but missing markers. -/
theorem eq_invalidMarker_of_mem_drain {buffer : Bytes} {error : FrameError}
    (h : error ∈ errorsOf (drain buffer).1) :
    ∃ found, error = .invalidMarker found frameMarker := by
  fun_induction drain buffer with
  | case1 => cases h
  | case2 buffer taken rest hsome _ ih =>
    cases taken with
    | ok frame => exact ih h
    | error reported =>
      rcases List.mem_cons.mp h with rfl | hlater
      · exact eq_invalidMarker_of_next? hsome
      · exact ih hlater

/-- Feeding a buffer reports nothing but missing markers. -/
theorem eq_invalidMarker_of_mem_feed (chunks : List Bytes) {buffer : Bytes} {error : FrameError}
    (h : error ∈ errorsOf (feed buffer chunks).1) :
    ∃ found, error = .invalidMarker found frameMarker := by
  induction chunks generalizing buffer with
  | nil => cases h
  | cons chunk chunks ih =>
    rw [feed, errorsOf_append] at h
    rcases List.mem_append.mp h with hdrain | hfeed
    · exact eq_invalidMarker_of_mem_drain hdrain
    · exact ih hfeed

/-! ## The search -/

/-- The search moves on where there is no marker. -/
theorem framesIn_of_unmarked {a b : UInt8} (rest : Bytes) (h : ¬ (a = 0x55 ∧ b = 0xAA)) :
    framesIn (a :: b :: rest) = framesIn (b :: rest) := by
  rw [framesIn.eq_def (a :: b :: rest)]
  exact if_neg h

/-- The search moves on from a byte that begins no marker, whatever comes next. -/
theorem framesIn_cons_of_ne {a : UInt8} (rest : Bytes) (h : a ≠ 0x55) :
    framesIn (a :: rest) = framesIn rest := by
  cases rest with
  | nil => rw [framesIn, framesIn] <;> nofun
  | cons b rest => exact framesIn_of_unmarked rest fun hmarked => h hmarked.1

/-- At a header the search finds its frame, or stops as some of it is missing. -/
theorem framesIn_encode_append {header : Header} (h : header.marker = frameMarker)
    (body : Bytes) : framesIn (header.encode ++ body) =
      if header.length.toNat ≤ body.length then
        ⟨header, body.take header.length.toNat⟩ :: framesIn (body.drop header.length.toNat)
      else [] := by
  obtain ⟨marker, id, seq, length⟩ := header
  obtain rfl : marker = frameMarker := h
  simp only [Header.encode, wordBytes, List.cons_append, List.nil_append]
  rw [framesIn, if_pos (by decide)]
  simp only [word16_highByte_lowByte]

/-- The search stops at a marker without the rest of a header. -/
theorem framesIn_of_headless {rest : Bytes} (h : rest.length < 6) :
    framesIn (0x55 :: 0xAA :: rest) = [] := by
  match rest, h with
  | [], _ | [_], _ | [_, _], _ | [_, _, _], _ | [_, _, _, _], _ | [_, _, _, _, _], _ =>
    rw [framesIn, if_pos (by decide)]
    nofun

/-- Bytes that are given up hold no frame, and none that begins in them. -/
theorem framesIn_dropToMarker (buffer more : Bytes) :
    framesIn (dropToMarker buffer ++ more) = framesIn (buffer ++ more) := by
  fun_induction dropToMarker buffer with
  | case1 => rfl
  | case2 => rfl
  | case3 b hne => exact (framesIn_cons_of_ne more hne).symm
  | case4 => rfl
  | case5 a b rest hunmarked ih => exact ih.trans (framesIn_of_unmarked _ hunmarked).symm

/-! ## Chunks do not matter -/

/-- Where a buffer needs more bytes, the search finds nothing in it. -/
theorem framesIn_of_next?_eq_none {buffer : Bytes} (h : (takeFrame buffer).next? = none) :
    framesIn buffer = [] := by
  have htakes := takes_takeFrame buffer
  generalize takeFrame buffer = result at h htakes
  cases htakes with
  | short hshort =>
    match buffer, hshort with
    | [], _ | [_], _ => rw [framesIn]; nofun
  | unmarked => cases h
  | headless hshort => exact framesIn_of_headless hshort
  | cut hmarker hcut => rw [framesIn_encode_append hmarker, if_neg (Nat.not_le.mpr hcut)]
  | whole => cases h

/-- What is taken off a buffer is what the search finds there, whatever bytes come later. -/
theorem framesIn_append_of_next? {buffer rest : Bytes} {taken : Except FrameError Frame}
    (h : (takeFrame buffer).next? = some (taken, rest)) (more : Bytes) :
    framesIn (buffer ++ more) = framesOf [taken] ++ framesIn (rest ++ more) := by
  have htakes := takes_takeFrame buffer
  generalize takeFrame buffer = result at h htakes
  cases htakes with
  | short => cases h
  | @unmarked a b bytes hunmarked =>
    cases h
    have hskip := framesIn_dropToMarker (b :: bytes) more
    exact (framesIn_of_unmarked _ hunmarked).trans hskip.symm
  | headless => cases h
  | cut => cases h
  | @whole header payload rest hmarker hlength =>
    cases h
    have hle : header.length.toNat ≤ (payload ++ (rest ++ more)).length := by
      rw [List.length_append, hlength]
      omega
    rw [List.append_assoc, List.append_assoc, framesIn_encode_append hmarker, if_pos hle,
      List.take_left' hlength, List.drop_left' hlength]
    rfl

/-- Draining a buffer early changes nothing about the frames that are found in the end. -/
theorem framesIn_append (buffer more : Bytes) :
    framesIn (buffer ++ more) =
      framesOf (drain buffer).1 ++ framesIn ((drain buffer).2 ++ more) := by
  fun_induction drain buffer with
  | case1 buffer hnone => rfl
  | case2 buffer taken rest hsome _ ih =>
    rw [framesIn_append_of_next? hsome, ih, ← List.append_assoc, ← framesOf_append]
    rfl

/-- Feeding a buffer takes the frames that the search finds in the buffer and the chunks together.
-/
theorem framesOf_feed (chunks : List Bytes) {buffer : Bytes}
    (h : (takeFrame buffer).next? = none) :
    framesOf (feed buffer chunks).1 = framesIn (buffer ++ chunks.flatten) := by
  induction chunks generalizing buffer with
  | nil =>
    rw [List.flatten_nil, List.append_nil, framesIn_of_next?_eq_none h]
    rfl
  | cons chunk chunks ih =>
    rw [feed, framesOf_append, ih (takeFrame_drain _), List.flatten_cons, ← List.append_assoc,
      framesIn_append (buffer ++ chunk)]

/-- However a stream is cut into chunks, the frames that are taken off it are those that the
search finds in the whole stream, in the same order. -/
theorem reassembly_ignores_chunks (chunks : List Bytes) :
    framesOf (feed [] chunks).1 = framesIn chunks.flatten ∧
      ∀ chunks' : List Bytes, chunks'.flatten = chunks.flatten →
        framesOf (feed [] chunks').1 = framesOf (feed [] chunks).1 := by
  have hfeed (chunks : List Bytes) : framesOf (feed [] chunks).1 = framesIn chunks.flatten :=
    framesOf_feed chunks rfl
  refine ⟨hfeed chunks, ?_⟩
  intro chunks' hflatten
  rw [hfeed, hfeed, hflatten]

/-- A frame after a stray byte, cut within its marker and within its header, or not at all. -/
theorem reassembly_ignores_chunks_of_cut_marker :
    let cut : List Bytes := [[0x01, 0x55], [0xAA, 0, 9, 0, 1, 0], [1, 7]]
    let uncut : List Bytes := [[0x01, 0x55, 0xAA, 0, 9, 0, 1, 0, 1, 7]]
    uncut.flatten = cut.flatten ∧ framesOf (feed [] cut).1 = [⟨.new 9 1 1, [7]⟩] ∧
      framesOf (feed [] uncut).1 = framesOf (feed [] cut).1 := by
  intro cut uncut
  have hframes : framesIn cut.flatten = [⟨.new 9 1 1, [7]⟩] := by
    have hstream : cut.flatten = 0x01 :: ((Header.new 9 1 1).encode ++ [7]) := rfl
    rw [hstream, framesIn_cons_of_ne _ (by decide), framesIn_encode_append rfl, if_pos (by decide)]
    exact congrArg (List.cons _) (framesIn_of_next?_eq_none rfl)
  obtain ⟨hcut, hsame⟩ := reassembly_ignores_chunks cut
  exact ⟨rfl, hcut.trans hframes, hsame uncut rfl⟩

end Courier
