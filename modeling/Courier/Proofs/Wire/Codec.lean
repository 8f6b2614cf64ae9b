import Courier.Proofs.Wire.Reassembly

/-!
# What is a frame

Writing a frame and reading it are inverse to each other: whatever is written is read again, and a
byte string that is read as a frame is what writing this frame gives. Everything else is rejected,
and the reason is the first one that applies of three. A buffer that was cut to the size of a frame
is read as a datagram is.
-/

namespace Courier

namespace Header

/-- What reading a header comes to: there are too few bytes, they start with another word than the
marker, or a header stands in front of the rest. -/
inductive Reads : Bytes → Except FrameError Header → Prop
  | short {bytes : Bytes} : bytes.length < headerSize →
      Reads bytes (.error (.truncated headerSize bytes.length))
  | unmarked {found : UInt16} {rest : Bytes} : found ≠ frameMarker → 6 ≤ rest.length →
      Reads (wordBytes found ++ rest) (.error (.invalidMarker found frameMarker))
  | whole {header : Header} {body : Bytes} : header.marker = frameMarker →
      Reads (header.encode ++ body) (.ok header)

/-- Two bytes spell a word. -/
theorem wordBytes_word16 (high low : UInt8) : wordBytes (word16 high low) = [high, low] := by
  rw [wordBytes, highByte_word16, lowByte_word16]

/-- Different words travel as different bytes. -/
theorem wordBytes_inj {a b : UInt16} : wordBytes a = wordBytes b ↔ a = b := by
  constructor
  · intro h
    obtain ⟨hhigh, hrest⟩ := List.cons.inj h
    obtain ⟨hlow, -⟩ := List.cons.inj hrest
    rw [← word16_highByte_lowByte a, ← word16_highByte_lowByte b, hhigh, hlow]
  · rintro rfl
    rfl

/-- Reading a header comes to one of these. -/
theorem reads_decode (bytes : Bytes) : Reads bytes (decode bytes) := by
  match bytes with
  | [] | [_] | [_, _] | [_, _, _] | [_, _, _, _] | [_, _, _, _, _] | [_, _, _, _, _, _]
  | [_, _, _, _, _, _, _] => exact .short (by simp [headerSize])
  | m₁ :: m₂ :: i₁ :: i₂ :: s₁ :: s₂ :: l₁ :: l₂ :: body =>
    by_cases hmarker : word16 m₁ m₂ = frameMarker
    · obtain ⟨rfl, rfl⟩ := word16_eq_frameMarker_iff.mp hmarker
      obtain ⟨header, hheader, hencode⟩ := exists_encode_eq i₁ i₂ s₁ s₂ l₁ l₂
      have hbytes : 0x55 :: 0xAA :: i₁ :: i₂ :: s₁ :: s₂ :: l₁ :: l₂ :: body =
          header.encode ++ body := by
        rw [hencode]
        rfl
      rw [hbytes, decode_encode_append hheader]
      exact .whole hheader
    · have hword : m₁ :: m₂ :: i₁ :: i₂ :: s₁ :: s₂ :: l₁ :: l₂ :: body =
          wordBytes (word16 m₁ m₂) ++ i₁ :: i₂ :: s₁ :: s₂ :: l₁ :: l₂ :: body := by
        rw [wordBytes_word16]
        rfl
      rw [decode, if_neg hmarker, hword]
      exact .unmarked hmarker (by simp)

/-- A header is made for a payload exactly if a length field can hold its size. -/
theorem forPayload_eq_ok_iff {id seq : UInt16} {payload : Bytes} {header : Header} :
    forPayload id seq payload = .ok header ↔ payload.length ≤ maxPayload ∧
      header = .new id seq (UInt16.ofNat payload.length) := by
  unfold forPayload
  by_cases hfits : payload.length ≤ maxPayload
  · rw [if_pos hfits]
    constructor
    · intro h
      exact ⟨hfits, (Except.ok.inj h).symm⟩
    · rintro ⟨-, rfl⟩
      rfl
  · rw [if_neg hfits]
    constructor
    · nofun
    · rintro ⟨hfits', -⟩
      exact absurd hfits' hfits

end Header

namespace Frame

variable {header : Header} {frame : Frame} {bytes payload body : Bytes} {cause : FrameError}

/-! ## Writing -/

/-- A frame is written exactly if a length field can hold the size of its payload and its own length
field does. -/
theorem encode_eq_ok_iff : encode header payload = .ok bytes ↔
    payload.length ≤ maxPayload ∧ header.length.toNat = payload.length ∧
      bytes = header.encode ++ payload := by
  unfold encode
  by_cases hfits : maxPayload < payload.length
  · rw [if_pos hfits]
    constructor
    · nofun
    · rintro ⟨hle, -⟩
      omega
  · rw [if_neg hfits]
    have hle : payload.length ≤ maxPayload := by omega
    by_cases hlength : header.length.toNat = payload.length
    · rw [if_neg (not_not_intro hlength)]
      constructor
      · intro h
        exact ⟨hle, hlength, (Except.ok.inj h).symm⟩
      · rintro ⟨-, -, rfl⟩
        rfl
    · rw [if_pos hlength]
      constructor
      · nofun
      · rintro ⟨-, hsame, -⟩
        exact absurd hsame hlength

/-- The length field of a frame that is sent holds the size of its payload. -/
theorem toNat_length_new (id seq : UInt16) (hfits : payload.length ≤ maxPayload) :
    (Header.new id seq (UInt16.ofNat payload.length)).length.toNat = payload.length := by
  rw [maxPayload] at hfits
  have hlt : payload.length < 65536 := by omega
  exact UInt16.toNat_ofNat_of_lt' hlt

/-! ## Reading -/

/-- After a header the number of the remaining bytes decides. -/
theorem decode_encode_append (hmarker : header.marker = frameMarker) (body : Bytes) :
    decode (header.encode ++ body) =
      if body.length = header.length.toNat then .ok ⟨header, body⟩
      else .error (.lengthMismatch header.length.toNat body.length) := by
  have hactual : (header.encode ++ body).length - headerSize = body.length := by
    rw [List.length_append, Header.length_encode]
    omega
  have hdrop : (header.encode ++ body).drop headerSize = body :=
    List.drop_left' (Header.length_encode header)
  simp only [decode, Header.decode_encode_append hmarker, bind, Except.bind, hactual, hdrop]
  by_cases hlength : body.length = header.length.toNat
  · rw [if_neg (not_not_intro hlength), if_pos hlength]
    rfl
  · rw [if_pos hlength, if_neg hlength]
    rfl

/-- What reading a datagram comes to: what stands in front is no header, what follows the header
has another size than it announces, or the datagram is a frame. -/
inductive Reads : Bytes → Except FrameError Frame → Prop
  | headless {bytes : Bytes} {cause : FrameError} : Header.Reads bytes (.error cause) →
      Reads bytes (.error cause)
  | mismatched {header : Header} {body : Bytes} : header.marker = frameMarker →
      body.length ≠ header.length.toNat →
      Reads (header.encode ++ body) (.error (.lengthMismatch header.length.toNat body.length))
  | whole {header : Header} {payload : Bytes} : header.marker = frameMarker →
      payload.length = header.length.toNat →
      Reads (header.encode ++ payload) (.ok ⟨header, payload⟩)

/-- Reading a datagram comes to one of these. -/
theorem reads_decode (bytes : Bytes) : Reads bytes (decode bytes) := by
  have hheader := Header.reads_decode bytes
  generalize hresult : Header.decode bytes = result at hheader
  cases result with
  | error cause =>
    have hrejected : decode bytes = .error cause := by
      simp only [decode, hresult, bind, Except.bind]
    rw [hrejected]
    exact .headless hheader
  | ok header =>
    cases hheader with
    | @whole _ body hmarker =>
      rw [decode_encode_append hmarker]
      by_cases hlength : body.length = header.length.toNat
      · rw [if_pos hlength]
        exact .whole hmarker hlength
      · rw [if_neg hlength]
        exact .mismatched hmarker hlength

/-- The header of what is read takes eight of the bytes, so that their number can be taken off. -/
theorem headerSize_le_of_decode (h : Header.decode bytes = .ok header) :
    headerSize ≤ bytes.length := by
  have hheader := Header.reads_decode bytes
  rw [h] at hheader
  cases hheader with
  | whole =>
    rw [List.length_append, Header.length_encode]
    omega

/-- A buffer that was cut to size is read as a datagram is. -/
theorem ofBuffer_eq_decode (bytes : Bytes) : ofBuffer bytes = decode bytes := by
  unfold ofBuffer decode
  cases hheader : Header.decode bytes with
  | error cause => rfl
  | ok header =>
    have hlong := headerSize_le_of_decode hheader
    have hsize : header.frameSize = headerSize + header.length.toNat := rfl
    have hiff : bytes.length ≠ header.frameSize ↔
        bytes.length - headerSize ≠ header.length.toNat := by omega
    simp only [bind, Except.bind, hiff]

/-- What is read is what was written. -/
theorem decode_eq_ok_iff : decode bytes = .ok frame ↔
    frame.header.marker = frameMarker ∧ encode frame.header frame.payload = .ok bytes := by
  obtain ⟨header, payload⟩ := frame
  constructor
  · intro h
    have hreads := reads_decode bytes
    rw [h] at hreads
    cases hreads with
    | whole hmarker hlength =>
      have hfits : payload.length ≤ maxPayload := by
        have hword := header.length.toNat_lt
        rw [maxPayload]
        omega
      exact ⟨hmarker, encode_eq_ok_iff.mpr ⟨hfits, hlength.symm, rfl⟩⟩
  · rintro ⟨hmarker, hencode⟩
    obtain ⟨-, hlength, rfl⟩ := encode_eq_ok_iff.mp hencode
    rw [decode_encode_append hmarker, if_pos hlength.symm]

/-- The word that starts at a place among some bytes. -/
def wordAt (place : Nat) (bytes : Bytes) : UInt16 :=
  word16 (bytes.getD place 0) (bytes.getD (place + 1) 0)

/-- What is wrong with bytes that are no frame, which is the first of three things: they are shorter
than a header, they do not start with the marker, or their fourth word is not the number of the
bytes that follow it. -/
def fault (bytes : Bytes) : FrameError :=
  if bytes.length < 8 then .truncated 8 bytes.length
  else if bytes.take 2 ≠ [0x55, 0xAA] then .invalidMarker (wordAt 0 bytes) 0x55AA
  else .lengthMismatch (wordAt 6 bytes).toNat (bytes.length - 8)

/-- The first word of some bytes is the one that was written first. -/
theorem wordAt_wordBytes (word : UInt16) (rest : Bytes) :
    wordAt 0 (wordBytes word ++ rest) = word := word16_highByte_lowByte word

/-- The fourth word of a header is the length that it announces. -/
theorem wordAt_encode (header : Header) (body : Bytes) :
    wordAt 6 (header.encode ++ body) = header.length := word16_highByte_lowByte header.length

/-- Bytes are rejected for what is wrong with them. -/
theorem eq_fault_of_decode (h : decode bytes = .error cause) : cause = fault bytes := by
  have hmarker : wordBytes frameMarker = [0x55, 0xAA] := by decide
  have hreads := reads_decode bytes
  rw [h] at hreads
  cases hreads with
  | headless hheader =>
    cases hheader with
    | short hshort =>
      rw [headerSize] at hshort
      rw [fault, if_pos hshort]
      rfl
    | @unmarked found rest hfound hrest =>
      have hlong : ¬ (wordBytes found ++ rest).length < 8 := by
        rw [List.length_append, length_wordBytes]
        omega
      have htake : (wordBytes found ++ rest).take 2 = wordBytes found :=
        List.take_left' (length_wordBytes found)
      have hunmarked : (wordBytes found ++ rest).take 2 ≠ [0x55, 0xAA] := by
        rw [htake, ← hmarker]
        exact fun heq => hfound (Header.wordBytes_inj.mp heq)
      rw [fault, if_neg hlong, if_pos hunmarked, wordAt_wordBytes]
      rfl
  | @mismatched header body hheader hlength =>
    have hsize : (header.encode ++ body).length = 8 + body.length := by
      rw [List.length_append, Header.length_encode]
      rfl
    have hlong : ¬ (header.encode ++ body).length < 8 := by omega
    have hactual : (header.encode ++ body).length - 8 = body.length := by omega
    have htake : (header.encode ++ body).take 2 = [0x55, 0xAA] := by
      rw [← hmarker, ← hheader]
      rfl
    rw [fault, if_neg hlong, if_neg (not_not_intro htake), wordAt_encode, hactual]

/-- Bytes are a frame exactly if nothing is wrong with them. -/
theorem exists_decode_iff : (∃ frame, decode bytes = .ok frame) ↔
    8 ≤ bytes.length ∧ bytes.take 2 = [0x55, 0xAA] ∧
      (wordAt 6 bytes).toNat + 8 = bytes.length := by
  constructor
  · rintro ⟨frame, h⟩
    have hreads := reads_decode bytes
    rw [h] at hreads
    cases hreads with
    | @whole header payload hmarker hlength =>
      have hsize : (header.encode ++ payload).length = 8 + payload.length := by
        rw [List.length_append, Header.length_encode]
        rfl
      have htake : (header.encode ++ payload).take 2 = wordBytes header.marker := rfl
      rw [htake, hmarker, wordAt_encode, hsize]
      exact ⟨Nat.le_add_right 8 _, by decide, by omega⟩
  · rintro ⟨hlong, hmarked, hdeclared⟩
    cases hdecode : decode bytes with
    | ok frame => exact ⟨frame, rfl⟩
    | error cause =>
      have hreads := reads_decode bytes
      rw [hdecode] at hreads
      cases hreads with
      | headless hheader =>
        cases hheader with
        | short hshort =>
          rw [headerSize] at hshort
          omega
        | @unmarked found rest hfound =>
          have htake : (wordBytes found ++ rest).take 2 = wordBytes found :=
            List.take_left' (length_wordBytes found)
          have hmarker : wordBytes frameMarker = [0x55, 0xAA] := by decide
          rw [htake, ← hmarker] at hmarked
          exact absurd (Header.wordBytes_inj.mp hmarked) hfound
      | @mismatched header body hmarker hlength =>
        rw [wordAt_encode, List.length_append, Header.length_encode, headerSize] at hdeclared
        omega

/-! ## Both ways -/

/-- Exactly the payloads that a length field can announce are framed, and what is written is read
again, header and payload. Bytes are read as a frame exactly if they start with the marker and are
what writing that frame gives, and a frame is written exactly if its payload fits and its length
field announces it. Other bytes are rejected for the first thing that is wrong with them, and a
buffer that was cut to size is read, or rejected, as a datagram is. -/
theorem codec_is_exact :
    (∀ id seq payload,
      ((∃ header, Header.forPayload id seq payload = .ok header) ↔ payload.length ≤ 65535) ∧
        ∀ header, Header.forPayload id seq payload = .ok header →
          header.id = id ∧ header.seq = seq ∧
            ∃ bytes, encode header payload = .ok bytes ∧ decode bytes = .ok ⟨header, payload⟩) ∧
      (∀ bytes frame, decode bytes = .ok frame ↔
        frame.header.marker = 0x55AA ∧ frame.header.length.toNat = frame.payload.length ∧
          encode frame.header frame.payload = .ok bytes) ∧
      (∀ header payload, (∃ bytes, encode header payload = .ok bytes) ↔
        payload.length ≤ 65535 ∧ header.length.toNat = payload.length) ∧
      (∀ bytes cause, decode bytes = .error cause → cause = fault bytes) ∧
      ∀ bytes, ofBuffer bytes = decode bytes := by
  refine ⟨?_, ?_, ?_, fun bytes cause => eq_fault_of_decode, ofBuffer_eq_decode⟩
  · intro id seq payload
    refine ⟨⟨?_, ?_⟩, ?_⟩
    · rintro ⟨header, hheader⟩
      exact (Header.forPayload_eq_ok_iff.mp hheader).1
    · intro hfits
      exact ⟨_, Header.forPayload_eq_ok_iff.mpr ⟨hfits, rfl⟩⟩
    · intro header hheader
      obtain ⟨hfits, rfl⟩ := Header.forPayload_eq_ok_iff.mp hheader
      have hlength := toNat_length_new id seq hfits
      have hencode := encode_eq_ok_iff.mpr ⟨hfits, hlength, rfl⟩
      exact ⟨rfl, rfl, _, hencode, decode_eq_ok_iff.mpr ⟨rfl, hencode⟩⟩
  · intro bytes frame
    constructor
    · intro hdecode
      obtain ⟨hmarker, hencode⟩ := decode_eq_ok_iff.mp hdecode
      exact ⟨hmarker, (encode_eq_ok_iff.mp hencode).2.1, hencode⟩
    · rintro ⟨hmarker, -, hencode⟩
      exact decode_eq_ok_iff.mpr ⟨hmarker, hencode⟩
  · intro header payload
    constructor
    · rintro ⟨bytes, hencode⟩
      obtain ⟨hfits, hlength, -⟩ := encode_eq_ok_iff.mp hencode
      exact ⟨hfits, hlength⟩
    · rintro ⟨hfits, hlength⟩
      exact ⟨_, encode_eq_ok_iff.mpr ⟨hfits, hlength, rfl⟩⟩

/-- The longest payload is framed and read again, and one byte more is refused. -/
theorem codec_is_exact_of_longest :
    let longest : Bytes := List.replicate 65535 7
    (∃ header bytes, Header.forPayload 9 1 longest = .ok header ∧
        encode header longest = .ok bytes ∧ decode bytes = .ok ⟨header, longest⟩) ∧
      ¬ ∃ header, Header.forPayload 9 1 (longest ++ [7]) = .ok header := by
  intro longest
  have hlength : longest.length = 65535 := List.length_replicate
  obtain ⟨hsender, -⟩ := codec_is_exact
  obtain ⟨hframed, hread⟩ := hsender 9 1 longest
  obtain ⟨header, hheader⟩ := hframed.mpr (Nat.le_of_eq hlength)
  obtain ⟨-, -, bytes, hencode, hdecode⟩ := hread header hheader
  refine ⟨⟨header, bytes, hheader, hencode, hdecode⟩, ?_⟩
  rw [(hsender 9 1 (longest ++ [7])).1, List.length_append, hlength]
  exact Nat.not_succ_le_self 65535

end Frame

end Courier
