import Courier.Proofs.Wire.Codec
import Mathlib.Logic.Function.Iterate

/-!
# Progress on a stream

Taking a frame off a buffer either waits for more bytes and leaves the buffer as it is, or makes it
shorter: by a whole frame, or by bytes that belong to none and lie before the next marker. So a
buffer is drained after as many steps as it has bytes at most, whatever they are. No step reaches
beyond the buffer, which is seen when every access is checked.
-/

namespace Courier

/-! ## Every access checked

The same once more, step by step and with an account of what is left of the buffer. An access that
reaches beyond the bytes that are there gives nothing, and then all of it does. -/

/-- The bytes from one place up to another, if there are as many. -/
def slice? (bytes : Bytes) (start stop : Nat) : Option Bytes :=
  if start ≤ stop ∧ stop ≤ bytes.length then some ((bytes.take stop).drop start) else none

/-- Cuts a number of bytes off the front, if there are as many. -/
def cut? (bytes : Bytes) (count : Nat) : Option (Bytes × Bytes) :=
  if count ≤ bytes.length then some (bytes.take count, bytes.drop count) else none

/-- The word at a place, if both its bytes are there. -/
def word? (bytes : Bytes) (place : Nat) : Option UInt16 :=
  return word16 (← bytes[place]?) (← bytes[place + 1]?)

/-- The pairs of bytes that follow each other. -/
def neighbours (bytes : Bytes) : List (UInt8 × UInt8) := bytes.zip (bytes.drop 1)

/-- Reads a header word by word. -/
def Header.read? (bytes : Bytes) : Option (Except FrameError Header) :=
  if bytes.length < headerSize then some (.error (.truncated headerSize bytes.length))
  else do
    let marker ← word? bytes 0
    if marker = frameMarker then
      return .ok ⟨marker, ← word? bytes 2, ← word? bytes 4, ← word? bytes 6⟩
    else return .error (.invalidMarker marker frameMarker)

/-- Reads a buffer that was cut to the size of one frame. -/
def Frame.read? (bytes : Bytes) : Option (Except FrameError Frame) := do
  match ← Header.read? bytes with
  | .error error => return .error error
  | .ok header =>
    if bytes.length = header.frameSize then
      return .ok ⟨header, ← slice? bytes headerSize bytes.length⟩
    else return .error (.lengthMismatch header.length.toNat (bytes.length - headerSize))

/-- The number of bytes that are given up, the first of them in any case: those before the next
marker, or else all, except a last one that may be the first half of a marker. -/
def skip? (buffer : Bytes) : Option Nat := do
  let later ← slice? buffer 1 buffer.length
  match (neighbours later).findIdx? (· = markerBytes) with
  | some place => return place + 1
  | none =>
    let last ← buffer[buffer.length - 1]?
    return if last = markerBytes.1 then buffer.length - 1 else buffer.length

/-- Takes the next frame off the front of a buffer and gives what is left of it. -/
def takeFrame? (buffer : Bytes) : Option (Except FrameError (Option Frame) × Bytes) :=
  if buffer.length < 2 then some (.ok none, buffer)
  else do
    let marker ← word? buffer 0
    if marker = frameMarker then
      if buffer.length < headerSize then return (.ok none, buffer)
      else
        match ← Header.read? (← slice? buffer 0 headerSize) with
        | .error error => return (.error error, buffer)
        | .ok header =>
          if buffer.length < header.frameSize then return (.ok none, buffer)
          else
            let (front, rest) ← cut? buffer header.frameSize
            return ((← Frame.read? front).map some, rest)
    else
      let (_, rest) ← cut? buffer (← skip? buffer)
      return (.error (.invalidMarker marker frameMarker), rest)

/-- What was taken off a buffer, and what is left of it. -/
def Taken.outcome (buffer : Bytes) : Taken → Except FrameError (Option Frame) × Bytes
  | .incomplete => (.ok none, buffer)
  | .frame f rest => (.ok (some f), rest)
  | .malformed error rest => (.error error, rest)

variable {buffer bytes later rest : Bytes}

/-- A part of the bytes within their bounds is there to be taken. -/
theorem slice?_eq {start stop : Nat} (hstart : start ≤ stop) (hstop : stop ≤ bytes.length) :
    slice? bytes start stop = some ((bytes.take stop).drop start) :=
  if_pos ⟨hstart, hstop⟩

/-- As many bytes as there are can be cut off. -/
theorem cut?_eq {count : Nat} (h : count ≤ bytes.length) :
    cut? bytes count = some (bytes.take count, bytes.drop count) :=
  if_pos h

/-- Reading a header takes no byte that is not there, and so it reads what the header says. -/
theorem Header.read?_eq (bytes : Bytes) : Header.read? bytes = some (Header.decode bytes) := by
  match bytes with
  | [] | [_] | [_, _] | [_, _, _] | [_, _, _, _] | [_, _, _, _, _] | [_, _, _, _, _, _]
  | [_, _, _, _, _, _, _] => rfl
  | m₁ :: m₂ :: i₁ :: i₂ :: s₁ :: s₂ :: l₁ :: l₂ :: body =>
    have hlong : ¬ (m₁ :: m₂ :: i₁ :: i₂ :: s₁ :: s₂ :: l₁ :: l₂ :: body).length < headerSize := by
      simp only [List.length_cons, headerSize]
      omega
    rw [read?, if_neg hlong, decode]
    simp only [word?, List.getElem?_cons_zero, List.getElem?_cons_succ, bind, Option.bind, pure]
    split <;> rfl

/-- Reading a frame takes no byte that is not there. -/
theorem Frame.read?_eq (bytes : Bytes) : Frame.read? bytes = some (Frame.ofBuffer bytes) := by
  rw [read?, Header.read?_eq, ofBuffer]
  cases hheader : Header.decode bytes with
  | error error => rfl
  | ok header =>
    have hslice : slice? bytes headerSize bytes.length = some (bytes.drop headerSize) := by
      rw [slice?_eq (headerSize_le_of_decode hheader) (Nat.le_refl _), List.take_length]
    simp only [hslice, bind, Option.bind, Except.bind]
    by_cases hsize : bytes.length = header.frameSize
    · rw [if_pos hsize, if_neg (not_not_intro hsize)]
      rfl
    · rw [if_neg hsize, if_pos hsize]
      rfl

/-- Where the search for a marker goes on. -/
theorem findIdx?_neighbours_cons_cons (a b : UInt8) (rest : Bytes) :
    (neighbours (a :: b :: rest)).findIdx? (· = markerBytes) =
      if a = markerBytes.1 ∧ b = markerBytes.2 then some 0
      else ((neighbours (b :: rest)).findIdx? (· = markerBytes)).map (· + 1) := by
  have hcons : neighbours (a :: b :: rest) = (a, b) :: neighbours (b :: rest) := rfl
  rw [hcons, List.findIdx?_cons]
  simp only [decide_eq_true_eq, Prod.ext_iff]

/-- A marker that is found is kept, and all that follows it. -/
theorem dropToMarker_of_findIdx?_eq_some {place : Nat}
    (h : (neighbours bytes).findIdx? (· = markerBytes) = some place) :
    dropToMarker bytes = bytes.drop place := by
  fun_induction dropToMarker bytes generalizing place with
  | case1 | case2 | case3 => cases h
  | case4 a b rest hmarked =>
    rw [findIdx?_neighbours_cons_cons, if_pos hmarked] at h
    cases h
    rfl
  | case5 a b rest hunmarked ih =>
    rw [findIdx?_neighbours_cons_cons, if_neg hunmarked] at h
    obtain ⟨before, hbefore, rfl⟩ := Option.map_eq_some_iff.mp h
    exact ih hbefore

/-- Without a marker at most the last byte is kept. -/
theorem dropToMarker_of_findIdx?_eq_none {last : UInt8}
    (h : (neighbours bytes).findIdx? (· = markerBytes) = none)
    (hlast : bytes.getLast? = some last) :
    dropToMarker bytes = if last = markerBytes.1 then [last] else [] := by
  fun_induction dropToMarker bytes with
  | case1 => cases hlast
  | case2 =>
    cases hlast
    rfl
  | case3 b hne =>
    cases hlast
    exact (if_neg hne).symm
  | case4 a b rest hmarked =>
    rw [findIdx?_neighbours_cons_cons, if_pos hmarked] at h
    cases h
  | case5 a b rest hunmarked ih =>
    rw [findIdx?_neighbours_cons_cons, if_neg hunmarked] at h
    rw [List.getLast?_cons_cons] at hlast
    exact ih (Option.map_eq_none_iff.mp h) hlast

/-- What is given up ends where the search for the next marker does. -/
theorem exists_skip? (first : UInt8) (hlater : later ≠ []) :
    ∃ count ≤ (first :: later).length, skip? (first :: later) = some count ∧
      (first :: later).drop count = dropToMarker later := by
  have hslice : slice? (first :: later) 1 (first :: later).length = some later := by
    rw [slice?_eq (by simp) (Nat.le_refl _), List.take_length]
    rfl
  simp only [skip?, hslice, bind, Option.bind]
  cases hfound : (neighbours later).findIdx? (· = markerBytes) with
  | some place =>
    obtain ⟨hplace, -⟩ := List.findIdx?_eq_some_iff_getElem.mp hfound
    have hle : place ≤ later.length := by
      rw [neighbours, List.length_zip] at hplace
      omega
    exact ⟨place + 1, Nat.succ_le_succ hle, rfl, (dropToMarker_of_findIdx?_eq_some hfound).symm⟩
  | none =>
    have hlast := List.getLast?_eq_some_getLast hlater
    have hend : (first :: later)[(first :: later).length - 1]? = some (later.getLast hlater) := by
      rw [← List.getLast?_eq_getElem?, List.getLast?_cons, hlast]
      rfl
    rw [dropToMarker_of_findIdx?_eq_none hfound hlast]
    simp only [hend]
    by_cases hhalf : later.getLast hlater = markerBytes.1
    · refine ⟨later.length, Nat.le_succ _, by rw [if_pos hhalf]; rfl, ?_⟩
      rw [if_pos hhalf]
      exact List.drop_length_cons hlater first
    · refine ⟨later.length + 1, Nat.le_refl _, by rw [if_neg hhalf]; rfl, ?_⟩
      rw [if_neg hhalf]
      exact List.drop_length

/-- No access to the buffer is out of range. -/
theorem takeFrame?_eq (buffer : Bytes) :
    takeFrame? buffer = some ((takeFrame buffer).outcome buffer) := by
  match buffer with
  | [] | [_] => rfl
  | a :: b :: rest =>
    have hlong : ¬ (a :: b :: rest).length < 2 := by simp
    have hword : word? (a :: b :: rest) 0 = some (word16 a b) := rfl
    rw [takeFrame?, if_neg hlong, takeFrame, hword]
    simp only [bind, Option.bind]
    by_cases hmarked : word16 a b = frameMarker
    · rw [if_pos hmarked, if_neg (not_not_intro hmarked)]
      by_cases hheadless : (a :: b :: rest).length < headerSize
      · rw [if_pos hheadless, if_pos hheadless]
        rfl
      · rw [if_neg hheadless, if_neg hheadless, slice?_eq (Nat.zero_le _) (by omega)]
        simp only [Header.read?_eq, List.drop_zero]
        cases Header.decode ((a :: b :: rest).take headerSize) with
        | error error => rfl
        | ok header =>
          dsimp only
          by_cases hcut : (a :: b :: rest).length < header.frameSize
          · rw [if_pos hcut, if_pos hcut]
            rfl
          · rw [if_neg hcut, if_neg hcut, cut?_eq (by omega)]
            simp only [Frame.read?_eq]
            cases Frame.ofBuffer ((a :: b :: rest).take header.frameSize) <;> rfl
    · obtain ⟨count, hcount, hskip, hdrop⟩ := exists_skip? a (List.cons_ne_nil b rest)
      rw [if_neg hmarked, if_pos hmarked, hskip]
      simp only [cut?_eq hcount, hdrop]
      rfl

/-! ## What is given up -/

/-- The two bytes of a marker stand in front. -/
theorem marker_prefix_iff {a b : UInt8} :
    [0x55, 0xAA] <+: a :: b :: rest ↔ a = 0x55 ∧ b = 0xAA := by
  rw [List.cons_prefix_cons, List.cons_prefix_cons]
  constructor
  · rintro ⟨rfl, rfl, -⟩
    exact ⟨rfl, rfl⟩
  · rintro ⟨rfl, rfl⟩
    exact ⟨rfl, rfl, List.nil_prefix⟩

/-- No marker is given up, and nothing that follows one. -/
theorem length_le_of_marker {place : Nat} (h : [0x55, 0xAA] <+: bytes.drop place) :
    bytes.length ≤ place + (dropToMarker bytes).length := by
  fun_induction dropToMarker bytes generalizing place with
  | case1 => exact Nat.zero_le _
  | case2 | case4 => exact Nat.le_add_left _ _
  | case3 b =>
    have hle := h.length_le
    simp only [List.length_cons, List.length_nil, List.length_drop] at hle
    omega
  | case5 a b rest hunmarked ih =>
    cases place with
    | zero => exact absurd (marker_prefix_iff.mp h) hunmarked
    | succ place =>
      have hrest := ih h
      rw [List.length_cons]
      omega

/-- What is kept is nothing, half a marker, or starts with a whole one. -/
theorem dropToMarker_cases (bytes : Bytes) :
    dropToMarker bytes = [] ∨ dropToMarker bytes = [0x55] ∨
      [0x55, 0xAA] <+: dropToMarker bytes := by
  fun_induction dropToMarker bytes with
  | case1 | case3 => exact .inl rfl
  | case2 => exact .inr (.inl rfl)
  | case4 a b rest hmarked => exact .inr (.inr (marker_prefix_iff.mpr hmarked))
  | case5 a b rest hunmarked ih => exact ih

/-- More bytes are needed exactly if there is no telling yet whether a frame starts here, or one
does and is not complete. -/
theorem takeFrame_eq_incomplete_iff : takeFrame buffer = .incomplete ↔
    buffer.length < 2 ∨ [0x55, 0xAA] <+: buffer ∧ (buffer.length < 8 ∨
      ∃ header, Header.decode buffer = .ok header ∧ buffer.length < header.frameSize) := by
  have htakes := takes_takeFrame buffer
  generalize takeFrame buffer = result at htakes
  cases htakes with
  | short hshort => exact iff_of_true rfl (.inl hshort)
  | @unmarked a b rest hunmarked =>
    refine iff_of_false nofun ?_
    rintro (hshort | ⟨hmarked, -⟩)
    · simp at hshort
    · exact hunmarked (marker_prefix_iff.mp hmarked)
  | @headless rest hshort =>
    refine iff_of_true rfl (.inr ⟨marker_prefix_iff.mpr ⟨rfl, rfl⟩, .inl ?_⟩)
    simp only [List.length_cons]
    omega
  | @cut header body hmarker hcut =>
    obtain ⟨fields, hencode⟩ := Header.encode_eq_cons hmarker
    refine iff_of_true rfl (.inr ⟨?_, .inr ⟨header, Header.decode_encode_append hmarker body, ?_⟩⟩)
    · rw [hencode]
      exact marker_prefix_iff.mpr ⟨rfl, rfl⟩
    · rw [List.length_append, Header.length_encode, Header.frameSize]
      omega
  | @whole header payload rest hmarker hlength =>
    refine iff_of_false nofun ?_
    rw [Header.decode_encode_append hmarker, List.length_append, Header.length_encode,
      List.length_append, headerSize]
    rintro (hshort | ⟨-, hshort | ⟨declared, heq, hcut⟩⟩)
    · omega
    · omega
    · cases heq
      rw [Header.frameSize, headerSize] at hcut
      omega

/-- A frame that is taken was written in front of what is left. -/
theorem eq_append_of_takeFrame_eq_frame {f : Frame} (h : takeFrame buffer = .frame f rest) :
    ∃ written, Frame.encode f.header f.payload = .ok written ∧ buffer = written ++ rest := by
  have htakes := takes_takeFrame buffer
  rw [h] at htakes
  cases htakes with
  | @whole header payload rest hmarker hlength =>
    have hfits : payload.length ≤ maxPayload := by
      have hword := header.length.toNat_lt
      rw [maxPayload]
      omega
    exact ⟨_, Frame.encode_eq_ok_iff.mpr ⟨hfits, hlength.symm, rfl⟩, (List.append_assoc ..).symm⟩

/-- Bytes that are given up end before the next marker. -/
theorem eq_append_of_takeFrame_eq_malformed {error : FrameError}
    (h : takeFrame buffer = .malformed error rest) :
    error = .invalidMarker (Frame.wordAt 0 buffer) 0x55AA ∧
      ∃ skipped, skipped ≠ [] ∧ buffer = skipped ++ rest ∧
        (∀ place, 1 ≤ place → [0x55, 0xAA] <+: buffer.drop place → skipped.length ≤ place) ∧
        (rest = [] ∨ rest = [0x55] ∨ [0x55, 0xAA] <+: rest) := by
  have htakes := takes_takeFrame buffer
  rw [h] at htakes
  cases htakes with
  | @unmarked a b tail hunmarked =>
    obtain ⟨skipped, hskipped⟩ := dropToMarker_suffix (b :: tail)
    refine ⟨rfl, a :: skipped, List.cons_ne_nil _ _, ?_, ?_, dropToMarker_cases _⟩
    · rw [List.cons_append, hskipped]
    · intro place hplace hmarker
      obtain ⟨before, rfl⟩ := Nat.exists_eq_add_of_le' hplace
      have hkept : (b :: tail).length ≤ before + (dropToMarker (b :: tail)).length :=
        length_le_of_marker hmarker
      have hlength := congrArg List.length hskipped
      rw [List.length_append] at hlength
      rw [List.length_cons]
      omega

/-! ## One frame after the other -/

/-- What is left of a buffer when the next frame was taken off it, or was seen to be incomplete. -/
def remaining (buffer : Bytes) : Bytes := ((takeFrame buffer).outcome buffer).2

/-- As every frame and every report takes some of the bytes, there are no more of them than
bytes. -/
theorem exists_iterate_incomplete (buffer : Bytes) :
    ∃ calls ≤ buffer.length, takeFrame (remaining^[calls] buffer) = .incomplete := by
  fun_induction drain buffer with
  | case1 buffer hnone =>
    refine ⟨0, Nat.zero_le _, ?_⟩
    rw [Function.iterate_zero_apply]
    cases hresult : takeFrame buffer with
    | incomplete => rfl
    | frame | malformed =>
      rw [hresult] at hnone
      cases hnone
  | case2 buffer taken rest hsome _ ih =>
    obtain ⟨calls, hcalls, hincomplete⟩ := ih
    have hremaining : remaining buffer = rest := by
      rw [remaining]
      generalize takeFrame buffer = result at hsome
      cases result with
      | incomplete => cases hsome
      | frame | malformed =>
        cases hsome
        rfl
    have hshorter := length_lt_of_next? hsome
    refine ⟨calls + 1, by omega, ?_⟩
    rwa [Function.iterate_succ_apply, hremaining]

/-- Taking a frame off a buffer never reaches beyond it. It leaves the buffer as it is exactly if
the buffer is too short to tell whether a frame starts there, or starts with a marker and has not
all of the header or of the frame that the header announces. A frame is what stands written in front
of the rest. Nothing else goes wrong than that the marker is missing; then some bytes are given up,
but neither a marker behind the first byte nor anything that follows it, and what is left is
nothing, half a marker, or starts with one. So there are no more such calls than bytes before one
that finds that more bytes are needed. -/
theorem takeFrame_makes_progress (buffer : Bytes) :
    takeFrame? buffer = some ((takeFrame buffer).outcome buffer) ∧
      (takeFrame buffer = .incomplete ↔
        buffer.length < 2 ∨ [0x55, 0xAA] <+: buffer ∧ (buffer.length < 8 ∨
          ∃ header, Header.decode buffer = .ok header ∧ buffer.length < header.frameSize)) ∧
      (∀ f rest, takeFrame buffer = .frame f rest →
        ∃ written, Frame.encode f.header f.payload = .ok written ∧ buffer = written ++ rest) ∧
      (∀ error rest, takeFrame buffer = .malformed error rest →
        error = .invalidMarker (Frame.wordAt 0 buffer) 0x55AA ∧
          ∃ skipped, skipped ≠ [] ∧ buffer = skipped ++ rest ∧
            (∀ place, 1 ≤ place → [0x55, 0xAA] <+: buffer.drop place → skipped.length ≤ place) ∧
            (rest = [] ∨ rest = [0x55] ∨ [0x55, 0xAA] <+: rest)) ∧
      ∃ calls ≤ buffer.length, takeFrame (remaining^[calls] buffer) = .incomplete :=
  ⟨takeFrame?_eq buffer, takeFrame_eq_incomplete_iff,
    fun _ _ => eq_append_of_takeFrame_eq_frame, fun _ _ => eq_append_of_takeFrame_eq_malformed,
    exists_iterate_incomplete buffer⟩

/-- A frame after garbage that ends in half a marker: the garbage goes, and the half that belongs to
the marker of the frame stays. -/
theorem takeFrame_makes_progress_of_half_marker :
    let garbage : Bytes := [0x07, 0x55]
    let written : Bytes := [0x55, 0xAA, 0, 9, 0, 1, 0, 1, 7]
    takeFrame? (garbage ++ written) = some (.error (.invalidMarker 0x0755 0x55AA), written) ∧
      takeFrame? written = some (.ok (some ⟨.new 9 1 1, [7]⟩), []) ∧
      Frame.encode (.new 9 1 1) [7] = .ok written := by
  intro garbage written
  obtain ⟨hgarbage, -⟩ := takeFrame_makes_progress (garbage ++ written)
  obtain ⟨hwritten, -, hframe, -⟩ := takeFrame_makes_progress written
  have htaken : takeFrame written = .frame ⟨.new 9 1 1, [7]⟩ [] := by decide
  obtain ⟨bytes, hencode, happend⟩ := hframe _ _ htaken
  rw [List.append_nil] at happend
  have hskipped : takeFrame (garbage ++ written) =
      .malformed (.invalidMarker 0x0755 0x55AA) written := by decide
  rw [hskipped] at hgarbage
  rw [htaken] at hwritten
  exact ⟨hgarbage, hwritten, happend ▸ hencode⟩

end Courier
