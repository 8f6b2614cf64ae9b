import Courier.Proofs.Wire.Codec

/-!
# Finding frames again

Between frames a stream may hold bytes that belong to none. As long as there is no marker among
them, every frame is taken off the stream as it was written, wherever the chunks end and whatever
the payloads hold; what is given up is reported, and nothing else is.
-/

namespace Courier

/-- A part of a stream: bytes without a marker, and then a frame with a payload that fits. -/
structure Stretch where
  garbage : Bytes
  id : UInt16
  seq : UInt16
  payload : Bytes
  unmarked : ¬ [0x55, 0xAA] <:+: garbage
  fits : payload.length ≤ maxPayload

namespace Stretch

/-- The frame at the end of a stretch. -/
def frame (s : Stretch) : Frame :=
  ⟨.new s.id s.seq (UInt16.ofNat s.payload.length), s.payload⟩

/-- Writes a stretch as a sender frames its payload. -/
def write (s : Stretch) : Except FrameError Bytes := do
  let header ← Header.forPayload s.id s.seq s.payload
  return s.garbage ++ (← Frame.encode header s.payload)

/-- Writes stretches one after the other. -/
def writeAll (stretches : List Stretch) : Except FrameError Bytes := do
  return (← stretches.mapM write).flatten

/-- The bytes of a stretch. -/
def bytes (s : Stretch) : Bytes := s.garbage ++ (s.frame.header.encode ++ s.payload)

/-- What is taken off a stream that holds some stretches, until others are still to come. Without
garbage nothing is reported. -/
structure Passes (stretches : List Stretch) (taken : List (Except FrameError Frame))
    (coming : List Stretch) : Prop where
  frames : stretches.map frame = framesOf taken ++ coming.map frame
  clean : (∀ s ∈ stretches, s.garbage = []) →
    errorsOf taken = [] ∧ ∀ s ∈ coming, s.garbage = []

variable {s : Stretch} {stretches coming later : List Stretch}
  {taken taken' : List (Except FrameError Frame)} {buffer rest more : Bytes}

/-! ## What is written -/

/-- The frame of a stretch has the marker. -/
theorem marker_frame : s.frame.header.marker = frameMarker := rfl

/-- The frame of a stretch announces as many bytes as its payload has, as the payload fits. -/
theorem toNat_length_frame : s.frame.header.length.toNat = s.payload.length :=
  Frame.toNat_length_new s.id s.seq s.fits

/-- Writing a stretch never fails. -/
theorem write_eq (s : Stretch) : s.write = .ok s.bytes := by
  have hheader : Header.forPayload s.id s.seq s.payload = .ok s.frame.header := if_pos s.fits
  have hencode : Frame.encode s.frame.header s.payload =
      .ok (s.frame.header.encode ++ s.payload) := by
    rw [Frame.encode, if_neg (Nat.not_lt.mpr s.fits), if_neg (not_not_intro toNat_length_frame)]
  simp only [write, hheader, bind, Except.bind, hencode]
  rfl

/-- Writing several stretches never fails, and their bytes come one after the other. -/
theorem writeAll_eq (stretches : List Stretch) :
    writeAll stretches = .ok (stretches.flatMap bytes) := by
  have hmap : stretches.mapM write = .ok (stretches.map bytes) := by
    induction stretches with
    | nil => rfl
    | cons s stretches ih =>
      rw [List.mapM_cons, write_eq, ih]
      rfl
  rw [writeAll, hmap, List.flatMap_def]
  rfl

/-- A stretch that starts with the marker has no garbage. -/
theorem garbage_eq_nil_of_marked {frameBytes tail : Bytes}
    (h : s.garbage ++ 0x55 :: frameBytes = 0x55 :: 0xAA :: tail) : s.garbage = [] := by
  match hgarbage : s.garbage with
  | [] => rfl
  | [_] =>
    rw [hgarbage] at h
    simp at h
  | a :: b :: garbage =>
    rw [hgarbage] at h
    obtain ⟨ha, htail⟩ := List.cons.inj h
    obtain ⟨hb, -⟩ := List.cons.inj htail
    rw [ha, hb] at hgarbage
    exact absurd ⟨[], garbage, hgarbage.symm⟩ s.unmarked

/-! ## What is taken -/

/-- Before anything is taken all stretches are still to come. -/
theorem Passes.refl : Passes stretches [] stretches := ⟨rfl, fun h => ⟨rfl, h⟩⟩

/-- What is taken in two goes is taken in one. -/
theorem Passes.trans (h : Passes stretches taken coming) (h' : Passes coming taken' later) :
    Passes stretches (taken ++ taken') later where
  frames := by rw [h.frames, h'.frames, framesOf_append, List.append_assoc]
  clean hclean := by
    obtain ⟨herrors, hcoming⟩ := h.clean hclean
    obtain ⟨herrors', hlater⟩ := h'.clean hcoming
    refine ⟨?_, hlater⟩
    rw [errorsOf_append, herrors, herrors']
    rfl

/-- Giving up bytes within garbage stops before the next frame, wherever the buffer ends. -/
theorem dropToMarker_garbage {garbage tail : Bytes} (hunmarked : ¬ [0x55, 0xAA] <:+: garbage)
    (h : buffer ++ more = garbage ++ 0x55 :: 0xAA :: tail) : ∃ garbage' : Bytes,
      garbage' <:+ garbage ∧ dropToMarker buffer ++ more = garbage' ++ 0x55 :: 0xAA :: tail := by
  fun_induction dropToMarker buffer generalizing garbage with
  | case1 => exact ⟨garbage, List.suffix_rfl, h⟩
  | case2 => exact ⟨garbage, List.suffix_rfl, h⟩
  | case3 b hne =>
    cases garbage with
    | nil => exact absurd (List.cons.inj h).1 hne
    | cons a garbage => exact ⟨garbage, List.suffix_cons a garbage, (List.cons.inj h).2⟩
  | case4 => exact ⟨garbage, List.suffix_rfl, h⟩
  | case5 a b rest hne ih =>
    cases garbage with
    | nil =>
      obtain ⟨ha, htail⟩ := List.cons.inj h
      exact absurd ⟨ha, (List.cons.inj htail).1⟩ hne
    | cons a' garbage =>
      have hrest : ¬ [0x55, 0xAA] <:+: garbage := fun hwithin =>
        hunmarked (hwithin.trans (List.suffix_cons a' garbage).isInfix)
      obtain ⟨garbage', hsuffix, hdrop⟩ := ih hrest (List.cons.inj h).2
      exact ⟨garbage', hsuffix.trans (List.suffix_cons a' garbage), hdrop⟩

/-- The front of a stretch without garbage is its frame. -/
theorem eq_of_encode_append {header : Header} (hmarker : header.marker = frameMarker)
    (h : header.encode ++ rest = s.bytes ++ more) :
    s.garbage = [] ∧ header = s.frame.header ∧ rest = s.payload ++ more := by
  obtain ⟨fields, hencode⟩ := Header.encode_eq_cons hmarker
  obtain ⟨fields', hencode'⟩ := Header.encode_eq_cons (marker_frame (s := s))
  have hgarbage : s.garbage = [] := by
    rw [bytes, hencode, hencode', List.append_assoc] at h
    exact garbage_eq_nil_of_marked h.symm
  rw [bytes, hgarbage, List.nil_append, List.append_assoc] at h
  obtain ⟨hsame, hrest⟩ := List.append_inj h rfl
  have hdecode := Header.decode_encode_append hmarker []
  rw [hsame, Header.decode_encode_append marker_frame] at hdecode
  exact ⟨hgarbage, (Except.ok.inj hdecode).symm, hrest⟩

/-- Whatever is taken off a buffer that holds the beginning of some stretches, other stretches
remain to be taken. -/
theorem passes_of_next? {taken : Except FrameError Frame}
    (h : (takeFrame buffer).next? = some (taken, rest))
    (hstream : buffer ++ more = stretches.flatMap bytes) :
    ∃ coming, Passes stretches [taken] coming ∧ rest ++ more = coming.flatMap bytes := by
  have htakes := takes_takeFrame buffer
  generalize takeFrame buffer = result at h htakes
  cases htakes with
  | short => cases h
  | headless => cases h
  | cut => cases h
  | @unmarked a b remainder hunmarked =>
    cases h
    cases stretches with
    | nil => cases hstream
    | cons s stretches =>
      obtain ⟨fields, hencode⟩ := Header.encode_eq_cons (marker_frame (s := s))
      rw [List.flatMap_cons, bytes, hencode, List.append_assoc] at hstream
      -- Some garbage is left, and what remains of it is the garbage of the stretch from here on.
      cases hgarbage : s.garbage with
      | nil =>
        rw [hgarbage] at hstream
        obtain ⟨ha, htail⟩ := List.cons.inj hstream
        exact absurd ⟨ha, (List.cons.inj htail).1⟩ hunmarked
      | cons a' garbage =>
        rw [hgarbage] at hstream
        have hrest : ¬ [0x55, 0xAA] <:+: garbage := fun hwithin => s.unmarked
          (hgarbage ▸ hwithin.trans (List.suffix_cons a' garbage).isInfix)
        have htail : b :: remainder ++ more = _ := (List.cons.inj hstream).2
        obtain ⟨garbage', hsuffix, hdrop⟩ := dropToMarker_garbage hrest htail
        have hunmarked' : ¬ [0x55, 0xAA] <:+: garbage' := fun hwithin =>
          hrest (hwithin.trans hsuffix.isInfix)
        refine ⟨{ s with garbage := garbage', unmarked := hunmarked' } :: stretches, ⟨rfl, ?_⟩, ?_⟩
        · intro hclean
          rw [hclean s List.mem_cons_self] at hgarbage
          cases hgarbage
        · have hframe : ({ s with garbage := garbage', unmarked := hunmarked' } : Stretch).frame =
              s.frame := rfl
          rw [hdrop, List.flatMap_cons, bytes, hframe, hencode, List.append_assoc]
          rfl
  | @whole header payload rest hmarker hlength =>
    cases h
    cases stretches with
    | nil =>
      have hcontra := congrArg List.length hstream
      simp [headerSize] at hcontra
    | cons s stretches =>
      rw [List.flatMap_cons, List.append_assoc] at hstream
      obtain ⟨hgarbage, rfl, hpayload⟩ := eq_of_encode_append hmarker hstream
      rw [List.append_assoc] at hpayload
      obtain ⟨rfl, hrest⟩ := List.append_inj hpayload (hlength.trans toNat_length_frame)
      refine ⟨stretches, ⟨rfl, ?_⟩, hrest⟩
      intro hclean
      exact ⟨rfl, fun s' hs' => hclean s' (List.mem_cons_of_mem _ hs')⟩

/-- Draining a buffer that begins with some stretches takes frames of these and leaves the others to
come. -/
theorem passes_drain (hstream : buffer ++ more = stretches.flatMap bytes) :
    ∃ coming, Passes stretches (drain buffer).1 coming ∧
      (drain buffer).2 ++ more = coming.flatMap bytes := by
  fun_induction drain buffer generalizing stretches with
  | case1 buffer hnone => exact ⟨stretches, .refl, hstream⟩
  | case2 buffer taken rest hsome _ ih =>
    obtain ⟨coming, hpasses, hrest⟩ := passes_of_next? hsome hstream
    obtain ⟨later, hpasses', hmore⟩ := ih hrest
    exact ⟨later, hpasses.trans hpasses', hmore⟩

/-- Feeding a buffer with all of some stretches takes frames of these, and what is left holds the
others. -/
theorem passes_feed (chunks : List Bytes)
    (hstream : buffer ++ chunks.flatten = stretches.flatMap bytes) :
    ∃ coming, Passes stretches (feed buffer chunks).1 coming ∧
      (feed buffer chunks).2 = coming.flatMap bytes := by
  induction chunks generalizing buffer stretches with
  | nil => exact ⟨stretches, .refl, by rwa [List.flatten_nil, List.append_nil] at hstream⟩
  | cons chunk chunks ih =>
    rw [List.flatten_cons, ← List.append_assoc] at hstream
    obtain ⟨coming, hpasses, hrest⟩ := passes_drain hstream
    obtain ⟨later, hpasses', hleft⟩ := ih hrest
    exact ⟨later, hpasses.trans hpasses', hleft⟩

/-- As long as a stretch is whole, there is something to take. -/
theorem eq_nil_of_next?_eq_none (hbuffer : buffer = stretches.flatMap bytes)
    (h : (takeFrame buffer).next? = none) : stretches = [] := by
  cases stretches with
  | nil => rfl
  | cons s stretches =>
    rw [List.flatMap_cons] at hbuffer
    have hlength : headerSize ≤ buffer.length := by
      rw [hbuffer, bytes]
      simp only [List.length_append, Header.length_encode]
      omega
    have htakes := takes_takeFrame buffer
    generalize takeFrame buffer = result at h htakes
    cases htakes with
    | short hshort =>
      rw [headerSize] at hlength
      omega
    | headless hshort =>
      simp only [headerSize, List.length_cons] at hlength
      omega
    | @cut header body hmarker hcut =>
      obtain ⟨-, rfl, rfl⟩ := eq_of_encode_append hmarker hbuffer
      rw [toNat_length_frame, List.length_append] at hcut
      omega
    | unmarked => cases h
    | whole => cases h

/-- Frames that a sender wrote, with bytes between them that hold no marker, are all taken off the
stream as they were written, however the stream is cut into chunks. Only missing markers are
reported, and none where there is nothing between the frames; in the end nothing is left over. -/
theorem every_frame_is_found (stretches : List Stretch) :
    ∃ stream : Bytes, writeAll stretches = .ok stream ∧
      ∀ chunks : List Bytes, chunks.flatten = stream →
        framesOf (feed [] chunks).1 = stretches.map frame ∧
        (∀ e ∈ errorsOf (feed [] chunks).1, ∃ found, e = .invalidMarker found frameMarker) ∧
        (feed [] chunks).2 = [] ∧
        ((∀ s ∈ stretches, s.garbage = []) → errorsOf (feed [] chunks).1 = []) := by
  refine ⟨stretches.flatMap bytes, writeAll_eq stretches, ?_⟩
  intro chunks hchunks
  have hstream : [] ++ chunks.flatten = stretches.flatMap bytes := hchunks
  obtain ⟨coming, hpasses, hleft⟩ := passes_feed chunks hstream
  obtain rfl : coming = [] := eq_nil_of_next?_eq_none hleft (takeFrame_feed chunks rfl)
  have hframes := hpasses.frames
  rw [List.map_nil, List.append_nil] at hframes
  exact ⟨hframes.symm, fun e he => eq_invalidMarker_of_mem_feed chunks he, hleft,
    fun hclean => (hpasses.clean hclean).1⟩

/-- Two frames after garbage that ends in half a marker and after none, with a marker in the first
payload and every chunk three bytes long. -/
theorem every_frame_is_found_of_half_marker :
    let halfMarker : Stretch := ⟨[0x07, 0x55], 9, 1, [0x55, 0xAA, 2], by decide, by decide⟩
    let next : Stretch := ⟨[], 9, 2, [], by decide, by decide⟩
    let chunks : List Bytes :=
      [[0x07, 0x55, 0x55], [0xAA, 0, 9], [0, 1, 0], [3, 0x55, 0xAA], [2, 0x55, 0xAA], [0, 9, 0],
        [2, 0, 0]]
    writeAll [halfMarker, next] = .ok chunks.flatten ∧
      framesOf (feed [] chunks).1 = [⟨.new 9 1 3, [0x55, 0xAA, 2]⟩, ⟨.new 9 2 0, []⟩] ∧
      (feed [] chunks).2 = [] := by
  intro halfMarker next chunks
  obtain ⟨stream, hwrite, hfeed⟩ := every_frame_is_found [halfMarker, next]
  have hbytes : [halfMarker, next].flatMap bytes = chunks.flatten := by decide
  rw [writeAll_eq, hbytes] at hwrite
  obtain rfl := Except.ok.inj hwrite
  obtain ⟨hframes, -, hleft, -⟩ := hfeed chunks rfl
  exact ⟨by rw [writeAll_eq, hbytes], hframes, hleft⟩

end Stretch

end Courier
