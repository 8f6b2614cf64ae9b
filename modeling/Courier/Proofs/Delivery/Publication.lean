import Courier.Proofs.Delivery.Slice

/-!
# Publishing and sending

A publication goes through the listeners of a signal in turn; those outside only hear of
it, and the retry layer acts. The operations that send are stated as equations here, without
a distinction of cases in their arguments. None of the operations changes how the layers are
put together, or takes back what was published or handed over.
-/

namespace Courier

/-- A signal calls its handlers from the first to the last. -/
theorem Signal.emit_eq_foldl {κ α σ : Type} (call : κ → α → σ → σ) (a : α) (s : Signal κ)
    (state : σ) :
    s.emit call a state = s.handlers.foldl (fun state handler => call handler a state) state := by
  simp [emit, callAll, handlers, List.foldl_map]

namespace Outbound

variable {σ κ : Type} {o : Outbound σ κ} {c : Carrier σ} {clock : Time}

/-! ## Listeners in turn -/

/-- Lets several listeners hear of a frame, one after the other. -/
def hearAll (listeners : List κ) (status : DeliveryStatus) (o : Outbound σ κ) : Outbound σ κ :=
  { o with heard := o.heard ++ listeners.map (·, status) }

/-- Listeners that are told in turn have all been told. -/
theorem foldl_hear (listeners : List κ) (status : DeliveryStatus) :
    listeners.foldl (fun o l => hear l status o) o = o.hearAll listeners status := by
  induction listeners generalizing o with
  | nil => simp [hearAll]
  | cons l listeners ih =>
    rw [List.foldl_cons, ih]
    simp [hearAll, hear]

/-- The listeners outside among those of the tracker. -/
def outsiders (handlers : List (TrackerListener κ)) : List κ :=
  handlers.filterMap fun
    | .retryLayer => none
    | .outside l => some l

/-- A listener outside is told as often as it is connected. -/
theorem count_outsiders [DecidableEq κ] (k : κ) (handlers : List (TrackerListener κ)) :
    (outsiders handlers).count k = handlers.count (.outside k) := by
  induction handlers with
  | nil => rfl
  | cons handler handlers ih =>
    cases handler with
    | retryLayer => simpa [outsiders] using ih
    | outside l =>
      by_cases h : l = k
      · simpa [outsiders, h] using ih
      · simpa [outsiders, h] using ih

/-- What a listener to the tracker does when something is published. -/
def react (c : Carrier σ) (clock : Time) (status : DeliveryStatus) (o : Outbound σ κ) :
    TrackerListener κ → Outbound σ κ
  | .retryLayer => o.onStatus c clock status
  | .outside l => o.hear l status

/-- To publish is to let the listeners to the tracker react in turn. -/
theorem publish_eq_foldl (c : Carrier σ) (clock : Time) (status : DeliveryStatus) :
    o.publish c clock status = o.status.handlers.foldl (react c clock status) o := by
  rw [publish, Signal.emit_eq_foldl]
  congr 1

/-- Without a retry layer among them, they all are outside. -/
theorem foldl_react_of_not_mem {c : Carrier σ} {clock : Time} {status : DeliveryStatus}
    {handlers : List (TrackerListener κ)} (h : .retryLayer ∉ handlers) :
    handlers.foldl (react c clock status) o = o.hearAll (outsiders handlers) status := by
  induction handlers generalizing o with
  | nil => simp [hearAll, outsiders]
  | cons handler handlers ih =>
    cases handler with
    | retryLayer => simp at h
    | outside l =>
      rw [List.foldl_cons, ih (by simpa using h)]
      simp [react, hear, hearAll, outsiders]

/-- A listener hears as often as it is among those that are told. -/
theorem heardBy_hearAll [DecidableEq κ] (k : κ) (listeners : List κ) (status : DeliveryStatus) :
    (o.hearAll listeners status).heardBy k =
      o.heardBy k ++ List.replicate (listeners.count k) status := by
  simp only [heardBy, hearAll, List.filterMap_append, List.append_cancel_left_eq]
  induction listeners with
  | nil => rfl
  | cons l listeners ih =>
    by_cases h : l = k
    · simp [h, ih, List.replicate_succ]
    · simp [h, ih]

/-! ## Sending and expiring -/

/-- A frame is tracked before it is sent, and no longer if the carrier does not take it. -/
theorem sendTracked_eq {header : Header} {payload : Bytes} (h : header.isAck = false) :
    o.sendTracked c clock header payload =
      ((c.send header payload o.medium).1,
        { o with
          tracker := if (c.send header payload o.medium).1.isOk
            then o.tracker.add header.seq header.id clock
            else (o.tracker.add header.seq header.id clock).erase header.seq
          medium := (c.send header payload o.medium).2 }) := by
  rcases hc : c.send header payload o.medium with ⟨_ | ⟨⟩, medium⟩ <;>
    simp [sendTracked, h, sendRaw, hc, Except.isOk, Except.toBool]

/-- How often the retry layer resends a frame, if there is one. -/
def retries (o : Outbound σ κ) : UInt32 :=
  match o.retry with
  | some r => r.maxRetries
  | none => 0

/-- A copy is kept before a frame is sent, and no longer if it cannot be sent. -/
theorem sendReliable_eq {header : Header} {payload : Bytes} (h : header.isAck = false) :
    o.sendReliable c clock header payload =
      let kept := o.mapEntries (·.insert header.seq ⟨header, payload, o.retries⟩)
      let sent := kept.sendTracked c clock header payload
      (sent.1, if sent.1.isOk then sent.2 else sent.2.mapEntries (·.erase header.seq)) := by
  rw [sendReliable, if_neg (by simp [h])]
  rcases o with ⟨tracker, status, _ | r, medium, heard⟩
  all_goals
    dsimp only [mapEntries, retries, Option.map]
    generalize sendTracked c clock header payload _ = sent
    rcases sent with ⟨_ | ⟨⟩, o'⟩ <;> rfl

/-- A copy that may still be sent is sent again; it is given up if that fails. -/
theorem retryLate_eq {status : DeliveryStatus} {e : RetryEntry} (he : o.entry? status.seq = some e)
    (hpos : e.remaining ≠ 0) : o.retryLate c clock status =
      let spent := o.mapEntries (·.insert status.seq { e with remaining := e.remaining - 1 })
      let sent := spent.sendTracked c clock e.header e.payload
      if sent.1.isOk then sent.2
      else (sent.2.mapEntries (·.erase e.header.seq)).publishFinal status := by
  simp only [retryLate, he, hpos, if_false]
  generalize sendTracked c clock e.header e.payload _ = sent
  rcases sent with ⟨_ | ⟨⟩, o'⟩ <;> rfl

/-- Ends the tracking of late frames and publishes that in the given order. -/
def expireAll (c : Carrier σ) (clock : UInt16 → Time) (late : List (UInt16 × InFlight))
    (o : Outbound σ κ) : Outbound σ κ :=
  late.foldl (fun o (seq, record) => o.publish c (clock seq) ⟨record.endpoint, seq, .timeout⟩)
    { o with tracker := late.foldl (fun t (seq, _) => t.erase seq) o.tracker }

/-- A scan takes the late frames in the order of their numbers. -/
theorem scan_eq (now : Time) (clock : UInt16 → Time) :
    o.scan c now clock =
      ((o.tracker.overdue now).length, o.expireAll c clock (o.tracker.overdue now)) := by
  simp [scan, TrackerHost.scan, Tracker.expire, host, expireAll, List.foldl_map]

/-! ## The layers stay as they were put together -/

/-- The layers with their connections, without what passes through them. -/
def bare (o : Outbound σ κ) : Outbound Unit κ where
  tracker := { timeout := o.tracker.timeout }
  status := o.status
  retry := o.retry.map fun r => { r with entries := ∅ }
  medium := ()

/-- Which layers there are, and how they are connected, is told without what passes through them. -/
theorem setup_bare (o : Outbound σ κ) : o.bare.setup = o.setup := by
  rcases o with ⟨tracker, status, _ | r, medium, heard⟩ <;> rfl

/-- What leaves the layers as they were put together leaves them set up as they were. -/
theorem setup_of_bare_eq {o' : Outbound σ κ} (h : o'.bare = o.bare) : o'.setup = o.setup := by
  rw [← setup_bare o', h, setup_bare]

/-- Telling listeners leaves the layers as they were put together. -/
@[simp] theorem bare_hearAll (listeners : List κ) (status : DeliveryStatus) :
    (o.hearAll listeners status).bare = o.bare := rfl

/-- Publishing a final outcome leaves the layers as they were put together. -/
@[simp] theorem bare_publishFinal (status : DeliveryStatus) :
    (o.publishFinal status).bare = o.bare := by
  unfold publishFinal
  split
  · simp only [Signal.emit_eq_foldl, foldl_hear, bare_hearAll]
  · rfl

/-- Whatever becomes of copies, the layers stay as they were put together. -/
@[simp] theorem bare_mapEntries
    (f : Std.ExtTreeMap UInt16 RetryEntry → Std.ExtTreeMap UInt16 RetryEntry) :
    (o.mapEntries f).bare = o.bare := by
  simp [bare, mapEntries, Function.comp_def]

/-- Handing a frame to the transport leaves the layers as they were put together. -/
@[simp] theorem bare_sendRaw (header : Header) (payload : Bytes) :
    (o.sendRaw c header payload).2.bare = o.bare := rfl

/-- Sending with a record leaves the layers as they were put together. -/
@[simp] theorem bare_sendTracked (header : Header) (payload : Bytes) :
    (o.sendTracked c clock header payload).2.bare = o.bare := by
  by_cases h : header.isAck
  · simp [sendTracked, h]
  · rw [sendTracked_eq (by simpa using h)]
    dsimp only [bare]
    split <;> simp

/-- Sending with a copy leaves the layers as they were put together. -/
@[simp] theorem bare_sendReliable (header : Header) (payload : Bytes) :
    (o.sendReliable c clock header payload).2.bare = o.bare := by
  by_cases h : header.isAck
  · simp [sendReliable, h]
  · rw [sendReliable_eq (by simpa using h)]
    dsimp only
    split <;> simp

/-- What the retry layer does about a late frame leaves the layers as they were put together. -/
@[simp] theorem bare_retryLate (status : DeliveryStatus) :
    (o.retryLate c clock status).bare = o.bare := by
  cases he : o.entry? status.seq with
  | none => simp [retryLate, he]
  | some e =>
    by_cases hpos : e.remaining = 0
    · simp [retryLate, he, hpos]
    · rw [retryLate_eq he hpos]
      dsimp only
      split <;> simp

/-- Every reaction to what is published leaves the layers as they were put together. -/
@[simp] theorem bare_react (status : DeliveryStatus) (l : TrackerListener κ) :
    (react c clock status o l).bare = o.bare := by
  cases l with
  | retryLayer => cases h : status.outcome <;> simp [react, onStatus, h]
  | outside l => rfl

/-- All that comes of publishing leaves the layers as they were put together. -/
@[simp] theorem bare_publish (status : DeliveryStatus) :
    (o.publish c clock status).bare = o.bare := by
  rw [publish_eq_foldl]
  generalize o.status.handlers = handlers
  induction handlers generalizing o with
  | nil => rfl
  | cons handler handlers ih => simp [ih]

/-- An acknowledgment leaves the layers as they were put together. -/
@[simp] theorem bare_acknowledge (seq : UInt16) :
    (o.acknowledge c clock seq).2.bare = o.bare := by
  simp only [acknowledge, TrackerHost.acknowledge, host, Tracker.settle]
  cases o.tracker.pending[seq]? with
  | none => rfl
  | some record => exact bare_publish ⟨record.endpoint, seq, .success⟩

/-- Ending the tracking of frames does not change how long frames may wait. -/
theorem timeout_foldl_erase (late : List (UInt16 × InFlight)) (t : Tracker) :
    (late.foldl (fun t (seq, _) => t.erase seq) t).timeout = t.timeout := by
  induction late generalizing t with
  | nil => rfl
  | cons x late ih => simp [ih]

/-- A scan that finds frames late leaves the layers as they were put together. -/
@[simp] theorem bare_expireAll (clock : UInt16 → Time) (late : List (UInt16 × InFlight)) :
    (o.expireAll c clock late).bare = o.bare := by
  have hfold (o : Outbound σ κ) : (late.foldl (fun o (seq, record) =>
      o.publish c (clock seq) ⟨record.endpoint, seq, .timeout⟩) o).bare = o.bare := by
    induction late generalizing o with
    | nil => rfl
    | cons x late ih => simp [ih]
  rw [expireAll, hfold]
  dsimp only [bare]
  rw [timeout_foldl_erase]

/-- Telling listeners does not change the connections. -/
@[simp] theorem setup_hearAll (listeners : List κ) (status : DeliveryStatus) :
    (o.hearAll listeners status).setup = o.setup := rfl

/-- Publishing a final outcome does not change the connections. -/
@[simp] theorem setup_publishFinal (status : DeliveryStatus) :
    (o.publishFinal status).setup = o.setup := setup_of_bare_eq (bare_publishFinal status)

/-- Whatever becomes of copies, the connections do not change. -/
@[simp] theorem setup_mapEntries
    (f : Std.ExtTreeMap UInt16 RetryEntry → Std.ExtTreeMap UInt16 RetryEntry) :
    (o.mapEntries f).setup = o.setup := setup_of_bare_eq (bare_mapEntries f)

/-- Sending with a record does not change the connections. -/
@[simp] theorem setup_sendTracked (header : Header) (payload : Bytes) :
    (o.sendTracked c clock header payload).2.setup = o.setup :=
  setup_of_bare_eq (bare_sendTracked header payload)

/-- Sending with a copy does not change the connections. -/
@[simp] theorem setup_sendReliable (header : Header) (payload : Bytes) :
    (o.sendReliable c clock header payload).2.setup = o.setup :=
  setup_of_bare_eq (bare_sendReliable header payload)

/-- What is done about a late frame does not change the connections. -/
@[simp] theorem setup_retryLate (status : DeliveryStatus) :
    (o.retryLate c clock status).setup = o.setup := setup_of_bare_eq (bare_retryLate status)

/-- Publishing does not change the connections. -/
@[simp] theorem setup_publish (status : DeliveryStatus) :
    (o.publish c clock status).setup = o.setup := setup_of_bare_eq (bare_publish status)

/-- An acknowledgment does not change the connections. -/
@[simp] theorem setup_acknowledge (seq : UInt16) :
    (o.acknowledge c clock seq).2.setup = o.setup := setup_of_bare_eq (bare_acknowledge seq)

/-- A scan does not change the connections. -/
@[simp] theorem setup_expireAll (clock : UInt16 → Time) (late : List (UInt16 × InFlight)) :
    (o.expireAll c clock late).setup = o.setup := setup_of_bare_eq (bare_expireAll clock late)

/-! ## Nothing is taken back -/

section

variable {o o' o'' : Outbound (Watched σ) κ}

/-- What was published and what was handed over is added to. -/
structure Extends (o o' : Outbound (Watched σ) κ) : Prop where
  heard : o.heard <+: o'.heard
  handed : o.medium.handed <+: o'.medium.handed

/-- Where nothing happens nothing is taken back. -/
theorem Extends.refl : o.Extends o := ⟨List.prefix_rfl, List.prefix_rfl⟩

/-- What is kept twice in a row is kept. -/
theorem Extends.trans (h : o.Extends o') (h' : o'.Extends o'') : o.Extends o'' :=
  ⟨h.heard.trans h'.heard, h.handed.trans h'.handed⟩

/-- Telling listeners takes nothing back. -/
theorem extends_hearAll (listeners : List κ) (status : DeliveryStatus) :
    o.Extends (o.hearAll listeners status) :=
  ⟨List.prefix_append _ _, List.prefix_rfl⟩

/-- Publishing a final outcome takes nothing back. -/
theorem extends_publishFinal (status : DeliveryStatus) : o.Extends (o.publishFinal status) := by
  unfold publishFinal
  split
  · simp only [Signal.emit_eq_foldl, foldl_hear]
    exact extends_hearAll _ status
  · exact .refl

/-- What becomes of copies neither tells nor hands over anything. -/
theorem extends_mapEntries
    (f : Std.ExtTreeMap UInt16 RetryEntry → Std.ExtTreeMap UInt16 RetryEntry) :
    o.Extends (o.mapEntries f) := ⟨List.prefix_rfl, List.prefix_rfl⟩

/-- A frame that is sent is handed over behind all others. -/
theorem extends_sendTracked (header : Header) (payload : Bytes) :
    o.Extends (o.sendTracked c.watched clock header payload).2 := by
  by_cases h : header.isAck
  · simp only [sendTracked, h, if_true]
    exact ⟨List.prefix_rfl, List.prefix_append _ _⟩
  · rw [sendTracked_eq (by simpa using h)]
    exact ⟨List.prefix_rfl, List.prefix_append _ _⟩

/-- A frame of which a copy is held is handed over behind all others. -/
theorem extends_sendReliable (header : Header) (payload : Bytes) :
    o.Extends (o.sendReliable c.watched clock header payload).2 := by
  by_cases h : header.isAck
  · simp only [sendReliable, h, if_true]
    exact extends_sendTracked header payload
  · rw [sendReliable_eq (by simpa using h)]
    dsimp only
    split
    · exact .trans (extends_mapEntries _) (extends_sendTracked header payload)
    · refine .trans ?_ (extends_mapEntries _)
      exact .trans (extends_mapEntries _) (extends_sendTracked header payload)

/-- A frame that is sent again is handed over behind all others. -/
theorem extends_retryLate (status : DeliveryStatus) :
    o.Extends (o.retryLate c.watched clock status) := by
  cases he : o.entry? status.seq with
  | none =>
    simp only [retryLate, he]
    exact extends_publishFinal status
  | some e =>
    by_cases hpos : e.remaining = 0
    · simp only [retryLate, he, hpos, if_true]
      exact .trans (extends_mapEntries _) (extends_publishFinal status)
    · rw [retryLate_eq he hpos]
      dsimp only
      split
      · exact .trans (extends_mapEntries _) (extends_sendTracked e.header e.payload)
      · refine .trans ?_ (extends_publishFinal status)
        refine .trans ?_ (extends_mapEntries _)
        exact .trans (extends_mapEntries _) (extends_sendTracked e.header e.payload)

/-- What is published, with all that comes of it, takes nothing back. -/
theorem extends_publish (status : DeliveryStatus) :
    o.Extends (o.publish c.watched clock status) := by
  rw [publish_eq_foldl]
  generalize o.status.handlers = handlers
  induction handlers generalizing o with
  | nil => exact .refl
  | cons handler handlers ih =>
    refine .trans ?_ ih
    cases handler with
    | outside l => exact ⟨List.prefix_append _ _, List.prefix_rfl⟩
    | retryLayer =>
      rw [react, onStatus]
      cases status.outcome with
      | success => exact .trans (extends_mapEntries _) (extends_publishFinal status)
      | timeout => exact extends_retryLate status

/-- An acknowledgment takes nothing back. -/
theorem extends_acknowledge (seq : UInt16) :
    o.Extends (o.acknowledge c.watched clock seq).2 := by
  simp only [acknowledge, TrackerHost.acknowledge, host, Tracker.settle]
  cases o.tracker.pending[seq]? with
  | none => exact .refl
  | some record =>
    let erased := { o with tracker := o.tracker.erase seq }
    have h : erased.Extends (erased.publish c.watched clock ⟨record.endpoint, seq, .success⟩) :=
      extends_publish _
    exact ⟨h.heard, h.handed⟩

/-- A scan takes nothing back. -/
theorem extends_expireAll (clock : UInt16 → Time) (late : List (UInt16 × InFlight)) :
    o.Extends (o.expireAll c.watched clock late) := by
  have hfold (o : Outbound (Watched σ) κ) : o.Extends (late.foldl (fun o (seq, record) =>
      o.publish c.watched (clock seq) ⟨record.endpoint, seq, .timeout⟩) o) := by
    induction late generalizing o with
    | nil => exact .refl
    | cons x late ih => exact .trans (extends_publish _) (ih _)
  have h := hfold { o with tracker := late.foldl (fun t (seq, _) => t.erase seq) o.tracker }
  exact ⟨h.heard, h.handed⟩

end

end Outbound

end Courier
