import Courier.Proofs.Engine.Errands

/-!
# What becomes of frames for endpoints

A frame for an endpoint is acknowledged, told from the repetitions of the frames before it, and
brought to its endpoint, and each of these steps may come to nothing. What is done about it is said
here by the frames that were handled before it since a start, without the filter of the engine, and
the engine is shown to do exactly that.
-/

namespace Courier

/-- What is reported of an endpoint that was invoked. -/
def Response.reports (id : UInt16) : Response → List ErrorEvent
  | .failed error => [.ofError id (error.forEndpoint id)]
  | .done | .panicked => []

namespace Registry

variable {ρ : Type} {r : Registry ρ}

/-- What a call of an endpoint leaves behind, if there is this endpoint. -/
def afterCall (r : Registry ρ) (outside : ρ) (call : UInt16 × Bytes) : ρ :=
  match r.get? call.1 with
  | some invoker => (invoker call.2 outside).2
  | none => outside

/-- What calls of endpoints leave behind, one after the other. -/
def afterCalls (r : Registry ρ) (calls : List (UInt16 × Bytes)) (outside : ρ) : ρ :=
  calls.foldl r.afterCall outside

/-- There is an endpoint for an id if it is found. -/
theorem contains_eq (r : Registry ρ) (id : UInt16) : r.contains id = (r.get? id).isSome :=
  Std.ExtTreeMap.contains_eq_isSome_getElem?

/-- Whether every endpoint writes down how it is invoked. -/
def Logs (r : Registry ρ) (log : ρ → List (UInt16 × Bytes)) : Prop :=
  ∀ id invoker, r.get? id = some invoker → ∀ payload outside,
    log (invoker payload outside).2 = log outside ++ [(id, payload)]

/-- Endpoints that write down how they are invoked have written down the calls. -/
theorem Logs.afterCalls {log : ρ → List (UInt16 × Bytes)} (h : r.Logs log)
    {calls : List (UInt16 × Bytes)} (hknown : ∀ call ∈ calls, r.contains call.1 = true)
    (outside : ρ) : log (r.afterCalls calls outside) = log outside ++ calls := by
  induction calls generalizing outside with
  | nil => exact (List.append_nil _).symm
  | cons call calls ih =>
    obtain ⟨hcall, hknown⟩ := List.forall_mem_cons.mp hknown
    rw [contains_eq] at hcall
    obtain ⟨invoker, hinvoker⟩ := Option.isSome_iff_exists.mp hcall
    have hlogged : log (r.afterCall outside call) = log outside ++ [call] := by
      rw [afterCall, hinvoker]
      exact h call.1 invoker hinvoker call.2 outside
    have hrest := ih hknown (r.afterCall outside call)
    rw [hlogged, List.append_assoc] at hrest
    exact hrest

end Registry

namespace Engine

variable {σ ρ : Type} {start e : Engine σ ρ} {c : Carrier σ} {clock : Time} {f : Frame}
  {frames : List Frame}

/-- The frames that are not taken for repetitions by an engine with the settings of a start. -/
def admitted (start : Engine σ ρ) (frames : List Frame) : List Frame :=
  executed start.config.dedupeWindow.toNat [] frames

/-- The calls of endpoints that frames come to: those of the frames that are no repetitions and have
an endpoint. -/
def invocations (start : Engine σ ρ) (frames : List Frame) : List (UInt16 × Bytes) :=
  ((start.admitted frames).filter (start.registry.contains ·.header.id)).map Frame.call

/-- What the endpoints leave behind that are invoked for frames. -/
def outsideAfter (start : Engine σ ρ) (frames : List Frame) : ρ :=
  start.registry.afterCalls (start.invocations frames) start.outside

/-- What is reported of a frame once it is acknowledged: nothing of a repetition, that there is no
endpoint for it, or that the endpoint has failed. -/
def complaints (start : Engine σ ρ) (frames : List Frame) (f : Frame) : List ErrorEvent :=
  if Remembered start.config.dedupeWindow.toNat (start.admitted frames) f then []
  else
    match start.registry.get? f.header.id with
    | none => [unknownEndpoint f.header.id]
    | some invoker => (invoker f.payload (start.outsideAfter frames)).1.reports f.header.id

/-- What is reported of an acknowledgment that was handed to the transport. -/
def refusals (id : UInt16) : Except NetworkError Unit → List ErrorEvent
  | .ok () => []
  | .error error => [.ofError id error]

/-- Another frame is admitted unless it is remembered. -/
theorem admitted_concat (start : Engine σ ρ) (frames : List Frame) (f : Frame) :
    start.admitted (frames ++ [f]) = start.admitted frames ++
      if Remembered start.config.dedupeWindow.toNat (start.admitted frames) f then [] else [f] := by
  rw [admitted, executed_append, List.nil_append, executed, executed, executed]
  rfl

/-- A frame that is remembered leaves what is outside alone. -/
theorem outsideAfter_of_remembered
    (h : Remembered start.config.dedupeWindow.toNat (start.admitted frames) f) :
    start.outsideAfter (frames ++ [f]) = start.outsideAfter frames := by
  rw [outsideAfter, invocations, admitted_concat, if_pos h, List.append_nil]
  rfl

/-- A new frame changes what is outside as its endpoint does. -/
theorem outsideAfter_of_new
    (h : ¬ Remembered start.config.dedupeWindow.toNat (start.admitted frames) f) :
    start.outsideAfter (frames ++ [f]) =
      start.registry.afterCall (start.outsideAfter frames) f.call := by
  rw [outsideAfter, invocations, admitted_concat, if_neg h, List.filter_append, List.map_append,
    Registry.afterCalls, List.foldl_append]
  change List.foldl _ (start.outsideAfter frames) _ = _
  cases hget : start.registry.get? f.header.id with
  | some invoker =>
    rw [List.filter_cons_of_pos (by rw [Registry.contains_eq, hget]; rfl)]
    rfl
  | none =>
    rw [List.filter_cons_of_neg (by rw [Registry.contains_eq, hget]; exact Bool.false_ne_true),
      Registry.afterCall, Frame.call, hget]
    rfl

/-- Frames come to calls of endpoints that there are. -/
theorem contains_of_mem_invocations (start : Engine σ ρ) {frames : List Frame}
    {call : UInt16 × Bytes} (h : call ∈ start.invocations frames) :
    start.registry.contains call.1 = true := by
  obtain ⟨f, hf, rfl⟩ := List.mem_map.mp h
  exact (List.mem_filter.mp hf).2

/-- An engine that has handled frames for its endpoints, one after the other, since a start. -/
structure Kept (start : Engine σ ρ) (frames : List Frame) (e : Engine σ ρ) : Prop where
  config : e.config = start.config
  registry : e.registry = start.registry
  capacity : e.duplicates.capacity = start.config.dedupeWindow.toNat
  remembers : e.duplicates.Remembers ((start.admitted frames).map Frame.key)
  outside : e.outside = start.outsideAfter frames

/-- An engine that is not used yet has handled no frames. -/
theorem Fresh.kept {config : EngineConfig} {medium : σ} {outside : ρ}
    (h : start.Fresh config medium outside) : Kept start [] start where
  config := rfl
  registry := rfl
  capacity := by rw [h.duplicates, h.config_eq]; rfl
  remembers := by rw [h.duplicates]; exact DuplicateFilter.remembers_new _
  outside := rfl

/-- Only settings, endpoints, the filter and what is outside matter to what was handled. -/
theorem Kept.congr {e' : Engine σ ρ} (h : Kept start frames e) (hconfig : e'.config = e.config)
    (hregistry : e'.registry = e.registry) (hduplicates : e'.duplicates = e.duplicates)
    (houtside : e'.outside = e.outside) : Kept start frames e' where
  config := hconfig.trans h.config
  registry := hregistry.trans h.registry
  capacity := by rw [hduplicates, h.capacity]
  remembers := by rw [hduplicates]; exact h.remembers
  outside := houtside.trans h.outside

/-- What comes of an acknowledgment that is sent. -/
theorem sendAck_of_acknowledges (header : Header) (hacks : e.config.sendAcks = true)
    (hinit : e.isInitialized = true) :
    e.sendAck c header =
      let sent := c.send (.ack header.seq) [] e.outbound.medium
      { e.lend sent.2 with errors := e.errors ++ refusals header.id sent.1 } := by
  rw [sendAck, hacks, hinit, Outbound.sendRaw]
  rcases c.send (.ack header.seq) [] e.outbound.medium with ⟨error | ⟨⟩, medium⟩
  · rfl
  · exact congrArg (fun errors => ({ e.lend medium with errors } : Engine σ ρ))
      (List.append_nil e.errors).symm

/-- Without acknowledgments in the settings none is sent. -/
theorem sendAck_of_silent (header : Header) (hsilent : e.config.sendAcks = false) :
    e.sendAck c header = e := by
  rw [sendAck, hsilent]
  rfl

/-- An acknowledgment does not matter to what was handled. -/
theorem Kept.sendAck (h : Kept start frames e) (header : Header) :
    Kept start frames (e.sendAck c header) := by
  unfold Engine.sendAck
  split
  · rcases e.outbound.sendRaw c (.ack header.seq) [] with ⟨error | ⟨⟩, outbound⟩ <;>
      exact h.congr rfl rfl rfl rfl
  · exact h

/-- What invoking an endpoint comes to, where there is one, and where there is none. -/
theorem invoke_of_get? {invoker : Invoker ρ} (h : e.registry.get? f.header.id = some invoker) :
    e.invoke f = { e with
      outside := (invoker f.payload e.outside).2
      errors := e.errors ++ (invoker f.payload e.outside).1.reports f.header.id } := by
  have hnone : e.errors = e.errors ++ [] := (List.append_nil _).symm
  simp only [invoke, h]
  rcases invoker f.payload e.outside with ⟨_ | error | _, outside⟩
  · exact congrArg (fun errors => ({ e with outside, errors } : Engine σ ρ)) hnone
  · rfl
  · exact congrArg (fun errors => ({ e with outside, errors } : Engine σ ρ)) hnone

/-- Without an endpoint the call fails, which is published. -/
theorem invoke_of_unknown (h : e.registry.get? f.header.id = none) :
    e.invoke f = e.publishError (unknownEndpoint f.header.id) := by
  rw [invoke, h]

/-- The engine when a frame has been brought to its endpoint after others, as far as it is to be. -/
def brought (start : Engine σ ρ) (frames : List Frame) (f : Frame) (duplicates : DuplicateFilter)
    (e : Engine σ ρ) : Engine σ ρ :=
  { e with
    duplicates
    outside := start.outsideAfter (frames ++ [f])
    errors := e.errors ++ start.complaints frames f }

/-- A repetition is counted and goes nowhere. -/
theorem Kept.brought_of_remembered (h : Kept start frames e) (duplicates : DuplicateFilter)
    (hmem : Remembered start.config.dedupeWindow.toNat (start.admitted frames) f) :
    start.brought frames f duplicates e = { e with duplicates } := by
  rw [brought, outsideAfter_of_remembered hmem, complaints, if_pos hmem, List.append_nil,
    ← h.outside]

/-- Any other frame is brought to its endpoint. -/
theorem Kept.brought_of_new (h : Kept start frames e) (duplicates : DuplicateFilter)
    (hmem : ¬ Remembered start.config.dedupeWindow.toNat (start.admitted frames) f) :
    start.brought frames f duplicates e = { e with duplicates }.invoke f := by
  rw [brought, outsideAfter_of_new hmem, complaints, if_neg hmem, Registry.afterCall, Frame.call,
    ← h.registry, ← h.outside]
  cases hget : e.registry.get? f.header.id with
  | some invoker => exact (invoke_of_get? (e := { e with duplicates }) hget).symm
  | none => exact (invoke_of_unknown (e := { e with duplicates }) hget).symm

/-- A frame for an endpoint is acknowledged and then brought to the endpoint, as far as it is to
be. -/
theorem Kept.handleFrame (h : Kept start frames e) (c : Carrier σ) (clock : Time)
    (hack : f.header.isAck = false) : ∃ duplicates,
      e.handleFrame c clock f = start.brought frames f duplicates (e.sendAck c f.header) ∧
        Kept start (frames ++ [f]) (e.handleFrame c clock f) := by
  replace h := h.sendAck (c := c) f.header
  simp only [Engine.handleFrame, hack, Bool.false_eq_true, if_false]
  generalize e.sendAck c f.header = e at h
  have hkey : f.key = ⟨f.header.id, f.header.seq⟩ := rfl
  have hmem_iff : f.key ∈ ((start.admitted frames).map Frame.key).rtake e.duplicates.capacity ↔
      Remembered start.config.dedupeWindow.toNat (start.admitted frames) f := by
    rw [h.capacity]
    rfl
  rw [← hkey]
  by_cases hmem : Remembered start.config.dedupeWindow.toNat (start.admitted frames) f
  · rw [h.remembers.check_of_mem (hmem_iff.mpr hmem)]
    dsimp only
    refine ⟨_, (h.brought_of_remembered _ hmem).symm, ?_⟩
    rw [← h.brought_of_remembered _ hmem]
    refine ⟨h.config, h.registry, h.capacity, ?_, rfl⟩
    rw [admitted_concat, if_pos hmem, List.append_nil]
    exact ⟨h.remembers.window, h.remembers.seen, h.remembers.nodup⟩
  · obtain ⟨duplicates, hcheck, hcapacity, hremembers⟩ :=
      h.remembers.check_of_not_mem (mt hmem_iff.mp hmem)
    rw [hcheck]
    dsimp only
    refine ⟨duplicates, (h.brought_of_new duplicates hmem).symm, ?_⟩
    rw [← h.brought_of_new duplicates hmem]
    refine ⟨h.config, h.registry, hcapacity.trans h.capacity, ?_, rfl⟩
    rw [admitted_concat, if_neg hmem, List.map_append]
    exact hremembers

end Engine

end Courier
