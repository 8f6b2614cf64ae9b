import Courier.Proofs.Engine.Numbering

/-!
# Changing the transport

An engine can be given another transport as often as it is not running, and each may need a retry
layer or not. The frames in flight stay tracked. There is always exactly one way from the tracker to
the outside, so that every payload that was sent, over whatever transport, ends once.
-/

namespace Courier

namespace Outbound

variable {σ κ : Type}

/-- Whom outside a listener to the tracker passes a final outcome on to. -/
def passesTo (o : Outbound σ κ) : TrackerListener κ → List κ
  | .outside k => [k]
  | .retryLayer => o.retry.elim [] (·.status.handlers)

/-- Whom outside a final outcome comes to, once for each way from the tracker. -/
def paths (o : Outbound σ κ) : List κ := o.status.handlers.flatMap o.passesTo

end Outbound

namespace Engine

/-- Deeds of an engine one after the other, as they are noticed, with changes of the transport in
between, each to whatever state of whatever transport. The first one is attached before anything
else is done. -/
inductive Career {σ ρ : Type} (start : Engine (Watched σ) ρ) :
    List Notice → Carrier σ → Engine (Watched σ) ρ → Prop
  | attach {c : Carrier σ} {medium : Watched σ} {e : Engine (Watched σ) ρ} :
      start.attach c.watched medium = (.ok (), e) → Career start [] c e
  | reattach {notices : List Notice} {c c' : Carrier σ} {medium : Watched σ}
      {e e' : Engine (Watched σ) ρ} : Career start notices c e →
      e.attach c'.watched medium = (.ok (), e') → Career start notices c' e'
  | step {notices draws : List Notice} {told : List DeliveryStatus} {c : Carrier σ}
      {e e' : Engine (Watched σ) ρ} : Career start notices c e → Shows c e draws e' →
      e'.delivered = e.delivered ++ told →
      Career start (notices ++ (draws ++ told.map .told)) c e'

/-- The outcomes that are published before a payload is sent. -/
def leading : List Notice → List DeliveryStatus
  | .told status :: notices => status :: leading notices
  | _ => []

/-- What is noticed about one number that is never drawn while it is in use: payloads are refused,
or sent and then ended, one after the other, and the last one may be in flight. -/
inductive Rounds (seq : UInt16) : List Notice → Option UInt16 → Prop
  | nil : Rounds seq [] none
  | refused {own : List Notice} {id : UInt16} : Rounds seq own none →
      Rounds seq (own ++ [.sent id seq false false]) none
  | accepted {own : List Notice} {id : UInt16} : Rounds seq own none →
      Rounds seq (own ++ [.sent id seq true false]) (some id)
  | ended {own : List Notice} {id : UInt16} {outcome : Outcome} : Rounds seq own (some id) →
      Rounds seq (own ++ [.told ⟨id, seq, outcome⟩]) none

/-- The layers of an engine are connected to the outside in one way: the tracker has one listener,
which is the engine, or a retry layer to which the engine alone listens. -/
def Linked (o : Outbound Unit Unit) : Option Forwarding → Prop
  | none => o.status.slots = [] ∧ o.retry = none
  | some (.tracker connection) => o.status.slots = [⟨connection, .outside ()⟩] ∧
      connection < o.status.nextId ∧ o.retry = none
  | some .retryLayer => ∃ r, o.retry = some r ∧ o.status.slots = [⟨r.subscription, .retryLayer⟩] ∧
      r.subscription < o.status.nextId ∧ r.status.handlers = [()]

variable {σ ρ : Type} {e e' start : Engine (Watched σ) ρ} {c : Carrier σ} {medium : Watched σ}
  {notices own draws : List Notice} {seq : UInt16} {flying flying' : Option UInt16}

/-! ## Connections -/

/-- A new engine is not connected to its layers. -/
theorem linked_new {config : EngineConfig} {nothing : Watched σ} {outside : ρ}
    (hnew : Engine.new config nothing outside = .ok e) : Linked e.outbound.bare e.forwarding := by
  obtain rfl := eq_of_new hnew
  exact ⟨rfl, rfl⟩

/-- What goes through the layers does not change their connections. -/
theorem Does.bare_eq {d : Deed} (h : e.Attached) (hdoes : Does c e d e') :
    e'.outbound.bare = e.outbound.bare ∧ e'.forwarding = e.forwarding := by
  cases hdoes.comes h with
  | @sent clock id payload layer _ _ hlayer =>
    refine ⟨?_, rfl⟩
    rcases h.sendOn_cases hlayer c clock id e.dispatcher.sequence.upcoming payload with
      ⟨error, hrefused⟩ | ⟨header, -, -, -, hsent⟩
    · simp only [Engine.sentOn, hrefused]
      rfl
    · simp only [Engine.sentOn, hsent]
      exact Outbound.bare_sendReliable header payload
  | expired => exact ⟨Outbound.bare_expireAll _ _, rfl⟩
  | acknowledged => exact ⟨Outbound.bare_acknowledge _, rfl⟩
  | confirmed | ignored | aside => exact ⟨rfl, rfl⟩

/-- The one connection of a signal is the newest. -/
def onlyNewest {κ : Type} (s : Signal κ) (handler : κ) : Signal κ where
  slots := [⟨s.nextId, handler⟩]
  nextId := s.nextId + 1

/-- A new connection stays alone when the only old one is removed. -/
theorem disconnect_connect {κ : Type} {s : Signal κ} {id : Nat} {old handler : κ}
    (hslots : s.slots = [⟨id, old⟩]) (hid : id < s.nextId) :
    ((s.connect handler).2.disconnect id).2 = onlyNewest s handler := by
  have hne : s.nextId ≠ id := by omega
  simp [Signal.connect, Signal.disconnect, onlyNewest, hslots, hne]

/-- Removes what an engine was connected to the tracker with. -/
def release (e : Engine σ ρ) (o : Outbound σ Unit) : Outbound σ Unit :=
  let o := match e.forwarding with
    | some (.tracker connection) => disconnect o connection
    | _ => o
  match e.outbound.retry with
  | some r => disconnect o r.subscription
  | none => o

/-- Attaching builds the layers and releases the old ones. -/
theorem attach_of_not_running {σ : Type} {e : Engine σ ρ} (c : Carrier σ) (medium : σ)
    (h : e.running = false) : e.attach c medium =
      let built := build c e.config.maxRetries { e.outbound with medium }
      (.ok (), { e with
        outbound := e.release built.2.2
        forwarding := some built.2.1
        dispatcher := { e.dispatcher with layer := some built.1 } }) := by
  rw [attach, if_neg (by rw [h]; exact Bool.false_ne_true)]
  rfl

/-- The old connection is removed when the layers have a new one, whatever each of them is. -/
theorem release_eq {handler : TrackerListener Unit} {o : Outbound (Watched σ) Unit}
    (h : Linked e.outbound.bare e.forwarding)
    (ho : o.status = (e.outbound.status.connect handler).2) :
    e.release o = { o with status := onlyNewest e.outbound.status handler } := by
  unfold release
  cases hforwarding : e.forwarding with
  | none =>
    rw [hforwarding] at h
    obtain ⟨hslots, hretry⟩ := h
    have hslots : e.outbound.status.slots = [] := hslots
    have hretry : e.outbound.retry = none := Option.map_eq_none_iff.mp hretry
    have hsame : o.status = onlyNewest e.outbound.status handler := by
      rw [ho, Signal.connect, hslots]
      rfl
    simp only [hretry, ← hsame]
  | some forwarding =>
    rw [hforwarding] at h
    cases forwarding with
    | tracker connection =>
      obtain ⟨hslots, hid, hretry⟩ := h
      have hretry : e.outbound.retry = none := Option.map_eq_none_iff.mp hretry
      have honly : ((e.outbound.status.connect handler).2.disconnect connection).2 =
          onlyNewest e.outbound.status handler := disconnect_connect hslots hid
      simp only [hretry, disconnect, ho, honly]
    | retryLayer =>
      obtain ⟨r, hretry, hslots, hid, -⟩ := h
      obtain ⟨r, hretry', rfl⟩ := Option.map_eq_some_iff.mp hretry
      have honly : ((e.outbound.status.connect handler).2.disconnect r.subscription).2 =
          onlyNewest e.outbound.status handler := disconnect_connect hslots hid
      simp only [hretry', disconnect, ho, honly]

/-- What attaching a transport comes to: the engine or a new retry layer without copies is connected
to the tracker, and nothing else is, while the frames in flight stay tracked. -/
inductive Attaches (medium : Watched σ) (e : Engine (Watched σ) ρ) :
    Engine (Watched σ) ρ → Prop
  | tracked : Attaches medium e { e with
      outbound := { e.outbound with
        medium, status := onlyNewest e.outbound.status (.outside ()), retry := none }
      forwarding := some (.tracker e.outbound.status.nextId)
      dispatcher := { e.dispatcher with layer := some .tracked } }
  | reliable : Attaches medium e { e with
      outbound := { e.outbound with
        medium, status := onlyNewest e.outbound.status .retryLayer
        retry := some {
          maxRetries := e.config.maxRetries
          subscription := e.outbound.status.nextId
          status := (({} : Signal Unit).connect ()).2 } }
      forwarding := some .retryLayer
      dispatcher := { e.dispatcher with layer := some .reliable } }

/-- Only an engine that is not running is given a transport. -/
theorem not_running_of_attach {result : Engine (Watched σ) ρ}
    (hattach : e.attach c.watched medium = (.ok (), result)) : e.running = false := by
  unfold attach at hattach
  split at hattach
  · cases hattach
  · next hstill => simpa using hstill

/-- Whatever an engine was connected to, attaching a transport comes to one of the two ways. -/
theorem attaches_attach (h : Linked e.outbound.bare e.forwarding)
    (hattach : e.attach c.watched medium = (.ok (), e')) : Attaches medium e e' := by
  rw [attach_of_not_running _ _ (not_running_of_attach hattach)] at hattach
  obtain ⟨-, rfl⟩ := Prod.mk.inj hattach
  unfold build
  split
  · rw [release_eq h rfl]
    exact .tracked
  · rw [release_eq h rfl]
    exact .reliable

/-- After that it is connected in this way. -/
theorem Attaches.linked (hattaches : Attaches medium e e') :
    Linked e'.outbound.bare e'.forwarding := by
  cases hattaches with
  | tracked => exact ⟨rfl, Nat.lt_succ_self _, rfl⟩
  | reliable => exact ⟨_, rfl, rfl, Nat.lt_succ_self _, rfl⟩

/-- There is one listener to the tracker, and one way from there to the outside. -/
theorem Linked.paths_eq (h : Linked e.outbound.bare e.forwarding)
    (hinit : e.isInitialized = true) :
    e.outbound.status.size = 1 ∧ e.outbound.paths = [()] := by
  cases hforwarding : e.forwarding with
  | none =>
    rw [isInitialized, hforwarding] at hinit
    cases hinit
  | some forwarding =>
    rw [hforwarding] at h
    cases forwarding with
    | tracker connection =>
      obtain ⟨hslots, -, -⟩ := h
      have hslots : e.outbound.status.slots = [⟨connection, .outside ()⟩] := hslots
      simp [Outbound.paths, Outbound.passesTo, Signal.size, Signal.handlers, hslots]
    | retryLayer =>
      obtain ⟨r, hretry, hslots, -, hhandlers⟩ := h
      obtain ⟨r, hretry', rfl⟩ := Option.map_eq_some_iff.mp hretry
      have hslots : e.outbound.status.slots = [⟨r.subscription, .retryLayer⟩] := hslots
      have hhandlers : r.status.slots.map (·.handler) = [()] := hhandlers
      simp [Outbound.paths, Outbound.passesTo, Signal.size, Signal.handlers, hslots, hretry',
        hhandlers]

/-- The frames in flight are those that were in flight. -/
theorem Attaches.inFlightUnder_eq (hattaches : Attaches medium e e') (seq : UInt16) :
    e'.inFlightUnder seq = e.inFlightUnder seq := by
  cases hattaches <;> rfl

/-- After a transport is attached the layers are in order, whatever copies there were before. -/
theorem Attaches.orderly (hattaches : Attaches medium e e') (hheard : e.outbound.heard = []) :
    e'.Orderly := by
  have hcopy (seq : UInt16) : e'.outbound.entry? seq = none := by
    cases hattaches <;> simp [Outbound.entry?]
  refine ⟨⟨⟨?_, ?_⟩, ?_⟩, ?_, ?_⟩
  · cases hattaches <;>
      simp [Outbound.setup, Signal.handlers, Signal.connect, onlyNewest, Setup.Tells]
  · intro seq copy hsome
    rw [Outbound.slices, hcopy] at hsome
    cases hsome
  · cases hattaches <;> simp [Outbound.setup]
  · intro seq copy record hsome
    cases (hcopy seq).symm.trans hsome
  · cases hattaches <;> exact hheard

/-! ## One number -/

variable {id : UInt16}

/-- Where no number is shared, what happens under a number goes on with its rounds. -/
theorem Rounds.moves (h : Rounds seq notices flying) (hmoves : Moves seq flying own flying')
    (hunshared : Unshared (notices ++ own)) : Rounds seq (notices ++ own) flying' := by
  cases hmoves with
  | rest => rwa [List.append_nil]
  | accepted =>
    obtain ⟨-, rfl⟩ := Accounted.eq_none_of_unshared hunshared
    exact .accepted h
  | refused hflying =>
    obtain ⟨-, rfl⟩ := Accounted.eq_none_of_unshared hunshared
    obtain rfl : flying' = none := or_self_iff.mp hflying
    exact .refused h
  | ended hflying =>
    subst hflying
    exact .ended h

/-- What is sent ends what comes before it, or is not the first to do so. -/
theorem leading_concat_sent (notices : List Notice) (id seq : UInt16) (taken inUse : Bool) :
    leading (notices ++ [.sent id seq taken inUse]) = leading notices := by
  induction notices with
  | nil => rfl
  | cons n notices ih =>
    cases n with
    | sent => rfl
    | told status => exact congrArg (status :: ·) ih

/-- What is published after a payload was sent does not come before it. -/
theorem leading_concat_told (status : DeliveryStatus) (h : drawn notices ≠ []) :
    leading (notices ++ [.told status]) = leading notices := by
  induction notices with
  | nil => exact absurd rfl h
  | cons n notices ih =>
    cases n with
    | sent => rfl
    | told first => exact congrArg (first :: ·) (ih h)

/-- What is at some place of a list with a new last element is this element or was there before. -/
theorem concat_eq_append_cons {before after : List Notice} {n last : Notice}
    (h : own ++ [last] = before ++ n :: after) :
    (after = [] ∧ last = n) ∨ ∃ rest, after = rest ++ [last] ∧ own = before ++ n :: rest := by
  rcases List.eq_nil_or_concat after with rfl | ⟨rest, other, rfl⟩
  · exact .inl ⟨rfl, (List.cons.inj (List.append_inj' h rfl).2).1⟩
  · rw [List.concat_eq_append, ← List.cons_append, ← List.append_assoc] at h
    obtain ⟨hearlier, hlast⟩ := List.append_inj' h rfl
    obtain rfl := (List.cons.inj hlast).1
    exact .inr ⟨rest, List.concat_eq_append, hearlier⟩

/-- Within the rounds of a number, what was sent is in flight and nothing was noticed since, or it
has ended once. -/
theorem Rounds.ends_once (h : Rounds seq own flying) {before after : List Notice} {inUse : Bool}
    (hsent : own = before ++ .sent id seq true inUse :: after) :
    (after = [] ∧ flying = some id) ∨
      ∃ outcome, leading after = [⟨id, seq, outcome⟩] ∧ (drawn after = [] → flying = none) := by
  induction h generalizing after with
  | nil => simp at hsent
  | refused _ ih =>
    obtain ⟨-, hlast⟩ | ⟨rest, rfl, hearlier⟩ := concat_eq_append_cons hsent
    · cases hlast
    · rcases ih hearlier with ⟨-, hnone⟩ | ⟨outcome, hleading, -⟩
      · cases hnone
      · exact .inr ⟨outcome, by rw [leading_concat_sent, hleading], fun _ => rfl⟩
  | accepted _ ih =>
    obtain ⟨rfl, hlast⟩ | ⟨rest, rfl, hearlier⟩ := concat_eq_append_cons hsent
    · cases hlast
      exact .inl ⟨rfl, rfl⟩
    · rcases ih hearlier with ⟨-, hnone⟩ | ⟨outcome, hleading, -⟩
      · cases hnone
      · refine .inr ⟨outcome, by rw [leading_concat_sent, hleading], fun hdrawn => ?_⟩
        rw [drawn_append] at hdrawn
        cases (List.append_eq_nil_iff.mp hdrawn).2
  | @ended own _ outcome _ ih =>
    obtain ⟨-, hlast⟩ | ⟨rest, rfl, hearlier⟩ := concat_eq_append_cons hsent
    · cases hlast
    · rcases ih hearlier with ⟨rfl, hsame⟩ | ⟨earlier, hleading, hdrawn⟩
      · obtain rfl := Option.some.inj hsame
        exact .inr ⟨outcome, rfl, fun _ => rfl⟩
      · have hagain : drawn rest ≠ [] := fun hnil => by cases hdrawn hnil
        exact .inr ⟨earlier, by rw [leading_concat_told _ hagain, hleading], fun _ => rfl⟩

/-! ## Careers -/

/-- What holds of an engine at every point of its career. -/
structure Settled (notices : List Notice) (e : Engine (Watched σ) ρ) : Prop where
  linked : Linked e.outbound.bare e.forwarding
  isInitialized : e.isInitialized = true
  orderly : e.Orderly
  rounds : Unshared notices → ∀ seq, Rounds seq (under seq notices) (e.inFlightUnder seq)

/-- An engine with a transport is initialized. -/
theorem Attaches.isInitialized (hattaches : Attaches medium e e') : e'.isInitialized = true := by
  cases hattaches <;> rfl

/-- Another transport leaves what holds of the rounds of each number. -/
theorem Settled.reattach (h : Settled notices e) (hattaches : Attaches medium e e') :
    Settled notices e' where
  linked := hattaches.linked
  isInitialized := hattaches.isInitialized
  orderly := hattaches.orderly h.orderly.heard
  rounds hunshared seq := by
    rw [hattaches.inFlightUnder_eq]
    exact h.rounds hunshared seq

/-- What an engine does goes on with the rounds of each number. -/
theorem Settled.step {told : List DeliveryStatus} (h : Settled notices e)
    (hshows : Shows c e draws e') (htold : e'.delivered = e.delivered ++ told) :
    Settled (notices ++ (draws ++ told.map .told)) e' := by
  obtain ⟨d, hdoes⟩ := hshows.exists_does
  obtain ⟨hbare, hforwarding⟩ := hdoes.bare_eq h.orderly.attached
  refine ⟨?_, ?_, h.orderly.does hdoes, fun hunshared seq => ?_⟩
  · rw [hbare, hforwarding]
    exact h.linked
  · rw [Engine.isInitialized, hforwarding]
    exact h.isInitialized
  · have hearlier : Unshared notices := fun id seq taken hmem =>
      hunshared id seq taken (List.mem_append_left _ hmem)
    have hown : Unshared (under seq (notices ++ (draws ++ told.map .told))) :=
      fun id seq taken hmem => hunshared id seq taken (List.mem_filter.mp hmem).1
    rw [under_append] at hown ⊢
    exact (h.rounds hearlier seq).moves (hshows.moves h.orderly htold seq) hown

/-- Whatever transports an engine is given, whatever is sent in between, acknowledged or late. -/
theorem Career.settled {config : EngineConfig} {nothing : Watched σ} {outside : ρ}
    (h : Career start notices c e) (hnew : Engine.new config nothing outside = .ok start) :
    Settled notices e := by
  induction h with
  | attach hattach =>
    have hattaches := attaches_attach (linked_new hnew) hattach
    obtain rfl := eq_of_new hnew
    refine ⟨hattaches.linked, hattaches.isInitialized, hattaches.orderly rfl, fun _ seq => ?_⟩
    rw [hattaches.inFlightUnder_eq]
    exact .nil
  | reattach _ hattach ih => exact ih.reattach (attaches_attach ih.linked hattach)
  | step _ hshows htold ih => exact ih.step hshows htold

/-- However often an engine is given another transport, with a retry layer or without: the tracker
has one listener, from which there is one way to the outside. As long as no number is drawn that is
in use, everything that was sent, over whatever transport, is in flight, and then nothing was
published about it, or it has ended exactly once, and then it is no longer in flight. -/
theorem Career.every_send_ends_once {config : EngineConfig} {nothing : Watched σ} {outside : ρ}
    (h : Career start notices c e) (hnew : Engine.new config nothing outside = .ok start) :
    e.outbound.status.size = 1 ∧ e.outbound.paths = [()] ∧
      (Unshared notices → ∀ before id seq inUse after,
        notices = before ++ .sent id seq true inUse :: after →
        (under seq after = [] ∧ e.inFlightUnder seq = some id) ∨
          ∃ outcome, leading (under seq after) = [⟨id, seq, outcome⟩] ∧
            (drawn (under seq after) = [] → e.inFlightUnder seq = none)) := by
  have hsettled := h.settled hnew
  obtain ⟨hsize, hpaths⟩ := Linked.paths_eq hsettled.linked hsettled.isInitialized
  refine ⟨hsize, hpaths, fun hunshared before id seq inUse after hsent => ?_⟩
  have hself : under seq [.sent id seq true inUse] = [.sent id seq true inUse] :=
    under_sent_self id seq true inUse
  have hown : under seq notices =
      under seq before ++ .sent id seq true inUse :: under seq after := by
    rw [hsent, ← List.singleton_append, under_append, under_append, hself]
    rfl
  exact (hsettled.rounds hunshared seq).ends_once hown

/-- A payload is sent over a transport that may lose it, through a retry layer. It is acknowledged
when the engine has a transport that loses nothing, and no retry layer. -/
theorem Career.every_send_ends_once_of_replaced_transport :
    let c := MemoryLink.carrier .near
    let outcome : DeliveryStatus := ⟨3, 0, .success⟩
    ∃ (start e : Engine (Watched MemoryLink) Unit),
      Engine.new {} ⟨{}, []⟩ () = .ok start ∧
      Career start [.sent 3 0 true false, .told outcome] c e ∧
      Unshared [.sent 3 0 true false, .told outcome] ∧ e.outbound.paths = [()] ∧
      leading (under 0 [.told outcome]) = [outcome] ∧ e.inFlightUnder 0 = none := by
  intro c outcome
  let lossless : Watched MemoryLink := ⟨{ reliable := true }, []⟩
  have hvalid : ({} : EngineConfig).validate = .ok () := rfl
  obtain ⟨start, hnew, hattach⟩ := exists_attach_onLink hvalid .near ()
  let sent := (onLink {} .near ()).send c.watched 0 3 [9]
  let again := (sent.2.attach c.watched lossless).2
  let last := again.handleFrame c.watched 1 ⟨.ack 0, []⟩
  have hnone : sent.2.delivered = (onLink {} .near ()).delivered ++ [] := rfl
  have hagain : sent.2.attach c.watched lossless = (.ok (), again) := rfl
  have hlast : last.delivered = again.delivered ++ [outcome] := rfl
  have hsent : Career start [.sent 3 0 true false] c sent.2 :=
    (Career.attach hattach).step .send hnone
  have hcareer : Career start [.sent 3 0 true false, .told outcome] c last :=
    (hsent.reattach hagain).step (.other .handle nofun) hlast
  have hunshared : Unshared [.sent 3 0 true false, .told outcome] := by
    intro id seq taken hmem
    simp at hmem
  obtain ⟨-, hpaths, hends⟩ := hcareer.every_send_ends_once hnew
  refine ⟨start, last, hnew, hcareer, hunshared, hpaths, ?_⟩
  rcases hends hunshared [] 3 0 false [.told outcome] rfl with ⟨hnothing, -⟩ | ⟨_, hleading, hgone⟩
  · cases hnothing
  · exact ⟨rfl, hgone rfl⟩

end Engine

end Courier
