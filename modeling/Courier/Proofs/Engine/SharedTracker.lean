import Courier.Proofs.Engine.Soundness

/-!
# Engines that share their tracker

An engine hands out its tracker, and whoever has it can put frames on record that were never sent,
and stop to track frames that were. Copies and slots are then left without a record. What an engine
passes on, and whether it is connected, does not depend on that, and neither does the fact that
nothing is published under a number while nothing is on record under it.
-/

namespace Courier

namespace Engine

variable {σ ρ : Type} {e e' start : Engine (Watched σ) ρ} {c : Carrier σ} {seq : UInt16}

/-- Puts other frames on record, as somebody can who has the tracker of an engine. -/
def retrack (pending : Std.ExtTreeMap UInt16 InFlight) (e : Engine (Watched σ) ρ) :
    Engine (Watched σ) ρ :=
  { e with outbound := { e.outbound with tracker := { e.outbound.tracker with pending } } }

/-- One thing that is done with an engine, or with its tracker alone. -/
inductive Use : Carrier σ × Engine (Watched σ) ρ → Carrier σ × Engine (Watched σ) ρ → Prop
  | step {s s' : Carrier σ × Engine (Watched σ) ρ} : Step s s' → Use s s'
  | retrack {c : Carrier σ} {e : Engine (Watched σ) ρ}
      (pending : Std.ExtTreeMap UInt16 InFlight) : Use (c, e) (c, e.retrack pending)

/-- One such thing that leaves a number alone: it is not drawn, and nobody else puts a frame on
record under it. -/
inductive Spares (seq : UInt16) :
    Carrier σ × Engine (Watched σ) ρ → Carrier σ × Engine (Watched σ) ρ → Prop
  | step {s s' : Carrier σ × Engine (Watched σ) ρ} : Step s s' → ¬Draws seq s.2 s'.2 →
      Spares seq s s'
  | retrack {c : Carrier σ} {e : Engine (Watched σ) ρ}
      {pending : Std.ExtTreeMap UInt16 InFlight} : pending[seq]? = none →
      Spares seq (c, e) (c, e.retrack pending)

/-- Everything that may happen before a number is drawn again. -/
def Undrawn (seq : UInt16) :
    Carrier σ × Engine (Watched σ) ρ → Carrier σ × Engine (Watched σ) ρ → Prop :=
  Relation.ReflTransGen (Spares seq)

/-! ## What does not depend on the records -/

/-- A new engine has published nothing and is not connected. -/
theorem steady_new {config : EngineConfig} {nothing : Watched σ} {outside : ρ}
    (hnew : Engine.new config nothing outside = .ok e) : e.Steady := (sound_new hnew).steady

/-- Other records change neither what an engine has passed on nor what it is connected to. -/
theorem Steady.retrack (h : e.Steady) (pending : Std.ExtTreeMap UInt16 InFlight) :
    (e.retrack pending).Steady where
  linked := h.linked
  heard := h.heard
  attached := h.attached.imp_left fun hattached => hattached.congr rfl (fun _ => rfl) rfl

/-- Whatever is done with an engine or its tracker. -/
theorem Steady.use {s s' : Carrier σ × Engine (Watched σ) ρ} (h : s.2.Steady) (huse : Use s s') :
    s'.2.Steady := by
  cases huse with
  | step hstep => exact h.step hstep
  | retrack pending => exact h.retrack pending

/-- What holds of every engine that came from a new one, whoever has had its tracker. -/
theorem steady_of_uses {config : EngineConfig} {nothing : Watched σ} {outside : ρ}
    (hnew : Engine.new config nothing outside = .ok start)
    {s : Carrier σ × Engine (Watched σ) ρ} (huses : Relation.ReflTransGen Use (c, start) s) :
    s.2.Steady := by
  induction huses with
  | refl => exact steady_new hnew
  | tail _ huse ih => exact ih.use huse

/-! ## A number under which nothing is on record -/

/-- Under a number that is not drawn and not in use an engine publishes nothing. -/
theorem Steady.quiet {d : Deed} (h : e.Steady) (hdoes : Does c e d e') (hdraw : ¬Draws seq e e')
    (hidle : e.outbound.tracker.pending[seq]? = none) :
    e'.outbound.tracker.pending[seq]? = none ∧
      e'.delivered.filter (·.seq = seq) = e.delivered.filter (·.seq = seq) := by
  rcases h.detached_or_attached with hdetached | hattached
  · have hleaves := hdetached.does hdoes
    exact ⟨hleaves.idle seq hidle, congrArg _ hleaves.delivered_eq⟩
  · have hno := hdoes.ne_send hattached hdraw
    have hfollows := hdoes.follows hattached seq
    have hheard : e'.outbound.heard = [] := hdoes.heard_eq hattached h.heard
    rw [← told_eq_of_heard_nil hheard, ← told_eq_of_heard_nil h.heard]
    change (e'.slices seq).record = none ∧ (e'.slices seq).told = (e.slices seq).told
    have hnone : (e.slices seq).record = none := hidle
    -- An outcome is published only for a record, and a record is made only under a number drawn.
    generalize e'.slices seq = v' at hfollows
    cases hfollows with
    | same => exact ⟨hnone, rfl⟩
    | sent => exact absurd rfl (hno _ _ _)
    | confirmed => exact ⟨hnone, rfl⟩
    | acknowledged _ _ hrecord => cases hnone.symm.trans hrecord
    | late hrecord => cases hnone.symm.trans hrecord

/-- An engine publishes nothing under a number that is not in use until it is drawn, or put on
record by somebody else. -/
theorem Undrawn.quiet {s s' : Carrier σ × Engine (Watched σ) ρ} (h : Undrawn seq s s')
    (hsteady : s.2.Steady) (hidle : s.2.outbound.tracker.pending[seq]? = none) :
    s'.2.delivered.filter (·.seq = seq) = s.2.delivered.filter (·.seq = seq) := by
  -- Along the way the number stays out of use, which what was published does not tell by itself.
  suffices hquiet : s'.2.Steady ∧ s'.2.outbound.tracker.pending[seq]? = none ∧
      s'.2.delivered.filter (·.seq = seq) = s.2.delivered.filter (·.seq = seq) from hquiet.2.2
  induction h with
  | refl => exact ⟨hsteady, hidle, rfl⟩
  | @tail s₁ s₂ _ hnext ih =>
    obtain ⟨hsteady₁, hidle₁, htold₁⟩ := ih
    rw [← htold₁]
    cases hnext with
    | step hstep hdraw =>
      refine ⟨hsteady₁.step hstep, ?_⟩
      cases hstep with
      | attach hattach =>
        cases attaches_attach hsteady₁.linked hattach <;> exact ⟨hidle₁, rfl⟩
      | register id invoker => exact ⟨hidle₁, rfl⟩
      | does hdoes => exact hsteady₁.quiet hdoes hdraw hidle₁
    | @retrack c e pending hnone => exact ⟨hsteady₁.retrack pending, hnone, rfl⟩

end Engine

end Courier
