import Mathlib.Tactic.Common

/-! Steps that change a state and may fail.  A failure ends them, but what was done stays done.  So it is
said of the result or the failure and of the state what steps come to (`Leads`), and that follows step
by step.  Two cases are common: steps that come to a known result (`Reaches`), and steps that keep a
property of the state unless they fail (`Keeps`). -/

namespace Fieldbus

variable {ε σ α β : Type}

/-- What steps that begin in this state come to, and the state in which they end, satisfy `Q`. -/
def Leads (steps : ExceptT ε (StateM σ) α) (s : σ) (Q : Except ε α → σ → Prop) : Prop :=
  Q (steps.run.run s).1 (steps.run.run s).2

/-- A step that is left out unless a condition holds. -/
def onlyIf (c : Prop) [Decidable c] (step : ExceptT ε (StateM σ) Unit) :
    ExceptT ε (StateM σ) Unit :=
  if c then step else pure ()

theorem onlyIf_bind (c : Prop) [Decidable c] (step : ExceptT ε (StateM σ) Unit)
    (next : Unit → ExceptT ε (StateM σ) α) :
    onlyIf c step >>= next = if c then step >>= next else next () := by
  rw [onlyIf]
  split
  · rfl
  · rw [pure_bind]

namespace Leads

variable {steps : ExceptT ε (StateM σ) α} {next : α → ExceptT ε (StateM σ) β} {s : σ}
  {Q Q' : Except ε α → σ → Prop} {R : Except ε β → σ → Prop}

theorem imp (h : Leads steps s Q) (himp : ∀ result s', Q result s' → Q' result s') :
    Leads steps s Q' :=
  himp _ _ h

theorem pure {a : α} (h : Q (.ok a) s) : Leads (Pure.pure a) s Q := h

theorem bind (h : Leads steps s Q) (hnext : ∀ a s', Q (.ok a) s' → Leads (next a) s' R)
    (herror : ∀ e s', Q (.error e) s' → R (.error e) s') : Leads (steps >>= next) s R := by
  simp only [Leads, ExceptT.run_bind, StateT.run_bind] at h ⊢
  rcases hrun : steps.run.run s with ⟨e | a, s'⟩
  all_goals rw [hrun] at h
  · exact herror e s' h
  · exact hnext a s' h

theorem onlyIf {c : Prop} [Decidable c] {step : ExceptT ε (StateM σ) Unit}
    {Q : Except ε Unit → σ → Prop} (hstep : c → Leads step s Q) (hskip : ¬ c → Q (.ok ()) s) :
    Leads (Fieldbus.onlyIf c step) s Q := by
  rw [Fieldbus.onlyIf]
  split
  · next h => exact hstep h
  · next h => exact hskip h

end Leads

/-! ### Known results -/

/-- From every state with `P` steps come to this result, in a state with `P'`. -/
def Reaches (P : σ → Prop) (steps : ExceptT ε (StateM σ) α) (result : Except ε α)
    (P' : σ → Prop) : Prop :=
  ∀ s, P s → Leads steps s fun result' s' => result' = result ∧ P' s'

namespace Reaches

variable {P P' P'' : σ → Prop} {steps : ExceptT ε (StateM σ) α}
  {next : α → ExceptT ε (StateM σ) β}

theorem pure (a : α) : Reaches P (Pure.pure a : ExceptT ε (StateM σ) α) (.ok a) P :=
  fun _ hs => ⟨rfl, hs⟩

theorem throw (e : ε) :
    Reaches P (MonadExcept.throw e : ExceptT ε (StateM σ) α) (.error e) P :=
  fun _ hs => ⟨rfl, hs⟩

theorem bind {a : α} {result : Except ε β} (h : Reaches P steps (.ok a) P')
    (hnext : Reaches P' (next a) result P'') : Reaches P (steps >>= next) result P'' := by
  intro s hs
  refine (h s hs).bind ?_ ?_
  · rintro _ s' ⟨⟨⟩, hs'⟩
    exact hnext s' hs'
  · rintro _ _ ⟨⟨⟩, -⟩

theorem bind_error {e : ε} (h : Reaches P steps (.error e) P') :
    Reaches P (steps >>= next) (.error e) P' := by
  intro s hs
  refine (h s hs).bind ?_ ?_
  · rintro _ _ ⟨⟨⟩, -⟩
  · rintro _ _ ⟨⟨⟩, hs'⟩
    exact ⟨rfl, hs'⟩

theorem onlyIf {c : Prop} [Decidable c] {step : ExceptT ε (StateM σ) Unit}
    (hstep : c → Reaches P step (.ok ()) P') (hskip : ¬ c → ∀ s, P s → P' s) :
    Reaches P (Fieldbus.onlyIf c step) (.ok ()) P' :=
  fun s hs => .onlyIf (fun hc => hstep hc s hs) fun hc => ⟨rfl, hskip hc s hs⟩

end Reaches

/-! ### What is kept -/

/-- From every state with `P` steps end in one with `P`, or they fail in one with `E`. -/
def Keeps (P E : σ → Prop) (steps : ExceptT ε (StateM σ) α) : Prop :=
  ∀ s, P s → Leads steps s fun result s' => if result.isOk then P s' else E s'

namespace Keeps

variable {P E : σ → Prop} {steps : ExceptT ε (StateM σ) α} {next : α → ExceptT ε (StateM σ) β}

theorem pure (a : α) : Keeps P E (Pure.pure a : ExceptT ε (StateM σ) α) := fun _ hs => hs

theorem throw (e : ε) (h : ∀ s, P s → E s) :
    Keeps P E (MonadExcept.throw e : ExceptT ε (StateM σ) α) := h

theorem bind (h : Keeps P E steps) (hnext : ∀ a, Keeps P E (next a)) :
    Keeps P E (steps >>= next) :=
  fun s hs => (h s hs).bind (fun a s' => hnext a s') fun _ _ hs' => hs'

theorem onlyIf {c : Prop} [Decidable c] {step : ExceptT ε (StateM σ) Unit} (h : Keeps P E step) :
    Keeps P E (Fieldbus.onlyIf c step) :=
  fun s hs => .onlyIf (fun _ => h s hs) fun _ => hs

/-- Steps keep a property, whether they fail or not. -/
theorem self_iff : Keeps P P steps ↔ ∀ s, P s → Leads steps s fun _ s' => P s' := by
  simp only [Keeps, ite_self]

/-- Steps that cannot fail, and have nothing to give. -/
theorem reaches {steps : ExceptT ε (StateM σ) Unit} (h : Keeps P (fun _ => False) steps) :
    Reaches P steps (.ok ()) P := by
  intro s hs
  refine (h s hs).imp ?_
  rintro (e | _) s' hs'
  · exact False.elim hs'
  · exact ⟨rfl, hs'⟩

end Keeps
end Fieldbus
