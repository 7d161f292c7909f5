import Mathlib.Order.Basic
import Mathlib.Data.List.Basic

namespace Transition
set_option autoImplicit true

/-- Run a list of labels from a state; a label that is not enabled ends the run with `none`. -/
def exec (step : σ → α → Option σ) : σ → List α → Option σ
  | s, [] => some s
  | s, a :: as => (step s a).bind fun s' => exec step s' as

/-- A condition on labels and the states they are taken in, along a whole run. -/
def Meets (step : σ → α → Option σ) (C : σ → α → Prop) : σ → List α → Prop
  | _, [] => True
  | s, a :: as => C s a ∧ ∀ s', step s a = some s' → Meets step C s' as

instance Meets.decidable {step : σ → α → Option σ} {C : σ → α → Prop}
    [∀ s a, Decidable (C s a)] : (s : σ) → (as : List α) → Decidable (Meets step C s as)
  | _, [] => .isTrue trivial
  | s, a :: as =>
    match h : step s a with
    | none => decidable_of_iff (C s a) (by simp [Meets, h])
    | some s' =>
      have : Decidable (Meets step C s' as) := Meets.decidable s' as
      decidable_of_iff (C s a ∧ Meets step C s' as) (by simp [Meets, h])

section Runs

variable {step : σ → α → Option σ} {s s' s'' : σ} {a : α} {as bs : List α}

theorem exec_cons : exec step s (a :: as) = some s'' ↔
    ∃ s', step s a = some s' ∧ exec step s' as = some s'' := by
  simp only [exec, Option.bind_eq_some_iff]

theorem exec_append : exec step s (as ++ bs) = some s'' ↔
    ∃ s', exec step s as = some s' ∧ exec step s' bs = some s'' := by
  induction as generalizing s with
  | nil => simp [exec]
  | cons a as ih =>
    simp only [List.cons_append, exec_cons, ih]
    constructor
    · rintro ⟨s₁, ha, s', has, hbs⟩
      exact ⟨s', ⟨s₁, ha, has⟩, hbs⟩
    · rintro ⟨s', ⟨s₁, ha, has⟩, hbs⟩
      exact ⟨s₁, ha, s', has, hbs⟩

/-- What every step whose label meets the condition preserves holds at the end of such a run. -/
theorem exec_invariant {I : σ → Prop} {C : σ → α → Prop}
    (hstep : ∀ s a s', I s → C s a → step s a = some s' → I s')
    (hs : I s) (hC : Meets step C s as) (h : exec step s as = some s') : I s' := by
  induction as generalizing s with
  | nil => cases h; exact hs
  | cons a as ih =>
    obtain ⟨s₁, ha, has⟩ := exec_cons.1 h
    exact ih (hstep s a s₁ hs hC.1 ha) (hC.2 s₁ ha) has

theorem Meets.of_forall {C : σ → α → Prop} (h : ∀ s a, C s a) (s : σ) (as : List α) :
    Meets step C s as := by
  induction as generalizing s with
  | nil => trivial
  | cons a as ih => exact ⟨h s a, fun s' _ => ih s'⟩

theorem Meets.of_labels {C : σ → α → Prop} (h : ∀ a ∈ as, ∀ s, C s a) : Meets step C s as := by
  induction as generalizing s with
  | nil => trivial
  | cons a as ih =>
    exact ⟨h a List.mem_cons_self s, fun _ _ => ih fun b hb => h b (List.mem_cons_of_mem _ hb)⟩

theorem Meets.append {C : σ → α → Prop} (h : Meets step C s as)
    (h' : ∀ s', exec step s as = some s' → Meets step C s' bs) : Meets step C s (as ++ bs) := by
  induction as generalizing s with
  | nil => exact h' s rfl
  | cons a as ih =>
    exact ⟨h.1, fun s₁ h₁ => ih (h.2 s₁ h₁) fun s' hs' => h' s' (exec_cons.2 ⟨s₁, h₁, hs'⟩)⟩

theorem Meets.of_append {C : σ → α → Prop} (h : Meets step C s (as ++ bs)) :
    Meets step C s as := by
  induction as generalizing s with
  | nil => trivial
  | cons a as ih => exact ⟨h.1, fun s' hs' => ih (h.2 s' hs')⟩

theorem Meets.imp {C D : σ → α → Prop} (h : ∀ s a, C s a → D s a)
    (hC : Meets step C s as) : Meets step D s as := by
  induction as generalizing s with
  | nil => trivial
  | cons a as ih => exact ⟨h s a hC.1, fun s' hs' => ih (hC.2 s' hs')⟩

theorem exec_invariant_of_step {I : σ → Prop}
    (hstep : ∀ s a s', I s → step s a = some s' → I s') (hs : I s)
    (h : exec step s as = some s') : I s' :=
  exec_invariant (C := fun _ _ => True) (fun s a s' hI _ ha => hstep s a s' hI ha) hs
    (.of_forall (fun _ _ => trivial) s as) h

end Runs

/-- Two runs side by side: the second leaves out labels of the first that are hidden, and in the
others the outputs of the two agree. -/
inductive Paired (step₁ : σ → α → Option (σ × β)) (step₂ : τ → γ → Option (τ × δ))
    (hidden : α → Prop) (agree : σ → α → β → γ → δ → Prop) :
    σ → τ → List α → List γ → σ → τ → Prop
  | nil {s t} : Paired step₁ step₂ hidden agree s t [] [] s t
  | hide {s s₁ s' t t' a b as cs} (h : step₁ s a = some (s₁, b)) (hh : hidden a)
      (hp : Paired step₁ step₂ hidden agree s₁ t as cs s' t') :
      Paired step₁ step₂ hidden agree s t (a :: as) cs s' t'
  | both {s s₁ s' t t₁ t' a b c d as cs} (h₁ : step₁ s a = some (s₁, b))
      (h₂ : step₂ t c = some (t₁, d)) (hb : agree s a b c d)
      (hp : Paired step₁ step₂ hidden agree s₁ t₁ as cs s' t') :
      Paired step₁ step₂ hidden agree s t (a :: as) (c :: cs) s' t'

/-- A relation that every step keeps, by a hidden step or by one of each, pairs every run. -/
theorem exec_paired {step₁ : σ → α → Option (σ × β)} {step₂ : τ → γ → Option (τ × δ)}
    {hidden : α → Prop} {agree : σ → α → β → γ → δ → Prop} {R : σ → τ → Prop}
    (hstep : ∀ s t a s₁ b, R s t → step₁ s a = some (s₁, b) → (hidden a ∧ R s₁ t) ∨
      ∃ c t₁ d, step₂ t c = some (t₁, d) ∧ agree s a b c d ∧ R s₁ t₁)
    {s s' : σ} {t : τ} {as : List α} (hR : R s t)
    (h : exec (fun s a => (step₁ s a).map Prod.fst) s as = some s') :
    ∃ cs t', Paired step₁ step₂ hidden agree s t as cs s' t' ∧ R s' t' := by
  induction as generalizing s t with
  | nil =>
    cases h
    exact ⟨[], t, .nil, hR⟩
  | cons a as ih =>
    obtain ⟨s₁, ha, has⟩ := exec_cons.1 h
    obtain ⟨⟨s₂, b⟩, hb, rfl⟩ := Option.map_eq_some_iff.1 ha
    rcases hstep s t a s₂ b hR hb with ⟨hh, hR'⟩ | ⟨c, t₁, d, hc, hagree, hR'⟩
    · obtain ⟨cs, t', hp, hRt⟩ := ih hR' has
      exact ⟨cs, t', .hide hb hh hp, hRt⟩
    · obtain ⟨cs, t', hp, hRt⟩ := ih hR' has
      exact ⟨c :: cs, t', .both hb hc hagree hp, hRt⟩

end Transition
