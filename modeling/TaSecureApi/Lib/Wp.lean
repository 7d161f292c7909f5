import Mathlib.Logic.Basic

namespace Wp
set_option autoImplicit true

/-- A program over the state `σ` that can stop with an `ε`. -/
abbrev Prog (σ ε α : Type) := ExceptT ε (StateM σ) α

/-- From the state `s` the program ends as `Q` says, or stops as `F` says. -/
def wp (x : Prog σ ε α) (Q : α → σ → Prop) (F : ε → σ → Prop) (s : σ) : Prop :=
  match x.run.run s with
  | (.ok a, s') => Q a s'
  | (.error e, s') => F e s'

def outcome (x : Prog σ ε α) : Prog σ ε' (Except ε α) := ExceptT.mk (Except.ok <$> x.run)

section Rules

variable {σ ε α β : Type} {Q Q' : α → σ → Prop} {R : β → σ → Prop} {F F' : ε → σ → Prop} {s : σ}

@[simp] theorem wp_pure (a : α) : wp (pure a : Prog σ ε α) Q F s ↔ Q a s := Iff.rfl

@[simp] theorem wp_throw (e : ε) : wp (throw e : Prog σ ε α) Q F s ↔ F e s := Iff.rfl

@[simp] theorem wp_get {Q : σ → σ → Prop} : wp (get : Prog σ ε σ) Q F s ↔ Q s s := Iff.rfl

@[simp] theorem wp_set {Q : PUnit → σ → Prop} (s' : σ) :
    wp (set s' : Prog σ ε PUnit) Q F s ↔ Q ⟨⟩ s' := Iff.rfl

@[simp] theorem wp_modify {Q : PUnit → σ → Prop} (f : σ → σ) :
    wp (modify f : Prog σ ε PUnit) Q F s ↔ Q ⟨⟩ (f s) := Iff.rfl

@[simp] theorem wp_bind (x : Prog σ ε α) (f : α → Prog σ ε β) :
    wp (x >>= f) R F s ↔ wp x (fun a => wp (f a) R F) F s := by
  unfold wp
  have hrun : (x >>= f).run.run s = match x.run.run s with
      | (.ok a, s') => (f a).run.run s'
      | (.error e, s') => (.error e, s') := by
    simp only [ExceptT.run_bind, StateT.run_bind]
    generalize x.run.run s = r
    obtain ⟨a | e, s'⟩ := r <;> rfl
  rw [hrun]
  generalize x.run.run s = r
  obtain ⟨a | e, s'⟩ := r <;> rfl

@[simp] theorem wp_ite (c : Prop) [Decidable c] (x y : Prog σ ε α) :
    wp (if c then x else y) Q F s ↔ (c → wp x Q F s) ∧ (¬ c → wp y Q F s) := by
  by_cases h : c <;> simp [h]

@[simp] theorem wp_outcome {F : ε' → σ → Prop} {Q : Except ε α → σ → Prop} (x : Prog σ ε α) :
    wp (outcome x) Q F s ↔ wp x (fun a => Q (.ok a)) (fun e => Q (.error e)) s := by
  have hrun : (outcome x : Prog σ ε' _).run.run s = (.ok (x.run.run s).1, (x.run.run s).2) := rfl
  unfold wp
  rw [hrun]
  generalize x.run.run s = r
  obtain ⟨a | e, s'⟩ := r <;> rfl

theorem wp.mono {x : Prog σ ε α} (h : wp x Q F s) (hQ : ∀ a s', Q a s' → Q' a s')
    (hF : ∀ e s', F e s' → F' e s') : wp x Q' F' s := by
  unfold wp at h ⊢
  generalize x.run.run s = r at h
  obtain ⟨e | a, s'⟩ := r
  · exact hF e s' h
  · exact hQ a s' h

theorem wp_of_forall {x : Prog σ ε α} (hQ : ∀ a s', Q a s') (hF : ∀ e s', F e s') :
    wp x Q F s := by
  unfold wp
  generalize x.run.run s = r
  obtain ⟨e | a, s'⟩ := r
  · exact hF e s'
  · exact hQ a s'

theorem not_wp_false {x : Prog σ ε α} : ¬ wp x (fun _ _ => False) (fun _ _ => False) s := by
  intro h
  unfold wp at h
  split at h
  · exact h
  · exact h

theorem wp.and {x : Prog σ ε α} (h : wp x Q F s) (h' : wp x Q' F' s) :
    wp x (fun a s' => Q a s' ∧ Q' a s') (fun e s' => F e s' ∧ F' e s') s := by
  unfold wp at *
  generalize x.run.run s = r at h h'
  obtain ⟨e | a, s'⟩ := r
  · exact ⟨h, h'⟩
  · exact ⟨h, h'⟩

theorem run_bind_of_ok {x : Prog σ ε α} {f : α → Prog σ ε β}
    (h : x.run.run s = (.ok a, s')) : (x >>= f).run.run s = (f a).run.run s' := by
  simp only [ExceptT.run_bind, StateT.run_bind, h]
  rfl

theorem wp_run (x : Prog σ ε α) (s : σ) :
    wp x (fun a s' => x.run.run s = (.ok a, s')) (fun e s' => x.run.run s = (.error e, s')) s := by
  unfold wp
  generalize x.run.run s = r
  obtain ⟨e | a, s'⟩ := r
  · rfl
  · rfl

theorem wp.of_ok {x : Prog σ ε α} (h : wp x Q F s) {a : α} {s' : σ}
    (hr : x.run.run s = (.ok a, s')) : Q a s' := by
  unfold wp at h
  rwa [hr] at h

theorem wp.of_error {x : Prog σ ε α} (h : wp x Q F s) {e : ε} {s' : σ}
    (hr : x.run.run s = (.error e, s')) : F e s' := by
  unfold wp at h
  rwa [hr] at h

theorem wp.exists_ok {x : Prog σ ε α} (h : wp x Q (fun _ _ => False) s) :
    ∃ a, (x.run.run s).1 = .ok a ∧ Q a (x.run.run s).2 := by
  unfold wp at h
  generalize x.run.run s = r at h
  obtain ⟨e | a, s'⟩ := r
  · exact h.elim
  · exact ⟨a, rfl, h⟩

theorem run_eq_ok_iff {x : Prog σ ε α} : (x.run.run s).1 = .ok a ↔
    wp x (fun b _ => b = a) (fun _ _ => False) s := by
  unfold wp
  generalize x.run.run s = r
  obtain ⟨e | b, s'⟩ := r
  · exact ⟨nofun, False.elim⟩
  · exact Except.ok.injEq b a ▸ Iff.rfl

theorem wp.state {x : Prog σ ε α} {I : σ → Prop} (h : wp x (fun _ => I) (fun _ => I) s) :
    I (x.run.run s).2 := by
  unfold wp at h
  generalize x.run.run s = r at h
  obtain ⟨e | a, s'⟩ := r
  · exact h
  · exact h

end Rules

end Wp
