import Mathlib.Logic.Basic

namespace Ledger
set_option autoImplicit true

/-- Every issued item is in a place, and no two places hold items with one key. -/
structure Exact (inPlace : P → E → Prop) (issued : E → Prop) (key : E → K) : Prop where
  total : ∀ e, issued e → ∃ p, inPlace p e
  issued : ∀ p e, inPlace p e → issued e
  unique : ∀ p q e e', inPlace p e → inPlace q e' → key e = key e' → p = q ∧ e = e'

section Moves

variable {inPlace inPlace' : P → E → Prop} {issued issued' : E → Prop} {key : E → K} {p q : P}
  {x : E}

theorem Exact.move (h : Exact inPlace issued key) (hp : ∀ e, inPlace p e ↔ e = x)
    (hmove : ∀ r e, inPlace' r e ↔ (r = q ∧ e = x) ∨ (r ≠ p ∧ inPlace r e)) :
    Exact inPlace' issued key where
  total e he := by
    obtain ⟨r, hr⟩ := h.total e he
    by_cases hrp : r = p
    · exact ⟨q, (hmove q e).2 (.inl ⟨rfl, (hp e).1 (hrp ▸ hr)⟩)⟩
    · exact ⟨r, (hmove r e).2 (.inr ⟨hrp, hr⟩)⟩
  issued r e hr := by
    rcases (hmove r e).1 hr with ⟨-, rfl⟩ | ⟨-, hr⟩
    · exact h.issued p e ((hp e).2 rfl)
    · exact h.issued r e hr
  unique r s e e' hr hs hk := by
    have hp₀ := (hp x).2 rfl
    rcases (hmove r e).1 hr with ⟨rfl, rfl⟩ | ⟨hrp, hr⟩ <;>
      rcases (hmove s e').1 hs with ⟨rfl, rfl⟩ | ⟨hsp, hs⟩
    · exact ⟨rfl, rfl⟩
    · exact (hsp (h.unique _ _ _ _ hs hp₀ hk.symm).1).elim
    · exact (hrp (h.unique _ _ _ _ hr hp₀ hk).1).elim
    · exact h.unique r s e e' hr hs hk

theorem Exact.issue (h : Exact inPlace issued key) (hnew : ∀ e, issued e → key e ≠ key x)
    (hissue : ∀ e, issued' e ↔ e = x ∨ issued e)
    (hplace : ∀ r e, inPlace' r e ↔ (r = q ∧ e = x) ∨ inPlace r e) :
    Exact inPlace' issued' key where
  total e he := by
    rcases (hissue e).1 he with rfl | he
    · exact ⟨q, (hplace q e).2 (.inl ⟨rfl, rfl⟩)⟩
    · obtain ⟨r, hr⟩ := h.total e he
      exact ⟨r, (hplace r e).2 (.inr hr)⟩
  issued r e hr := by
    rcases (hplace r e).1 hr with ⟨-, rfl⟩ | hr
    · exact (hissue e).2 (.inl rfl)
    · exact (hissue e).2 (.inr (h.issued r e hr))
  unique r s e e' hr hs hk := by
    rcases (hplace r e).1 hr with ⟨rfl, rfl⟩ | hr <;>
      rcases (hplace s e').1 hs with ⟨rfl, rfl⟩ | hs
    · exact ⟨rfl, rfl⟩
    · exact (hnew e' (h.issued s e' hs) hk.symm).elim
    · exact (hnew e (h.issued r e hr) hk).elim
    · exact h.unique r s e e' hr hs hk

theorem Exact.congr (h : Exact inPlace issued key) (hissue : ∀ e, issued' e ↔ issued e)
    (hplace : ∀ r e, inPlace' r e ↔ inPlace r e) : Exact inPlace' issued' key where
  total e he := (h.total e ((hissue e).1 he)).imp fun r hr => (hplace r e).2 hr
  issued r e hr := (hissue e).2 (h.issued r e ((hplace r e).1 hr))
  unique r s e e' hr hs hk := h.unique r s e e' ((hplace r e).1 hr) ((hplace s e').1 hs) hk

end Moves

end Ledger
