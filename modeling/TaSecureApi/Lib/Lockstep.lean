import Mathlib.Data.List.Forall2

namespace Lockstep
set_option autoImplicit true

/-- The steps over some inputs, up to the first that fails. -/
def run (step : σ → α → Except ε (β × σ)) : σ → List α → Except ε (List β × σ)
  | s, [] => .ok ([], s)
  | s, a :: rest =>
    match step s a with
    | .error e => .error e
    | .ok (b, s') =>
      match run step s' rest with
      | .error e => .error e
      | .ok (bs, s'') => .ok (b :: bs, s'')

variable {step : σ → α → Except ε (β × σ)} {back : τ → π × β → Except ε' (δ × τ)}

theorem run_cons_eq_ok : run step s (a :: rest) = .ok (bs, s'') ↔ ∃ b s' bs',
    step s a = .ok (b, s') ∧ run step s' rest = .ok (bs', s'') ∧ bs = b :: bs' := by
  rw [run]
  constructor
  · intro h
    cases hstep : step s a with
    | error e =>
      rw [hstep] at h
      cases h
    | ok first =>
      obtain ⟨b, s'⟩ := first
      rw [hstep] at h
      dsimp only at h
      cases hrun : run step s' rest with
      | error e =>
        rw [hrun] at h
        cases h
      | ok last =>
        obtain ⟨bs', s'''⟩ := last
        rw [hrun] at h
        cases h
        exact ⟨b, s', bs', rfl, hrun, rfl⟩
  · rintro ⟨b, s', bs', hstep, hrun, rfl⟩
    simp only [hstep, hrun]

/-- What every step from an invariant says of its input and output, a run says of all. -/
theorem run_forall₂ {I : σ → Prop} {S : α → β → Prop}
    (hstep : ∀ s a b s', I s → step s a = .ok (b, s') → S a b ∧ I s') (hI : I s)
    (h : run step s as = .ok (bs, s')) : List.Forall₂ S as bs ∧ I s' := by
  induction as generalizing s bs with
  | nil =>
    cases h
    exact ⟨.nil, hI⟩
  | cons a rest ih =>
    obtain ⟨b, t, bs', hfirst, hrest, rfl⟩ := run_cons_eq_ok.1 h
    obtain ⟨hS, hI'⟩ := hstep s a b t hI hfirst
    obtain ⟨hall, hend⟩ := ih hI' hrest
    exact ⟨.cons hS hall, hend⟩

theorem exists_output {R S : α → β → Prop} (h : List.Forall₂ R as bs) (h' : List.Forall₂ S as bs)
    (ha : a ∈ as) : ∃ b, R a b ∧ S a b := by
  induction h with
  | nil => cases ha
  | cons hR _ ih =>
    cases h' with
    | cons hS hrest =>
      rcases List.mem_cons.1 ha with rfl | ha
      · exact ⟨_, hR, hS⟩
      · exact ih hrest ha

/-- Two machines in lockstep: where each step of the second takes the output of a step of the first,
with something of its own, a run of the second takes the outputs of a run of the first. -/
theorem run_lockstep {R : σ → τ → Prop} {P : α → π → Prop} {S : α → δ → Prop}
    (hstep : ∀ s t a b s' p, R s t → P a p → step s a = .ok (b, s') →
      ∃ d t', back t (p, b) = .ok (d, t') ∧ S a d ∧ R s' t')
    (hR : R s t) (hP : List.Forall₂ P as ps) (h : run step s as = .ok (bs, s')) :
    ∃ ds t', run back t (ps.zip bs) = .ok (ds, t') ∧ List.Forall₂ S as ds ∧ R s' t' := by
  induction hP generalizing s t bs with
  | nil =>
    cases h
    exact ⟨[], t, rfl, .nil, hR⟩
  | cons hp _ ih =>
    obtain ⟨b, s₁, bs', hfirst, hrest, rfl⟩ := run_cons_eq_ok.1 h
    obtain ⟨d, t₁, hback, hS, hR₁⟩ := hstep _ _ _ _ _ _ hR hp hfirst
    obtain ⟨ds, t₂, hbacks, hall, hR₂⟩ := ih hR₁ hrest
    exact ⟨d :: ds, t₂, run_cons_eq_ok.2 ⟨d, t₁, ds, hback, hbacks, rfl⟩, .cons hS hall, hR₂⟩

end Lockstep
