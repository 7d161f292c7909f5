import TaSecureApi.Lib.Wp

namespace Frames
set_option autoImplicit true
open Wp

/-- The calls made so far, latest first, the pointers of the running function that are not null, the
objects that nothing points to any more, and the rest of the state. -/
structure State (Call Ptr ρ : Type) where
  calls : List Call
  locals : List Ptr
  leaked : List Ptr
  rest : ρ

/-- How a function that returns an `α` leaves its block. -/
inductive Exit (α : Type)
  | breaks (a : α)
  | returns (a : α)

/-- A block of a function that returns an `α`. -/
abbrev Body (Call Ptr ρ α β : Type) := Prog (State Call Ptr ρ) (Exit α) β

abbrev Fn (Call Ptr ρ α : Type) := StateM (State Call Ptr ρ) α

/-- The calls of a library: each one can fail, as the calls before it decide. -/
abbrev Oracle (Call Answer : Type) := List Call → Option Answer

section Programs

variable {Call Ptr ρ Answer α β : Type}

def State.after (s : State Call Ptr ρ) (call : Call) : State Call Ptr ρ :=
  { s with calls := call :: s.calls }

def State.hold (s : State Call Ptr ρ) (p : Ptr) : State Call Ptr ρ :=
  { s with locals := p :: s.locals }

def State.drop [DecidableEq Ptr] (s : State Call Ptr ρ) (p : Ptr) : State Call Ptr ρ :=
  { s with locals := s.locals.erase p }

def exitWith (a : α) : Body Call Ptr ρ α β := throw (.breaks a)

def breakUnless (condition : Bool) (a : α) : Body Call Ptr ρ α Unit :=
  if condition then pure () else exitWith a

def breakNone (x : Option β) (a : α) : Body Call Ptr ρ α β := x.elim (exitWith a) pure

def attempt (oracle : Oracle Call Answer) (call : Call) : Body Call Ptr ρ α (Option Answer) := do
  modify (·.after call)
  let s ← get
  pure (oracle s.calls)

def step (oracle : Oracle Call Answer) (call : Call) (a : α) : Body Call Ptr ρ α Answer := do
  let answer ← attempt oracle call
  breakNone answer a

def hold (p : Ptr) : Body Call Ptr ρ α Unit := modify (·.hold p)

def drop [DecidableEq Ptr] (p : Ptr) : Body Call Ptr ρ α Unit := modify (·.drop p)

def create (oracle : Oracle Call Answer) (p : Ptr) (call : Call) (a : α) :
    Body Call Ptr ρ α Answer := do
  let answer ← step oracle call a
  hold p
  pure answer

def invoke (f : Fn Call Ptr ρ β) : Body Call Ptr ρ α β := ExceptT.mk (Except.ok <$> f)

/-- What is left of the local pointers when a function is over. -/
def State.leave (s s' : State Call Ptr ρ) (lost : List Ptr) : State Call Ptr ρ :=
  { s' with locals := s.locals, leaked := lost ++ s'.leaked }

def frame [DecidableEq Ptr] (frees : List Ptr) (body : Body Call Ptr ρ α α) : Fn Call Ptr ρ α :=
  fun s => match body.run.run { s with locals := [] } with
    | (.ok a, s') | (.error (.breaks a), s') => (a, s.leave s' (s'.locals.filter (· ∉ frees)))
    | (.error (.returns a), s') => (a, s.leave s' s'.locals)

end Programs

section Rules

variable {Call Ptr ρ Answer α β γ : Type} {frees : List Ptr} {oracle : Oracle Call Answer}
  {s : State Call Ptr ρ} {Q : β → State Call Ptr ρ → Prop} {R : γ → State Call Ptr ρ → Prop}
  {E : α → State Call Ptr ρ → Prop}

/-- The block points to objects with pointers that will be freed only, and loses none of them. -/
def Tidy (frees : List Ptr) (x : Body Call Ptr ρ α β) (Q : β → State Call Ptr ρ → Prop)
    (E : α → State Call Ptr ρ → Prop) (s : State Call Ptr ρ) : Prop :=
  s.locals ⊆ frees → wp x
    (fun b s' => s'.locals ⊆ frees ∧ s'.leaked = s.leaked ∧ Q b s')
    (fun e s' => ∃ a, e = .breaks a ∧ s'.locals ⊆ frees ∧ s'.leaked = s.leaked ∧ E a s') s

def Clean (f : Fn Call Ptr ρ α) (E : α → State Call Ptr ρ → Prop) (s : State Call Ptr ρ) : Prop :=
  (f s).2.locals = s.locals ∧ (f s).2.leaked = s.leaked ∧ E (f s).1 (f s).2

theorem tidy_pure {b : β} (h : Q b s) : Tidy frees (pure b : Body Call Ptr ρ α β) Q E s :=
  fun hs => ⟨hs, rfl, h⟩

theorem tidy_bind {x : Body Call Ptr ρ α β} {f : β → Body Call Ptr ρ α γ} (hx : Tidy frees x Q E s)
    (hf : ∀ b s', Q b s' → Tidy frees (f b) R E s') : Tidy frees (x >>= f) R E s := by
  intro hs
  rw [wp_bind]
  apply wp.mono (hx hs)
  · intro b s' ⟨hlocals, hleaked, hQ⟩
    have h := hf b s' hQ hlocals
    rw [hleaked] at h
    exact h
  · intro e s' h
    exact h

theorem tidy_exitWith {a : α} (h : E a s) :
    Tidy frees (exitWith a : Body Call Ptr ρ α β) Q E s :=
  fun hs => ⟨a, rfl, hs, rfl, h⟩

theorem tidy_breakUnless {f : Unit → Body Call Ptr ρ α γ} {a : α} (hbreak : c = false → E a s)
    (h : c = true → Tidy frees (f ()) R E s) : Tidy frees (breakUnless c a >>= f) R E s := by
  cases c with
  | false => exact tidy_bind (Q := fun _ _ => False) (tidy_exitWith (hbreak rfl)) nofun
  | true => exact h rfl

theorem tidy_breakNone {x : Option β} {f : β → Body Call Ptr ρ α γ} {a : α}
    (hbreak : x = none → E a s) (h : ∀ b, x = some b → Tidy frees (f b) R E s) :
    Tidy frees (breakNone x a >>= f) R E s := by
  cases x with
  | none => exact tidy_bind (Q := fun _ _ => False) (tidy_exitWith (hbreak rfl)) nofun
  | some b => exact h b rfl

theorem tidy_attempt {call : Call} {f : Option Answer → Body Call Ptr ρ α γ}
    (h : Tidy frees (f (oracle (call :: s.calls))) R E (s.after call)) :
    Tidy frees (attempt oracle call >>= f) R E s := by
  intro hs
  exact h hs

theorem tidy_step {call : Call} {a : α} {f : Answer → Body Call Ptr ρ α γ}
    (hbreak : oracle (call :: s.calls) = none → E a (s.after call))
    (h : ∀ answer, oracle (call :: s.calls) = some answer →
      Tidy frees (f answer) R E (s.after call)) :
    Tidy frees (step oracle call a >>= f) R E s := by
  rw [step, bind_assoc]
  exact tidy_attempt (tidy_breakNone hbreak h)

theorem tidy_hold {p : Ptr} {f : Unit → Body Call Ptr ρ α γ} (hp : p ∈ frees)
    (h : Tidy frees (f ()) R E (s.hold p)) : Tidy frees (hold p >>= f) R E s := by
  intro hs
  exact h (List.cons_subset.2 ⟨hp, hs⟩)

theorem tidy_create {p : Ptr} {call : Call} {a : α} {f : Answer → Body Call Ptr ρ α γ}
    (hp : p ∈ frees) (hbreak : oracle (call :: s.calls) = none → E a (s.after call))
    (h : ∀ answer, oracle (call :: s.calls) = some answer →
      Tidy frees (f answer) R E ((s.after call).hold p)) :
    Tidy frees (create oracle p call a >>= f) R E s := by
  rw [create, bind_assoc]
  refine tidy_step hbreak fun answer hanswer => ?_
  rw [bind_assoc]
  exact tidy_hold hp (h answer hanswer)

theorem tidy_drop [DecidableEq Ptr] {p : Ptr} {f : Unit → Body Call Ptr ρ α γ}
    (h : Tidy frees (f ()) R E (s.drop p)) : Tidy frees (drop p >>= f) R E s := by
  intro hs
  exact h fun _ hq => hs (List.mem_of_mem_erase hq)

theorem State.drop_hold [DecidableEq Ptr] (p : Ptr) : (s.hold p).drop p = s := by
  simp only [State.drop, State.hold, List.erase_cons_head]

theorem tidy_create_drop [DecidableEq Ptr] {p : Ptr} {call : Call} {a : α}
    {f : Answer → Body Call Ptr ρ α γ}
    (hbreak : oracle (call :: s.calls) = none → E a (s.after call))
    (h : ∀ answer, oracle (call :: s.calls) = some answer →
      Tidy frees (f answer) R E (s.after call)) :
    Tidy frees (create oracle p call a >>= fun answer => drop p >>= fun _ => f answer) R E s := by
  rw [create, bind_assoc]
  refine tidy_step hbreak fun answer hanswer hs => ?_
  change wp (f answer) _ _ (((s.after call).hold p).drop p)
  rw [State.drop_hold]
  exact h answer hanswer hs

theorem tidy_create_attempt_drop [DecidableEq Ptr] {p : Ptr} {call use : Call} {a : α}
    {f : Option Answer → Body Call Ptr ρ α γ}
    (hbreak : oracle (call :: s.calls) = none → E a (s.after call))
    (h : Tidy frees (f (oracle (use :: call :: s.calls))) R E ((s.after call).after use)) :
    Tidy frees (create oracle p call a >>= fun _ => attempt oracle use >>= fun answer =>
      drop p >>= fun _ => f answer) R E s := by
  rw [create, bind_assoc]
  refine tidy_step hbreak fun answer hanswer hs => ?_
  change wp (f (oracle (use :: call :: s.calls))) _ _ ((((s.after call).after use).hold p).drop p)
  rw [State.drop_hold]
  exact h hs

theorem tidy_invoke {g : Fn Call Ptr ρ β} {f : β → Body Call Ptr ρ α γ} (hg : Clean g Q s)
    (h : ∀ b s', Q b s' → Tidy frees (f b) R E s') : Tidy frees (invoke g >>= f) R E s := by
  refine tidy_bind (Q := Q) (fun hs => ?_) h
  obtain ⟨hlocals, hleaked, hQ⟩ := hg
  exact ⟨hlocals ▸ hs, hleaked, hQ⟩

theorem tidy_invoke_end {g : Fn Call Ptr ρ α} (hg : Clean g E s) :
    Tidy frees (invoke g : Body Call Ptr ρ α α) E E s := by
  intro hs
  obtain ⟨hlocals, hleaked, hE⟩ := hg
  exact ⟨hlocals ▸ hs, hleaked, hE⟩

theorem clean_frame [DecidableEq Ptr] {body : Body Call Ptr ρ α α}
    (hleave : ∀ a s' lost, E a s' → E a (s.leave s' lost))
    (h : Tidy frees body E E { s with locals := [] }) : Clean (frame frees body) E s := by
  have hrun := h (List.nil_subset _)
  have hfiltered {locals : List Ptr} (hl : locals ⊆ frees) : locals.filter (· ∉ frees) = [] := by
    apply List.filter_eq_nil_iff.2
    intro p hp
    simpa using hl hp
  unfold Clean frame
  unfold wp at hrun
  generalize body.run.run { s with locals := [] } = r at hrun ⊢
  obtain ⟨(a | a) | a, s'⟩ := r
  · obtain ⟨_, heq, hlocals, hleaked, hE⟩ := hrun
    cases heq
    refine ⟨rfl, ?_, hleave _ _ _ hE⟩
    simp only [State.leave, hfiltered hlocals]
    exact hleaked
  · obtain ⟨_, heq, _⟩ := hrun
    cases heq
  · obtain ⟨hlocals, hleaked, hE⟩ := hrun
    refine ⟨rfl, ?_, hleave _ _ _ hE⟩
    simp only [State.leave, hfiltered hlocals]
    exact hleaked

variable {F : Exit α → State Call Ptr ρ → Prop}

theorem wp_attempt {call : Call} {f : Option Answer → Body Call Ptr ρ α γ}
    (h : oracle (call :: s.calls) = answer) (hf : wp (f answer) R F (s.after call)) :
    wp (attempt oracle call >>= f) R F s := by
  subst h
  exact hf

theorem wp_step {call : Call} {a : α} {f : Answer → Body Call Ptr ρ α γ}
    (h : oracle (call :: s.calls) = some answer) (hf : wp (f answer) R F (s.after call)) :
    wp (step oracle call a >>= f) R F s := by
  rw [step, bind_assoc]
  exact wp_attempt h hf

theorem wp_create {p : Ptr} {call : Call} {a : α} {f : Answer → Body Call Ptr ρ α γ}
    (h : oracle (call :: s.calls) = some answer)
    (hf : wp (f answer) R F ((s.after call).hold p)) :
    wp (create oracle p call a >>= f) R F s := by
  rw [create, bind_assoc]
  refine wp_step h ?_
  rw [bind_assoc]
  exact hf

theorem wp_breakUnless {a : α} {f : Unit → Body Call Ptr ρ α γ} (h : c = true)
    (hf : wp (f ()) R F s) : wp (breakUnless c a >>= f) R F s := by
  subst h
  exact hf

theorem wp_invoke {g : Fn Call Ptr ρ β} {f : β → Body Call Ptr ρ α γ} {s' : State Call Ptr ρ}
    (h : g s = (b, s')) (hf : wp (f b) R F s') : wp (invoke g >>= f) R F s := by
  change wp (f (g s).1) R F (g s).2
  rw [h]
  exact hf

theorem frame_of_ok [DecidableEq Ptr] {body : Body Call Ptr ρ α α} (s₁ : State Call Ptr ρ)
    (h : wp body (fun b s' => b = a ∧ s' = s₁) (fun _ _ => False) { s with locals := [] }) :
    frame frees body s = (a, s.leave s₁ (s₁.locals.filter (· ∉ frees))) := by
  unfold frame
  unfold wp at h
  generalize body.run.run { s with locals := [] } = r at h ⊢
  obtain ⟨e | b, s'⟩ := r
  · exact h.elim
  · obtain ⟨rfl, rfl⟩ := h
    rfl

theorem frame_of_returns [DecidableEq Ptr] {body : Body Call Ptr ρ α α} (s₁ : State Call Ptr ρ)
    (h : wp body (fun _ _ => False) (fun e s' => e = .returns a ∧ s' = s₁)
      { s with locals := [] }) :
    frame frees body s = (a, s.leave s₁ s₁.locals) := by
  unfold frame
  unfold wp at h
  generalize body.run.run { s with locals := [] } = r at h ⊢
  obtain ⟨e | b, s'⟩ := r
  · obtain ⟨rfl, rfl⟩ := h
    rfl
  · exact h.elim

end Rules

end Frames
