import Mathlib.Data.List.Basic
import Mathlib.Data.List.Lemmas

namespace Framing
set_option autoImplicit true

section Fields

variable {p : α → Prop} {a b s t : List α} {x y : α}

theorem delimited_inj (ha : ∀ c ∈ a, p c) (hb : ∀ c ∈ b, p c) (hx : ¬ p x) (hy : ¬ p y)
    (h : a ++ x :: s = b ++ y :: t) : a = b ∧ x = y ∧ s = t := by
  induction a generalizing b with
  | nil =>
    cases b with
    | nil =>
      obtain ⟨hxy, hst⟩ := List.cons.inj h
      exact ⟨rfl, hxy, hst⟩
    | cons c b =>
      obtain ⟨rfl, _⟩ := List.cons.inj h
      exact absurd (hb x List.mem_cons_self) hx
  | cons c a ih =>
    cases b with
    | nil =>
      obtain ⟨rfl, _⟩ := List.cons.inj h
      exact absurd (ha c List.mem_cons_self) hy
    | cons d b =>
      obtain ⟨rfl, htail⟩ := List.cons.inj h
      obtain ⟨rfl, hrest⟩ := ih (fun e he => ha e (List.mem_cons_of_mem _ he))
        (fun e he => hb e (List.mem_cons_of_mem _ he)) htail
      exact ⟨rfl, hrest⟩

theorem flatten_inj {n : Nat} {records records' : List (List α)} (hn : 0 < n)
    (hlength : ∀ r ∈ records, r.length = n) (hlength' : ∀ r ∈ records', r.length = n)
    (h : records.flatten = records'.flatten) : records = records' := by
  induction records generalizing records' with
  | nil =>
    cases records' with
    | nil => rfl
    | cons r records' =>
      have hr := hlength' r List.mem_cons_self
      have hzero := congrArg List.length h
      simp only [List.flatten_nil, List.length_nil, List.flatten_cons, List.length_append] at hzero
      omega
  | cons r records ih =>
    have hr := hlength r List.mem_cons_self
    cases records' with
    | nil =>
      have hzero := congrArg List.length h
      simp only [List.flatten_nil, List.length_nil, List.flatten_cons, List.length_append] at hzero
      omega
    | cons r' records' =>
      have hr' := hlength' r' List.mem_cons_self
      rw [List.flatten_cons, List.flatten_cons] at h
      obtain ⟨rfl, hrest⟩ := List.append_inj h (hr.trans hr'.symm)
      rw [ih (fun q hq => hlength q (List.mem_cons_of_mem _ hq))
        (fun q hq => hlength' q (List.mem_cons_of_mem _ hq)) hrest]

end Fields

end Framing
