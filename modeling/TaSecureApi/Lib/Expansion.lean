import Mathlib.Data.List.Basic
import Mathlib.Tactic.Ring

namespace Expansion
set_option autoImplicit true

/-- The blocks that a length needs, as they are counted with a division. -/
def blockCount (size length : Nat) : Nat :=
  length / size + if length % size = 0 then 0 else 1

/-- The blocks one after the other; in front of the first is nothing. -/
def chain (H : List α → List α) (text : Nat → List α → List α) : Nat → List α
  | 0 => []
  | i + 1 => H (text (i + 1) (chain H text i))

def output (H : List α → List α) (text : Nat → List α → List α) (size length : Nat) : List α :=
  ((List.range' 1 (blockCount size length)).flatMap (chain H text)).take length

/-- A buffer that is filled from the front, with the last block and the texts of all blocks. -/
structure State (α : Type) where
  buffer : List α
  position : Nat
  block : List α
  texts : List (List α)

/-- One pass of a loop that fills a buffer: `answers` says if the function can be computed, and the
last block is cut when there is a remainder. -/
def step (overflow : ε) (answers : Nat → Except ε Unit) (H : List α → List α)
    (text : Nat → List α → List α) (count remainder : Nat) (s : State α) (i : Nat) :
    Except ε (State α) := do
  answers i
  let t := text i s.block
  let block := H t
  let n := if i = count ∧ remainder ≠ 0 then remainder else block.length
  if n ≤ block.length ∧ s.position + n ≤ s.buffer.length then
    .ok {
      buffer := s.buffer.take s.position ++ block.take n ++ s.buffer.drop (s.position + n)
      position := s.position + n
      block := block
      texts := s.texts ++ [t] }
  else .error overflow

def start (buffer : List α) : State α := ⟨buffer, 0, [], []⟩

def run (overflow : ε) (answers : Nat → Except ε Unit) (H : List α → List α)
    (text : Nat → List α → List α) (size length : Nat) (buffer : List α) : Except ε (State α) :=
  (List.range' 1 (blockCount size length)).foldlM
    (step overflow answers H text (blockCount size length) (length % size)) (start buffer)

section Laws

variable {α : Type} {H : List α → List α} {text : Nat → List α → List α} {size length : Nat}

theorem blockCount_spec (length : Nat) (hsize : 0 < size) :
    length ≤ blockCount size length * size ∧
      ∀ k, k < blockCount size length → (k + 1) * size ≤ length ∨
        k + 1 = blockCount size length ∧ length % size ≠ 0 := by
  have hdiv := Nat.div_add_mod length size
  have hlt := Nat.mod_lt length hsize
  rw [blockCount]
  by_cases hmod : length % size = 0
  · rw [if_pos hmod, Nat.add_zero, Nat.mul_comm]
    refine ⟨by omega, fun k hk => .inl ?_⟩
    calc (k + 1) * size ≤ length / size * size := Nat.mul_le_mul_right size hk
      _ ≤ length := Nat.div_mul_le_self length size
  · rw [if_neg hmod, Nat.add_mul, Nat.one_mul, Nat.mul_comm (length / size)]
    refine ⟨by omega, fun k hk => ?_⟩
    by_cases hlast : k = length / size
    · exact .inr ⟨by omega, hmod⟩
    · have hbelow : k + 1 ≤ length / size := by omega
      left
      calc (k + 1) * size ≤ length / size * size := Nat.mul_le_mul_right size hbelow
        _ ≤ length := Nat.div_mul_le_self length size

theorem blockCount_le_iff (hsize : 0 < size) (n : Nat) :
    blockCount size length ≤ n ↔ length ≤ n * size := by
  obtain ⟨hcover, hneeded⟩ := blockCount_spec length hsize
  constructor
  · intro h
    exact hcover.trans (Nat.mul_le_mul_right size h)
  · intro h
    by_contra hlt
    have hn : n < blockCount size length := Nat.lt_of_not_le hlt
    obtain hfull | ⟨hlast, hmod⟩ := hneeded n hn
    · rw [Nat.add_mul, Nat.one_mul] at hfull
      omega
    · have hdiv := Nat.div_add_mod length size
      rw [blockCount, if_neg hmod] at hlast
      obtain rfl : n = length / size := by omega
      rw [Nat.mul_comm] at h
      omega

theorem length_chain (hH : ∀ t, (H t).length = size) (i : Nat) :
    (chain H text (i + 1)).length = size := hH _

theorem length_blocks (text : Nat → List α → List α) (hH : ∀ t, (H t).length = size) (k : Nat) :
    ((List.range' 1 k).flatMap (chain H text)).length = k * size := by
  induction k with
  | zero => rw [Nat.zero_mul]; rfl
  | succ k ih =>
    rw [List.range'_1_concat, List.flatMap_append, List.length_append, ih, List.flatMap_cons,
      List.flatMap_nil, List.append_nil, Nat.add_comm 1 k, length_chain hH, Nat.add_mul,
      Nat.one_mul]

theorem length_output (text : Nat → List α → List α) (length : Nat) (hsize : 0 < size)
    (hH : ∀ t, (H t).length = size) :
    (output H text size length).length = length := by
  rw [output, List.length_take, length_blocks text hH]
  exact Nat.min_eq_left (blockCount_spec _ hsize).1

def after (H : List α → List α) (text : Nat → List α → List α) (size length : Nat)
    (buffer : List α) (k : Nat) : State α where
  buffer := ((List.range' 1 k).flatMap (chain H text)).take length ++
    buffer.drop (min (k * size) length)
  position := min (k * size) length
  block := chain H text k
  texts := (List.range' 1 k).map fun i => text i (chain H text (i - 1))

theorem after_zero : after H text size length buffer 0 = start buffer := by
  simp [after, start, chain]

theorem lt_blockCount (hsize : 0 < size) (hk : k < blockCount size length) :
    k * size ≤ length := by
  obtain hnext | ⟨hlast, hmod⟩ := (blockCount_spec _ hsize).2 k hk
  · exact (Nat.mul_le_mul_right size (Nat.le_succ k)).trans hnext
  · rw [blockCount, if_neg hmod] at hlast
    obtain rfl : k = length / size := by omega
    exact Nat.div_mul_le_self length size

theorem copied_length (hsize : 0 < size) (hk : k < blockCount size length) :
    (if k + 1 = blockCount size length ∧ length % size ≠ 0 then length % size else size) =
      min size (length - k * size) := by
  have hlt := Nat.mod_lt length hsize
  have hdiv := Nat.div_add_mod length size
  obtain ⟨hcover, hneeded⟩ := blockCount_spec length hsize
  by_cases hlast : k + 1 = blockCount size length ∧ length % size ≠ 0
  · rw [if_pos hlast]
    have hcount := hlast.1
    rw [blockCount, if_neg hlast.2] at hcount
    obtain rfl : k = length / size := by omega
    rw [Nat.mul_comm] at hdiv
    omega
  · rw [if_neg hlast]
    have hnext : (k + 1) * size ≤ length := (hneeded k hk).resolve_right hlast
    rw [Nat.add_mul] at hnext
    omega

theorem after_eq (hH : ∀ t, (H t).length = size) (h : k * size ≤ length) :
    after H text size length buffer k =
      ⟨(List.range' 1 k).flatMap (chain H text) ++ buffer.drop (k * size), k * size,
        chain H text k, (List.range' 1 k).map fun i => text i (chain H text (i - 1))⟩ := by
  have hblocks := length_blocks text hH k
  rw [after, Nat.min_eq_left h, List.take_of_length_le (by omega)]

theorem step_after {overflow : ε} {answers : Nat → Except ε Unit} (hsize : 0 < size)
    (hH : ∀ t, (H t).length = size) (hbuffer : buffer.length = length)
    (hk : k < blockCount size length) :
    step overflow answers H text (blockCount size length) (length % size)
        (after H text size length buffer k) (k + 1) =
      (answers (k + 1)).map fun _ => after H text size length buffer (k + 1) := by
  have hroom := lt_blockCount hsize hk
  have hblocks := length_blocks text hH k
  have hchain : H (text (k + 1) (chain H text k)) = chain H text (k + 1) := rfl
  have hposition : min ((k + 1) * size) length = k * size + min size (length - k * size) := by
    rw [Nat.add_mul, Nat.one_mul]
    omega
  have hafter : after H text size length buffer (k + 1) =
      ⟨(List.range' 1 k).flatMap (chain H text) ++
          (chain H text (k + 1)).take (min size (length - k * size)) ++
          buffer.drop (k * size + min size (length - k * size)),
        k * size + min size (length - k * size), chain H text (k + 1),
        ((List.range' 1 k).map fun i => text i (chain H text (i - 1))) ++
          [text (k + 1) (chain H text k)]⟩ := by
    rw [after, hposition, List.range'_1_concat, List.flatMap_append, List.flatMap_cons,
      List.flatMap_nil, List.append_nil, List.map_append, Nat.add_comm 1 k, List.take_append,
      List.take_of_length_le (by omega), hblocks, List.take_eq_take_min,
      length_chain hH, Nat.min_comm]
    rfl
  rw [after_eq hH hroom, step, hafter]
  cases answers (k + 1) with
  | error e => rfl
  | ok =>
    have hfits : min size (length - k * size) ≤ size ∧
        k * size + min size (length - k * size) ≤
          ((List.range' 1 k).flatMap (chain H text) ++ buffer.drop (k * size)).length := by
      rw [List.length_append, hblocks, List.length_drop]
      omega
    simp only [hchain, length_chain hH, copied_length hsize hk]
    rw [if_pos hfits, List.take_left' hblocks, ← List.drop_drop, List.drop_left' hblocks,
      List.drop_drop]
    rfl

/-- The loop makes all its blocks, if the function can be computed every time. -/
theorem foldlM_step {overflow : ε} {answers : Nat → Except ε Unit} (hsize : 0 < size)
    (hH : ∀ t, (H t).length = size) (hbuffer : buffer.length = length)
    (hk : k ≤ blockCount size length) :
    (List.range' 1 k).foldlM
        (step overflow answers H text (blockCount size length) (length % size)) (start buffer) =
      (forM (List.range' 1 k) answers).map fun _ => after H text size length buffer k := by
  induction k with
  | zero =>
    rw [after_zero]
    rfl
  | succ k ih =>
    rw [List.range'_1_concat, List.foldlM_append, ih (by omega), List.forM_append, Nat.add_comm 1 k]
    cases forM (List.range' 1 k) answers with
    | error e => rfl
    | ok =>
      calc _ = step overflow answers H text (blockCount size length) (length % size)
            (after H text size length buffer k) (k + 1) := bind_pure _
        _ = (answers (k + 1)).map fun _ => after H text size length buffer (k + 1) :=
            step_after hsize hH hbuffer hk
        _ = (forM [k + 1] answers).map fun _ => after H text size length buffer (k + 1) := by
          rw [List.forM_cons, List.forM_nil]
          cases answers (k + 1) with
          | error e => rfl
          | ok => rfl

/-- The loop ends with the beginning of the blocks in the whole buffer, or as the function did. -/
theorem run_eq {overflow : ε} {answers : Nat → Except ε Unit} (hsize : 0 < size)
    (hH : ∀ t, (H t).length = size) (hbuffer : buffer.length = length) :
    run overflow answers H text size length buffer =
      (forM (List.range' 1 (blockCount size length)) answers).map fun _ =>
        ⟨output H text size length, length, chain H text (blockCount size length),
          (List.range' 1 (blockCount size length)).map fun i => text i (chain H text (i - 1))⟩ := by
  have hcover := (blockCount_spec length hsize).1
  have hend : after H text size length buffer (blockCount size length) =
      ⟨output H text size length, length, chain H text (blockCount size length),
        (List.range' 1 (blockCount size length)).map fun i => text i (chain H text (i - 1))⟩ := by
    rw [after, Nat.min_eq_right hcover, List.drop_of_length_le hbuffer.le, List.append_nil]
    rfl
  rw [run, foldlM_step hsize hH hbuffer (Nat.le_refl _), hend]

theorem output_of_texts (text : Nat → List α) :
    output H (fun i _ => text i) size length =
      ((List.range' 1 (blockCount size length)).flatMap fun i => H (text i)).take length := by
  have hblocks : ∀ i ∈ List.range' 1 (blockCount size length),
      chain H (fun i _ => text i) i = H (text i) := by
    intro i hi
    obtain ⟨j, rfl⟩ := Nat.exists_eq_add_of_le (List.mem_range'_1.1 hi).1
    rw [Nat.add_comm 1 j, chain]
  rw [output, List.flatMap_congr hblocks]

theorem length_flatMap_blocks {f : Nat → List α} (hf : ∀ i, (f i).length = size) (first n : Nat) :
    ((List.range' first n).flatMap f).length = n * size := by
  induction n generalizing first with
  | zero => rw [Nat.zero_mul]; rfl
  | succ n ih =>
    rw [List.range'_succ, List.flatMap_cons, List.length_append, hf, ih, Nat.add_mul, Nat.one_mul,
      Nat.add_comm]

theorem slice_blocks {f : Nat → List α} (hf : ∀ i, (f i).length = size) (first : Nat)
    (h : k + m ≤ n) :
    ((((List.range' first n).flatMap f).drop (k * size)).take (m * size)) =
      (List.range' (first + k) m).flatMap f := by
  obtain ⟨l, rfl⟩ := Nat.exists_eq_add_of_le h
  rw [Nat.add_assoc, ← List.range'_append_1, List.flatMap_append,
    List.drop_left' (length_flatMap_blocks hf first k), ← List.range'_append_1,
    List.flatMap_append, List.take_left' (length_flatMap_blocks hf _ m)]

end Laws

end Expansion
