import Mathlib.Data.Nat.Digits.Lemmas
import Mathlib.Data.List.Basic
import Mathlib.Tactic.Ring

namespace Layout
set_option autoImplicit true

/-- The type of a member: how many bytes it has, and at multiples of what it begins. -/
structure Member where
  size : Nat
  align : Nat
  align_pos : 0 < align

def alignUp (n align : Nat) : Nat := (n + align - 1) / align * align

theorem le_alignUp (n : Nat) (h : 0 < a) : n ≤ alignUp n a := by
  have hdiv := Nat.div_add_mod (n + a - 1) a
  have hmod := Nat.mod_lt (n + a - 1) h
  rw [Nat.mul_comm] at hdiv
  unfold alignUp
  omega

/-- Where the members begin that come behind the first `n` bytes. -/
def offsets : Nat → List Member → List Nat
  | _, [] => []
  | n, t :: ts => alignUp n t.align :: offsets (alignUp n t.align + t.size) ts

/-- Where the last of the members ends that come behind the first `n` bytes. -/
def endOf : Nat → List Member → Nat
  | n, [] => n
  | n, t :: ts => endOf (alignUp n t.align + t.size) ts

/-- The bytes that the members take, without those that fill up the last alignment. -/
def extent (ts : List Member) : Nat := endOf 0 ts

def alignof (ts : List Member) : Nat := ts.foldr (fun t a => max t.align a) 1

def sizeof (ts : List Member) : Nat := alignUp (extent ts) (alignof ts)

theorem le_endOf (n : Nat) (ts : List Member) : n ≤ endOf n ts := by
  induction ts generalizing n with
  | nil => exact Nat.le_refl n
  | cons t ts ih =>
    have hup := le_alignUp n t.align_pos
    have htail := ih (alignUp n t.align + t.size)
    simp only [endOf]
    omega

theorem alignof_pos (ts : List Member) : 0 < alignof ts := by
  induction ts with
  | nil => exact Nat.one_pos
  | cons t ts ih => exact Nat.lt_of_lt_of_le ih (Nat.le_max_right _ _)

def nested (ts : List Member) : Member := ⟨sizeof ts, alignof ts, alignof_pos ts⟩

theorem extent_le_sizeof (ts : List Member) : extent ts ≤ sizeof ts :=
  le_alignUp _ (alignof_pos ts)

/-- A member begins behind what comes before it and ends before the end of all. -/
theorem offset_bounds {ts : List Member} {k : Nat} {t : Member} (hk : ts[k]? = some t) :
    ∃ o, (offsets n ts)[k]? = some o ∧ n ≤ o ∧ o + t.size ≤ endOf n ts := by
  induction ts generalizing n k with
  | nil => cases hk
  | cons t' ts ih =>
    have hup := le_alignUp n t'.align_pos
    cases k with
    | zero =>
      simp only [List.getElem?_cons_zero, Option.some.injEq] at hk
      subst hk
      exact ⟨_, rfl, hup, le_endOf _ _⟩
    | succ k =>
      simp only [List.getElem?_cons_succ] at hk
      obtain ⟨o, ho, hlo, hhi⟩ := ih hk (n := alignUp n t'.align + t'.size)
      exact ⟨o, by simpa [offsets] using ho, by omega, hhi⟩

abbrev Object (_ : List Member) := Nat → UInt8

def bytesAt (memory : Nat → UInt8) (offset size : Nat) : List UInt8 :=
  (List.range size).map fun i => memory (offset + i)

/-- The number that some bytes are, the first of which is the least significant. -/
def numberOf (bytes : List UInt8) : Nat := Nat.ofDigits 256 (bytes.map UInt8.toNat)

section Object

variable {ts : List Member} {memory memory' : Nat → UInt8} {s s' : Object ts}

def Object.bytes (s : Object ts) (k : Nat) : List UInt8 :=
  bytesAt s ((offsets 0 ts).getD k 0) ((ts[k]?).elim 0 Member.size)

def Object.number (s : Object ts) (k : Nat) : Nat := numberOf (s.bytes k)

/-- `memcpy` of a number of bytes into a structure that has some bytes already. -/
def Object.copy (s : Object ts) (n : Nat) (source : Nat → UInt8) : Object ts :=
  fun i => if i < n then source i else s i

@[simp] theorem length_bytesAt : (bytesAt memory o n).length = n := by
  simp [bytesAt]

theorem bytesAt_congr (h : ∀ i, o ≤ i → i < o + n → memory i = memory' i) :
    bytesAt memory o n = bytesAt memory' o n := by
  refine List.map_congr_left fun i hi => ?_
  have hlt := List.mem_range.mp hi
  exact h (o + i) (by omega) (by omega)

theorem eq_of_bytesAt_eq (h : bytesAt memory o n = bytesAt memory' o n) (hi : o ≤ i)
    (hin : i < o + n) : memory i = memory' i := by
  have hmap := List.map_inj_left.mp h (i - o) (List.mem_range.mpr (by omega))
  simpa [Nat.add_sub_cancel' hi] using hmap

theorem numberOf_inj (hlen : bytes.length = bytes'.length) (h : numberOf bytes = numberOf bytes') :
    bytes = bytes' := by
  have hdigits : bytes.map UInt8.toNat = bytes'.map UInt8.toNat := by
    refine Nat.ofDigits_inj_of_len_eq (by omega) (by simpa using hlen) ?_ ?_ h
    all_goals
      intro l hl
      obtain ⟨b, -, rfl⟩ := List.mem_map.mp hl
      exact b.toNat_lt
  exact List.map_injective_iff.mpr (fun _ _ => UInt8.toNat_inj.mp) hdigits

theorem numberOf_lt (bytes : List UInt8) : numberOf bytes < 256 ^ bytes.length := by
  have hdigit : ∀ d ∈ bytes.map UInt8.toNat, d < 256 := by
    intro d hd
    obtain ⟨b, -, rfl⟩ := List.mem_map.mp hd
    exact b.toNat_lt
  have hlt := Nat.ofDigits_lt_base_pow_length (by decide) hdigit
  simpa [numberOf] using hlt

theorem numberOf_append (bytes bytes' : List UInt8) :
    numberOf (bytes ++ bytes') = numberOf bytes + 256 ^ bytes.length * numberOf bytes' := by
  rw [numberOf, List.map_append, Nat.ofDigits_append, List.length_map]
  rfl

theorem Object.number_lt (hk : ts[k]? = some t) : s.number k < 256 ^ t.size := by
  have hlt := numberOf_lt (s.bytes k)
  simpa [Object.number, Object.bytes, hk] using hlt

theorem Object.bytes_congr (h : ∀ i, i < extent ts → s i = s' i) (k : Nat) :
    s.bytes k = s'.bytes k := by
  unfold Object.bytes
  cases hk : ts[k]? with
  | none => rfl
  | some t =>
    obtain ⟨o, ho, -, hend⟩ := offset_bounds (n := 0) hk
    simp only [Option.elim_some, List.getD_eq_getElem?_getD, ho, Option.getD_some]
    exact bytesAt_congr fun i _ hi => h i (by unfold extent; omega)

theorem Object.number_congr (h : ∀ i, i < extent ts → s i = s' i) (k : Nat) :
    s.number k = s'.number k := by
  rw [Object.number, Object.number, Object.bytes_congr h]

theorem Object.number_ne (hk : ts[k]? = some t) (ho : (offsets 0 ts)[k]? = some o) (hi : o ≤ i)
    (hin : i < o + t.size) (hne : s i ≠ s' i) : s.number k ≠ s'.number k := by
  intro h
  have hbytes := numberOf_inj (by simp [Object.bytes]) h
  simp only [Object.bytes, hk, Option.elim_some, List.getD_eq_getElem?_getD, ho,
    Option.getD_some] at hbytes
  exact hne (eq_of_bytesAt_eq hbytes hi hin)

end Object

/-- A structure type: its members, and the value that its bytes stand for. Only the bytes of the
members count, not those that align them. -/
class Struct (σ : Type) where
  members : List Member
  read : Object members → σ
  read_congr : ∀ s s' : Object members, (∀ i, i < extent members → s i = s' i) →
      read s = read s' := by
    intro s s' h
    simp only [Object.number_congr h, Object.bytes_congr h]

/-- `sizeof` of a structure type. -/
def Struct.size (σ : Type) [Struct σ] : Nat := sizeof (members σ)

end Layout
