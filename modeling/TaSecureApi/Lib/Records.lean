import TaSecureApi.Lib.Layout
import Mathlib.Data.Nat.ModEq

namespace Layout
set_option autoImplicit true

/-- The bytes of a number, the least significant first, without what they have no room for. -/
def bytesOf (size n : Nat) : List UInt8 :=
  (List.range size).map fun i => UInt8.ofNat (n / 256 ^ i)

@[simp] theorem length_bytesOf : (bytesOf size n).length = size := by
  simp [bytesOf]

theorem bytesOf_succ (size n : Nat) :
    bytesOf (size + 1) n = bytesOf size n ++ [UInt8.ofNat (n / 256 ^ size)] := by
  simp [bytesOf, List.range_succ]

theorem numberOf_bytesOf (size n : Nat) : numberOf (bytesOf size n) = n % 256 ^ size := by
  induction size with
  | zero => simp [bytesOf, numberOf, Nat.mod_one]
  | succ size ih =>
    have hlast : numberOf [UInt8.ofNat (n / 256 ^ size)] = n / 256 ^ size % 256 := by
      simp [numberOf]
    rw [bytesOf_succ, numberOf_append, ih, hlast, length_bytesOf, Nat.pow_succ, Nat.mod_mul]

def storeBytes (memory : Nat → UInt8) (o : Nat) (bytes : List UInt8) : Nat → UInt8 :=
  fun i => if o ≤ i then (bytes[i - o]?).getD (memory i) else memory i

theorem storeBytes_before (h : i < o) : storeBytes memory o bytes i = memory i :=
  if_neg (Nat.not_le.mpr h)

theorem storeBytes_after (h : o + bytes.length ≤ i) : storeBytes memory o bytes i = memory i := by
  have hnone : bytes[i - o]? = none := List.getElem?_eq_none (by omega)
  simp [storeBytes, hnone]

theorem bytesAt_storeBytes (h : bytes.length ≤ size) :
    bytesAt (storeBytes memory o bytes) o size =
      bytes ++ bytesAt memory (o + bytes.length) (size - bytes.length) := by
  apply List.ext_getElem
  · simp
    omega
  · intro i hi hi'
    by_cases hlt : i < bytes.length
    · simp [bytesAt, storeBytes, hlt]
    · have hadd : o + bytes.length + (i - bytes.length) = o + i := by omega
      simp [bytesAt, storeBytes, List.getElem_append_right (Nat.le_of_not_lt hlt),
        Nat.le_of_not_lt hlt, hadd]

theorem bytesAt_storeBytes_self : bytesAt (storeBytes memory o bytes) o bytes.length = bytes := by
  rw [bytesAt_storeBytes (Nat.le_refl _), Nat.sub_self]
  simp [bytesAt]

theorem bytesAt_storeBytes_bytesOf :
    bytesAt (storeBytes memory o (bytesOf size n)) o size = bytesOf size n := by
  have hat : bytesAt (storeBytes memory o (bytesOf size n)) o (bytesOf size n).length =
      bytesOf size n := bytesAt_storeBytes_self
  rwa [length_bytesOf] at hat

/-- What is assigned to a member. One that is not assigned keeps its bytes. -/
inductive Field
  | number (n : Nat)
  | bytes (bytes : List UInt8)
  | unassigned

namespace Field

def toNumber : Field → Option Nat
  | number n => some n
  | _ => none

def toBytes : Field → Option (List UInt8)
  | bytes b => some b
  | _ => none

def write (memory : Nat → UInt8) (o size : Nat) : Field → Nat → UInt8
  | number n => storeBytes memory o (bytesOf size n)
  | bytes b => storeBytes memory o b
  | unassigned => memory

theorem write_before (h : i < o) (f : Field) : f.write memory o size i = memory i := by
  cases f with
  | number | bytes => exact storeBytes_before h
  | unassigned => rfl

theorem write_congr (f : Field) (h : ∀ j, o ≤ j → memory j = memory' j) (hi : o ≤ i) :
    f.write memory o size i = f.write memory' o size i := by
  cases f with
  | number | bytes => simp only [write, storeBytes, h i hi]
  | unassigned => exact h i hi

/-- What is assigned has room in the member. -/
def Fits (size : Nat) : Field → Prop
  | bytes b => b.length ≤ size
  | _ => True

theorem write_after {f : Field} (hf : f.Fits size) (h : o + size ≤ i) :
    f.write memory o size i = memory i := by
  cases f with
  | number n => exact storeBytes_after (by rw [length_bytesOf]; exact h)
  | bytes b => exact storeBytes_after (Nat.le_trans (Nat.add_le_add_left hf o) h)
  | unassigned => rfl

end Field

/-- The assignments to the members that come behind the first `n` bytes. -/
def assignAt (memory : Nat → UInt8) : Nat → List Member → List Field → Nat → UInt8
  | n, t :: ts, f :: fs =>
    assignAt (f.write memory (alignUp n t.align) t.size) (alignUp n t.align + t.size) ts fs
  | _, _, _ => memory

theorem assignAt_before (h : i < n) : assignAt memory n ts fs i = memory i := by
  induction ts generalizing memory n fs with
  | nil => rfl
  | cons t ts ih =>
    cases fs with
    | nil => rfl
    | cons f fs =>
      have hup := le_alignUp n t.align_pos
      rw [assignAt, ih (by omega)]
      exact f.write_before (by omega)

theorem bytesAt_assignAt {ts : List Member} {fs : List Field} {k : Nat}
    (ht : ts[k]? = some t) (hf : fs[k]? = some f) (ho : (offsets n ts)[k]? = some o) :
    ∃ memory', bytesAt (assignAt memory n ts fs) o t.size =
      bytesAt (f.write memory' o t.size) o t.size := by
  induction ts generalizing memory n fs k with
  | nil => cases ht
  | cons t' ts ih =>
    cases fs with
    | nil => cases hf
    | cons f' fs =>
      cases k with
      | zero =>
        simp only [List.getElem?_cons_zero, Option.some.injEq, offsets] at ht hf ho
        subst ht hf ho
        exact ⟨memory, bytesAt_congr fun i _ hi => assignAt_before hi⟩
      | succ k => exact ih ht hf ho

def AllFit : List Member → List Field → Prop
  | t :: ts, f :: fs => f.Fits t.size ∧ AllFit ts fs
  | _, _ => True

/-- Where everything has room, the earlier assignments do not reach a member either. -/
theorem bytesAt_assignAt_of_fit {ts : List Member} {fs : List Field} {k : Nat}
    (hfit : AllFit ts fs) (ht : ts[k]? = some t) (hf : fs[k]? = some f)
    (ho : (offsets n ts)[k]? = some o) :
    bytesAt (assignAt memory n ts fs) o t.size = bytesAt (f.write memory o t.size) o t.size := by
  induction ts generalizing memory n fs k with
  | nil => cases ht
  | cons t' ts ih =>
    cases fs with
    | nil => cases hf
    | cons f' fs =>
      cases k with
      | zero =>
        simp only [List.getElem?_cons_zero, Option.some.injEq, offsets] at ht hf ho
        subst ht hf ho
        exact bytesAt_congr fun i _ hi => assignAt_before hi
      | succ k =>
        simp only [List.getElem?_cons_succ, offsets] at ht hf ho
        obtain ⟨o', ho', hle, -⟩ := offset_bounds (n := alignUp n t'.align + t'.size) ht
        rw [ho, Option.some.injEq] at ho'
        subst ho'
        rw [assignAt, ih hfit.2 ht hf ho]
        apply bytesAt_congr
        intro i hi _
        exact f.write_congr (fun j hj => Field.write_after hfit.1 (by omega)) hi

section Object

variable {ts : List Member} {fs : List Field} {s : Object ts} {k : Nat}

/-- The assignments to the members of a structure, in the order of their declaration. -/
def Object.assign (s : Object ts) (fs : List Field) : Object ts := assignAt s 0 ts fs

theorem bytes_assign_eq (ht : ts[k]? = some t) (hf : fs[k]? = some f) :
    ∃ memory o, (s.assign fs).bytes k = bytesAt (f.write memory o t.size) o t.size := by
  obtain ⟨o, ho, -, -⟩ := offset_bounds (n := 0) ht
  obtain ⟨memory, hbytes⟩ : ∃ memory, bytesAt (assignAt s 0 ts fs) o t.size =
    bytesAt (f.write memory o t.size) o t.size := bytesAt_assignAt ht hf ho
  refine ⟨memory, o, ?_⟩
  rw [Object.bytes, ht, List.getD_eq_getElem?_getD, ho]
  exact hbytes

@[simp] theorem Object.bytes_assign (hk : k < ts.length)
    (hf : ((fs[k]?).bind Field.toBytes).map List.length = some ((ts[k]?).elim 0 Member.size)) :
    (s.assign fs).bytes k = ((fs[k]?).bind Field.toBytes).getD [] := by
  have ht := List.getElem?_eq_getElem hk
  cases hfk : fs[k]? with
  | none => simp [hfk] at hf
  | some f =>
    cases f with
    | number | unassigned => simp [hfk, Field.toBytes] at hf
    | bytes b =>
      obtain ⟨memory, o, hbytes⟩ := bytes_assign_eq (s := s) ht hfk
      have hlen : b.length = ts[k].size := by simpa [hfk, ht, Field.toBytes] using hf
      rw [hbytes, ← hlen]
      exact bytesAt_storeBytes_self

@[simp] theorem Object.number_assign (hk : k < ts.length)
    (hf : ((fs[k]?).bind Field.toNumber).isSome) :
    (s.assign fs).number k =
      ((fs[k]?).bind Field.toNumber).getD 0 % 256 ^ (ts[k]?).elim 0 Member.size := by
  have ht := List.getElem?_eq_getElem hk
  cases hfk : fs[k]? with
  | none => simp [hfk] at hf
  | some f =>
    cases f with
    | bytes | unassigned => simp [hfk, Field.toNumber] at hf
    | number n =>
      obtain ⟨memory, o, hbytes⟩ := bytes_assign_eq (s := s) ht hfk
      rw [Object.number, hbytes]
      simp only [Field.write]
      rw [bytesAt_storeBytes_bytesOf, numberOf_bytesOf, ht]
      rfl

theorem Object.bytes_assign_of_fit (hfit : AllFit ts fs) (ht : ts[k]? = some t)
    (hf : fs[k]? = some f) (ho : (offsets 0 ts)[k]? = some o) :
    (s.assign fs).bytes k = bytesAt (f.write s o t.size) o t.size := by
  rw [Object.bytes, ht, List.getD_eq_getElem?_getD, ho]
  exact bytesAt_assignAt_of_fit hfit ht hf ho

end Object

section Struct

variable (σ : Type) [Struct σ]

/-- A structure of a type, in a memory, after the assignments to its members. -/
def Struct.assigned (memory : Nat → UInt8) (fs : List Field) : Object (Struct.members σ) :=
  @Object.assign (Struct.members σ) memory fs

/-- The memory after the assignments to the members of the first `n` elements of an array. -/
def Struct.assignArray (memory : Nat → UInt8) (n : Nat) (fs : Nat → List Field) : Nat → UInt8 :=
  fun i =>
    if i / Struct.size σ < n then
      Struct.assigned σ (fun k => memory (i / Struct.size σ * Struct.size σ + k))
        (fs (i / Struct.size σ)) (i % Struct.size σ)
    else memory i

variable {σ}

theorem Struct.read_assignArray (h : j < n) :
    (Struct.read fun k => Struct.assignArray σ memory n fs (j * Struct.size σ + k) : σ) =
      Struct.read (Struct.assigned σ (fun k => memory (j * Struct.size σ + k)) (fs j)) := by
  apply Struct.read_congr
  intro k hk
  have hlt : k < Struct.size σ := Nat.lt_of_lt_of_le hk (extent_le_sizeof _)
  have hdiv : (j * Struct.size σ + k) / Struct.size σ = j := by
    rw [Nat.mul_comm, Nat.mul_add_div (by omega), Nat.div_eq_of_lt hlt, Nat.add_zero]
  have hmod : (j * Struct.size σ + k) % Struct.size σ = k := by
    rw [Nat.mul_comm, Nat.mul_add_mod, Nat.mod_eq_of_lt hlt]
  simp only [Struct.assignArray, hdiv, hmod, if_pos h]

end Struct

end Layout
