import TaSecureApi.SvpValidation

namespace TaSecureApi
set_option autoImplicit true
open Porting Operation

def ApartInMemory (dst src n : Nat) : Prop := n = 0 ∨ dst + n ≤ src ∨ src + n ≤ dst

instance : Decidable (ApartInMemory dst src n) := inferInstanceAs (Decidable (_ ∨ _ ∨ _))

/-- `memcpy`, which is undefined for ranges that overlap. -/
def memcpyApart (memory : Memory) (dst src n : Nat) : Except Stop Memory :=
  if ApartInMemory dst src n then .ok (memcpy memory dst src n) else .error .undefined

def SvpBuffer.region (b : SvpBuffer) : SvpRegion := ⟨b.svpMemory, b.size⟩

/-- The second loop of `svp_write`. -/
def writeOffsetsRun (out inp : Nat) (offsets : List SaSvpOffsetS) (memory : Memory) :
    Except Stop (Bool × Memory) := do
  let memory ← offsets.foldlM (fun m o =>
    memcpyApart m (out + o.outOffset) (inp + o.inOffset) o.length) memory
  pure (true, memory)

/-- `svp_write` on buffers that exist. -/
def svpWriteRun (out : Option SvpBuffer) (inp inLength : Nat) (offsets : Option (List SaSvpOffsetS))
    (memory : Memory) : Except Stop (Bool × Memory) :=
  match out, offsets with
  | some b, some offsets =>
    if inp = 0 then .ok (false, memory)
    else if !svpValidateBuffer memoryIsValid (some b.region) then .ok (false, memory)
    else if !offsetsInBounds b.size inLength offsets then .ok (false, memory)
    else writeOffsetsRun b.svpMemory inp offsets memory
  | _, _ => .ok (false, memory)

/-- The second loop of `svp_copy`. -/
def copyOffsetsRun (out inp : Nat) : List SaSvpOffsetS → Memory → Except Stop (Bool × Memory)
  | [], memory => .ok (true, memory)
  | o :: offsets, memory =>
    match addOverflow out o.outOffset, addOverflow inp o.inOffset with
    | some outPosition, some inPosition => do
      let memory ← memcpyApart memory outPosition inPosition o.length
      copyOffsetsRun out inp offsets memory
    | _, _ => .ok (false, memory)

/-- `svp_copy` on buffers that exist. -/
def svpCopyRun (out inp : Option SvpBuffer) (offsets : Option (List SaSvpOffsetS))
    (memory : Memory) : Except Stop (Bool × Memory) :=
  match out, inp, offsets with
  | some b, some a, some offsets =>
    if !svpValidateBuffer memoryIsValid (some b.region) then .ok (false, memory)
    else if !svpValidateBuffer memoryIsValid (some a.region) then .ok (false, memory)
    else if !offsetsInBounds b.size a.size offsets then .ok (false, memory)
    else copyOffsetsRun b.svpMemory a.svpMemory offsets memory
  | _, _, _ => .ok (false, memory)

/-- Every range lies in its buffer, without a carry out of 64 bits. -/
def InBounds (outSize inSize : Nat) (offsets : List SaSvpOffsetS) : Prop :=
  ∀ o ∈ offsets, OffsetInside outSize inSize o

/-- One triple after the other: the bytes of the source at their places in the destination. -/
def applyTriples (out inp : Nat) (offsets : List SaSvpOffsetS) (memory : Memory) : Memory :=
  offsets.foldl (fun m o a =>
    if out + o.outOffset ≤ a ∧ a < out + o.outOffset + o.length then
      m (inp + o.inOffset + (a - (out + o.outOffset)))
    else m a) memory

/-- All triples are applied, where they all fit, or nothing is written. -/
def AllOrNothing (out outSize inp inSize : Nat) (offsets : List SaSvpOffsetS) (memory : Memory) :
    Except Stop (Bool × Memory) → Prop
  | .ok (true, memory') =>
    InBounds outSize inSize offsets ∧ memory' = applyTriples out inp offsets memory
  | .ok (false, memory') => memory' = memory
  | .error _ => False

/-- No triple copies between ranges that overlap. -/
def TriplesApart (out inp : Nat) (offsets : List SaSvpOffsetS) : Prop :=
  ∀ o ∈ offsets, ApartInMemory (out + o.outOffset) (inp + o.inOffset) o.length

section Proofs

variable {offsets : List SaSvpOffsetS} {memory : Memory}

theorem memcpyApart_of (h : ApartInMemory dst src n) :
    memcpyApart memory dst src n = .ok (memcpy memory dst src n) := if_pos h

theorem memcpyApart_of_not (h : ¬ ApartInMemory dst src n) :
    memcpyApart memory dst src n = .error .undefined := if_neg h

theorem foldlM_memcpyApart :
    offsets.foldlM (fun m o => memcpyApart m (out + o.outOffset) (inp + o.inOffset) o.length)
        memory =
      if offsets.all fun o => ApartInMemory (out + o.outOffset) (inp + o.inOffset) o.length then
        .ok (applyTriples out inp offsets memory)
      else .error .undefined := by
  induction offsets generalizing memory with
  | nil => rfl
  | cons o offsets ih =>
    rw [List.foldlM_cons, List.all_cons]
    by_cases h : ApartInMemory (out + o.outOffset) (inp + o.inOffset) o.length
    · rw [memcpyApart_of h, ok_bind, ih, decide_eq_true h, Bool.true_and]
      rfl
    · rw [memcpyApart_of_not h, error_bind, decide_eq_false h, Bool.false_and]
      rfl

/-- Where no address is carried out of 64 bits, the loop of `svp_copy` is the one of `svp_write`. -/
theorem copyOffsetsRun_eq
    (h : ∀ o ∈ offsets, out + o.outOffset < 2 ^ 64 ∧ inp + o.inOffset < 2 ^ 64) :
    copyOffsetsRun out inp offsets memory = writeOffsetsRun out inp offsets memory := by
  induction offsets generalizing memory with
  | nil => rfl
  | cons o offsets ih =>
    obtain ⟨hout, hinp⟩ := h o List.mem_cons_self
    rw [copyOffsetsRun, addOverflow_of_lt hout, addOverflow_of_lt hinp, writeOffsetsRun,
      List.foldlM_cons]
    by_cases hapart : ApartInMemory (out + o.outOffset) (inp + o.inOffset) o.length
    · simp only [memcpyApart_of hapart, ok_bind]
      exact ih fun o ho => h o (List.mem_cons_of_mem _ ho)
    · simp only [memcpyApart_of_not hapart, error_bind]

theorem allOrNothing_iff :
    AllOrNothing out outSize inp inSize offsets memory
      (if !offsetsInBounds outSize inSize offsets then .ok (false, memory)
        else writeOffsetsRun out inp offsets memory) ↔
      (InBounds outSize inSize offsets → TriplesApart out inp offsets) := by
  by_cases hbounds : offsetsInBounds outSize inSize offsets = true
  · have hinside : InBounds outSize inSize offsets := offsetsInBounds_iff.1 hbounds
    have hall : (offsets.all fun o =>
        ApartInMemory (out + o.outOffset) (inp + o.inOffset) o.length) = true ↔
          TriplesApart out inp offsets := by
      simp only [List.all_eq_true, decide_eq_true_iff, TriplesApart]
    rw [hbounds, Bool.not_true, if_neg Bool.false_ne_true, writeOffsetsRun, foldlM_memcpyApart]
    by_cases hapart : TriplesApart out inp offsets
    · rw [if_pos (hall.2 hapart)]
      exact iff_of_true ⟨hinside, rfl⟩ fun _ => hapart
    · rw [if_neg fun h => hapart (hall.1 h)]
      exact iff_of_false id fun h => hapart (h hinside)
  · have houtside : ¬ InBounds outSize inSize offsets := fun h => hbounds (offsetsInBounds_iff.2 h)
    rw [Bool.eq_false_of_not_eq_true hbounds, Bool.not_false, if_pos rfl]
    exact iff_of_true rfl fun h => absurd h houtside

theorem SvpBuffer.lt_of_valid (b : SvpBuffer) : b.svpMemory + b.size < 2 ^ 64 := by
  have hvalid := b.valid
  rw [memoryIsValid, Bool.and_eq_true, addOverflow] at hvalid
  by_contra h
  rw [if_neg h] at hvalid
  cases hvalid.2

theorem InBounds.addresses {b a : SvpBuffer} (h : InBounds b.size a.size offsets) :
    ∀ o ∈ offsets, b.svpMemory + o.outOffset < 2 ^ 64 ∧ a.svpMemory + o.inOffset < 2 ^ 64 := by
  intro o ho
  obtain ⟨⟨-, hout⟩, -, hinp⟩ := h o ho
  have hb := b.lt_of_valid
  have ha := a.lt_of_valid
  omega

theorem svpCopyRun_eq (b a : SvpBuffer) :
    svpCopyRun (some b) (some a) (some offsets) memory =
      if !offsetsInBounds b.size a.size offsets then .ok (false, memory)
      else writeOffsetsRun b.svpMemory a.svpMemory offsets memory := by
  simp only [svpCopyRun, svpValidateBuffer_some, Bool.not_true, Bool.false_eq_true, if_false]
  by_cases hbounds : offsetsInBounds b.size a.size offsets = true
  · have hinside : InBounds b.size a.size offsets := offsetsInBounds_iff.1 hbounds
    rw [hbounds, Bool.not_true, if_neg Bool.false_ne_true, if_neg Bool.false_ne_true,
      copyOffsetsRun_eq hinside.addresses]
  · rw [Bool.eq_false_of_not_eq_true hbounds, Bool.not_false, if_pos rfl, if_pos rfl]

end Proofs

/-- Two buffers that overlap, and a triple that copies from one to the other. -/
def overlappingBuffers : SvpBuffer × SvpBuffer := (⟨4096, 32, by decide⟩, ⟨4104, 32, by decide⟩)

theorem svpCopyRun_not_exact : ¬ ∀ (out inp : SvpBuffer) offsets memory,
    AllOrNothing out.svpMemory out.size inp.svpMemory inp.size offsets memory
      (svpCopyRun (some out) (some inp) (some offsets) memory) := by
  intro h
  have hexact := h overlappingBuffers.1 overlappingBuffers.2 [⟨0, 0, 16⟩] fun _ => 0
  rw [svpCopyRun_eq, allOrNothing_iff] at hexact
  have hinside : InBounds overlappingBuffers.1.size overlappingBuffers.2.size [⟨0, 0, 16⟩] :=
    offsetsInBounds_iff.1 (by decide)
  have hapart := hexact hinside ⟨0, 0, 16⟩ List.mem_cons_self
  exact absurd hapart (by decide)

/-- `svp_write` and `svp_copy` apply all triples or none, if and only if no triple of a list that is
within bounds copies between ranges that overlap. Where an argument is `NULL`, nothing is written.
-/
theorem svpCopies_exact_iff (out inp : SvpBuffer) (source inLength : Nat)
    (offsets : List SaSvpOffsetS) (memory : Memory) :
    (AllOrNothing out.svpMemory out.size source inLength offsets memory
        (svpWriteRun (some out) source inLength (some offsets) memory) ↔
      (source ≠ 0 → InBounds out.size inLength offsets →
        TriplesApart out.svpMemory source offsets)) ∧
    (AllOrNothing out.svpMemory out.size inp.svpMemory inp.size offsets memory
        (svpCopyRun (some out) (some inp) (some offsets) memory) ↔
      (InBounds out.size inp.size offsets → TriplesApart out.svpMemory inp.svpMemory offsets)) ∧
    (∀ out offsets, out = none ∨ offsets = none →
      svpWriteRun out source inLength offsets memory = .ok (false, memory)) ∧
    (∀ out inp offsets, out = none ∨ inp = none ∨ offsets = none →
      svpCopyRun out inp offsets memory = .ok (false, memory)) := by
  refine ⟨?_, ?_, ?_, ?_⟩
  · by_cases hsource : source = 0
    · rw [svpWriteRun, if_pos hsource]
      exact iff_of_true rfl fun h => absurd hsource h
    · simp only [svpWriteRun, svpValidateBuffer_some, Bool.not_true, Bool.false_eq_true, if_false]
      rw [if_neg hsource, allOrNothing_iff]
      exact ⟨fun h _ => h, fun h => h hsource⟩
  · rw [svpCopyRun_eq, allOrNothing_iff]
  · rintro out offsets (rfl | rfl)
    · rfl
    · cases out with
      | none => rfl
      | some b => rfl
  · rintro out inp offsets (rfl | rfl | rfl)
    · rfl
    · cases out with
      | none => rfl
      | some b => rfl
    · cases out with
      | none => rfl
      | some b =>
        cases inp with
        | none => rfl
        | some a => rfl

end TaSecureApi
