import Mathlib.Logic.Relation
import Mathlib.Order.WellFounded
import TaSecureApi.CencTraversal

namespace TaSecureApi
set_option autoImplicit true
open Wp

variable {Ctx : Type} {evp : Evp Ctx} {setup : CencSetup Ctx} {s s' : CencState Ctx}

def passLength (setup : CencSetup Ctx) (bytesLeft : Nat) : Nat :=
  let block := stripe setup.cryptByteBlock bytesLeft
  block + if setup.skipByteBlock > 0 then stripe setup.skipByteBlock (bytesLeft - block) else 0

/-- The body of the loop over the stripes. Ends with the bytes that are left, or with `none` where
it leaves the loop. -/
def patternPass (evp : Evp Ctx) (setup : CencSetup Ctx) (bytesLeft : Nat) :
    Prog (CencState Ctx) CencExit (Option Nat) := do
  let block := stripe setup.cryptByteBlock bytesLeft
  if ← cryptStripe evp setup block then
    let skipped := if setup.skipByteBlock > 0 then
      stripe setup.skipByteBlock (bytesLeft - block) else 0
    copyClear setup skipped
    pure (some (bytesLeft - block - skipped))
  else pure none

theorem patternLoop_succ (fuel bytesLeft : Nat) : patternLoop evp setup (fuel + 1) bytesLeft =
    if bytesLeft ≥ aesBlockSize then
      patternPass evp setup bytesLeft >>= fun next =>
        next.elim (pure bytesLeft) (patternLoop evp setup fuel)
    else pure bytesLeft := by
  rw [patternLoop]
  congr 1
  simp only [patternPass, bind_assoc]
  congr 1
  funext going
  cases going with
  | false => simp only [Bool.false_eq_true, if_false, pure_bind, Option.elim_none]
  | true => simp only [if_true, bind_assoc, pure_bind, Option.elim_some]

/-- A pass that succeeds, from the bytes that are left and the state before it to those after. -/
def StripesPass (evp : Evp Ctx) (setup : CencSetup Ctx) (a b : Nat × CencState Ctx) : Prop :=
  a.1 ≥ aesBlockSize ∧ (patternPass evp setup a.1).run.run a.2 = (.ok (some b.1), b.2)

/-- In every state, each pass over some protected data that succeeds takes bytes off, there is no
endless run of passes, and the processing of the data is not caught in the loop. -/
structure StripesEnd (evp : Evp Ctx) (setup : CencSetup Ctx) (bytesOfProtectedData : Nat) :
    Prop where
  decreases : ∀ s a b, Relation.ReflTransGen (StripesPass evp setup) (bytesOfProtectedData, s) a →
    StripesPass evp setup a b → b.1 < a.1
  ends : ∀ s, Acc (fun b a => StripesPass evp setup a b) (bytesOfProtectedData, s)
  leaves : ∀ s, ((processPattern evp setup bytesOfProtectedData).run.run s).1 ≠ .error .hang

theorem stripe_pos : 0 < stripe block left ↔ aesBlockSize ≤ left ∧ ¬ 2 ^ 60 ∣ block := by
  unfold stripe aesBlockSize
  omega

/-- A pass takes bytes off unless both lengths of the pattern wrap around to 0. -/
theorem passLength_pos (setup : CencSetup Ctx) (h : aesBlockSize ≤ left) :
    0 < passLength setup left ↔
      ¬ (2 ^ 60 ∣ setup.cryptByteBlock ∧ 2 ^ 60 ∣ setup.skipByteBlock) := by
  have hblock : 0 < stripe setup.cryptByteBlock left ↔ _ := stripe_pos
  unfold passLength
  dsimp only
  by_cases hc : 2 ^ 60 ∣ setup.cryptByteBlock
  · have hzero : stripe setup.cryptByteBlock left = 0 := by
      by_contra hne
      exact (hblock.1 (Nat.pos_of_ne_zero hne)).2 hc
    rw [hzero, Nat.sub_zero, Nat.zero_add]
    split_ifs with hskip
    · rw [stripe_pos]
      exact ⟨fun hs hboth => hs.2 hboth.2, fun hn => ⟨h, fun hs => hn ⟨hc, hs⟩⟩⟩
    · obtain hz : setup.skipByteBlock = 0 := by omega
      rw [hz]
      exact ⟨fun hlt => absurd hlt (lt_irrefl 0), fun hn => absurd ⟨hc, dvd_zero _⟩ hn⟩
  · have hpos := hblock.2 ⟨h, hc⟩
    exact ⟨fun _ hboth => hc hboth.1, fun _ => by omega⟩

theorem wp_cryptStripe (evp : Evp Ctx) :
    wp (cryptStripe evp setup block) (fun _ _ => True) (fun _ _ => False) s := by
  simp only [cryptStripe, wp_ite, wp_bind, wp_outcome, wp_pure, implies_true, and_true]
  intro _
  apply wp_of_forall
  · exact fun _ _ => trivial
  · exact fun _ _ => trivial

/-- A pass does not stop the processing, and one that succeeds takes off the length of its
stripes. -/
theorem wp_patternPass (evp : Evp Ctx) : wp (patternPass evp setup left)
    (fun next _ => ∀ left' ∈ next, left' + passLength setup left = left) (fun _ _ => False) s := by
  have hblock := stripe_le setup.cryptByteBlock left
  have hskip := stripe_le setup.skipByteBlock (left - stripe setup.cryptByteBlock left)
  simp only [patternPass, wp_bind]
  apply (wp_cryptStripe evp).mono
  · intro going s₁ _
    simp only [wp_ite, wp_bind, wp_pure]
    refine ⟨fun _ => ?_, fun _ left' h => by cases h⟩
    have hlength : ∀ left' ∈ some (left - stripe setup.cryptByteBlock left -
        if setup.skipByteBlock > 0 then
          stripe setup.skipByteBlock (left - stripe setup.cryptByteBlock left) else 0),
        left' + passLength setup left = left := by
      rintro left' ⟨⟩
      unfold passLength
      dsimp only
      split_ifs <;> omega
    exact wp_copyClear.2 ⟨fun _ => hlength, fun _ => hlength⟩
  · exact fun _ _ h => h

theorem StripesPass.length (h : StripesPass evp setup a b) :
    b.1 + passLength setup a.1 = a.1 :=
  wp.of_ok (wp_patternPass evp) h.2 b.1 rfl

theorem stripesPass_of_passLength_zero (evp : Evp Ctx) (hle : aesBlockSize ≤ left)
    (h : passLength setup left = 0) (s : CencState Ctx) :
    StripesPass evp setup (left, s) (left, s) := by
  refine ⟨hle, ?_⟩
  unfold passLength at h
  dsimp only at h
  obtain ⟨hblock, hskip⟩ := Nat.add_eq_zero_iff.1 h
  rw [hblock, Nat.sub_zero] at hskip
  simp only [patternPass, hblock, Nat.sub_zero, hskip]
  rfl

/-- The passes over `n` bytes take bytes off. -/
def Progresses (setup : CencSetup Ctx) (n : Nat) : Prop :=
  ∀ left, aesBlockSize ≤ left → left ≤ n → 0 < passLength setup left

theorem progresses_iff (setup : CencSetup Ctx) (n : Nat) : Progresses setup n ↔
    n < aesBlockSize ∨ ¬ (2 ^ 60 ∣ setup.cryptByteBlock ∧ 2 ^ 60 ∣ setup.skipByteBlock) := by
  constructor
  · intro h
    by_cases hle : aesBlockSize ≤ n
    · exact .inr ((passLength_pos setup hle).1 (h n hle le_rfl))
    · exact .inl (not_le.1 hle)
  · rintro (hlt | hpattern) left hge hle
    · omega
    · exact (passLength_pos setup hge).2 hpattern

theorem Progresses.mono (h : Progresses setup n) (hle : m ≤ n) : Progresses setup m :=
  fun left hge hm => h left hge (hm.trans hle)

/-- Where the passes take bytes off, as much fuel as there are bytes is enough, by induction on the
fuel. -/
theorem Progresses.wp_patternLoop (evp : Evp Ctx) (h : Progresses setup left) (hle : left ≤ fuel) :
    wp (patternLoop evp setup fuel left) (fun _ _ => True) (fun e _ => e ≠ .hang) s := by
  induction fuel generalizing left s with
  | zero =>
    simp only [patternLoop, wp_ite, wp_throw, wp_pure, implies_true, and_true]
    intro hge
    unfold aesBlockSize at hge
    omega
  | succ fuel ih =>
    rw [patternLoop_succ]
    simp only [wp_ite, wp_bind, wp_pure, implies_true, and_true]
    intro hge
    have hpos := h left hge le_rfl
    apply (wp_patternPass evp).mono
    · intro next s₁ hnext
      cases next with
      | none => trivial
      | some left' =>
        have hlength := hnext left' rfl
        exact ih (h.mono (by omega)) (by omega)
    · exact fun _ _ h => h.elim

theorem Progresses.wp_processPattern (evp : Evp Ctx) (h : Progresses setup n) :
    wp (processPattern evp setup n) (fun _ _ => True) (fun e _ => e ≠ .hang) s := by
  have hloop : ∀ s₁, wp (patternLoop evp setup n n >>= copyClear setup)
      (fun _ _ => True) (fun e _ => e ≠ .hang) s₁ := by
    intro s₁
    rw [wp_bind]
    apply (h.wp_patternLoop evp le_rfl).mono
    · intro left s₂ _
      exact wp_copyClear.2 ⟨fun _ => trivial, fun _ => trivial⟩
    · exact fun _ _ h => h
  simp only [processPattern, wp_ite, wp_bind, wp_modify]
  refine ⟨fun _ => ?_, fun _ => (wp_bind _ _).1 (hloop s)⟩
  apply wp_orBreak
  apply wp_of_forall
  · exact fun _ s₁ => hloop _
  · intro _ _ h
    cases h

theorem Progresses.decreases (h : Progresses setup a.1) (hpass : StripesPass evp setup a b) :
    b.1 < a.1 := by
  have hlength := hpass.length
  have hpos := h a.1 hpass.1 le_rfl
  omega

theorem reached_le (hreach : Relation.ReflTransGen (StripesPass evp setup) a b) : b.1 ≤ a.1 := by
  induction hreach with
  | refl => exact le_rfl
  | tail _ hpass ih =>
    have hlength := hpass.length
    omega

/-- There is no endless run of passes, by induction on the bytes that are left. -/
theorem Progresses.ends (h : Progresses setup n) (s : CencState Ctx) :
    Acc (fun b a => StripesPass evp setup a b) (n, s) := by
  induction n using Nat.strong_induction_on generalizing s with
  | h n ih =>
    constructor
    rintro ⟨left, s'⟩ hpass
    have hlt := Progresses.decreases (a := (n, s)) h hpass
    exact ih left hlt (h.mono hlt.le) s'

theorem stripesEnd_iff_progresses (evp : Evp Ctx) (setup : CencSetup Ctx) (n : Nat) :
    StripesEnd evp setup n ↔ Progresses setup n := by
  constructor
  · intro hend
    by_contra hn
    have hdegenerate := (progresses_iff setup n).not.1 hn
    obtain ⟨hge, hboth⟩ := not_or.1 hdegenerate
    have hzero : passLength setup n = 0 := by
      by_contra hne
      exact hboth ((passLength_pos setup (not_lt.1 hge)).1 (Nat.pos_of_ne_zero hne))
    have hpass := stripesPass_of_passLength_zero evp (not_lt.1 hge) hzero (setup.start fun _ => 0)
    exact lt_irrefl n (hend.decreases _ _ _ .refl hpass)
  · intro h
    refine ⟨fun s a b hreach hpass => ?_, h.ends, fun s hrun => ?_⟩
    · exact (h.mono (reached_le hreach)).decreases hpass
    · exact wp.of_error (h.wp_processPattern evp) (Prod.ext hrun rfl) rfl

/-- For a sample that is accepted, the loop over the stripes of its protected data ends, each pass
with fewer bytes left, exactly where one of the two lengths of the pattern does not wrap around
to 0. Without a pattern there is no such loop. -/
theorem patternLoop_terminates_exact {client : Client Ctx} (evp : Evp Ctx)
    (hv : verifySample client reading sample = .ok ())
    (hs : cencSetup client sample = .ok (setup, subsamples)) (bytesOfProtectedData : Nat) :
    (sample.cryptByteBlock ≠ 0 → StripesEnd evp setup bytesOfProtectedData) ↔
      sample.cryptByteBlock = 0 ∨ bytesOfProtectedData < aesBlockSize ∨
        ¬ (2 ^ 60 ∣ sample.cryptByteBlock ∧ 2 ^ 60 ∣ sample.skipByteBlock) := by
  obtain ⟨cipher, _, out, inp, outBytes, inBytes, hverified⟩ := verifySample_ok hv
  obtain ⟨-, -, -, -, -, -, -, hcrypt, hskip⟩ := hverified.of_setup hs
  rw [stripesEnd_iff_progresses, progresses_iff, hcrypt, hskip]
  tauto

/-- A sample of `ctrClient` with a pattern. -/
def stripedSample (cryptByteBlock skipByteBlock : Nat)
    (subsampleLengths : List SaSubsampleLength) : SaSample :=
  { ctrSample 0 subsampleLengths with
    cryptByteBlock := cryptByteBlock
    skipByteBlock := skipByteBlock }

def stripedSetup (cryptByteBlock skipByteBlock : Nat) : CencSetup (BitVec (64 + 64) × Nat) where
  cipherAlgorithm := .aesCtr
  context := ⟨.aesCtr, .decrypt, (0, 0)⟩
  iv := ⟨0, 0⟩
  outBytes := 2000
  inBytes := 1000
  cryptByteBlock := cryptByteBlock
  skipByteBlock := skipByteBlock

theorem patternLoop_terminates_exact_one_nine :
    ((stripedSample 1 9 [⟨3, 160⟩]).cryptByteBlock ≠ 0 →
      StripesEnd (Evp.ctr fun _ _ => 0) (stripedSetup 1 9) 160) ↔
      (stripedSample 1 9 [⟨3, 160⟩]).cryptByteBlock = 0 ∨ 160 < aesBlockSize ∨
        ¬ (2 ^ 60 ∣ (stripedSample 1 9 [⟨3, 160⟩]).cryptByteBlock ∧
          2 ^ 60 ∣ (stripedSample 1 9 [⟨3, 160⟩]).skipByteBlock) :=
  patternLoop_terminates_exact _ (by decide : verifySample ctrClient noOutputs _ = .ok ()) rfl 160

/-- A pattern of `2^60` blocks is accepted, and the loop over its stripes has no end. -/
theorem patternLoop_endless :
    verifySample ctrClient noOutputs (stripedSample (2 ^ 60) 0 [⟨0, 16⟩]) = .ok () ∧
    cencSetup ctrClient (stripedSample (2 ^ 60) 0 [⟨0, 16⟩]) =
      .ok (stripedSetup (2 ^ 60) 0, [⟨0, 16⟩]) ∧
    ¬ StripesEnd (Evp.ctr fun _ _ => 0) (stripedSetup (2 ^ 60) 0) 16 ∧
    (cencProcessSample (Evp.ctr fun _ _ => 0) ctrClient (stripedSample (2 ^ 60) 0 [⟨0, 16⟩])
      fun _ => 0).result = .error .hang := by
  refine ⟨by decide, rfl, ?_, rfl⟩
  rw [stripesEnd_iff_progresses, progresses_iff]
  decide

end TaSecureApi
