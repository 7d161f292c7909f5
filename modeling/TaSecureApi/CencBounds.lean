import TaSecureApi.CencTraversal

namespace TaSecureApi
set_option autoImplicit true
open Wp

variable {Ctx : Type} {ε : Type} {evp : Evp Ctx} {setup : CencSetup Ctx} {s s' s'' : CencState Ctx}

def CencEvent.isCall : CencEvent → Bool
  | call .. => true
  | _ => false

/-- A step that stays inside a sample of some length: the bytes read and written lie in the two
ranges, the subtraction does not underflow, and a call moves on by the bytes it was to process. -/
def CencEvent.InSample (setup : CencSetup Ctx) (length : Nat) : CencEvent → Prop
  | call .. => True
  | access src dst n =>
    (setup.inBytes ≤ src ∧ src + n ≤ setup.inBytes + length) ∧
    (setup.outBytes ≤ dst ∧ dst + n ≤ setup.outBytes + length)
  | subtract a b => b ≤ a
  | advanced n before after => after = sizeAdd before n

/-- The lengths that a loop hands on, beside that of the pending block, are ones that an `int`
holds. -/
def PiecesOk (rollover : Bool) (n lead full before : Nat) : Prop :=
  if rollover then min before full * 16 < 2 ^ 31 ∧ n - lead - min before full * 16 < 2 ^ 31
  else n < 2 ^ 31

/-- A call of `decrypt` that is not shorter than the block that is pending, and whose pieces have
lengths that an `int` holds. -/
def CallOk (alg : SaCipherAlgorithm) (encByteCount : Nat) (counter : BitVec 64) (n : Nat) : Prop :=
  leadingPartialBlockSize encByteCount ≤ n ∧
  PiecesOk (rollsOver alg encByteCount counter n) n (leadingPartialBlockSize encByteCount)
    (fullBlocks encByteCount n) (blocksBeforeRollover counter)

/-- The steps since a state, all of one kind. The offset of the sample is where it was. -/
structure Extends (P : CencEvent → Prop) (s s' : CencState Ctx) : Prop where
  offset : s'.offset = s.offset
  algorithm : s'.context.cipherAlgorithm = s.context.cipherAlgorithm
  mode : s'.context.cipherMode = s.context.cipherMode
  bounded : s.encByteCount < 2 ^ 64 → s'.encByteCount < 2 ^ 64
  log : ∃ events, s'.log = events ++ s.log ∧ ∀ event ∈ events, P event

section Extends

variable {P : CencEvent → Prop}

theorem Extends.refl (s : CencState Ctx) : Extends P s s := ⟨rfl, rfl, rfl, id, [], rfl, by simp⟩

theorem Extends.trans (h : Extends P s s') (h' : Extends P s' s'') : Extends P s s'' where
  offset := h'.offset.trans h.offset
  algorithm := h'.algorithm.trans h.algorithm
  mode := h'.mode.trans h.mode
  bounded hb := h'.bounded (h.bounded hb)
  log := by
    obtain ⟨es, he, hP⟩ := h.log
    obtain ⟨es', he', hP'⟩ := h'.log
    refine ⟨es' ++ es, by rw [he', he, List.append_assoc], fun e hm => ?_⟩
    exact (List.mem_append.1 hm).elim (hP' e) (hP e)

theorem Extends.cons (h : Extends P s s') (he : P e) :
    Extends P s { s' with log := e :: s'.log } where
  offset := h.offset
  algorithm := h.algorithm
  mode := h.mode
  bounded := h.bounded
  log := by
    obtain ⟨es, hes, hP⟩ := h.log
    refine ⟨e :: es, by simp [hes], fun e' hm => ?_⟩
    rcases List.mem_cons.1 hm with rfl | hm
    · exact he
    · exact hP e' hm

theorem Extends.imp {P' : CencEvent → Prop} (h : Extends P s s') (hP : ∀ e, P e → P' e) :
    Extends P' s s' := by
  obtain ⟨es, hes, hall⟩ := h.log
  exact ⟨h.offset, h.algorithm, h.mode, h.bounded, es, hes, fun e he => hP e (hall e he)⟩

/-- What a successful decryption says about its length. -/
structure Reported (evp : Evp Ctx) (n length : Nat) : Prop where
  sized : evp.Sized → n < 2 ^ 31 → length = n
  total : evp.Total → length = castSize (castInt n)

theorem contextDecrypt_extends (hr : s.context.Ready out inp n) (hP : P (.access inp out n)) :
    wp (contextDecrypt evp out inp n)
      (fun length s' => Extends P s s' ∧ Reported evp n length ∧ s'.encByteCount = s.encByteCount)
      (fun _ s' => Extends P s s' ∧ ¬ evp.NeverFails) s := by
  have hext : ∀ evpCipher memory, Extends P s { s with
      context := { s.context with evpCipher := evpCipher }
      memory := memory
      log := .access inp out n :: s.log } := by
    intro evpCipher memory
    have h := (Extends.refl (P := P) s).cons hP
    exact ⟨h.offset, h.algorithm, h.mode, h.bounded, h.log⟩
  apply wp_contextDecrypt
  · intro _ hs
    refine ⟨hext _ _, ⟨fun hsized hn => ?_, fun htotal => ?_⟩, rfl⟩
    · rw [hsized _ _ _ _ _ (by rw [castInt_of_lt hn]; omega) hs, castInt_of_lt hn,
        castSize_natCast (by omega)]
    · rw [htotal.length]
  · intro e evpCipher memory hn
    exact ⟨hext _ _, fun hnever => hn hr (hnever.update _ _ _ _ _)⟩

/-- A context that decrypts and takes IVs, and two addresses that are not `NULL`. -/
structure Able (s : CencState Ctx) (out inp : Nat) : Prop where
  mode : s.context.cipherMode = .decrypt
  takesIv : s.context.cipherAlgorithm.takesIv
  outNonNull : out ≠ 0
  inNonNull : inp ≠ 0

theorem Able.extends (h : Able s out inp) (he : Extends P s s') : Able s' out inp :=
  ⟨he.mode.trans h.mode, by rw [he.algorithm]; exact h.takesIv, h.outNonNull, h.inNonNull⟩

theorem Able.ready (h : Able s out inp) (hn : s.context.cipherAlgorithm.isStream ∨ n % 16 = 0)
    (a : Nat) : s.context.Ready (out + a) (inp + a) n where
  mode := h.mode
  out := by have := h.outNonNull; omega
  inp := by have := h.inNonNull; omega
  length := hn

theorem contextSetIv_extends (ha : Able s out inp) :
    wp (contextSetIv evp)
      (fun _ s' => Extends P s s' ∧ s'.encByteCount = s.encByteCount)
      (fun _ s' => Extends P s s' ∧ ¬ evp.NeverFails) s := by
  have h := Extends.refl (P := P) s
  apply wp_contextSetIv ha.mode ha.takesIv
  · intro hs
    exact ⟨⟨h.offset, h.algorithm, h.mode, h.bounded, h.log⟩, rfl⟩
  · intro e evpCipher hn
    exact ⟨⟨h.offset, h.algorithm, h.mode, h.bounded, h.log⟩, fun hnever => hn (hnever.init _ _)⟩

theorem decryptBlocks_extends (ha : Able s out inp) (hs : s.context.cipherAlgorithm.isStream)
    (hP : P (.access (inp + a) (out + a) n)) :
    wp (decryptBlocks evp (out + a) (inp + a) n blocks)
      (fun length s' => Extends P s s' ∧ Reported evp n length ∧
        s'.encByteCount = sizeAdd s.encByteCount length)
      (fun _ s' => Extends P s s' ∧ ¬ evp.NeverFails) s := by
  simp only [decryptBlocks, wp_bind]
  apply (contextDecrypt_extends (ha.ready (.inl hs) a) hP).mono
  · rintro length s₁ ⟨h₁, hl, henc⟩
    simp only [wp_bind, wp_modify, CencState.addCounter]
    have hcounter : Extends P s { s₁ with
        iv := { s₁.iv with counter := s₁.iv.counter + BitVec.ofNat 64 blocks } } :=
      ⟨h₁.offset, h₁.algorithm, h₁.mode, h₁.bounded, h₁.log⟩
    apply wp.mono (contextSetIv_extends (P := P) (ha.extends hcounter))
    · rintro - s₂ ⟨h₂, henc₂⟩
      simp only [wp_bind, wp_modify, wp_pure, CencState.addEncByteCount]
      have h := h₁.trans ⟨h₂.offset, h₂.algorithm, h₂.mode, h₂.bounded, h₂.log⟩
      refine ⟨⟨h.offset, h.algorithm, h.mode, fun _ => Nat.mod_lt _ (by decide), h.log⟩, hl, ?_⟩
      dsimp only at henc₂ ⊢
      rw [henc₂, henc]
    · rintro e s₂ ⟨h₂, hn⟩
      exact ⟨h₁.trans ⟨h₂.offset, h₂.algorithm, h₂.mode, h₂.bounded, h₂.log⟩, hn⟩
  · intro e s' h
    exact h

theorem decryptRest_extends (ha : Able s out inp)
    (hs : s.context.cipherAlgorithm.isStream ∨ sizeSub n bytesEncrypted % 16 = 0)
    (hsub : P (.subtract n bytesEncrypted))
    (hP : P (.access (inp + bytesEncrypted) (out + bytesEncrypted) (sizeSub n bytesEncrypted))) :
    wp (decryptRest evp out inp n bytesEncrypted lead full)
      (fun _ s' => Extends P s s' ∧ ∃ length, Reported evp (sizeSub n bytesEncrypted) length ∧
        s'.encByteCount = sizeAdd s.encByteCount length)
      (fun _ s' => Extends P s s' ∧ ¬ evp.NeverFails) s := by
  simp only [decryptRest, wp_bind, wp_subtract]
  have h₀ := (Extends.refl (P := P) s).cons hsub
  apply (contextDecrypt_extends ((ha.extends h₀).ready hs bytesEncrypted) hP).mono
  · rintro length s₁ ⟨h₁, hl, henc⟩
    simp only [wp_bind, wp_modify, CencState.addCounter, CencState.addEncByteCount]
    have h := h₀.trans h₁
    refine ⟨⟨h.offset, h.algorithm, h.mode, fun _ => Nat.mod_lt _ (by decide), h.log⟩, length, hl,
      ?_⟩
    dsimp only at henc ⊢
    rw [henc]
  · rintro e s₁ ⟨h₁, hn⟩
    exact ⟨h₀.trans h₁, hn⟩

theorem decryptLeadingPartialBlock_extends (hsized : evp.Sized) (ha : Able s out inp)
    (hs : s.context.cipherAlgorithm.isStream) (henc : s.encByteCount < 2 ^ 64)
    (hlead : lead < 16) (hP : P (.access inp out lead)) :
    wp (decryptLeadingPartialBlock evp out inp lead)
      (fun length s' => Extends P s s' ∧ length = lead ∧
        s'.encByteCount = sizeAdd s.encByteCount lead)
      (fun _ s' => Extends P s s' ∧ ¬ evp.NeverFails) s := by
  simp only [decryptLeadingPartialBlock, wp_ite, wp_pure]
  constructor
  · intro hpos
    apply wp.mono (decryptBlocks_extends (a := 0) ha hs hP)
    · rintro length s₁ ⟨h₁, hl, he⟩
      have hlen := hl.sized hsized (by omega)
      exact ⟨h₁, hlen, hlen ▸ he⟩
    · intro e s₁ h
      exact h
  · intro hpos
    refine ⟨.refl s, by omega, ?_⟩
    unfold sizeAdd
    omega

/-- The first part of a call whose counter rolls over moves on by the pending block and by what is
reported for the full blocks. -/
theorem decryptToRollover_extends (hsized : evp.Sized) (ha : Able s out inp)
    (hs : s.context.cipherAlgorithm.isStream) (henc : s.encByteCount < 2 ^ 64)
    (hlead : lead < 16) (hP : P (.access inp out lead))
    (hblocks : P (.access (inp + lead) (out + lead) (min before full * 16)))
    (hsub : P (.subtract full (min before full))) :
    wp (decryptToRollover evp out inp lead full before)
      (fun r s' => Extends P s s' ∧ ∃ length, Reported evp (min before full * 16) length ∧
        r.1 = sizeAdd lead length ∧ s'.encByteCount = sizeAdd s.encByteCount r.1)
      (fun _ s' => Extends P s s' ∧ ¬ evp.NeverFails) s := by
  simp only [decryptToRollover, wp_bind]
  apply (decryptLeadingPartialBlock_extends hsized ha hs henc hlead hP).mono
  · rintro length s₁ ⟨h₁, rfl, he₁⟩
    simp only [wp_ite, wp_bind, wp_pure]
    constructor
    · intro hpos
      apply wp.mono (decryptBlocks_extends (ha.extends h₁) (by rw [h₁.algorithm]; exact hs)
        hblocks)
      · rintro len s₂ ⟨h₂, hl, he₂⟩
        simp only [wp_bind, wp_subtract, wp_pure]
        refine ⟨(h₁.trans h₂).cons hsub, len, hl, rfl, ?_⟩
        rw [he₂, he₁, sizeAdd_assoc]
        unfold sizeAdd
        omega
      · rintro e s₂ ⟨h₂, hn⟩
        exact ⟨h₁.trans h₂, hn⟩
    · intro hpos
      have hzero : min before full * 16 = 0 := by omega
      refine ⟨h₁, 0, ⟨fun _ _ => hzero.symm, fun _ => ?_⟩, ?_, he₁⟩
      · rw [hzero]
        rfl
      · rw [sizeAdd_of_lt (by omega), Nat.add_zero]
  · intro e s₁ h
    exact h

end Extends

/-- A length that goes to `int` and back keeps its low 32 bits, with the sign of the highest. -/
theorem castSize_castInt_eq (n : Nat) : castSize (castInt n) =
    if n % 2 ^ 32 < 2 ^ 31 then n % 2 ^ 32 else 2 ^ 64 - 2 ^ 32 + n % 2 ^ 32 := by
  have hmod : (BitVec.ofNat 32 n).toNat = n % 2 ^ 32 := BitVec.toNat_ofNat n 32
  rw [castInt, BitVec.toInt_eq_toNat_cond, hmod]
  unfold castSize
  split_ifs <;> omega

theorem sizeAdd_left_ne (ha : a < 2 ^ 64) (hb : b < 2 ^ 64) (h : a ≠ b) :
    sizeAdd k a ≠ sizeAdd k b := by
  unfold sizeAdd
  omega

theorem castSize_rest_ne (hn : n < 2 ^ 63) (h : 2 ^ 31 ≤ n) : castSize (castInt n) ≠ n := by
  rw [castSize_castInt_eq]
  split_ifs <;> omega

theorem reported_ne (hX : lead + 16 * X ≤ n) (hn : n < 2 ^ 63) (hlead : lead < 16)
    (hbad : ¬ (16 * X < 2 ^ 31 ∧ n - lead - 16 * X < 2 ^ 31))
    (hb : b = sizeAdd lead (castSize (castInt (16 * X)))) :
    (b < n → sizeAdd b (castSize (castInt (sizeSub n b))) ≠ n) ∧ b ≠ n := by
  rw [castSize_castInt_eq] at hb
  unfold sizeAdd at hb
  constructor
  · intro hlt
    rw [sizeSub_of_le hlt.le (by omega), castSize_castInt_eq]
    unfold sizeAdd
    split_ifs at hb ⊢ <;> omega
  · split_ifs at hb <;> omega

/-- The two ranges of a call lie in the sample. -/
structure Within (setup : CencSetup Ctx) (length out inp n : Nat) : Prop where
  inFrom : setup.inBytes ≤ inp
  inTo : inp + n ≤ setup.inBytes + length
  outFrom : setup.outBytes ≤ out
  outTo : out + n ≤ setup.outBytes + length

theorem Within.access (h : Within setup length out inp n) (hk : a + k ≤ n) :
    (CencEvent.access (inp + a) (out + a) k).InSample setup length := by
  obtain ⟨h₁, h₂, h₃, h₄⟩ := h
  exact ⟨⟨by omega, by omega⟩, by omega, by omega⟩

def CencEvent.Quiet (setup : CencSetup Ctx) (length : Nat) (event : CencEvent) : Prop :=
  event.InSample setup length ∧ event.isCall = false

/-- A loop whose pieces are short enough stays inside the sample and moves on by its length. -/
theorem decryptLoop_inside (hsized : evp.Sized) (ha : Able s out inp)
    (hs : s.context.cipherAlgorithm.isStream ∨ rollover = false ∧ n % 16 = 0)
    (henc : s.encByteCount < 2 ^ 64) (hw : Within setup length out inp n) (hn : n < 2 ^ 63)
    (hlead : lead < 16) (hle : lead ≤ n) (hfull : full = (n - lead) / 16)
    (hok : PiecesOk rollover n lead full before) :
    wp (decryptLoop evp out inp n lead full before rollover)
      (fun _ s' => Extends (CencEvent.Quiet setup length) s s' ∧
        s'.encByteCount = sizeAdd s.encByteCount n)
      (fun _ s' => Extends (CencEvent.Quiet setup length) s s') s := by
  have hsub : ∀ a b, b ≤ a → CencEvent.Quiet setup length (.subtract a b) := fun a b h => ⟨h, rfl⟩
  simp only [decryptLoop, wp_ite, wp_bind, wp_pure]
  refine ⟨fun hpos => ⟨fun hroll => ?_, fun hroll => ?_⟩, fun hzero => ?_⟩
  · subst hroll
    have hstream : s.context.cipherAlgorithm.isStream := hs.resolve_right (by simp)
    obtain ⟨hblocks, hrest⟩ : min before full * 16 < 2 ^ 31 ∧
        n - lead - min before full * 16 < 2 ^ 31 := hok
    have hmin : min before full * 16 ≤ n - lead := by
      have := Nat.min_le_right before full
      omega
    have hto := decryptToRollover_extends (P := CencEvent.Quiet setup length) hsized ha hstream henc
      hlead ⟨hw.access (a := 0) (by omega), rfl⟩
      ⟨hw.access (a := lead) (k := min before full * 16) (by omega), rfl⟩
      (hsub _ _ (Nat.min_le_right before full))
    apply hto.mono
    · rintro ⟨b, left⟩ s₁ ⟨h₁, len, hl, hb, he₁⟩
      obtain rfl : b = lead + min before full * 16 := by
        rw [← sizeAdd_of_lt (a := lead) (b := min before full * 16) (by omega)]
        exact hl.sized hsized hblocks ▸ hb
      dsimp only at he₁
      simp only [wp_ite, wp_pure]
      refine ⟨fun hlt => ?_, fun hge => ⟨h₁, by rw [he₁]; congr 1; omega⟩⟩
      have hss := sizeSub_of_le (a := n) (b := lead + min before full * 16) (by omega) (by omega)
      apply wp.mono (decryptRest_extends (P := CencEvent.Quiet setup length) (ha.extends h₁)
        (.inl (h₁.algorithm ▸ hstream)) (hsub _ _ hlt.le) ⟨hw.access (by rw [hss]; omega), rfl⟩)
      · rintro - s₂ ⟨h₂, len₂, hl₂, he₂⟩
        refine ⟨h₁.trans h₂, ?_⟩
        rw [he₂, hl₂.sized hsized (by omega), he₁, hss, sizeAdd_assoc]
        congr 1
        omega
      · rintro e s₂ ⟨h₂, -⟩
        exact h₁.trans h₂
    · rintro e s₁ ⟨h₁, -⟩
      exact h₁
  · have hlt : n < 2 ^ 31 := by simpa only [PiecesOk, if_neg hroll] using hok
    have hss := sizeSub_of_le (a := n) (b := 0) (by omega) (by omega)
    apply wp.mono (decryptRest_extends (P := CencEvent.Quiet setup length) ha
      (by rw [hss]; exact hs.imp_right And.right) (hsub _ _ hpos.le)
      ⟨hw.access (by rw [hss]; omega), rfl⟩)
    · rintro - s₁ ⟨h₁, len, hl, he⟩
      rw [hss, Nat.sub_zero] at hl
      exact ⟨h₁, by rw [he, hl.sized hsized hlt]⟩
    · rintro e s₁ ⟨h₁, -⟩
      exact h₁
  · refine ⟨.refl s, ?_⟩
    unfold sizeAdd
    omega

/-- Whatever the lengths, a loop makes no call of `decrypt`, and where OpenSSL never fails and a
piece is too long, it does not move on by its length. -/
theorem decryptLoop_quiet (full before : Nat) (rollover : Bool) (hsized : evp.Sized)
    (ha : Able s out inp)
    (hs : s.context.cipherAlgorithm.isStream ∨ rollover = false ∧ n % 16 = 0)
    (henc : s.encByteCount < 2 ^ 64) (hn : n < 2 ^ 63) (hlead : lead < 16) :
    wp (decryptLoop evp out inp n lead full before rollover)
      (fun _ s' => Extends (fun e => e.isCall = false) s s' ∧
        (evp.Total → lead ≤ n → full = (n - lead) / 16 → ¬ PiecesOk rollover n lead full before →
          s'.encByteCount ≠ sizeAdd s.encByteCount n))
      (fun _ s' => Extends (fun e => e.isCall = false) s s' ∧ ¬ evp.NeverFails) s := by
  simp only [decryptLoop, wp_ite, wp_bind, wp_pure]
  refine ⟨fun hpos => ⟨fun hroll => ?_, fun hroll => ?_⟩, fun hzero => ?_⟩
  · subst hroll
    have hstream : s.context.cipherAlgorithm.isStream := hs.resolve_right (by simp)
    apply wp.mono (decryptToRollover_extends (P := fun e => e.isCall = false) hsized ha hstream
      henc hlead rfl rfl rfl)
    · rintro ⟨b, left⟩ s₁ ⟨h₁, len, hl, hb, he₁⟩
      dsimp only at hb he₁
      have hcount : evp.Total → lead ≤ n → full = (n - lead) / 16 →
          ¬ PiecesOk true n lead full before →
          (b < n → sizeAdd b (castSize (castInt (sizeSub n b))) ≠ n) ∧ b ≠ n := by
        intro ht hle hfull hbad
        rw [hl.total ht, Nat.mul_comm] at hb
        apply reported_ne (X := min before full) _ hn hlead _ hb
        · have := Nat.min_le_right before full
          omega
        · rw [Nat.mul_comm]
          exact hbad
      have hblt : b < 2 ^ 64 := by rw [hb]; exact Nat.mod_lt _ (by decide)
      simp only [wp_ite, wp_pure]
      refine ⟨fun hlt => ?_, fun hge => ⟨h₁, fun ht hle hfull hbad => ?_⟩⟩
      · apply wp.mono (decryptRest_extends (P := fun e => e.isCall = false) (ha.extends h₁)
          (.inl (h₁.algorithm ▸ hstream)) rfl rfl)
        · rintro - s₂ ⟨h₂, len₂, hl₂, he₂⟩
          refine ⟨h₁.trans h₂, fun ht hle hfull hbad => ?_⟩
          rw [he₂, hl₂.total ht, he₁, sizeAdd_assoc]
          have hne := (hcount ht hle hfull hbad).1 hlt
          unfold sizeAdd at hne ⊢
          omega
        · rintro e s₂ ⟨h₂, hnt⟩
          exact ⟨h₁.trans h₂, hnt⟩
      · rw [he₁]
        exact sizeAdd_left_ne hblt (by omega) (hcount ht hle hfull hbad).2
    · rintro e s₁ h₁
      exact h₁
  · have hss := sizeSub_of_le (a := n) (b := 0) (by omega) (by omega)
    apply wp.mono (decryptRest_extends (P := fun e => e.isCall = false) ha
      (by rw [hss]; exact hs.imp_right And.right) rfl rfl)
    · rintro - s₁ ⟨h₁, len, hl, he⟩
      refine ⟨h₁, fun ht hle hfull hbad => ?_⟩
      have hge : 2 ^ 31 ≤ n := by simpa [PiecesOk, hroll] using hbad
      rw [hss, Nat.sub_zero] at hl
      rw [he, hl.total ht]
      have hlt : castSize (castInt n) < 2 ^ 64 := by
        rw [castSize_castInt_eq]
        split_ifs <;> omega
      exact sizeAdd_left_ne hlt (by omega) (castSize_rest_ne hn hge)
    · rintro e s₁ h₁
      exact h₁
  · refine ⟨.refl s, fun _ hle hfull hbad => absurd ?_ hbad⟩
    have hmin := Nat.min_le_right before full
    unfold PiecesOk
    split_ifs <;> omega

/-- The calls of `decrypt` that have not come to their end. -/
def openCalls : List CencEvent → Nat
  | [] => 0
  | .call .. :: log => openCalls log + 1
  | .advanced .. :: log => openCalls log - 1
  | .access .. :: log => openCalls log
  | .subtract .. :: log => openCalls log

def CencEvent.Silent : CencEvent → Prop
  | access .. => True
  | subtract .. => True
  | _ => False

theorem openCalls_append (h : ∀ event ∈ events, event.Silent) :
    openCalls (events ++ log) = openCalls log := by
  induction events with
  | nil => rfl
  | cons event events ih =>
    obtain ⟨hevent, hrest⟩ := List.forall_mem_cons.1 h
    cases event with
    | access | subtract => exact ih hrest
    | call | advanced => exact hevent.elim

theorem Extends.openCalls_eq (h : Extends CencEvent.Silent s s') :
    openCalls s'.log = openCalls s.log := by
  obtain ⟨events, hlog, hsilent⟩ := h.log
  rw [hlog, openCalls_append hsilent]

theorem Extends.log_subset (h : Extends P s s') : s.log ⊆ s'.log := by
  obtain ⟨events, hlog, -⟩ := h.log
  rw [hlog]
  exact List.subset_append_right _ _

theorem decryptBlocks_silent (ha : Able s out inp) (hs : s.context.cipherAlgorithm.isStream) :
    wp (decryptBlocks evp (out + a) (inp + a) n blocks)
      (fun _ s' => Extends CencEvent.Silent s s')
      (fun _ s' => Extends CencEvent.Silent s s' ∧ ¬ evp.NeverFails) s :=
  (decryptBlocks_extends ha hs trivial).mono (fun _ _ h => h.1) fun _ _ h => h

theorem decryptToRollover_silent (ha : Able s out inp)
    (hs : s.context.cipherAlgorithm.isStream) :
    wp (decryptToRollover evp out inp lead full before)
      (fun _ s' => Extends CencEvent.Silent s s')
      (fun _ s' => Extends CencEvent.Silent s s' ∧ ¬ evp.NeverFails) s := by
  have hlead : wp (decryptLeadingPartialBlock evp out inp lead)
      (fun _ s' => Extends CencEvent.Silent s s')
      (fun _ s' => Extends CencEvent.Silent s s' ∧ ¬ evp.NeverFails) s := by
    simp only [decryptLeadingPartialBlock, wp_ite, wp_pure]
    exact ⟨fun _ => decryptBlocks_silent (a := 0) ha hs, fun _ => .refl s⟩
  simp only [decryptToRollover, wp_bind]
  apply hlead.mono
  · intro length s₁ h₁
    simp only [wp_ite, wp_bind, wp_pure]
    refine ⟨fun _ => ?_, fun _ => h₁⟩
    apply wp.mono (decryptBlocks_silent (ha.extends h₁) (h₁.algorithm ▸ hs))
    · exact fun _ _ h => (h₁.trans h).cons trivial
    · exact fun _ _ h => ⟨h₁.trans h.1, h.2⟩
  · exact fun _ _ h => h

/-- A loop of `decrypt` fails only where OpenSSL does, and leaves the offset of the sample where it
was. -/
theorem decryptLoop_silent (ha : Able s out inp)
    (hs : s.context.cipherAlgorithm.isStream ∨ rollover = false ∧ n % 16 = 0) (hn : n < 2 ^ 64) :
    wp (decryptLoop evp out inp n lead full before rollover)
      (fun _ s' => Extends CencEvent.Silent s s')
      (fun _ s' => Extends CencEvent.Silent s s' ∧ ¬ evp.NeverFails) s := by
  simp only [decryptLoop, wp_ite, wp_bind, wp_pure]
  refine ⟨fun _ => ⟨fun hroll => ?_, fun _ => ?_⟩, fun _ => .refl s⟩
  · have hstream := hs.resolve_right (by simp [hroll])
    apply (decryptToRollover_silent ha hstream).mono
    · intro r s₁ h₁
      simp only [wp_ite, wp_pure]
      refine ⟨fun _ => ?_, fun _ => h₁⟩
      apply wp.mono (decryptRest_extends (P := CencEvent.Silent) (ha.extends h₁)
        (.inl (h₁.algorithm ▸ hstream)) trivial trivial)
      · exact fun _ _ h => h₁.trans h.1
      · exact fun _ _ h => ⟨h₁.trans h.1, h.2⟩
    · exact fun _ _ h => h
  · have hwhole : s.context.cipherAlgorithm.isStream ∨ sizeSub n 0 % 16 = 0 := by
      rw [sizeSub_of_le (Nat.zero_le n) hn]
      exact hs.imp_right And.right
    apply wp.mono (decryptRest_extends (P := CencEvent.Silent) ha hwhole trivial trivial)
    · exact fun _ _ h => h.1
    · exact fun _ _ h => h

/-- No call of `decrypt`, or one that is in order in the state before it. -/
def CencEvent.InOrder (alg : SaCipherAlgorithm) : CencEvent → Prop
  | call enc counter n => CallOk alg enc counter n
  | _ => True

theorem CencEvent.inOrder_of_not_call {event : CencEvent} (h : event.isCall = false) :
    event.InOrder alg := by
  cases event with
  | call => cases h
  | _ => trivial

def CallsOk (alg : SaCipherAlgorithm) (log : List CencEvent) : Prop :=
  ∀ event ∈ log, event.InOrder alg

/-- Every step of a run stays inside the sample. -/
def Inside (setup : CencSetup Ctx) (length : Nat) (log : List CencEvent) : Prop :=
  ∀ event ∈ log, event.InSample setup length

/-- What verification says of the sample that is processed. -/
structure CencSetup.Fits (setup : CencSetup Ctx) (length : Nat) : Prop where
  algorithm : setup.cipherAlgorithm = .aesCtr ∨ setup.cipherAlgorithm = .aesCbc
  contextAlgorithm : setup.context.cipherAlgorithm = setup.cipherAlgorithm
  contextMode : setup.context.cipherMode = .decrypt
  outNonNull : setup.outBytes ≠ 0
  inNonNull : setup.inBytes ≠ 0
  length_lt : length < 2 ^ 63

/-- The calls so far are in order exactly as far as the steps so far are inside. -/
structure BoundsInv (evp : Evp Ctx) (setup : CencSetup Ctx) (length : Nat) (s : CencState Ctx) :
    Prop where
  inside : CallsOk setup.cipherAlgorithm s.log → Inside setup length s.log
  calls : evp.Total → Inside setup length s.log → CallsOk setup.cipherAlgorithm s.log
  algorithm : s.context.cipherAlgorithm = setup.cipherAlgorithm
  mode : s.context.cipherMode = .decrypt
  bounded : s.encByteCount < 2 ^ 64

section Invariant

variable {length : Nat}

theorem BoundsInv.quiet (h : BoundsInv evp setup length s)
    (he : Extends (CencEvent.Quiet setup length) s s') : BoundsInv evp setup length s' := by
  obtain ⟨es, hlog, hes⟩ := he.log
  have hcalls : CallsOk setup.cipherAlgorithm s'.log ↔ CallsOk setup.cipherAlgorithm s.log := by
    constructor
    · intro hc e hm
      exact hc e (hlog ▸ List.mem_append_right es hm)
    · intro hc e hm
      rcases List.mem_append.1 (hlog ▸ hm) with hm | hm
      · exact CencEvent.inOrder_of_not_call (hes e hm).2
      · exact hc e hm
  have hinside : Inside setup length s'.log ↔ Inside setup length s.log := by
    constructor
    · intro hi e hm
      exact hi e (hlog ▸ List.mem_append_right es hm)
    · intro hi e hm
      rcases List.mem_append.1 (hlog ▸ hm) with hm | hm
      · exact (hes e hm).1
      · exact hi e hm
  exact {
    inside := fun hc => hinside.2 (h.inside (hcalls.1 hc))
    calls := fun ht hi => hcalls.2 (h.calls ht (hinside.1 hi))
    algorithm := he.algorithm.trans h.algorithm
    mode := he.mode.trans h.mode
    bounded := he.bounded h.bounded }

theorem BoundsInv.call (h : BoundsInv evp setup length s)
    (hok : CallOk setup.cipherAlgorithm enc counter n) :
    BoundsInv evp setup length { s with log := .call enc counter n :: s.log } where
  inside hc e hm := by
    rcases List.mem_cons.1 hm with rfl | hm
    · trivial
    · exact h.inside (fun e' hm' => hc e' (List.mem_cons_of_mem _ hm')) e hm
  calls ht hi e hm := by
    rcases List.mem_cons.1 hm with rfl | hm
    · exact hok
    · exact h.calls ht (fun e' hm' => hi e' (List.mem_cons_of_mem _ hm')) e hm
  algorithm := h.algorithm
  mode := h.mode
  bounded := h.bounded

/-- A call that is not in order, whatever follows it, as long as a step of it is not inside. -/
theorem BoundsInv.badCall (h : BoundsInv evp setup length s)
    (hbad : ¬ CallOk setup.cipherAlgorithm enc counter n)
    (he : Extends P { s with log := .call enc counter n :: s.log } s')
    (hout : evp.Total → ∃ event ∈ s'.log, ¬ event.InSample setup length) :
    BoundsInv evp setup length s' where
  inside hc := by
    obtain ⟨es, hlog, -⟩ := he.log
    have hm : CencEvent.call enc counter n ∈ s'.log :=
      hlog ▸ List.mem_append_right es List.mem_cons_self
    exact absurd (hc _ hm) hbad
  calls ht hi := by
    obtain ⟨e, hm, hn⟩ := hout ht
    exact absurd (hi e hm) hn
  algorithm := he.algorithm.trans h.algorithm
  mode := he.mode.trans h.mode
  bounded := he.bounded h.bounded

theorem BoundsInv.decrypt (hsized : evp.Sized) (hf : setup.Fits length)
    (h : BoundsInv evp setup length s) (hw : Within setup length out inp n)
    (hcbc : setup.cipherAlgorithm = .aesCbc → n % 16 = 0) :
    wp (decrypt evp setup.cipherAlgorithm out inp n)
      (fun _ s' => BoundsInv evp setup length s' ∧ s'.offset = s.offset)
      (fun _ s' => BoundsInv evp setup length s' ∧ s'.offset = s.offset) s := by
  have hn : n < 2 ^ 63 := by
    have := hf.length_lt
    have := hw.inFrom
    have := hw.inTo
    omega
  have hlead := leadingPartialBlockSize_lt (k := s.encByteCount)
  have hable : Able (s.called n) out inp := by
    refine ⟨h.mode, ?_, ?_, ?_⟩
    · change s.context.cipherAlgorithm.takesIv
      rw [h.algorithm]
      rcases hf.algorithm with ha | ha <;> rw [ha] <;> rfl
    · have := hf.outNonNull
      have := hw.outFrom
      omega
    · have := hf.inNonNull
      have := hw.inFrom
      omega
  have hstream : s.context.cipherAlgorithm.isStream ∨
      rollsOver setup.cipherAlgorithm s.encByteCount s.iv.counter n = false ∧ n % 16 = 0 := by
    rw [h.algorithm]
    rcases hf.algorithm with ha | ha
    · exact .inl (by rw [ha]; rfl)
    · exact .inr ⟨by rw [ha, rollsOver, decide_eq_false (by decide), Bool.and_false], hcbc ha⟩
  have hfull : leadingPartialBlockSize s.encByteCount ≤ n → fullBlocks s.encByteCount n =
      (n - leadingPartialBlockSize s.encByteCount) / 16 := by
    intro hle
    rw [fullBlocks, sizeSub_of_le hle (by omega)]
    rfl
  rw [wp_decrypt]
  -- the two differences that follow the call
  have hcall : ∀ P : CencEvent → Prop, P (.subtract n (leadingPartialBlockSize s.encByteCount)) →
      P (.subtract (2 ^ 64 - 1) s.iv.counter.toNat) →
      Extends P { s with log := .call s.encByteCount s.iv.counter n :: s.log } (s.called n) :=
    fun P h₁ h₂ => ((Extends.refl _).cons h₁).cons h₂
  by_cases hok : CallOk setup.cipherAlgorithm s.encByteCount s.iv.counter n
  · have hstart := hcall (CencEvent.Quiet setup length) ⟨hok.1, rfl⟩
      ⟨by have := s.iv.counter.isLt; simp only [CencEvent.InSample]; omega, rfl⟩
    apply (decryptLoop_inside hsized hable hstream h.bounded hw hn hlead hok.1 (hfull hok.1)
      hok.2).mono
    · rintro - s' ⟨he, henc⟩
      have hall := (hstart.trans he).cons (e := .advanced n s.encByteCount s'.encByteCount)
        ⟨henc, rfl⟩
      exact ⟨(h.call hok).quiet hall, hall.offset⟩
    · intro e s' he
      exact ⟨(h.call hok).quiet (hstart.trans he), (hstart.trans he).offset⟩
  · have hstart := hcall (fun e => e.isCall = false) rfl rfl
    -- a call shorter than the pending block is not inside from its first difference on
    have hshort : ∀ s', Extends (fun e => e.isCall = false) (s.called n) s' →
        ¬ leadingPartialBlockSize s.encByteCount ≤ n →
        ∃ event ∈ s'.log, ¬ event.InSample setup length := by
      intro s' he hlt
      obtain ⟨es, hlog, -⟩ := he.log
      refine ⟨.subtract n (leadingPartialBlockSize s.encByteCount), ?_, hlt⟩
      rw [hlog]
      exact List.mem_append_right es (List.mem_cons_of_mem _ List.mem_cons_self)
    apply (decryptLoop_quiet _ _ _ hsized hable hstream h.bounded hn hlead).mono
    · rintro - s' ⟨he, hne⟩
      have hall := (hstart.trans he).cons (e := .advanced n s.encByteCount s'.encByteCount) rfl
      refine ⟨h.badCall hok hall fun ht => ?_, hall.offset⟩
      by_cases hle : leadingPartialBlockSize s.encByteCount ≤ n
      · refine ⟨_, List.mem_cons_self, hne ht hle (hfull hle) fun hp => hok ⟨hle, hp⟩⟩
      · obtain ⟨e, hm, hn⟩ := hshort s' he hle
        exact ⟨e, List.mem_cons_of_mem _ hm, hn⟩
    · rintro e s' ⟨he, hnt⟩
      exact ⟨h.badCall hok (hstart.trans he) fun ht => absurd ht.toNeverFails hnt,
        (hstart.trans he).offset⟩

theorem BoundsInv.copyClear (h : BoundsInv evp setup length s)
    (hn : s.offset + n ≤ length) : wp (copyClear (ε := ε) setup n)
      (fun _ s' => BoundsInv evp setup length s' ∧ s'.offset = s.offset + n)
      (fun _ _ => False) s := by
  rw [wp_copyClear]
  constructor
  · intro hpos
    have he := (Extends.refl s).cons (P := CencEvent.Quiet setup length)
      (e := .access (setup.inBytes + s.offset) (setup.outBytes + s.offset) n)
      ⟨⟨by omega, by omega⟩, rfl⟩
    have hq := h.quiet he
    exact ⟨⟨hq.inside, hq.calls, hq.algorithm, hq.mode, hq.bounded⟩, rfl⟩
  · intro hzero
    exact ⟨h, by omega⟩

theorem BoundsInv.contextSetIv (hf : setup.Fits length) (h : BoundsInv evp setup length s) :
    wp (contextSetIv evp)
      (fun _ s' => BoundsInv evp setup length s' ∧ s'.offset = s.offset)
      (fun _ s' => BoundsInv evp setup length s' ∧ s'.offset = s.offset) s := by
  have htakes : s.context.cipherAlgorithm.takesIv := by
    rw [h.algorithm]
    rcases hf.algorithm with ha | ha <;> rw [ha] <;> rfl
  apply wp_contextSetIv h.mode htakes
  · intro _
    exact ⟨⟨h.inside, h.calls, h.algorithm, h.mode, h.bounded⟩, rfl⟩
  · intro e evpCipher _
    exact ⟨⟨h.inside, h.calls, h.algorithm, h.mode, h.bounded⟩, rfl⟩

/-- The ranges that are in the sample, of whole blocks where CBC decrypts them. -/
def InRange (length k n : Nat) : Prop := k + n ≤ length

def BlocksInRange (setup : CencSetup Ctx) (length k n : Nat) : Prop :=
  k + n ≤ length ∧ (setup.cipherAlgorithm = .aesCbc → n % 16 = 0)

theorem BoundsInv.keeps (hsized : evp.Sized) (hf : setup.Fits length) :
    Keeps evp setup length (fun k s => BoundsInv evp setup length s ∧ s.offset = k)
      (BoundsInv evp setup length) (InRange length) (BlocksInRange setup length) where
  stop _ _ h := h.1
  status := by
    rintro k s status ⟨h, hk⟩
    exact ⟨⟨h.inside, h.calls, h.algorithm, h.mode, h.bounded⟩, hk⟩
  copy := by
    rintro k n s hn ⟨h, rfl⟩
    exact (h.copyClear hn).mono (fun _ _ h' => h') (fun _ _ h' => h'.elim)
  decrypt := by
    rintro k n s ⟨hn, hcbc⟩ ⟨h, rfl⟩
    rw [wp_decryptProtected]
    apply (h.decrypt hsized hf ⟨by omega, by omega, by omega, by omega⟩ hcbc).mono
    · rintro _ s' ⟨h', hoff⟩
      exact ⟨⟨h'.inside, h'.calls, h'.algorithm, h'.mode, h'.bounded⟩,
        congrArg (· + n) hoff⟩
    · rintro e s' ⟨h', hoff⟩
      refine ⟨h', fun _ m status hm => ?_⟩
      have hs : BoundsInv evp setup length { s' with status := status } :=
        ⟨h'.inside, h'.calls, h'.algorithm, h'.mode, h'.bounded⟩
      apply (hs.copyClear (hoff ▸ hm)).mono
      · exact fun _ _ h'' => ⟨h''.1, h''.2.trans (congrArg (· + m) hoff)⟩
      · exact fun _ _ h'' => h''.elim
  restart := by
    rintro k s - ⟨h, rfl⟩
    have h' : BoundsInv evp setup length { s with iv := setup.iv } :=
      ⟨h.inside, h.calls, h.algorithm, h.mode, h.bounded⟩
    exact (h'.contextSetIv hf).mono (fun _ _ h' => h') (fun _ _ h' => h'.1)

theorem stripe_mod : stripe block left % 16 = 0 := by
  unfold stripe aesBlockSize
  omega

theorem stripesPlanned_inRange (h : k + left ≤ length) :
    StripesPlanned setup (InRange length) (BlocksInRange setup length) fuel k left := by
  induction fuel generalizing k left with
  | zero => exact fun _ => h
  | succ fuel ih =>
    have hle₁ := stripe_le setup.cryptByteBlock left
    have hle₂ := stripe_le setup.skipByteBlock (left - stripe setup.cryptByteBlock left)
    unfold StripesPlanned
    split_ifs with hge hskip
    · refine ⟨fun _ => ⟨by omega, fun _ => stripe_mod⟩, ?_, ih (by omega)⟩
      unfold InRange
      omega
    · refine ⟨fun _ => ⟨by omega, fun _ => stripe_mod⟩, ?_, ih (by omega)⟩
      unfold InRange
      omega
    · exact h

theorem samplePlanned_inRange (h : k + totalLength subsamples ≤ length) :
    SamplePlanned setup (InRange length) (BlocksInRange setup length) k subsamples := by
  induction subsamples generalizing k with
  | nil => trivial
  | cons subsample rest ih =>
    have htotal : totalLength (subsample :: rest) = subsample.bytesOfClearData +
        subsample.bytesOfProtectedData + totalLength rest := by simp [totalLength]
    refine ⟨by unfold InRange; omega, fun _ => ?_, ih (by omega)⟩
    unfold ProtectedPlanned
    split_ifs with hfull
    · unfold FullPlanned
      have hmod := Nat.mod_le subsample.bytesOfProtectedData aesBlockSize
      split_ifs with hcbc
      · refine ⟨⟨by omega, fun _ => ?_⟩, ?_⟩
        · unfold aesBlockSize
          omega
        · unfold InRange
          omega
      · refine ⟨⟨by omega, fun h => absurd h hcbc⟩, ?_⟩
        unfold InRange
        omega
    · exact stripesPlanned_inRange (by omega)

end Invariant

theorem Verified.fits {client : Client Ctx}
    (hv : Verified client reading sample cipher subsamples out inp outBytes inBytes)
    (hs : cencSetup client sample = .ok (setup, subsamples)) :
    setup.Fits (cencGetRequiredLength subsamples) := by
  obtain ⟨-, halg, hctxAlg, hctxMode, hout, hin, -⟩ := hv.of_setup hs
  obtain ⟨houtNe, hinNe, hlt, -⟩ := hv.ranges
  exact {
    algorithm := halg ▸ hv.algorithm
    contextAlgorithm := hctxAlg.trans halg.symm
    contextMode := hctxMode.trans hv.mode
    outNonNull := hout ▸ houtNe
    inNonNull := hin ▸ hinNe
    length_lt := hlt }

/-- A sample that was accepted is processed inside its ranges where every call of `decrypt` is in
order, and, as far as OpenSSL never fails, only there. -/
theorem cencProcessSample_inside (evp : Evp Ctx) (client : Client Ctx) (reading : Reading)
    (sample : SaSample) (memory : Memory) (setup : CencSetup Ctx)
    (subsamples : List SaSubsampleLength) (hsized : evp.Sized)
    (hv : verifySample client reading sample = .ok ())
    (hs : cencSetup client sample = .ok (setup, subsamples)) :
    (CallsOk setup.cipherAlgorithm (cencProcessSample evp client sample memory).log →
      Inside setup (cencGetRequiredLength subsamples)
        (cencProcessSample evp client sample memory).log) ∧
    (evp.Total → Inside setup (cencGetRequiredLength subsamples)
        (cencProcessSample evp client sample memory).log →
      CallsOk setup.cipherAlgorithm (cencProcessSample evp client sample memory).log) := by
  obtain ⟨cipher, subsamples', out, inp, outBytes, inBytes, hver⟩ := verifySample_ok hv
  obtain rfl := (hver.of_setup hs).1
  have hf := hver.fits hs
  obtain ⟨hlen, -⟩ := cencGetRequiredLength_eq hver.noOverflow
  have hstart : BoundsInv evp setup (cencGetRequiredLength subsamples) (setup.start memory) := {
    inside := fun _ e he => by cases he
    calls := fun _ _ e he => by cases he
    algorithm := hf.contextAlgorithm
    mode := hf.contextMode
    bounded := by simp [CencSetup.start] }
  have hwp := (BoundsInv.keeps hsized hf).wp_processBytes
    (samplePlanned_inRange (k := 0) (by omega)) hlen.ge
    ((hstart.contextSetIv hf).mono (fun _ _ h => h) (fun _ _ h => h.1))
  have hend := (hwp.mono (fun _ _ h => h.1) (fun _ _ h => h)).state
  have hlog : (cencProcessSample evp client sample memory).log =
      ((processBytes evp setup subsamples).run.run (setup.start memory)).2.log := by
    rw [cencProcessSample_of_setup hs]
  rw [hlog]
  exact ⟨hend.inside, hend.calls⟩

instance (setup : CencSetup Ctx) (length : Nat) : DecidablePred (CencEvent.InSample setup length)
  | .call .. => inferInstanceAs (Decidable True)
  | .access .. => inferInstanceAs (Decidable (_ ∧ _))
  | .subtract a b => inferInstanceAs (Decidable (b ≤ a))
  | .advanced n before after => inferInstanceAs (Decidable (after = sizeAdd before n))

instance (rollover : Bool) (n lead full before : Nat) :
    Decidable (PiecesOk rollover n lead full before) := by
  unfold PiecesOk
  infer_instance

instance (alg : SaCipherAlgorithm) : DecidablePred (CencEvent.InOrder alg)
  | .call .. => inferInstanceAs (Decidable (_ ∧ PiecesOk _ _ _ _ _))
  | .access .. => inferInstanceAs (Decidable True)
  | .subtract .. => inferInstanceAs (Decidable True)
  | .advanced .. => inferInstanceAs (Decidable True)

instance (setup : CencSetup Ctx) (length : Nat) (log : List CencEvent) :
    Decidable (Inside setup length log) := inferInstanceAs (Decidable (∀ e ∈ log, _))

instance (alg : SaCipherAlgorithm) (log : List CencEvent) : Decidable (CallsOk alg log) :=
  inferInstanceAs (Decidable (∀ e ∈ log, _))

def ctrSetup (counter : BitVec 64) : CencSetup (BitVec (64 + 64) × Nat) where
  cipherAlgorithm := .aesCtr
  context := ⟨.aesCtr, .decrypt, (0, 0)⟩
  iv := ⟨0, counter⟩
  outBytes := 2000
  inBytes := 1000
  cryptByteBlock := 0
  skipByteBlock := 0

/-- A sample whose second subsample ends the block that the first left pending. -/
theorem cencProcessSample_inside_pending : Inside (ctrSetup 7) 53
    (cencProcessSample (.ctr fun _ _ => 0) ctrClient (ctrSample 7 [⟨3, 20⟩, ⟨0, 30⟩])
      fun _ => 0).log :=
  (cencProcessSample_inside (.ctr fun _ _ => 0) ctrClient noOutputs
    (ctrSample 7 [⟨3, 20⟩, ⟨0, 30⟩]) (fun _ => 0) (ctrSetup 7) [⟨3, 20⟩, ⟨0, 30⟩]
    (Evp.ctr_total _).sized (by decide) (by rfl)).1 (by decide +kernel)

/-- A subsample of 4 bytes where 12 are pending, with the last counter: the difference of 4 and 12
underflows, and the call reads and writes past the end of the sample. -/
theorem cencProcessSample_not_inside : ¬ ∀ (Ctx : Type) (evp : Evp Ctx) (client : Client Ctx)
    (reading : Reading) (sample : SaSample) (memory : Memory) (setup : CencSetup Ctx)
    (subsamples : List SaSubsampleLength), evp.Sized →
    verifySample client reading sample = .ok () →
    cencSetup client sample = .ok (setup, subsamples) →
    Inside setup (cencGetRequiredLength subsamples)
      (cencProcessSample evp client sample memory).log := by
  intro h
  have hbad := h _ (.ctr fun _ _ => 0) ctrClient noOutputs
    (ctrSample (2 ^ 64 - 2) [⟨0, 20⟩, ⟨0, 4⟩]) (fun _ => 0) (ctrSetup (2 ^ 64 - 2))
    [⟨0, 20⟩, ⟨0, 4⟩] (Evp.ctr_total _).sized (by decide) rfl
  exact absurd hbad (by decide +kernel)

end TaSecureApi
