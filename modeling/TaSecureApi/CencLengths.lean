import TaSecureApi.CencBounds

namespace TaSecureApi
set_option autoImplicit true
open Wp

variable {Ctx : Type}

/-- What is assumed of OpenSSL for the lengths of samples: a length that is negative fails, and
another one is processed and reported in full. A restart processes nothing. -/
structure Evp.Counted (evp : Evp Ctx) where
  processed : Ctx → Nat
  negative : ∀ context memory out inp inl, inl < 0 →
    ¬ (evp.decryptUpdate context memory out inp inl).succeeded
  update : ∀ context memory out inp (n : Nat),
    (evp.decryptUpdate context memory out inp n).succeeded →
    processed (evp.decryptUpdate context memory out inp n).context = processed context + n ∧
    (evp.decryptUpdate context memory out inp n).outl = n
  init : ∀ context iv, processed (evp.decryptInit context iv).2 = processed context

structure Evp.Reliable (evp : Evp Ctx) : Prop where
  update : ∀ context memory out inp inl, 0 ≤ inl →
    (evp.decryptUpdate context memory out inp inl).succeeded
  init : ∀ context iv, (evp.decryptInit context iv).1

def castTaken (n : Nat) : Option Nat := if castInt n < 0 then none else some (castInt n).toNat

/-- The bytes that a call with a rollover of the counter takes: a block that is pending, blocks
before the rollover and the rest. -/
def rolloverTaken (n lead blocks : Nat) : Option Nat :=
  (castTaken blocks).bind fun blocks =>
    if n > lead + blocks then (castTaken (n - (lead + blocks))).map (lead + blocks + ·)
    else some (lead + blocks)

/-- The bytes that a call of `decrypt` takes, if none of its lengths is one that fails. -/
def decryptTaken (rollover : Bool) (n lead full before : Nat) : Option Nat :=
  if n = 0 then some 0
  else if rollover then rolloverTaken n lead (min before full * 16)
  else castTaken n

section Cenc

variable {evp : Evp Ctx} {s s' s'' : CencState Ctx}

/-- A run of steps in which some bytes were processed, and that is counted. -/
structure CencCounts (t : evp.Counted) (n : Nat) (s s' : CencState Ctx) : Prop where
  processed : t.processed s'.context.evpCipher = t.processed s.context.evpCipher + n
  encByteCount : s'.encByteCount = sizeAdd s.encByteCount n
  algorithm : s'.context.cipherAlgorithm = s.context.cipherAlgorithm
  mode : s'.context.cipherMode = s.context.cipherMode

variable {t : evp.Counted}

theorem CencCounts.trans (h : CencCounts t a s s') (h' : CencCounts t b s' s'') :
    CencCounts t (a + b) s s'' where
  processed := by rw [h'.processed, h.processed, Nat.add_assoc]
  encByteCount := by rw [h'.encByteCount, h.encByteCount, sizeAdd_assoc]
  algorithm := h'.algorithm.trans h.algorithm
  mode := h'.mode.trans h.mode

theorem CencCounts.able (h : CencCounts t n s s') (ha : Able s out inp) : Able s' out inp :=
  ⟨h.mode.trans ha.mode, h.algorithm ▸ ha.takesIv, ha.outNonNull, ha.inNonNull⟩

/-- An update processes what `int` makes of its length, and fails where that is negative. -/
theorem contextDecrypt_counts (t : evp.Counted) (hr : s.context.Ready out inp n) :
    wp (contextDecrypt evp out inp n)
      (fun length s' => castTaken n = some length ∧
        t.processed s'.context.evpCipher = t.processed s.context.evpCipher + length ∧
        s'.encByteCount = s.encByteCount ∧ s'.iv = s.iv ∧
        s'.context.cipherAlgorithm = s.context.cipherAlgorithm ∧
        s'.context.cipherMode = s.context.cipherMode)
      (fun _ _ => evp.Reliable → castTaken n = none) s := by
  apply wp_contextDecrypt
  · intro _ hs
    have hpos : ¬ castInt n < 0 := fun hneg => t.negative _ _ _ _ _ hneg hs
    obtain ⟨m, hm⟩ := Int.eq_ofNat_of_zero_le (Int.not_lt.1 hpos)
    have hlt := castInt_lt n
    have htaken : castTaken n = some m := by rw [castTaken, if_neg hpos, hm, Int.toNat_natCast]
    rw [hm] at hs ⊢
    obtain ⟨hprocessed, hreported⟩ := t.update _ _ _ _ m hs
    rw [hreported, castSize_natCast (by omega)]
    exact ⟨htaken, hprocessed, rfl, rfl, rfl, rfl⟩
  · intro e evpCipher memory hfailed hreliable
    have hneg : castInt n < 0 := by
      by_contra hpos
      exact hfailed hr (hreliable.update _ _ _ _ _ (Int.not_lt.1 hpos))
    rw [castTaken, if_pos hneg]

theorem castTaken_lt (h : castTaken n = some k) : k < 2 ^ 31 := by
  have hlt := castInt_lt n
  unfold castTaken at h
  split_ifs at h with hneg
  cases h
  omega

theorem decryptBlocks_counts (t : evp.Counted) (ha : Able s out inp)
    (hs : s.context.cipherAlgorithm.isStream) (a : Nat) :
    wp (decryptBlocks evp (out + a) (inp + a) n blocks)
      (fun length s' => castTaken n = some length ∧ CencCounts t length s s')
      (fun _ _ => evp.Reliable → castTaken n = none) s := by
  simp only [decryptBlocks, wp_bind]
  apply (contextDecrypt_counts t (ha.ready (.inl hs) a)).mono
  · rintro length s₁ ⟨htaken, hprocessed, henc, -, halg, hmode⟩
    simp only [wp_bind, wp_modify]
    have hmode' : (s₁.addCounter blocks).context.cipherMode = .decrypt := hmode.trans ha.mode
    have htakes : (s₁.addCounter blocks).context.cipherAlgorithm.takesIv := by
      change s₁.context.cipherAlgorithm.takesIv
      rw [halg]
      exact ha.takesIv
    apply wp_contextSetIv hmode' htakes
    · intro _
      refine ⟨htaken, (t.init _ _).trans hprocessed, ?_, halg, hmode⟩
      change sizeAdd s₁.encByteCount length = _
      rw [henc]
    · exact fun _ _ hfailed hreliable => absurd (hreliable.init _ _) hfailed
  · exact fun _ _ h => h

theorem castTaken_of_lt (h : n < 2 ^ 31) : castTaken n = some n := by
  rw [castTaken, castInt_of_lt h, if_neg (by omega), Int.toNat_natCast]

theorem CencCounts.zero (hs : s.encByteCount < 2 ^ 64) : CencCounts t 0 s s :=
  ⟨rfl, (Nat.mod_eq_of_lt hs).symm, rfl, rfl⟩

theorem decryptLeadingPartialBlock_counts (t : evp.Counted) (ha : Able s out inp)
    (hs : s.context.cipherAlgorithm.isStream) (henc : s.encByteCount < 2 ^ 64) (hlead : lead < 16) :
    wp (decryptLeadingPartialBlock evp out inp lead)
      (fun length s' => length = lead ∧ CencCounts t lead s s') (fun _ _ => ¬ evp.Reliable) s := by
  have htaken : castTaken lead = some lead := castTaken_of_lt (by omega)
  simp only [decryptLeadingPartialBlock, wp_ite, wp_pure]
  constructor
  · intro _
    apply wp.mono (decryptBlocks_counts t ha hs 0)
    · rintro length s₁ ⟨hlength, hcounts⟩
      rw [htaken] at hlength
      cases hlength
      exact ⟨rfl, hcounts⟩
    · intro _ _ hfailed hreliable
      have hnone := hfailed hreliable
      rw [htaken] at hnone
      cases hnone
  · intro hzero
    have hlead : lead = 0 := by omega
    subst hlead
    exact ⟨rfl, .zero henc⟩

theorem decryptToRollover_counts (t : evp.Counted) (ha : Able s out inp)
    (hs : s.context.cipherAlgorithm.isStream) (henc : s.encByteCount < 2 ^ 64) (hlead : lead < 16) :
    wp (decryptToRollover evp out inp lead full before)
      (fun r s' => ∃ blocks, castTaken (min before full * 16) = some blocks ∧
        r.1 = lead + blocks ∧ CencCounts t r.1 s s')
      (fun _ _ => evp.Reliable → castTaken (min before full * 16) = none) s := by
  simp only [decryptToRollover, wp_bind]
  apply (decryptLeadingPartialBlock_counts t ha hs henc hlead).mono
  · rintro length s₁ ⟨rfl, h₁⟩
    simp only [wp_ite, wp_bind, wp_pure]
    constructor
    · intro _
      apply wp.mono (decryptBlocks_counts t (h₁.able ha) (h₁.algorithm ▸ hs) length)
      · rintro blocks s₂ ⟨htaken, h₂⟩
        have hlt : blocks < 2 ^ 31 := castTaken_lt htaken
        simp only [wp_bind, wp_subtract, wp_pure]
        rw [sizeAdd_of_lt (by omega)]
        have h := h₁.trans h₂
        exact ⟨blocks, htaken, rfl, h.processed, h.encByteCount, h.algorithm, h.mode⟩
      · exact fun _ _ h => h
    · intro hzero
      have hblocks : min before full * 16 = 0 := by omega
      refine ⟨0, by rw [hblocks]; rfl, rfl, h₁⟩
  · exact fun _ _ hfailed hreliable => absurd hreliable hfailed

theorem decryptRest_counts (t : evp.Counted) (ha : Able s out inp)
    (hs : s.context.cipherAlgorithm.isStream ∨ sizeSub n a % 16 = 0) :
    wp (decryptRest evp out inp n a lead full)
      (fun _ s' => ∃ rest, castTaken (sizeSub n a) = some rest ∧ CencCounts t rest s s')
      (fun _ _ => evp.Reliable → castTaken (sizeSub n a) = none) s := by
  simp only [decryptRest, wp_bind, wp_subtract]
  have ha' : Able { s with log := .subtract n a :: s.log } out inp :=
    ⟨ha.mode, ha.takesIv, ha.outNonNull, ha.inNonNull⟩
  apply (contextDecrypt_counts t (ha'.ready hs a)).mono
  · rintro length s₁ ⟨htaken, hprocessed, henc, -, halg, hmode⟩
    simp only [wp_bind, wp_modify]
    refine ⟨length, htaken, hprocessed, ?_, halg, hmode⟩
    change sizeAdd s₁.encByteCount length = _
    rw [henc]
  · exact fun _ _ h => h

/-- A call processes the bytes that `int` makes of its pieces, and fails where one is negative. -/
theorem decryptLoop_counts (t : evp.Counted) (ha : Able s out inp)
    (hs : s.context.cipherAlgorithm.isStream ∨ rollover = false ∧ n % 16 = 0)
    (henc : s.encByteCount < 2 ^ 64) (hn : n < 2 ^ 64) (hlead : lead < 16) :
    wp (decryptLoop evp out inp n lead full before rollover)
      (fun _ s' => ∃ k, decryptTaken rollover n lead full before = some k ∧ CencCounts t k s s')
      (fun _ _ => evp.Reliable → decryptTaken rollover n lead full before = none) s := by
  simp only [decryptLoop, wp_ite, wp_bind, wp_pure]
  refine ⟨fun hpos => ⟨fun hroll => ?_, fun hroll => ?_⟩, fun hzero => ?_⟩
  · have hstream := hs.resolve_right fun h => absurd hroll (h.1 ▸ Bool.false_ne_true)
    rw [decryptTaken, if_neg (by omega), if_pos hroll, rolloverTaken]
    apply (decryptToRollover_counts t ha hstream henc hlead).mono
    · rintro ⟨a, left⟩ s₁ ⟨blocks, hblocks, rfl, h₁⟩
      rw [hblocks, Option.bind_some]
      simp only [wp_ite, wp_pure]
      refine ⟨fun hlt => ?_, fun hge => ⟨lead + blocks, if_neg hge, h₁⟩⟩
      have hsub : sizeSub n (lead + blocks) = n - (lead + blocks) := sizeSub_of_le (by omega) hn
      rw [if_pos hlt, ← hsub]
      apply wp.mono (decryptRest_counts t (h₁.able ha) (.inl (h₁.algorithm ▸ hstream)))
      · rintro - s₂ ⟨rest, hrest, h₂⟩
        exact ⟨lead + blocks + rest, by rw [hrest]; rfl, h₁.trans h₂⟩
      · intro _ _ hfailed hreliable
        rw [hfailed hreliable]
        rfl
    · intro _ _ hfailed hreliable
      rw [hfailed hreliable]
      rfl
  · have hsub : sizeSub n 0 = n := sizeSub_of_le (Nat.zero_le n) hn
    have htaken : decryptTaken rollover n lead full before = castTaken n := by
      rw [decryptTaken, if_neg (by omega), if_neg hroll]
    rw [htaken]
    apply (decryptRest_counts t ha (hsub.symm ▸ hs.imp_right And.right)).mono
    · rintro - s₁ ⟨rest, hrest, h₁⟩
      exact ⟨rest, hsub ▸ hrest, h₁⟩
    · exact fun _ _ hfailed hreliable => hsub ▸ hfailed hreliable
  · have hn : n = 0 := by omega
    exact ⟨0, by rw [decryptTaken, if_pos hn], .zero henc⟩

/-- The lengths with which a call with a rollover takes what it is given, or fails: the call is not
shorter than the block that is pending, and an `int` holds the lengths of the blocks before the
rollover and of the rest, unless the one or the other is negative as an `int`. -/
def RolloverWhole (n lead blocks : Nat) : Prop :=
  castInt blocks < 0 ∨ lead ≤ n ∧ (castInt (n - (lead + (castInt blocks).toNat)) < 0 ∨
    blocks < 2 ^ 31 ∧ n - (lead + blocks) < 2 ^ 31)

instance : Decidable (RolloverWhole n lead blocks) :=
  inferInstanceAs (Decidable (_ ∨ _ ∧ (_ ∨ _ ∧ _)))

def TakesWhole (rollover : Bool) (n lead full before : Nat) : Prop :=
  n = 0 ∨ if rollover then RolloverWhole n lead (min before full * 16)
    else castInt n < 0 ∨ n < 2 ^ 31

instance : Decidable (TakesWhole rollover n lead full before) :=
  inferInstanceAs (Decidable (_ ∨ if rollover then _ else _ ∨ _))

theorem castTaken_eq_some : castTaken n = some k ↔ castInt n = k := by
  unfold castTaken
  split_ifs with hneg
  · exact ⟨nofun, fun h => by omega⟩
  · rw [Option.some.injEq]
    omega

theorem castInt_eq_natCast (h : castInt n = (k : Nat)) : n % 2 ^ 32 = k := by
  have hmod : (BitVec.ofNat 32 n).toNat = n % 2 ^ 32 := BitVec.toNat_ofNat n 32
  rw [castInt, BitVec.toInt_eq_toNat_cond, hmod] at h
  split_ifs at h with hlt
  · exact Int.ofNat_inj.1 h
  · omega

theorem castTaken_whole_iff : (∀ k, castTaken n = some k → k = n) ↔ castInt n < 0 ∨ n < 2 ^ 31 := by
  simp only [castTaken_eq_some]
  constructor
  · intro h
    rcases lt_or_ge (castInt n) 0 with hneg | hpos
    · exact .inl hneg
    · have hwhole := h (castInt n).toNat (Int.toNat_of_nonneg hpos).symm
      have hlt := castInt_lt n
      exact .inr (by omega)
  · rintro h k hk
    rcases h with hneg | hlt
    · omega
    · rw [castInt_of_lt hlt] at hk
      omega

theorem rolloverTaken_whole_iff (hblocks : lead ≤ n → blocks ≤ n - lead) :
    (∀ k, rolloverTaken n lead blocks = some k → k = n) ↔ RolloverWhole n lead blocks := by
  rcases lt_or_ge (castInt blocks) 0 with hneg | hpos
  · have hnone : rolloverTaken n lead blocks = none := by
      rw [rolloverTaken, castTaken, if_pos hneg, Option.bind_none]
    rw [hnone]
    exact ⟨fun _ => .inl hneg, fun _ _ h => nomatch h⟩
  · obtain ⟨x, hx⟩ := Int.eq_ofNat_of_zero_le hpos
    have hmod := castInt_eq_natCast hx
    have hxlt := hx ▸ castInt_lt blocks
    rw [rolloverTaken, castTaken_eq_some.2 hx, Option.bind_some, RolloverWhole, hx,
      Int.toNat_natCast,
      or_iff_right (by omega)]
    split_ifs with hlong
    · have hrest : (∀ k, (castTaken (n - (lead + x))).map (lead + x + ·) = some k → k = n) ↔
          ∀ k, castTaken (n - (lead + x)) = some k → k = n - (lead + x) := by
        simp only [Option.map_eq_some_iff, forall_exists_index, and_imp]
        constructor
        · intro h k hk
          have hsum := h _ k hk rfl
          omega
        · rintro h _ k hk rfl
          have hwhole := h k hk
          omega
      rw [hrest, castTaken_whole_iff]
      omega
    · have hzero : n - (lead + x) = 0 := by omega
      have hcast : castInt 0 = 0 := rfl
      rw [hzero, hcast]
      simp only [Option.some.injEq, forall_eq']
      omega

theorem takesWhole_iff (hfull : lead ≤ n → full = (n - lead) / 16) :
    (∀ k, decryptTaken rollover n lead full before = some k → k = n) ↔
      TakesWhole rollover n lead full before := by
  unfold decryptTaken TakesWhole
  by_cases hzero : n = 0
  · rw [if_pos hzero]
    exact ⟨fun _ => .inl hzero, fun _ k h => by cases h; exact hzero.symm⟩
  · rw [if_neg hzero, or_iff_right hzero]
    split_ifs with hroll
    · refine rolloverTaken_whole_iff fun hle => ?_
      have hmin := Nat.min_le_right before full
      have hdiv := hfull hle
      omega
    · exact castTaken_whole_iff

/-- A call of `decrypt` that succeeds has processed, and counted, the bytes that it was given. -/
def DecryptExact (t : evp.Counted) (alg : SaCipherAlgorithm) (out inp n : Nat)
    (s : CencState Ctx) : Prop :=
  wp (decrypt evp alg out inp n)
    (fun _ s' => t.processed s'.context.evpCipher = t.processed s.context.evpCipher + n ∧
      s'.encByteCount = sizeAdd s.encByteCount n) (fun _ _ => True) s

theorem rollsOver_cbc : rollsOver .aesCbc enc counter n = false := by
  rw [rollsOver, decide_eq_false (by decide), Bool.and_false]

theorem decryptExact_of_cbc (t : evp.Counted) (halg : s.context.cipherAlgorithm = .aesCbc)
    (hn : n % 16 ≠ 0) (hlt : n < 2 ^ 64) : DecryptExact t .aesCbc out inp n s := by
  have hpos : n > 0 := by omega
  have hsub : sizeSub n 0 = n := sizeSub_of_le (Nat.zero_le n) hlt
  rw [DecryptExact, wp_decrypt, rollsOver_cbc]
  simp only [decryptLoop, wp_ite, hpos, true_implies, decryptRest, wp_bind, wp_subtract, not_true,
    false_implies, and_true, Bool.false_eq_true, not_false_eq_true, true_and]
  rw [hsub]
  refine wp_contextDecrypt (fun hready => ?_) fun _ _ _ _ => trivial
  have hlength : SaCipherAlgorithm.isStream .aesCbc ∨ n % aesBlockSize = 0 := halg ▸ hready.length
  exact absurd (hlength.resolve_left Bool.false_ne_true) hn

theorem decrypt_counts (t : evp.Counted) (ha : Able s out inp)
    (hs : alg = .aesCtr ∨ alg = .aesCbc ∧ n % 16 = 0) (halg : s.context.cipherAlgorithm = alg)
    (henc : s.encByteCount < 2 ^ 64) (hn : n < 2 ^ 64) :
    wp (decrypt evp alg out inp n)
      (fun _ s' => ∃ k, decryptTaken (rollsOver alg s.encByteCount s.iv.counter n) n
          (leadingPartialBlockSize s.encByteCount) (fullBlocks s.encByteCount n)
          (blocksBeforeRollover s.iv.counter) = some k ∧
        t.processed s'.context.evpCipher = t.processed s.context.evpCipher + k ∧
        s'.encByteCount = sizeAdd s.encByteCount k)
      (fun _ _ => evp.Reliable → decryptTaken (rollsOver alg s.encByteCount s.iv.counter n) n
          (leadingPartialBlockSize s.encByteCount) (fullBlocks s.encByteCount n)
          (blocksBeforeRollover s.iv.counter) = none) s := by
  have hable : Able (s.called n) out inp := ⟨ha.mode, ha.takesIv, ha.outNonNull, ha.inNonNull⟩
  have hstream : (s.called n).context.cipherAlgorithm.isStream ∨
      rollsOver alg s.encByteCount s.iv.counter n = false ∧ n % 16 = 0 := by
    rcases hs with rfl | ⟨rfl, hblocks⟩
    · exact .inl (halg ▸ rfl)
    · exact .inr ⟨rollsOver_cbc, hblocks⟩
  rw [wp_decrypt]
  apply (decryptLoop_counts t hable hstream henc hn leadingPartialBlockSize_lt).mono
  · rintro - s' ⟨k, htaken, hcounts⟩
    exact ⟨k, htaken, hcounts.processed, hcounts.encByteCount⟩
  · exact fun _ _ h => h

end Cenc

/-- A library that counts the bytes it is given, and fails for a negative length only. -/
def countingEvp : Evp Nat where
  decryptUpdate context memory _ _ inl := ⟨0 ≤ inl, context + inl.toNat, memory, inl⟩
  decryptInit context _ := (true, context)
  encryptInit context _ := (true, context)

def countingCounted : countingEvp.Counted where
  processed := id
  negative _ _ _ _ _ h hs := absurd (of_decide_eq_true hs) (Int.not_le.2 h)
  update _ _ _ _ _ _ := ⟨rfl, rfl⟩
  init _ _ := rfl

theorem countingEvp_reliable : countingEvp.Reliable where
  update _ _ _ _ _ h := decide_eq_true h
  init _ _ := rfl

/-- A call of `decrypt` is exact with every library, if and only if its lengths are such that it
takes what it is given. -/
theorem decryptExact_iff (halg : alg = .aesCtr ∨ alg = .aesCbc) (henc : enc < 2 ^ 64)
    (hn : n < 2 ^ 64) :
    (∀ (Ctx : Type) (evp : Evp Ctx) (t : evp.Counted) (s : CencState Ctx) (out inp : Nat),
      Able s out inp → s.context.cipherAlgorithm = alg → s.encByteCount = enc →
      s.iv.counter = counter → DecryptExact t alg out inp n s) ↔
    (alg = .aesCbc ∧ n % 16 ≠ 0 ∨ TakesWhole (rollsOver alg enc counter n) n
      (leadingPartialBlockSize enc) (fullBlocks enc n) (blocksBeforeRollover counter)) := by
  have hfull : leadingPartialBlockSize enc ≤ n →
      fullBlocks enc n = (n - leadingPartialBlockSize enc) / 16 := by
    intro hle
    rw [fullBlocks, sizeSub_of_le hle hn]
    rfl
  constructor
  · intro h
    rw [← takesWhole_iff hfull, or_iff_not_imp_left]
    intro hblocks k hk
    have hs : alg = .aesCtr ∨ alg = .aesCbc ∧ n % 16 = 0 := by
      refine halg.imp_right fun hcbc => ⟨hcbc, ?_⟩
      by_contra hn
      exact hblocks ⟨hcbc, hn⟩
    let s : CencState Nat := ⟨fun _ => 0, ⟨alg, .decrypt, 0⟩, ⟨0, counter⟩, enc, 0, .ok, []⟩
    have hable : Able s 1 1 := by
      refine ⟨rfl, ?_, by decide, by decide⟩
      rcases halg with rfl | rfl
      · rfl
      · rfl
    have hexact := h Nat countingEvp countingCounted s 1 1 hable rfl rfl rfl
    have hcounts := decrypt_counts countingCounted hable hs rfl henc hn
    by_contra hne
    refine not_wp_false ((hexact.and hcounts).mono ?_ ?_)
    · rintro - s' ⟨⟨hprocessed, -⟩, k', hk', hprocessed', -⟩
      have hsame : some k = some k' := hk.symm.trans hk'
      cases hsame
      rw [hprocessed'] at hprocessed
      exact hne (Nat.add_left_cancel hprocessed)
    · rintro - s' ⟨-, hnone⟩
      have hfails := hnone countingEvp_reliable
      cases hk.symm.trans hfails
  · rintro h Ctx evp t s out inp hable halg' rfl rfl
    by_cases hcbc : alg = .aesCbc ∧ n % 16 ≠ 0
    · obtain ⟨rfl, hblocks⟩ := hcbc
      exact decryptExact_of_cbc t halg' hblocks hn
    · have hwhole := (takesWhole_iff hfull).2 (h.resolve_left hcbc)
      have hs : alg = .aesCtr ∨ alg = .aesCbc ∧ n % 16 = 0 := by
        refine halg.imp_right fun hcbc' => ⟨hcbc', ?_⟩
        by_contra hblocks
        exact hcbc ⟨hcbc', hblocks⟩
      apply (decrypt_counts t hable hs halg' henc hn).mono
      · rintro - s' ⟨k, hk, hprocessed, hcounted⟩
        have hkn := hwhole k hk
        subst hkn
        exact ⟨hprocessed, hcounted⟩
      · exact fun _ _ _ => trivial

end TaSecureApi
