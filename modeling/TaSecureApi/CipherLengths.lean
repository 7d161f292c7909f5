import TaSecureApi.CencLengths
import TaSecureApi.CipherChunkings

namespace TaSecureApi
set_option autoImplicit true

variable {Ctx : Type}

/-- What is assumed of OpenSSL for the lengths of bytes: a length that is negative fails, and
another one is processed in full, of which a context without padding holds nothing back. The end of
a message and a tag process nothing. -/
structure EvpBytes.Counted (evp : EvpBytes Ctx) where
  processed : Ctx → Nat
  padded : Ctx → Bool
  negative : ∀ mode context inp inl, inl < 0 → (evp.update mode context inp inl).1 = none
  update : ∀ mode context inp (n : Nat) written context', n ≤ inp.length →
    evp.update mode context inp n = (some written, context') →
    processed context' = processed context + n ∧ padded context' = padded context ∧
    (padded context = false → written.length = n)
  final : ∀ mode context rest context', evp.final mode context = (some rest, context') →
    processed context' = processed context ∧ (padded context = false → rest = [])
  setTag : ∀ context tag context', evp.setTag context tag = some context' →
    processed context' = processed context ∧ padded context' = padded context

/-- A context as it was made for an algorithm and a mode. -/
structure EvpBytes.Counted.Made {evp : EvpBytes Ctx} (t : evp.Counted)
    (context : SymmetricContext Ctx) (algorithm : SaCipherAlgorithm) (mode : SaCipherMode) :
    Prop where
  cipherAlgorithm : context.cipherAlgorithm = algorithm
  cipherMode : context.cipherMode = mode
  padding : t.padded context.evpCipher = algorithm.isPadded

/-- Some bytes were processed and reported: the length that is reported is that of what was written,
which without padding is as long. -/
structure EvpBytes.Counted.Exact {evp : EvpBytes Ctx} (t : evp.Counted)
    (algorithm : SaCipherAlgorithm) (n : Nat) (start last : Ctx) (reported : Nat)
    (written : List UInt8) : Prop where
  processed : t.processed last = t.processed start + n
  length : reported = written.length
  whole : algorithm.isPadded = false → reported = n

/-- With every library a call of `symmetric_context_encrypt`, or `symmetric_context_decrypt`, that
succeeds is exact. -/
def UpdateExact (callMode : SaCipherMode) (algorithm : SaCipherAlgorithm) (mode : SaCipherMode)
    (bytes : List UInt8) : Prop :=
  ∀ (Ctx : Type) (evp : EvpBytes Ctx) (t : evp.Counted) (context : SymmetricContext Ctx)
    (out inp : Nat) (written : List UInt8) (context' : SymmetricContext Ctx),
    t.Made context algorithm mode →
    symmetricContextUpdate callMode evp context out inp bytes = (.ok written, context') →
    t.Exact algorithm bytes.length context.evpCipher context'.evpCipher written.length written

/-- The same for the last variants, of which the one without an output processes nothing. -/
def LastExact (callMode : SaCipherMode) (lengthAllowed : SaCipherAlgorithm → Nat → Bool)
    (requiredLength : Nat → Nat) (algorithm : SaCipherAlgorithm) (mode : SaCipherMode)
    (bytes : List UInt8) : Prop :=
  ∀ (Ctx : Type) (evp : EvpBytes Ctx) (t : evp.Counted) (context : SymmetricContext Ctx)
    (out inp reported : Nat) (written : List UInt8) (context' : SymmetricContext Ctx),
    t.Made context algorithm mode →
    symmetricContextLast callMode lengthAllowed requiredLength evp context out inp bytes =
      (.ok (reported, written), context') →
    if out = 0 then context' = context ∧ written = []
    else t.Exact algorithm bytes.length context.evpCipher context'.evpCipher reported written

/-- The same for `ta_sa_crypto_cipher_process`. -/
def ProcessExact (place : CallPlace) (algorithm : SaCipherAlgorithm) (mode : SaCipherMode)
    (rights : SaRights) (bytes : List UInt8) : Prop :=
  ∀ (Ctx : Type) (evp : EvpBytes Ctx) (t : evp.Counted) (c c' : SymmetricCipher Ctx)
    (reported : Nat) (written : List UInt8), t.Made c.context algorithm mode →
    c.keyRights = rights → c.process evp place bytes = .ok ((reported, written), c') →
    t.Exact algorithm bytes.length c.context.evpCipher c'.context.evpCipher reported written

/-- The same for `ta_sa_crypto_cipher_process_last`. -/
def ProcessLastExact (place : CallPlace) (algorithm : SaCipherAlgorithm) (mode : SaCipherMode)
    (rights : SaRights) (bytes tag : List UInt8) : Prop :=
  ∀ (Ctx : Type) (evp : EvpBytes Ctx) (t : evp.Counted) (c c' : SymmetricCipher Ctx)
    (output : LastOutput), t.Made c.context algorithm mode → c.keyRights = rights →
    c.processLast evp place bytes tag = .ok (output, c') →
    t.Exact algorithm bytes.length c.context.evpCipher c'.context.evpCipher output.reported
      output.written

/-- A cipher of which nothing is known but its algorithm, its mode and the rights of its key. -/
def plainCipher (algorithm : SaCipherAlgorithm) (mode : SaCipherMode) (rights : SaRights)
    (start : Ctx) : SymmetricCipher Ctx := ⟨⟨algorithm, mode, start⟩, rights⟩

/-- What `ta_sa_crypto_cipher_process` checks. -/
def ProcessAllowed (place : CallPlace) (algorithm : SaCipherAlgorithm) (mode : SaCipherMode)
    (rights : SaRights) (n : Nat) : Prop :=
  (∃ found, place.Permits (plainCipher algorithm mode rights ())
    (processRequiredLength algorithm 0 n false) n found) ∧
  algorithm.isSymmetric ∧ (algorithm.isStream ∨ n % aesBlockSize = 0)

/-- What `ta_sa_crypto_cipher_process_last` and the call that it makes check. -/
def ProcessLastAllowed (place : CallPlace) (algorithm : SaCipherAlgorithm) (mode : SaCipherMode)
    (rights : SaRights) (n tagLength : Nat) : Prop :=
  (∃ found, place.Permits (plainCipher algorithm mode rights ())
    (processLastRequiredLength algorithm n) n found) ∧
  lastLengthsAllowed algorithm mode n tagLength ∧
  (SymmetricContext.mk algorithm mode ()).lastAllowed n

section Rules

variable {evp : EvpBytes Ctx} {t : evp.Counted} {start last : Ctx} {bytes written : List UInt8}

/-- An update processes what it is given, where an `int` holds the length or is negative. -/
theorem EvpBytes.Counted.update_castInt
    (hfits : castInt bytes.length < 0 ∨ bytes.length < 2 ^ 31)
    (h : evp.update mode start bytes (castInt bytes.length) = (some written, last)) :
    t.processed last = t.processed start + bytes.length ∧ t.padded last = t.padded start ∧
      (t.padded start = false → written.length = bytes.length) := by
  rcases hfits with hneg | hlt
  · have hnone := t.negative mode start bytes _ hneg
    rw [h] at hnone
    cases hnone
  · rw [castInt_of_lt hlt] at h
    exact t.update mode start bytes bytes.length written last (Nat.le_refl _) h

theorem EvpBytes.Counted.exact_update (hpadded : t.padded start = algorithm.isPadded)
    (hfits : castInt bytes.length < 0 ∨ bytes.length < 2 ^ 31)
    (h : evp.update mode start bytes (castInt bytes.length) = (some written, last)) :
    t.Exact algorithm bytes.length start last written.length written := by
  obtain ⟨hprocessed, -, hwhole⟩ := t.update_castInt hfits h
  exact ⟨hprocessed, rfl, fun hunpadded => hwhole (hpadded.trans hunpadded)⟩

theorem EvpBytes.Counted.exact_ends (hpadded : t.padded start = algorithm.isPadded)
    (hfits : castInt bytes.length < 0 ∨ bytes.length < 2 ^ 31)
    (h : EndsWith evp mode start bytes reported written last) :
    t.Exact algorithm bytes.length start last reported written := by
  obtain ⟨rfl, first, middle, rest, hupdate, hfinal, rfl⟩ := h
  obtain ⟨hprocessed, hsame, hwhole⟩ := t.update_castInt hfits hupdate
  obtain ⟨hkept, hrest⟩ := t.final mode middle rest last hfinal
  refine ⟨hkept.trans hprocessed, rfl, fun hunpadded => ?_⟩
  have hstart : t.padded start = false := hpadded.trans hunpadded
  rw [hrest (hsame.trans hstart), List.append_nil]
  exact hwhole hstart

theorem EvpBytes.Counted.tagBefore {context : SymmetricContext Ctx} {tag : List UInt8}
    (h : TagBefore evp context tag start) :
    t.processed start = t.processed context.evpCipher ∧
      t.padded start = t.padded context.evpCipher := by
  unfold TagBefore at h
  split_ifs at h with hset
  · exact t.setTag _ _ _ h
  · rw [h]
    exact ⟨rfl, rfl⟩

theorem symmetricContextLast_null {context context' : SymmetricContext Ctx}
    (h : symmetricContextLast mode lengthAllowed requiredLength evp context 0 inp bytes =
      (.ok (reported, written), context')) : context' = context ∧ written = [] := by
  unfold symmetricContextLast at h
  rw [if_pos (rfl : (0 : Nat) = 0)] at h
  split_ifs at h
  · cases h
  · cases h
  · cases h
    exact ⟨rfl, rfl⟩
  · cases h

end Rules

/-- A library that copies the bytes it is given and counts them, and fails for a negative length
only. -/
def copyingEvp : EvpBytes Nat where
  update _ context inp inl :=
    if inl < 0 then (none, context) else (some (inp.take inl.toNat), context + inl.toNat)
  final _ context := (some [], context)
  getTag _ := some (.replicate 16 0)
  setTag context _ := some context

def copyingCounted (padded : Bool) : copyingEvp.Counted where
  processed := id
  padded _ := padded
  negative mode context inp inl h := by
    simp only [copyingEvp, if_pos h]
  update mode context inp n written context' hn h := by
    have hpos : ¬ (n : Int) < 0 := by omega
    simp only [copyingEvp, if_neg hpos] at h
    cases h
    exact ⟨rfl, rfl, fun _ => List.length_take_of_le hn⟩
  final mode context rest context' h := by
    cases h
    exact ⟨rfl, fun _ => rfl⟩
  setTag context tag context' h := by
    cases h
    exact ⟨rfl, rfl⟩

theorem copyingEvp_update (mode : SaCipherMode) (context : Nat) (inp : List UInt8) {inl : Int}
    (h : 0 ≤ inl) : copyingEvp.update mode context inp inl =
      (some (inp.take inl.toNat), context + inl.toNat) :=
  if_neg (Int.not_lt.2 h)

theorem lt_of_copied {n : Nat} (h : (copyingCounted padded).Exact algorithm n 0
    (0 + (castInt n).toNat) reported written) : n < 2 ^ 31 := by
  have hprocessed : 0 + (castInt n).toNat = 0 + n := h.processed
  have hlt := castInt_lt n
  omega

theorem copyingEvp_tagBefore {context : SymmetricContext Nat} {tag : List UInt8} :
    TagBefore copyingEvp context tag context.evpCipher := by
  unfold TagBefore
  split_ifs
  · rfl
  · rfl

theorem copyingEvp_tagAfter (context : SymmetricContext Nat) (tag : List UInt8) (last : Nat) :
    ∃ tag', TagAfter copyingEvp context tag last tag' := by
  unfold TagAfter
  split_ifs
  · exact ⟨_, _, rfl, rfl⟩
  · exact ⟨tag, rfl⟩

section Copies

variable {algorithm : SaCipherAlgorithm} {mode callMode : SaCipherMode} {bytes tag : List UInt8}
  {rights : SaRights} {place : CallPlace}

theorem copyingEvp_ends (hpos : 0 ≤ castInt bytes.length) :
    EndsWith copyingEvp mode 0 bytes (bytes.take (castInt bytes.length).toNat).length
      (bytes.take (castInt bytes.length).toNat) (0 + (castInt bytes.length).toNat) :=
  ⟨rfl, _, _, _, copyingEvp_update mode 0 bytes hpos, rfl, (List.append_nil _).symm⟩

theorem updateExact_iff : UpdateExact callMode algorithm mode bytes ↔
    (mode = callMode ∧ (algorithm.isStream ∨ bytes.length % aesBlockSize = 0) →
      castInt bytes.length < 0 ∨ bytes.length < 2 ^ 31) := by
  constructor
  · rintro h ⟨hmode, hlength⟩
    rw [or_iff_not_imp_left]
    intro hpos
    have hupdate := copyingEvp_update callMode 0 bytes (Int.not_lt.1 hpos)
    have hcall : symmetricContextUpdate callMode copyingEvp ⟨algorithm, mode, 0⟩ 1 1 bytes =
        (.ok _, _) :=
      symmetricContextUpdate_eq_ok.2 ⟨hmode, Nat.one_ne_zero, Nat.one_ne_zero, hlength, _, hupdate,
        rfl⟩
    exact lt_of_copied (h Nat copyingEvp (copyingCounted algorithm.isPadded) _ _ _ _ _
      ⟨rfl, rfl, rfl⟩
      hcall)
  · intro h Ctx evp t context out inp written context' hmade hcall
    obtain ⟨hmode, -, -, hlength, last, hupdate, rfl⟩ := symmetricContextUpdate_eq_ok.1 hcall
    rw [hmade.cipherAlgorithm] at hlength
    exact t.exact_update hmade.padding (h ⟨hmade.cipherMode.symm.trans hmode, hlength⟩) hupdate

theorem lastExact_iff : LastExact callMode lengthAllowed requiredLength algorithm mode bytes ↔
    (mode = callMode ∧ ¬ algorithm.isUnpadded ∧ lengthAllowed algorithm bytes.length →
      castInt bytes.length < 0 ∨ bytes.length < 2 ^ 31) := by
  constructor
  · rintro h ⟨hmode, halgorithm, hlength⟩
    rw [or_iff_not_imp_left]
    intro hpos
    have hcall : symmetricContextLast callMode lengthAllowed requiredLength copyingEvp
        ⟨algorithm, mode, 0⟩ 1 1 bytes = (.ok (_, _), _) :=
      (symmetricContextLast_eq_ok Nat.one_ne_zero).2
        ⟨hmode, halgorithm, hlength, Nat.one_ne_zero, _,
        copyingEvp_ends (Int.not_lt.1 hpos), rfl⟩
    exact lt_of_copied (h Nat copyingEvp (copyingCounted algorithm.isPadded) _ _ _ _ _ _
      ⟨rfl, rfl, rfl⟩ hcall)
  · intro h Ctx evp t context out inp reported written context' hmade hcall
    split_ifs with hout
    · exact symmetricContextLast_null (hout ▸ hcall)
    · obtain ⟨hmode, halgorithm, hlength, -, last, hends, rfl⟩ :=
        (symmetricContextLast_eq_ok hout).1 hcall
      rw [hmade.cipherAlgorithm] at halgorithm hlength
      exact t.exact_ends hmade.padding
        (h ⟨hmade.cipherMode.symm.trans hmode, halgorithm, hlength⟩) hends

theorem plainCipher_alike :
    (plainCipher algorithm mode rights ()).Alike (plainCipher algorithm mode rights 0) :=
  ⟨rfl, rfl, rfl⟩

theorem EvpBytes.Counted.Made.alike {evp : EvpBytes Ctx} {t : evp.Counted} {c : SymmetricCipher Ctx}
    (hmade : t.Made c.context algorithm mode) (hrights : c.keyRights = rights) :
    c.Alike (plainCipher algorithm mode rights ()) :=
  ⟨hmade.cipherAlgorithm.symm, hmade.cipherMode.symm, hrights.symm⟩

theorem processExact_iff : ProcessExact place algorithm mode rights bytes ↔
    (ProcessAllowed place algorithm mode rights bytes.length →
      castInt bytes.length < 0 ∨ bytes.length < 2 ^ 31) := by
  constructor
  · rintro h ⟨⟨found, hpermits⟩, hsymmetric, hlength⟩
    rw [or_iff_not_imp_left]
    intro hpos
    have hupdate := copyingEvp_update mode 0 bytes (Int.not_lt.1 hpos)
    have hcall := SymmetricCipher.process_eq_ok.2
      ⟨⟨found, hpermits.congr plainCipher_alike⟩, hsymmetric,
      hlength, rfl, _, hupdate, rfl⟩
    exact lt_of_copied (h Nat copyingEvp (copyingCounted algorithm.isPadded) _ _ _ _ ⟨rfl, rfl, rfl⟩
      rfl hcall)
  · intro h Ctx evp t c c' reported written hmade hrights hcall
    obtain ⟨⟨found, hpermits⟩, hsymmetric, hlength, rfl, last, hupdate, rfl⟩ :=
      SymmetricCipher.process_eq_ok.1 hcall
    rw [hmade.cipherAlgorithm] at hpermits hsymmetric hlength
    exact t.exact_update hmade.padding
      (h ⟨⟨found, hpermits.congr (hmade.alike hrights)⟩, hsymmetric, hlength⟩)
      hupdate

theorem processLastExact_iff : ProcessLastExact place algorithm mode rights bytes tag ↔
    (ProcessLastAllowed place algorithm mode rights bytes.length tag.length →
      castInt bytes.length < 0 ∨ bytes.length < 2 ^ 31) := by
  constructor
  · rintro h ⟨⟨found, hpermits⟩, hlengths, hlength⟩
    rw [or_iff_not_imp_left]
    intro hpos
    obtain ⟨tag', hafter⟩ := copyingEvp_tagAfter ⟨algorithm, mode, 0⟩ tag
      (0 + (castInt bytes.length).toNat)
    have hcall : (plainCipher algorithm mode rights 0).processLast copyingEvp place bytes tag =
        .ok (⟨_, _, tag'⟩, _) :=
      SymmetricCipher.processLast_eq_ok.2
        ⟨⟨found, hpermits.congr plainCipher_alike⟩, hlengths, hlength, 0,
        copyingEvp_tagBefore, _, copyingEvp_ends (Int.not_lt.1 hpos), hafter, rfl⟩
    exact lt_of_copied (h Nat copyingEvp (copyingCounted algorithm.isPadded) _ _ _ ⟨rfl, rfl, rfl⟩
      rfl hcall)
  · intro h Ctx evp t c c' output hmade hrights hcall
    obtain ⟨⟨found, hpermits⟩, hlengths, hlength, start, hstart, last, hends, -, rfl⟩ :=
      SymmetricCipher.processLast_eq_ok.1 hcall
    obtain ⟨hprocessed, hpadded⟩ := t.tagBefore hstart
    rw [hmade.cipherAlgorithm] at hpermits hlengths
    rw [hmade.cipherMode] at hlengths
    rw [SymmetricContext.lastAllowed, hmade.cipherMode, hmade.cipherAlgorithm] at hlength
    have hexact := t.exact_ends (hpadded.trans hmade.padding)
      (h ⟨⟨found, hpermits.congr (hmade.alike hrights)⟩, hlengths, hlength⟩) hends
    exact ⟨hexact.processed.trans (by rw [hprocessed]), hexact.length, hexact.whole⟩

end Copies

/-- With every library a call of `decrypt` of `cenc` that succeeds is exact. -/
def CencExact (algorithm : SaCipherAlgorithm) (enc : Nat) (counter : BitVec 64) (n : Nat) : Prop :=
  ∀ (Ctx : Type) (evp : Evp Ctx) (t : evp.Counted) (s : CencState Ctx) (out inp : Nat),
    Able s out inp → s.context.cipherAlgorithm = algorithm → s.encByteCount = enc →
    s.iv.counter = counter → DecryptExact t algorithm out inp n s

/-- 4 GiB are accepted as none. -/
theorem fourGib_not_exact :
    ¬ UpdateExact .encrypt .aesCtr .encrypt (List.replicate (2 ^ 32) 0) ∧
    ¬ CencExact .aesCtr 0 1 (2 ^ 32) := by
  constructor
  · intro h
    have hfits := updateExact_iff.1 h ⟨rfl, .inl rfl⟩
    rw [List.length_replicate] at hfits
    exact absurd hfits (by decide)
  · intro h
    have hfits := (decryptExact_iff (.inl rfl) (by decide) (by decide)).1 h
    exact absurd hfits (by decide)

/-- No length is truncated on its way to the cipher, if and only if an `int` holds each length that
passes the checks of its call, or is negative, and the pieces into which `cenc` cuts its length are
so as well. -/
theorem lengths_exact_iff (callMode mode : SaCipherMode) (algorithm : SaCipherAlgorithm)
    (bytes tag : List UInt8) (rights : SaRights) (place : CallPlace)
    (cencAlgorithm : SaCipherAlgorithm) (enc : Nat) (counter : BitVec 64) (n : Nat)
    (halg : cencAlgorithm = .aesCtr ∨ cencAlgorithm = .aesCbc) (henc : enc < 2 ^ 64)
    (hn : n < 2 ^ 64) :
    (UpdateExact callMode algorithm mode bytes ↔
      (mode = callMode ∧ (algorithm.isStream ∨ bytes.length % aesBlockSize = 0) →
        castInt bytes.length < 0 ∨ bytes.length < 2 ^ 31)) ∧
    (LastExact .encrypt encryptLastLengthAllowed (paddedSize · % 2 ^ 64) algorithm mode bytes ↔
      (mode = .encrypt ∧ ¬ algorithm.isUnpadded ∧ encryptLastLengthAllowed algorithm bytes.length →
        castInt bytes.length < 0 ∨ bytes.length < 2 ^ 31)) ∧
    (LastExact .decrypt decryptLastLengthAllowed id algorithm mode bytes ↔
      (mode = .decrypt ∧ ¬ algorithm.isUnpadded ∧ decryptLastLengthAllowed algorithm bytes.length →
        castInt bytes.length < 0 ∨ bytes.length < 2 ^ 31)) ∧
    (ProcessExact place algorithm mode rights bytes ↔
      (ProcessAllowed place algorithm mode rights bytes.length →
        castInt bytes.length < 0 ∨ bytes.length < 2 ^ 31)) ∧
    (ProcessLastExact place algorithm mode rights bytes tag ↔
      (ProcessLastAllowed place algorithm mode rights bytes.length tag.length →
        castInt bytes.length < 0 ∨ bytes.length < 2 ^ 31)) ∧
    (CencExact cencAlgorithm enc counter n ↔
      (cencAlgorithm = .aesCbc ∧ n % 16 ≠ 0 ∨ TakesWhole (rollsOver cencAlgorithm enc counter n) n
        (leadingPartialBlockSize enc) (fullBlocks enc n) (blocksBeforeRollover counter))) :=
  ⟨updateExact_iff, lastExact_iff, lastExact_iff, processExact_iff, processLastExact_iff,
    decryptExact_iff halg henc hn⟩

theorem lengths_exact_iff_block : UpdateExact .encrypt .aesCbc .encrypt (.replicate 16 0) ∧
    CencExact .aesCbc 0 0 16 := by
  obtain ⟨hupdate, -, -, -, -, hcenc⟩ := lengths_exact_iff .encrypt .encrypt .aesCbc
    (.replicate 16 0) [] (xorSession .aesCbc .encrypt).keyRights clearPlace .aesCbc 0 0 16
    (.inr rfl)
    (by decide) (by decide)
  exact ⟨hupdate.2 fun _ => by decide, hcenc.2 (.inr (by decide))⟩

end TaSecureApi
