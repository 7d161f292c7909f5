import TaSecureApi.HkdfOutput
import TaSecureApi.KeyImports
import TaSecureApi.ProviderKdf

namespace TaSecureApi
set_option autoImplicit true

/-- The keys of the TA as the derivations use them, and what the calls of one derivation come to.
A stored key is put into the key store or not whatever its bytes are. -/
structure TaKeys (Store : Type) where
  library : KdfLibrary
  reading : Reading
  allocates (size : Nat) : Bool
  keyHeader (store : Store) (key : SaKey) : Bool
  keyRelease (store : Store) (key : SaKey) : Store
  keyStoreUnwrap (store : Store) (key : Option SaKey) : Except SaStatus StoredKey
  keyStoreImportStoredKey (store : Store) : Except SaStatus (StoredKey → Store)

namespace TaKeys

variable {Store : Type} (ta : TaKeys Store) (store : Store) (parent : Option SaKey)

def deriveFrom (parameters : Except Stop Unit) (supports : SaHeader → Bool)
    (kdf : StoredKey → Except Stop Derivation) : Except Stop (StoredKey × Store) := do
  parameters
  let storedKeyParent ← liftStatus (ta.keyStoreUnwrap store parent)
  let header := storedKeyParent.header
  demand (rightsAllowedDerive header.rights ta.reading) .operationNotAllowed
  demand (header.type = .symmetric) .invalidKeyType
  demand (supports header) .invalidKeyType
  let derivation ← kdf storedKeyParent
  let add ← liftStatus (ta.keyStoreImportStoredKey store)
  pure (derivation.storedKey, add derivation.storedKey)

def arguments (parameters : Parameters) (storedKeyParent : StoredKey) : KdfArguments Parameters :=
  ⟨true, some saRightsAllowAll, some parameters, some storedKeyParent⟩

def taSaKeyDeriveHkdf (parameters : SaKdfParametersHkdf) : Except Stop (StoredKey × Store) :=
  ta.deriveFrom store parent
    (do
      demand (parameters.info.missing = false) .nullParameter
      demand (parameters.salt.missing = false) .nullParameter
      demand (parameters.keyLength ≤ symMaxKeySize) .invalidParameter
      demand (parameters.digestAlgorithm ≠ none) .invalidParameter)
    (fun header => keyTypeSupportsHmac header.type header.size)
    (fun storedKeyParent => kdfHkdfHmac ta.library (arguments parameters storedKeyParent))

def deriveDigest (parameters : SaKdfParametersConcat)
    (kdf : KdfLibrary → KdfArguments SaKdfParametersConcat → Except Stop Derivation) :
    Except Stop (StoredKey × Store) :=
  ta.deriveFrom store parent
    (do
      demand (parameters.info.missing = false) .nullParameter
      demand (parameters.keyLength ≤ symMaxKeySize) .invalidParameter
      demand (parameters.digestAlgorithm ≠ none) .invalidParameter)
    (fun _ => true)
    (fun storedKeyParent => kdf ta.library (arguments parameters storedKeyParent))

def taSaKeyDeriveConcat (parameters : SaKdfParametersConcat) : Except Stop (StoredKey × Store) :=
  ta.deriveDigest store parent parameters kdfConcatKdf

def taSaKeyDeriveAnsiX963 (parameters : SaKdfParametersConcat) :
    Except Stop (StoredKey × Store) :=
  ta.deriveDigest store parent parameters kdfAnsiX963

def taSaKeyDeriveCmac (parameters : SaKdfParametersCmac) : Except Stop (StoredKey × Store) :=
  ta.deriveFrom store parent
    (do
      demand (parameters.otherData.missing = false) .nullParameter
      demand (1 ≤ parameters.counter ∧ parameters.counter ≤ 4) .invalidParameter
      demand (parameters.keyLength % 16 = 0) .invalidParameter
      demand (parameters.keyLength / 16 ≤ 5 - parameters.counter) .invalidParameter)
    (fun header => keyTypeSupportsAes header.type header.size)
    (fun storedKeyParent => kdfCtrCmac ta.library (arguments parameters storedKeyParent))

/-- `sa_key_derive`, for all that the provider asks for. -/
def saKeyDerive : KdfRequest → Except Stop (StoredKey × Store)
  | .hkdf parameters => ta.taSaKeyDeriveHkdf store parent parameters
  | .concat parameters => ta.taSaKeyDeriveConcat store parent parameters
  | .ansiX963 parameters => ta.taSaKeyDeriveAnsiX963 store parent parameters
  | .cmac parameters => ta.taSaKeyDeriveCmac store parent parameters

def api : KdfApi Store StoredKey where
  keyHeader := ta.keyHeader
  keyRelease := ta.keyRelease
  keyDerive store parent parameters :=
    match ta.saKeyDerive store parent parameters with
    | .ok (storedKey, store) => (.ok storedKey, store)
    | .error stop => (.error stop, store)
  allocates := ta.allocates

end TaKeys

/-- The counter mode of a function with blocks of 16 bytes: the beginning of the blocks of the
counters from one on. -/
def counterMode (cmac : List UInt8 → List UInt8) (d : List UInt8) (length : Nat) : List UInt8 :=
  ((List.range' 1 (Expansion.blockCount 16 length)).flatMap fun i =>
    cmac (UInt8.ofNat i :: d)).take length

def fixedInput (salt info : List UInt8) (separator l : Bool) (keylen : Nat) : List UInt8 :=
  salt ++ (if separator then [0x00] else []) ++ info ++ (if l then counterBytes keylen else [])

/-- What `kdf_derive` comes to is the counter mode with the key and the settings of the context, or
a failure. -/
def YieldsCounterMode {Store : Type} (ta : TaKeys Store) (s : KdfSession Store) (keylen : Nat) :
    KdfOutcome StoredKey → Prop
  | .failed => True
  | .undefined => False
  | .derived storedKey =>
    ∃ parent, ta.keyStoreUnwrap s.store s.context.key = .ok parent ∧
      storedKey.key = counterMode (fun text => (ta.library.cmac parent.key text).toList)
        (fixedInput s.context.salt.contents s.context.info.contents (s.context.useSeparator = 1)
          (s.context.useL ≠ 0) keylen) keylen

/-- The second block is the first once more, and the third the second. -/
def SameBlocks (cmac : List UInt8 → List UInt8) (d : List UInt8) : Prop :=
  cmac (2 :: d) = cmac (1 :: d) ∧ cmac (3 :: d) = cmac (2 :: d)

/-- All that a derivation with `CMAC` needs but for the length: there is memory, the parent is an
AES key that may derive, OpenSSL fails in nothing, and the key store has room. -/
structure ServesCmac {Store : Type} (ta : TaKeys Store) (s : KdfSession Store)
    (parent : StoredKey) : Prop where
  otherData : ta.api.malloc (ProviderKdf.otherDataLength s.context) = true
  unwrap : ta.keyStoreUnwrap s.store s.context.key = .ok parent
  derive : rightsAllowedDerive parent.header.rights ta.reading = true
  symmetric : parent.header.type = .symmetric
  aes : keyTypeSupportsAes parent.header.type parent.header.size = true
  allocates : ta.library.allocates 0 = true ∧ ta.library.allocates 1 = true
  cmac : ∀ i ∈ [1, 2, 3, 4],
    (parent.key.length = 16 ∨ parent.key.length = 32) ∧ ta.library.succeeds i = true
  room : ∃ add, ta.keyStoreImportStoredKey s.store = .ok add

section Returns

variable {α β γ ε : Type}

theorem bind_returns {x : Except ε α} {f : α → Except ε β} :
    (∃ b, (x >>= f) = .ok b) ↔ ∃ a, x = .ok a ∧ ∃ b, f a = .ok b := by
  cases x with
  | error e => exact iff_of_false (fun ⟨_, h⟩ => nomatch h) fun ⟨_, h, _⟩ => nomatch h
  | ok a =>
    constructor
    · intro h
      exact ⟨a, rfl, h⟩
    · intro ⟨_, ha, h⟩
      cases ha
      exact h

theorem demand_returns {c : Prop} [Decidable c] {f : Unit → Except Stop β} :
    (∃ b, (demand c e >>= f) = .ok b) ↔ c ∧ ∃ b, f () = .ok b := by
  rw [bind_returns]
  constructor
  · intro ⟨_, hc, h⟩
    exact ⟨demand_eq_ok.1 hc, h⟩
  · intro ⟨hc, h⟩
    exact ⟨(), demand_eq_ok.2 hc, h⟩

theorem map_bind {x : Except ε α} {g : α → β} {f : β → Except ε γ} :
    (x.map g >>= f) = x >>= fun a => f (g a) := by
  cases x with
  | error e => rfl
  | ok a => rfl

end Returns

section Kdf

variable {library : KdfLibrary} {parameters : SaKdfParametersCmac} {storedKeyParent : StoredKey}

theorem kdfCtrCmac_returns :
    (∃ derivation, kdfCtrCmac library (TaKeys.arguments parameters storedKeyParent) =
      .ok derivation) ↔
      parameters.keyLength % 16 = 0 ∧ parameters.otherData.missing = false ∧
      (1 ≤ parameters.counter ∧ parameters.counter ≤ 4) ∧
      parameters.keyLength / 16 ≤ 5 - parameters.counter ∧
      library.allocates 0 = true ∧ library.allocates 1 = true ∧
      (∀ i ∈ [1, 2, 3, 4], (storedKeyParent.key.length = 16 ∨ storedKeyParent.key.length = 32) ∧
        library.succeeds i = true) ∧
      keyTypeSupportsAny .symmetric .zero parameters.keyLength = true := by
  have hH : ∀ text, (library.cmac storedKeyParent.key text).toList.length = aesBlockSize :=
    fun _ => Vector.length_toList
  have hsize : 0 < aesBlockSize := by decide
  have hlength := Expansion.length_output
    (fun i _ => UInt8.ofNat i :: parameters.otherData.contents) (4 * aesBlockSize) hsize hH
  have hvalid : rightsValidateFormat saRightsAllowAll = true := by decide +kernel
  have hcreate (derived : List UInt8) : (∃ storedKey, storedKeyCreate saRightsAllowAll
      (some storedKeyParent.header.rights) .symmetric .zero parameters.keyLength derived =
        .ok storedKey) ↔ keyTypeSupportsAny .symmetric .zero parameters.keyLength = true := by
    constructor
    · rintro ⟨_, h⟩
      exact (storedKeyCreate_ok h).1
    · intro h
      rw [storedKeyCreate, require, if_pos h, require, if_pos hvalid]
      exact ⟨_, rfl⟩
  unfold kdfCtrCmac TaKeys.arguments
  rw [demand_returns, and_iff_right rfl]
  simp only [demandSome, ok_bind]
  rw [demand_returns, demand_returns, demand_returns, demand_returns, demand_returns,
    demand_returns, expand_eq hsize hH]
  refine and_congr_right fun hmod => and_congr_right fun _ => and_congr_right fun hcounter =>
    and_congr_right fun hroom => and_congr_right fun _ => and_congr_right fun _ => ?_
  have hinside : (parameters.counter - 1) * aesBlockSize + parameters.keyLength ≤
      4 * aesBlockSize := by
    rw [aesBlockSize]
    omega
  rw [map_bind, demand_returns, if_pos (hlength.symm ▸ hinside), bind_returns]
  apply and_congr
  · rfl
  · rw [← hcreate]
    constructor
    · rintro ⟨storedKey, h, _⟩
      exact ⟨storedKey, liftStatus_eq_ok.1 h⟩
    · rintro ⟨storedKey, h⟩
      exact ⟨storedKey, liftStatus_eq_ok.2 h, _, rfl⟩

end Kdf

section Commands

variable {Store : Type} {ta : TaKeys Store} {store : Store} {parent : Option SaKey}
  {parameters : SaKdfParametersCmac}

/-- The checks of the command are those of `kdf_ctr_cmac` once more, and those of the parent. -/
theorem taSaKeyDeriveCmac_returns :
    (∃ r, ta.taSaKeyDeriveCmac store parent parameters = .ok r) ↔
      parameters.otherData.missing = false ∧ (1 ≤ parameters.counter ∧ parameters.counter ≤ 4) ∧
      parameters.keyLength % 16 = 0 ∧ parameters.keyLength / 16 ≤ 5 - parameters.counter ∧
      ∃ storedKeyParent, ta.keyStoreUnwrap store parent = .ok storedKeyParent ∧
        rightsAllowedDerive storedKeyParent.header.rights ta.reading = true ∧
        storedKeyParent.header.type = .symmetric ∧
        keyTypeSupportsAes storedKeyParent.header.type storedKeyParent.header.size = true ∧
        (∃ derivation, kdfCtrCmac ta.library (TaKeys.arguments parameters storedKeyParent) =
          .ok derivation) ∧
        ∃ add, ta.keyStoreImportStoredKey store = .ok add := by
  unfold TaKeys.taSaKeyDeriveCmac TaKeys.deriveFrom
  simp only [bind_assoc]
  rw [demand_returns, demand_returns, demand_returns, demand_returns, bind_returns]
  refine and_congr_right fun _ => and_congr_right fun _ => and_congr_right fun _ =>
    and_congr_right fun _ => exists_congr fun storedKeyParent => ?_
  rw [liftStatus_eq_ok, demand_returns, demand_returns, demand_returns, bind_returns]
  refine and_congr_right fun _ => and_congr_right fun _ => and_congr_right fun _ =>
    and_congr_right fun _ => ?_
  constructor
  · rintro ⟨derivation, hderivation, h⟩
    obtain ⟨add, hadd, -⟩ := bind_returns.1 h
    exact ⟨⟨derivation, hderivation⟩, add, liftStatus_eq_ok.1 hadd⟩
  · rintro ⟨⟨derivation, hderivation⟩, add, hadd⟩
    exact ⟨derivation, hderivation, bind_returns.2 ⟨add, liftStatus_eq_ok.2 hadd, _, rfl⟩⟩

theorem taSaKeyDeriveCmac_blocks
    (h : ta.taSaKeyDeriveCmac store parent parameters = .ok (storedKey, store')) :
    ∃ storedKeyParent, ta.keyStoreUnwrap store parent = .ok storedKeyParent ∧
      storedKey.key = (List.range' parameters.counter (parameters.keyLength / 16)).flatMap
        fun i => (ta.library.cmac storedKeyParent.key
          (UInt8.ofNat i :: parameters.otherData.contents)).toList := by
  unfold TaKeys.taSaKeyDeriveCmac TaKeys.deriveFrom at h
  simp only [bind_eq_ok, demand_eq_ok, liftStatus_eq_ok, exists_const] at h
  obtain ⟨-, storedKeyParent, hunwrap, -, -, -, derivation, hderivation, add, -, hpure⟩ := h
  cases hpure
  have hblocks := kdfCtrCmac_blocks ta.library (TaKeys.arguments parameters storedKeyParent)
  rw [hderivation] at hblocks
  obtain ⟨_, _, hparameters, hparent, -, -, -, -, -, hkey, -⟩ := hblocks
  cases hparameters
  cases hparent
  exact ⟨storedKeyParent, hunwrap, hkey⟩

theorem taSaKeyDeriveCmac_defined :
    ta.taSaKeyDeriveCmac store parent parameters ≠ .error .undefined := by
  intro h
  unfold TaKeys.taSaKeyDeriveCmac TaKeys.deriveFrom at h
  simp only [bind_assoc, bind_eq_undefined, demand_ne_undefined, liftStatus_ne_undefined,
    false_or] at h
  obtain ⟨_, -, _, -, _, -, _, -, storedKeyParent, -, _, -, _, -, _, -, hkdf | ⟨_, -, _, -, h⟩⟩ := h
  · have hblocks := kdfCtrCmac_blocks ta.library (TaKeys.arguments parameters storedKeyParent)
    rw [hkdf] at hblocks
    exact hblocks
  · cases h

end Commands

section CounterMode

variable {cmac : List UInt8 → List UInt8} {d : List UInt8}

theorem counterMode_one (hcmac : ∀ text, (cmac text).length = 16) :
    counterMode cmac d 16 = cmac (1 :: d) := by
  have hfirst : counterMode cmac d 16 = (cmac (1 :: d) ++ []).take 16 := rfl
  rw [hfirst, List.append_nil, List.take_of_length_le (hcmac _).le]

theorem counterMode_two (hcmac : ∀ text, (cmac text).length = 16) :
    counterMode cmac d 32 = cmac (1 :: d) ++ cmac (2 :: d) := by
  have hboth : counterMode cmac d 32 = (cmac (1 :: d) ++ (cmac (2 :: d) ++ [])).take 32 := rfl
  rw [hboth, List.append_nil, List.take_of_length_le]
  rw [List.length_append, hcmac, hcmac]

end CounterMode

namespace ProviderKdf

section Requests

variable {c : ProviderKdfContext}

theorem otherData_eq : otherData c keylen = fixedInput c.salt.contents c.info.contents
    (c.useSeparator = 1) (c.useL ≠ 0) keylen := by
  simp [otherData, fixedInput]

theorem otherData_fits (c : ProviderKdfContext) (keylen : Nat) :
    (otherData c keylen).length ≤ otherDataLength c ↔
    c.useL = 0 ∨ c.useL = 1 ∨ 4 ≤ c.salt.lostLength + c.info.lostLength := by
  have hcounter : (counterBytes keylen).length = 4 := rfl
  have hseparator : (if c.useSeparator = 1 then [(0 : UInt8)] else []).length =
      if c.useSeparator = 1 then 1 else 0 := by
    split_ifs <;> rfl
  rw [otherDataLength, otherData, SaData.length_eq, SaData.length_eq]
  simp only [List.length_append, hseparator]
  by_cases hzero : c.useL = 0
  · simp [hzero]
    omega
  · by_cases hone : c.useL = 1
    · simp [hone, hcounter]
      omega
    · simp only [ne_eq, hzero, not_false_eq_true, if_true, hone, if_false, hcounter, false_or]
      omega

end Requests

section Calls

variable {Store : Type} {ta : TaKeys Store} {s : KdfSession Store}

/-- With the memory and where all is written inside of it, the TA is asked for the blocks from the
number of blocks on. -/
theorem request_cmac (hs : s.context.kdfAlgorithm = .cmac) (hkeylen : keylen ≤ maxCmacSize)
    (hmalloc : ta.api.malloc (otherDataLength s.context) = true)
    (hfits : (otherData s.context keylen).length ≤ otherDataLength s.context) :
    request ta.api s.context keylen = .derived (.cmac ⟨keylen, .bytes (otherData s.context keylen),
      keylen / 16 + if keylen % 16 = 0 then 0 else 1⟩) := by
  rw [request, hs]
  dsimp only
  rw [if_neg (Nat.not_lt.2 hkeylen), if_neg (by rw [hmalloc]; decide), if_neg (Nat.not_lt.2 hfits)]

/-- With the number of blocks as the counter, the TA only makes keys of one and of two blocks. -/
theorem taSaKeyDeriveCmac_returns_iff (keylen : Nat) (data : List UInt8)
    (hmalloc : ta.api.malloc (otherDataLength s.context) = true) :
    (∃ r, ta.taSaKeyDeriveCmac s.store s.context.key ⟨keylen, .bytes data,
      keylen / 16 + if keylen % 16 = 0 then 0 else 1⟩ = .ok r) ↔
      (keylen = 16 ∨ keylen = 32) ∧ ∃ parent, ServesCmac ta s parent := by
  rw [taSaKeyDeriveCmac_returns]
  constructor
  · intro ⟨_, hcounter, hmod, hroom, parent, hunwrap, hderive, hsymmetric, haes, hkdf, hadd⟩
    rw [kdfCtrCmac_returns] at hkdf
    obtain ⟨-, -, -, -, hfirst, hsecond, hcmac, -⟩ := hkdf
    rw [if_pos hmod] at hcounter hroom
    dsimp only at hcounter hmod hroom
    refine ⟨by omega, parent, ?_⟩
    exact ⟨hmalloc, hunwrap, hderive, hsymmetric, haes, ⟨hfirst, hsecond⟩, hcmac, hadd⟩
  · intro ⟨hkeylen, parent, h⟩
    have hmod : keylen % 16 = 0 := by omega
    have hany : keyTypeSupportsAny .symmetric .zero keylen = true := by
      obtain rfl | rfl := hkeylen
      · decide
      · decide
    rw [if_pos hmod]
    refine ⟨rfl, by dsimp only; omega, hmod, by dsimp only; omega, parent, h.unwrap, h.derive,
      h.symmetric, h.aes, ?_, h.room⟩
    rw [kdfCtrCmac_returns]
    exact ⟨hmod, rfl, by dsimp only; omega, by dsimp only; omega, h.allocates.1, h.allocates.2,
      h.cmac, hany⟩

/-- What the TA makes is the counter mode, but for two blocks, where it is one block behind. -/
theorem keyDerive_counterMode_iff
    (hmalloc : ta.api.malloc (otherDataLength s.context) = true) :
    YieldsCounterMode ta s keylen (deliver s (ta.api.keyDerive s.store s.context.key
        (.cmac ⟨keylen, .bytes (otherData s.context keylen),
          keylen / 16 + if keylen % 16 = 0 then 0 else 1⟩))).1 ↔
      (keylen = 32 → ∀ parent, ServesCmac ta s parent →
        SameBlocks (fun text => (ta.library.cmac parent.key text).toList)
          (otherData s.context keylen)) := by
  have hreturns := taSaKeyDeriveCmac_returns_iff keylen (otherData s.context keylen) hmalloc
  simp only [TaKeys.api, TaKeys.saKeyDerive]
  cases hresult : ta.taSaKeyDeriveCmac s.store s.context.key ⟨keylen,
      .bytes (otherData s.context keylen),
      keylen / 16 + if keylen % 16 = 0 then 0 else 1⟩ with
  | error stop =>
    rw [hresult] at hreturns
    cases stop with
    | undefined => exact absurd hresult taSaKeyDeriveCmac_defined
    | status status =>
      refine iff_of_true trivial fun hkeylen parent h => ?_
      obtain ⟨_, hok⟩ := hreturns.2 ⟨.inr hkeylen, parent, h⟩
      cases hok
  | ok r =>
    obtain ⟨storedKey, store⟩ := r
    obtain ⟨hkeylen, served, hserves⟩ := hreturns.1 ⟨_, hresult⟩
    obtain ⟨parent, hunwrap, hkey⟩ := taSaKeyDeriveCmac_blocks hresult
    have hcmac : ∀ text, (ta.library.cmac parent.key text).toList.length = 16 :=
      fun _ => Vector.length_toList
    have hparent : ∀ p, ServesCmac ta s p → p = parent := by
      intro p h
      exact Except.ok.inj (h.unwrap.symm.trans hunwrap)
    have hyields : YieldsCounterMode ta s keylen (.derived storedKey) ↔
        storedKey.key = counterMode (fun text => (ta.library.cmac parent.key text).toList)
          (otherData s.context keylen) keylen := by
      rw [otherData_eq]
      constructor
      · intro ⟨p, hp, h⟩
        cases Except.ok.inj (hp.symm.trans hunwrap)
        exact h
      · intro h
        exact ⟨parent, hunwrap, h⟩
    refine hyields.trans ?_
    obtain rfl | rfl := hkeylen
    · have hone : List.range' (16 / 16 + if 16 % 16 = 0 then 0 else 1) (16 / 16) = [1] := by decide
      dsimp only at hkey
      rw [hone, List.flatMap_singleton] at hkey
      rw [counterMode_one hcmac, hkey]
      exact iff_of_true rfl nofun
    · have htwo : List.range' (32 / 16 + if 32 % 16 = 0 then 0 else 1) (32 / 16) = [2, 3] := by
        decide
      dsimp only at hkey
      rw [htwo, List.flatMap_cons, List.flatMap_singleton] at hkey
      rw [counterMode_two hcmac, hkey]
      constructor
      · intro h _ p hp
        cases hparent p hp
        exact List.append_inj h ((hcmac _).trans (hcmac _).symm)
      · intro h
        obtain ⟨hfirst, hsecond⟩ := h rfl served hserves
        cases hparent served hserves
        exact congrArg₂ (· ++ ·) hfirst hsecond

theorem deriveKey_counterMode_iff (hs : s.context.kdfAlgorithm = .cmac) :
    YieldsCounterMode ta s keylen (deriveKey ta.api s keylen).1 ↔
      (keylen ≤ maxCmacSize → ta.api.malloc (otherDataLength s.context) = true →
        s.context.useL = 0 ∨ s.context.useL = 1 ∨
          4 ≤ s.context.salt.lostLength + s.context.info.lostLength) ∧
      (keylen = 32 → ∀ parent, ServesCmac ta s parent →
        SameBlocks (fun text => (ta.library.cmac parent.key text).toList)
          (otherData s.context keylen)) := by
  rw [← otherData_fits s.context keylen]
  by_cases hkeylen : keylen ≤ maxCmacSize
  · cases hmalloc : ta.api.malloc (otherDataLength s.context) with
    | false =>
      have hrequest : request ta.api s.context keylen = .failed := by
        rw [request, hs]
        dsimp only
        rw [if_neg (Nat.not_lt.2 hkeylen), if_pos hmalloc]
      rw [deriveKey, hrequest]
      refine iff_of_true trivial ⟨nofun, fun _ parent h => ?_⟩
      exact absurd (h.otherData.symm.trans hmalloc) (by decide)
    | true =>
      by_cases hfits : (otherData s.context keylen).length ≤ otherDataLength s.context
      · rw [deriveKey, request_cmac hs hkeylen hmalloc hfits, keyDerive_counterMode_iff hmalloc]
        exact (and_iff_right fun _ _ => hfits).symm
      · have hrequest : request ta.api s.context keylen = .undefined := by
          rw [request, hs]
          dsimp only
          rw [if_neg (Nat.not_lt.2 hkeylen), if_neg (by rw [hmalloc]; decide),
            if_pos (Nat.not_le.1 hfits)]
        rw [deriveKey, hrequest]
        exact iff_of_false id fun h => hfits (h.1 hkeylen rfl)
  · have hrequest : request ta.api s.context keylen = .failed := by
      rw [request, hs]
      exact if_pos (Nat.not_le.1 hkeylen)
    rw [deriveKey, hrequest]
    refine iff_of_true trivial ⟨fun h => absurd h hkeylen, ?_⟩
    rintro rfl
    exact absurd (by decide) hkeylen

end Calls

/-- A `CMAC` derivation of the provider yields the counter mode, if and only if no memory is
written that was not allocated, and it is not served with a key of 32 bytes. What it makes there is
the second and the third block. -/
theorem derive_counterMode_iff {Store : Type} (ta : TaKeys Store) (s : KdfSession Store)
    (keylen : Nat) (params : Option KdfCtxParams) (hs : s.context.kdfAlgorithm = .cmac) :
    let set := setCtxParams ta.api s params
    let c := set.context.context
    YieldsCounterMode ta set.context keylen (derive ta.api s keylen params).1 ↔
      (set.result = true →
        (keylen ≤ maxCmacSize → ta.api.malloc (otherDataLength c) = true →
          c.useL = 0 ∨ c.useL = 1 ∨ 4 ≤ c.salt.lostLength + c.info.lostLength) ∧
        (keylen = 32 → ∀ parent, ServesCmac ta set.context parent →
          SameBlocks (fun text => (ta.library.cmac parent.key text).toList)
            (otherData c keylen))) := by
  intro set c
  have hc : c.kdfAlgorithm = .cmac := (setCtxParams_algorithm params).trans hs
  cases hset : set.result with
  | false =>
    rw [derive_of_not_set hset]
    exact iff_of_true trivial nofun
  | true =>
    rw [derive_of_set hset, deriveKey_counterMode_iff hc]
    constructor
    · intro h _
      exact h
    · intro h
      exact h rfl

/-- A TA that serves everything for one key of 16 bytes, with a function for `CMAC` whose blocks
are the first byte of the text. -/
def servingKeys : TaKeys Unit where
  library := { servingLibrary with cmac := fun _ text => .replicate 16 (text.headD 0) }
  reading := ⟨0, none⟩
  allocates _ := true
  keyHeader _ _ := true
  keyRelease _ _ := ()
  keyStoreUnwrap _ key := if key = some 7 then
    .ok ⟨⟨saRightsAllowAll, .symmetric, .zero, 16⟩, List.replicate 16 1⟩
    else .error .invalidParameter
  keyStoreImportStoredKey _ := .ok fun _ => ()

/-- All settings of a derivation with `CMAC`. -/
def cmacParams : KdfCtxParams where
  key := .value 7
  saKey := .absent
  saKeyDelete := .absent
  digest := .absent
  salt := .value [1, 2]
  info := .value [3]
  useSeparator := .value 1
  useL := .value 1

theorem derive_counterMode_16 :
    let s : KdfSession Unit := ⟨(), kdfNewctx .cmac⟩
    YieldsCounterMode servingKeys (setCtxParams servingKeys.api s (some cmacParams)).context 16
      (derive servingKeys.api s 16 (some cmacParams)).1 := by
  intro s
  apply (derive_counterMode_iff servingKeys s 16 (some cmacParams) rfl).2
  intro _
  exact ⟨fun _ _ => .inr (.inl rfl), nofun⟩

/-- For 32 bytes the provider gets the blocks of the counters two and three. -/
theorem derive_not_counterMode : ¬ ∀ (ta : TaKeys Unit) (s : KdfSession Unit) (keylen : Nat)
    (params : Option KdfCtxParams), s.context.kdfAlgorithm = .cmac →
    YieldsCounterMode ta (setCtxParams ta.api s params).context keylen
      (derive ta.api s keylen params).1 := by
  intro h
  have hderive : (derive servingKeys.api ⟨(), kdfNewctx .cmac⟩ 32 (some cmacParams)).1 =
      .derived ⟨⟨saRightsAllowAll, .symmetric, .zero, 32⟩,
        List.replicate 16 2 ++ List.replicate 16 3⟩ := by
    decide +kernel
  have hyields := h servingKeys ⟨(), kdfNewctx .cmac⟩ 32 (some cmacParams) rfl
  rw [hderive] at hyields
  obtain ⟨parent, -, hkey⟩ := hyields
  have hmode : counterMode (fun text => (servingKeys.library.cmac parent.key text).toList)
      (fixedInput [1, 2] [3] true true 32) 32 = List.replicate 16 1 ++ List.replicate 16 2 := rfl
  have hblocks : List.replicate 16 (2 : UInt8) ++ List.replicate 16 3 =
      List.replicate 16 1 ++ List.replicate 16 2 := hkey.trans hmode
  exact absurd hblocks (by decide)

end ProviderKdf

end TaSecureApi
