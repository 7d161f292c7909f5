import TaSecureApi.Keys
import TaSecureApi.ProcessCommonEncryption
import TaSecureApi.ObjectStore

namespace TaSecureApi
set_option autoImplicit true

/-- The cipher store of a client. What the store keeps is the number of a cipher, counted by
`cipher_alloc`, which stands for the pointer; `ciphers` is what is behind it. -/
structure CipherStore (Ctx : Type) where
  store : ObjectStore Nat
  ciphers : List (Cipher Ctx)
  allocated : ∀ slot n, (store.objects slot).object = some n → n < ciphers.length

variable {Ctx : Type}

def cipherStoreInit (count : UInt64) : Option (CipherStore Ctx) :=
  match h : objectStoreInit count with
  | none => none
  | some store =>
    some {
      store := store
      ciphers := []
      allocated := by
        unfold objectStoreInit at h
        split at h
        · cases h
        · cases h
          rintro slot n ⟨⟩ }

/-- `cipher_store_acquire_exclusive` with what it finds: the cipher and its number. The release at
the end of the exclusive section leaves the store as it was, see `objectStoreRelease_acquire`. -/
def cipherStoreAcquireExclusive (ciphers : CipherStore Ctx) (context : Nat) (callerUuid : SaUuid) :
    Except SaStatus (Nat × Cipher Ctx) :=
  match objectStoreAcquire ciphers.store context (some callerUuid) with
  | (.ok, some n, _) => (ciphers.ciphers[n]?).elim (.error .internalError) fun c => .ok (n, c)
  | (status, _, _) => .error status

/-- `cipher_store_remove`; between the exclusive sections no cipher is referenced. -/
def cipherStoreRemove (ciphers : CipherStore Ctx) (context : Nat) (callerUuid : SaUuid) :
    SaStatus × CipherStore Ctx :=
  if context ≥ ciphers.store.slotCount then (.invalidParameter, ciphers)
  else
    match h : storeRemoveLocked ciphers.store context (some callerUuid) with
    | (.wait, _) => (.internalError, ciphers)
    | (.leave status _, store) =>
      (status, {
        store := store
        ciphers := ciphers.ciphers
        allocated := by
          intro slot n hn
          rcases storeRemoveLocked_cases ciphers.store context (some callerUuid) with
            ⟨_, hs, -⟩ | ⟨_, hs, -⟩ | ⟨o, store', hs, -, hd⟩
          · rw [h] at hs
            cases hs
            exact ciphers.allocated slot n hn
          · rw [h] at hs
            cases hs
          · rw [h] at hs
            cases hs
            rw [hd.objects, Function.update_apply] at hn
            split_ifs at hn
            exact ciphers.allocated slot n hn })

/-- `cipher_alloc` and `object_store_add`, with the handle. -/
def cipherStoreAdd (ciphers : CipherStore Ctx) (cipher : Cipher Ctx) (callerUuid : SaUuid) :
    SaStatus × Nat × CipherStore Ctx :=
  match h : objectStoreAdd ciphers.store (some ciphers.ciphers.length) (some callerUuid) with
  | (status, context, store) =>
    (status, context, {
      store := store
      ciphers := ciphers.ciphers ++ [cipher]
      allocated := by
        intro slot n hn
        rw [List.length_append]
        rcases objectStoreAdd_cases ciphers.store (some ciphers.ciphers.length) (some callerUuid)
          with ⟨_, _, hs, -⟩ | ⟨o, u, _, store', ho, -, hs, -, -, hf⟩
        · rw [h] at hs
          cases hs
          exact Nat.lt_add_right _ (ciphers.allocated slot n hn)
        · rw [h] at hs
          cases hs
          cases ho
          rw [hf.objects, Function.update_apply] at hn
          split_ifs at hn
          · cases hn
            simp
          · exact Nat.lt_add_right _ (ciphers.allocated slot n hn) })

def Cipher.setEvpCipher (cipher : Cipher Ctx) (evpCipher : Ctx) : Cipher Ctx where
  cipherAlgorithm := cipher.cipherAlgorithm
  cipherMode := cipher.cipherMode
  keyRights := cipher.keyRights
  symmetricContext := cipher.symmetricContext.map ({ · with evpCipher := evpCipher })
  agrees := by
    intro context h
    obtain ⟨context, hc, rfl⟩ := Option.map_eq_some_iff.1 h
    exact cipher.agrees context hc

def CipherStore.setEvpCipher (ciphers : CipherStore Ctx) (n : Nat) (evpCipher : Ctx) :
    CipherStore Ctx where
  store := ciphers.store
  ciphers := ciphers.ciphers.modify n (Cipher.setEvpCipher · evpCipher)
  allocated slot m h := by
    rw [List.length_modify]
    exact ciphers.allocated slot m h

def SaCipherAlgorithm.isSymmetric : SaCipherAlgorithm → Bool
  | rsaPkcs1v15 | rsaOaep | ecElgamal => false
  | _ => true

/-- The check of `ta_sa_crypto_cipher_init` for the mode. -/
def rightsAllowedMode (mode : SaCipherMode) (rights : SaRights) (keyType : SaKeyType)
    (reading : Reading) : Bool :=
  match mode with
  | .encrypt => rightsAllowedEncrypt rights keyType reading
  | .decrypt => rightsAllowedDecrypt rights keyType reading

/-- The cipher of a key: a symmetric one has a context of OpenSSL, another one has none. -/
def Cipher.create (algorithm : SaCipherAlgorithm) (mode : SaCipherMode) (rights : SaRights)
    (evpCipher : Ctx) : Cipher Ctx where
  cipherAlgorithm := algorithm
  cipherMode := mode
  keyRights := rights
  symmetricContext := if algorithm.isSymmetric then some ⟨algorithm, mode, evpCipher⟩ else none
  agrees := by
    intro context h
    split_ifs at h
    · cases h
      exact ⟨rfl, rfl⟩
    · cases h

/-- The functions of `ta_sa_crypto_cipher_init` for the algorithms, up to the cipher store;
`created` is what the checks of the parameters and the creation of the context of OpenSSL come
to. -/
def cipherInitAlgorithm (header : SaHeader) (algorithm : SaCipherAlgorithm) (mode : SaCipherMode)
    (created : Except SaStatus Ctx) : Except SaStatus Ctx :=
  match algorithm with
  | .rsaPkcs1v15 => do
    require (keyTypeSupportsRsa header.type header.size) .invalidKeyType
    require (mode = .decrypt) .invalidParameter
    created
  | .rsaOaep => do
    let evpCipher ← created
    require (keyTypeSupportsRsa header.type header.size) .invalidKeyType
    require (mode = .decrypt) .invalidParameter
    pure evpCipher
  | .ecElgamal => do
    require (keyTypeSupportsEc header.type header.typeParameters header.size) .invalidKeyType
    require (mode = .decrypt) .invalidParameter
    require (header.typeParameters.isCurve isPcurve) .operationNotAllowed
    created
  | .chacha20 | .chacha20Poly1305 => do
    require (keyTypeSupportsChacha20 header.type header.size) .invalidKeyType
    created
  | .aesEcb | .aesEcbPkcs7 | .aesCbc | .aesCbcPkcs7 | .aesCtr | .aesGcm => do
    require (keyTypeSupportsAes header.type header.size) .invalidKeyType
    created

/-- `ta_sa_crypto_cipher_init` for a key with the header; `found` is what the key store reads when
it unwraps the key. -/
def taSaCryptoCipherInit (ciphers : CipherStore Ctx) (callerUuid : SaUuid) (header : SaHeader)
    (algorithm : SaCipherAlgorithm) (mode : SaCipherMode) (created : Except SaStatus Ctx)
    (found reading : Reading) : SaStatus × Nat × CipherStore Ctx :=
  if ¬ keyStoreAllowed header.rights callerUuid found then
    (.operationNotAllowed, slotInvalid, ciphers)
  else if ¬ rightsAllowedMode mode header.rights header.type reading then
    (.operationNotAllowed, slotInvalid, ciphers)
  else
    match cipherInitAlgorithm header algorithm mode created with
    | .error status => (status, slotInvalid, ciphers)
    | .ok evpCipher =>
      cipherStoreAdd ciphers (.create algorithm mode header.rights evpCipher) callerUuid

def taSaCryptoCipherUpdateIv (evp : Evp Ctx) (ciphers : CipherStore Ctx) (callerUuid : SaUuid)
    (context : Nat) (iv : Option Iv) (ivLength : Nat) : SaStatus × CipherStore Ctx :=
  match iv with
  | none => (.nullParameter, ciphers)
  | some iv =>
    match cipherStoreAcquireExclusive ciphers context callerUuid with
    | .error status => (status, ciphers)
    | .ok (n, cipher) =>
      match cipher.cipherAlgorithm with
      | .aesCbc | .aesCbcPkcs7 | .aesCtr =>
        if ivLength ≠ aesBlockSize then (.invalidParameter, ciphers)
        else
          match cipher.symmetricContext with
          | none => (.nullParameter, ciphers)
          | some symmetricContext =>
            let result := symmetricContextSetIv evp symmetricContext iv ivLength
            (match result.1 with | .ok () => .ok | .error status => status,
              ciphers.setEvpCipher n result.2.evpCipher)
      | _ => (.invalidParameter, ciphers)

/-- The ciphers that there are stay, up to their contexts of OpenSSL. -/
def CipherStore.Extends (ciphers ciphers' : CipherStore Ctx) : Prop :=
  ∀ (n : Nat) (c : Cipher Ctx), ciphers.ciphers[n]? = some c →
    ∃ c' : Cipher Ctx, ciphers'.ciphers[n]? = some c' ∧
    c'.cipherAlgorithm = c.cipherAlgorithm ∧ c'.cipherMode = c.cipherMode ∧
    c'.keyRights = c.keyRights

theorem CipherStore.Extends.of_eq {ciphers ciphers' : CipherStore Ctx}
    (h : ciphers'.ciphers = ciphers.ciphers) : ciphers.Extends ciphers' := by
  intro n c hc
  rw [h]
  exact ⟨c, hc, rfl, rfl, rfl⟩

theorem CipherStore.Extends.refl (ciphers : CipherStore Ctx) : ciphers.Extends ciphers :=
  .of_eq rfl

theorem CipherStore.setEvpCipher_extends (ciphers : CipherStore Ctx) (n : Nat) (evpCipher : Ctx) :
    ciphers.Extends (ciphers.setEvpCipher n evpCipher) := by
  intro m c hc
  by_cases hm : n = m
  · subst hm
    exact ⟨c.setEvpCipher evpCipher, by simp [CipherStore.setEvpCipher, hc], rfl, rfl, rfl⟩
  · exact ⟨c, by simp [CipherStore.setEvpCipher, hm, hc], rfl, rfl, rfl⟩

theorem cipherStoreRemove_extends (ciphers : CipherStore Ctx) (context : Nat) (uuid : SaUuid) :
    ciphers.Extends (cipherStoreRemove ciphers context uuid).2 := by
  unfold cipherStoreRemove
  split_ifs
  · exact .refl ciphers
  · split
    · exact .refl ciphers
    · exact .of_eq rfl

theorem cipherStoreAdd_extends (ciphers : CipherStore Ctx) (cipher : Cipher Ctx) (uuid : SaUuid) :
    ciphers.Extends (cipherStoreAdd ciphers cipher uuid).2.2 := by
  intro n c hc
  refine ⟨c, ?_, rfl, rfl, rfl⟩
  simp only [cipherStoreAdd]
  rw [List.getElem?_append_left (List.getElem?_eq_some_iff.1 hc).1]
  exact hc

theorem taSaCryptoCipherInit_extends (ciphers : CipherStore Ctx) (uuid : SaUuid)
    (header : SaHeader) (algorithm : SaCipherAlgorithm) (mode : SaCipherMode)
    (created : Except SaStatus Ctx) (found reading : Reading) : ciphers.Extends
      (taSaCryptoCipherInit ciphers uuid header algorithm mode created found reading).2.2 := by
  unfold taSaCryptoCipherInit
  split_ifs
  · split
    · exact .refl ciphers
    · exact cipherStoreAdd_extends _ _ _
  · exact .refl ciphers
  · exact .refl ciphers

theorem taSaCryptoCipherUpdateIv_extends (evp : Evp Ctx) (ciphers : CipherStore Ctx)
    (uuid : SaUuid) (context : Nat) (iv : Option Iv) (ivLength : Nat) : ciphers.Extends
      (taSaCryptoCipherUpdateIv evp ciphers uuid context iv ivLength).2 := by
  unfold taSaCryptoCipherUpdateIv
  repeat' split
  all_goals first
    | exact .refl ciphers
    | exact ciphers.setEvpCipher_extends _ _

theorem cipherStoreAcquireExclusive_ok {ciphers : CipherStore Ctx}
    (h : cipherStoreAcquireExclusive ciphers context uuid = .ok (n, c)) :
    ciphers.ciphers[n]? = some c ∧ (ciphers.store.objects context).object = some n := by
  unfold cipherStoreAcquireExclusive at h
  rcases objectStoreAcquire_cases ciphers.store context (some uuid) with
    ⟨status, ha, hne⟩ | ⟨o, u, -, -, -, ho, -, ha⟩
  · rw [ha] at h
    cases status with
    | ok => exact absurd rfl hne
    | _ => cases h
  · rw [ha] at h
    dsimp only at h
    cases hc : ciphers.ciphers[o]? with
    | none => rw [hc] at h; cases h
    | some c' =>
      rw [hc] at h
      cases h
      exact ⟨hc, ho⟩

end TaSecureApi
