import TaSecureApi.WrappedKey

namespace TaSecureApi
set_option autoImplicit true
open Wp

/-- The store as `key_store.c` keeps it. -/
abbrev WrappedKeyStore := ObjectStore WrappedKey

/-- The derivation inputs for exported keys, before a mixin is applied. -/
def exportDerivationInputs : DerivationInputs where
  wrappingKeyInputs := {
    c1 := #v[0x91, 0xa4, 0x5a, 0xc9, 0x2b, 0x5e, 0xd7, 0x40, 0x20, 0x33, 0x6e, 0x47, 0xad, 0x48,
      0x56, 0xba]
    c2 := #v[0x82, 0x1b, 0x1f, 0x0c, 0x52, 0x04, 0x8b, 0x28, 0xbe, 0xa0, 0x59, 0x34, 0xb4, 0xd9,
      0xa8, 0xae]
    c3 := #v[0x80, 0x46, 0xd8, 0xdc, 0xf3, 0xfb, 0xcd, 0xfb, 0x85, 0x05, 0x30, 0x6d, 0x07, 0x33,
      0x5b, 0x8c] }
  integrityKeyInputs := {
    c1 := #v[0xe5, 0x46, 0xb9, 0x91, 0xb5, 0x2c, 0x79, 0xf8, 0xab, 0x9f, 0x34, 0xb8, 0x85, 0x9a,
      0xec, 0x19]
    c2 := #v[0x77, 0x48, 0xbf, 0xc6, 0x21, 0x6d, 0x89, 0x19, 0x7c, 0x51, 0xc9, 0xaf, 0x52, 0xe3,
      0xed, 0x2a]
    c3 := #v[0x11, 0x5b, 0xb8, 0xf6, 0x1a, 0xe1, 0xbe, 0x28, 0x03, 0xb1, 0x98, 0x4a, 0xde, 0xff,
      0x57, 0x08] }

def DerivationInputs.applyMixin (inputs : DerivationInputs) (mixin : Vector UInt8 16) :
    DerivationInputs where
  wrappingKeyInputs := { inputs.wrappingKeyInputs with
    c3 := Vector.zipWith (· ^^^ ·) inputs.wrappingKeyInputs.c3 mixin }
  integrityKeyInputs := { inputs.integrityKeyInputs with
    c3 := Vector.zipWith (· ^^^ ·) inputs.integrityKeyInputs.c3 mixin }

/-- The size of `sa_header`, on a target with 64 bits. -/
def sizeofSaHeader : Nat := 1672

def sizeofCipherParameters : Nat := 24

def sizeofSignature : Nat := 32

/-- The bytes of an exported key. Those that are at least as long as the structures at their start
are the structures and the rest; the header is `none` where its magic value or its type is not one.
All shorter ones are the same to the code. -/
inductive ExportedKey
  | short (length : Nat)
  | structures (mixin : Vector UInt8 16) (header : Option SaHeader)
      (cipherParameters : CipherParameters) (rest : List UInt8)
  deriving DecidableEq

/-- The length of an exported key with a number of bytes after the structures. -/
def exportedLength (rest : Nat) : Nat :=
  aesBlockSize + sizeofSaHeader + sizeofCipherParameters + rest

/-- The checks of `key_store_import_exported` and what it unwraps. -/
def unwrapExported (otp : Otp) : ExportedKey → Option StoredKey
  | .short _ => none
  | .structures mixin header cipherParameters rest => do
    guard (exportedLength (aesBlockSize + sizeofSignature) ≤ exportedLength rest.length)
    let header ← header
    guard (validateHeaderFormat header)
    let length := cipherParameters.ciphertextLength
    guard (¬ (length < aesBlockSize ∨ length % aesBlockSize ≠ 0))
    guard (exportedLength rest.length = exportedLength (length + sizeofSignature))
    KeyStore.unwrap otp (exportDerivationInputs.applyMixin mixin) header cipherParameters
      (rest.take length) (rest.drop length)

namespace WrappedKeyStore

/-- `key_store_import_stored_key`; the derivation inputs and the initialization vector are
random. -/
def keyStoreImportStoredKey (otp : Otp) (store : WrappedKeyStore) (storedKey : StoredKey)
    (callerUuid : SaUuid) (derivationInputs : DerivationInputs) (iv : Vector UInt8 16) :
    SaStatus × Nat × WrappedKeyStore :=
  if ¬ validateHeaderFormat storedKey.header then (.invalidKeyFormat, slotInvalid, store)
  else
    match wrappedKeyCreate otp derivationInputs storedKey iv with
    | none => (.internalError, slotInvalid, store)
    | some wrappedKey => objectStoreAdd store (some wrappedKey) (some callerUuid)

def keyStoreImportExported (otp : Otp) (store : WrappedKeyStore) (exported : ExportedKey)
    (callerUuid : SaUuid) (derivationInputs : DerivationInputs) (iv : Vector UInt8 16) :
    SaStatus × Nat × WrappedKeyStore :=
  match unwrapExported otp exported with
  | none => (.invalidKeyFormat, slotInvalid, store)
  | some storedKey => keyStoreImportStoredKey otp store storedKey callerUuid derivationInputs iv

/-- The form of the operations on one key: acquire it, do something with it, and release it. -/
def withKey (store : WrappedKeyStore) (key : Nat) (callerUuid : SaUuid)
    (f : WrappedKey → Except SaStatus α) : Except SaStatus α × WrappedKeyStore :=
  if key ≥ store.slotCount then (.error .invalidParameter, store)
  else
    match objectStoreAcquire store key (some callerUuid) with
    | (.ok, some wrappedKey, store) =>
      (f wrappedKey, (objectStoreRelease store key (some wrappedKey) (some callerUuid)).2)
    | (status, _, store) =>
      (.error status, (objectStoreRelease store key none (some callerUuid)).2)

def keyStoreUnwrap (otp : Otp) (store : WrappedKeyStore) (key : Nat) (callerUuid : SaUuid)
    (reading : Reading) : Except SaStatus StoredKey × WrappedKeyStore :=
  withKey store key callerUuid fun wrappedKey => do
    require (keyStoreAllowed wrappedKey.header.rights callerUuid reading) .operationNotAllowed
    (wrappedKeyUnwrap otp wrappedKey).elim (.error .internalError) .ok

def keyStoreGetHeader (store : WrappedKeyStore) (key : Nat) (callerUuid : SaUuid) :
    Except SaStatus SaHeader × WrappedKeyStore :=
  withKey store key callerUuid fun wrappedKey => .ok wrappedKey.header

/-- `key_store_export`: `out` is `*out_length`, or `none` for a `NULL` `out`. The result is what
`*out_length` gets, and what is written. -/
def keyStoreExport (otp : Otp) (store : WrappedKeyStore) (key : Nat)
    (mixin : Option (List UInt8)) (out : Option Nat) (callerUuid : SaUuid)
    (iv : Vector UInt8 16) : Except SaStatus (Nat × Option ExportedKey) × WrappedKeyStore :=
  if key ≥ store.slotCount then (.error .invalidParameter, store)
  else
    match (mixin.elim (some (.replicate 16 0)) fun bytes =>
      if h : bytes.length = 16 then some ⟨bytes.toArray, h⟩ else none : Option (Vector UInt8 16))
    with
    | none => (.error .invalidParameter, store)
    | some mixin =>
      withKey store key callerUuid fun wrappedKey => do
        require (saUsageBitTest wrappedKey.header.rights.usageFlags .cacheable)
          .operationNotAllowed
        let requiredOutLength :=
          exportedLength (wrappedKey.cipherParameters.ciphertextLength + sizeofSignature)
        match out with
        | none => pure (requiredOutLength, none)
        | some outLength => do
          require (requiredOutLength ≤ outLength) .invalidParameter
          let storedKey ← (wrappedKeyUnwrap otp wrappedKey).elim (.error .internalError) .ok
          let rewrappedKey ← (wrappedKeyCreate otp (exportDerivationInputs.applyMixin mixin)
            storedKey iv).elim (.error .internalError) .ok
          pure (requiredOutLength, some (.structures mixin rewrappedKey.header
            rewrappedKey.cipherParameters (rewrappedKey.ciphertext ++
              rewrappedKey.signature.toList)))

def keyStoreRemove : WrappedKeyStore → Nat → SaUuid → SaStatus × WrappedKeyStore :=
  objectStoreRemove

end WrappedKeyStore

section Operations

variable {otp : Otp} {store : WrappedKeyStore} {w : WrappedKey} {k : StoredKey} {u : SaUuid}

theorem WrappedKeyStore.withKey_of_owner {f : WrappedKey → Except SaStatus α}
    (hlt : key < store.slotCount) (hsd : store.isShuttingDown = false)
    (hw : (store.objects key).object = some w) (hu : (store.objects key).ownerUuid = u) :
    withKey store key u f = (f w, store) := by
  have hslot : ¬ key ≥ store.slotCount := by omega
  have hacquire : ∃ store', objectStoreAcquire store key (some u) = (.ok, some w, store') := by
    rcases objectStoreAcquire_cases store key (some u) with ⟨status, ha, hne⟩ | ⟨o, u', h, -, -, ho,
      -, ha⟩
    · simp only [objectStoreAcquire, if_neg hslot, hsd, hw, hu, ne_eq, not_true, if_false,
        Bool.false_eq_true, Prod.mk.injEq] at ha
      exact absurd ha.1.symm hne
    · rw [hw] at ho
      cases ho
      exact ⟨_, ha⟩
  obtain ⟨store', ha⟩ := hacquire
  rw [withKey, if_neg hslot, ha]
  dsimp only
  rw [objectStoreRelease_acquire ha]

/-- Whatever is done with a key leaves the store as it was, and is done with the key of the
caller. -/
theorem WrappedKeyStore.withKey_cases (store : WrappedKeyStore) (key : Nat) (u : SaUuid)
    (f : WrappedKey → Except SaStatus α) :
    (∃ status, status ≠ .ok ∧ withKey store key u f = (.error status, store)) ∨
    ∃ w, withKey store key u f = (f w, store) ∧ (store.objects key).object = some w ∧
      (store.objects key).ownerUuid = u := by
  unfold withKey
  split_ifs with hslot
  · exact .inl ⟨_, (by decide), rfl⟩
  rcases objectStoreAcquire_cases store key (some u) with ⟨status, ha, hne⟩ | ⟨w, u', h, -, -, hw,
    howner, ha⟩
  · have hrelease : (objectStoreRelease store key none (some u)).2 = store := by
      simp only [objectStoreRelease, if_neg hslot, if_pos]
    rw [ha]
    cases status with
    | ok => exact absurd rfl hne
    | _ =>
      simp only [hrelease]
      exact .inl ⟨_, hne, rfl⟩
  · cases h
    have hrelease := objectStoreRelease_acquire ha
    rw [ha]
    dsimp only
    rw [hrelease]
    exact .inr ⟨w, rfl, hw, howner⟩

theorem Except.eq_ok_of_toOption {x : Except ε α} (h : x.toOption = some a) : x = .ok a := by
  cases x with
  | error e => cases h
  | ok b =>
    cases h
    rfl

theorem Except.elim_ok {o : Option α} {status : SaStatus}
    (h : o.elim (.error status) Except.ok = .ok a) : o = some a := by
  cases o with
  | none => cases h
  | some b =>
    cases h
    rfl

theorem WrappedKeyStore.keyStoreExport_ok
    (h : (keyStoreExport otp store key mixin out u iv).1 = .ok (n, some exported)) :
    ∃ w k m rewrapped, (store.objects key).object = some w ∧
      (store.objects key).ownerUuid = u ∧ wrappedKeyUnwrap otp w = some k ∧
      wrappedKeyCreate otp (exportDerivationInputs.applyMixin m) k iv = some rewrapped ∧
      exported = .structures m rewrapped.header rewrapped.cipherParameters
        (rewrapped.ciphertext ++ rewrapped.signature.toList) ∧
      saUsageBitTest w.header.rights.usageFlags .cacheable = true ∧
      n = exportedLength (w.cipherParameters.ciphertextLength + sizeofSignature) := by
  unfold keyStoreExport at h
  split_ifs at h
  split at h
  · cases h
  · rename_i m _
    rcases withKey_cases store key u _ with ⟨status, -, ha⟩ | ⟨w, ha, hw, hu⟩
    · rw [ha] at h
      cases h
    · rw [ha] at h
      dsimp only at h
      cases out with
      | none =>
        obtain ⟨_, -, h⟩ := bind_eq_ok.1 h
        cases h
      | some outLength =>
        simp only [bind_eq_ok, require_eq_ok, exists_const] at h
        obtain ⟨hcacheable, -, k, hk, rewrapped, hrewrapped, h⟩ := h
        cases h
        exact ⟨w, k, m, rewrapped, hw, hu, Except.elim_ok hk, Except.elim_ok hrewrapped, rfl,
          hcacheable, rfl⟩

theorem WrappedKeyStore.keyStoreExport_store (otp : Otp) (store : WrappedKeyStore) (key : Nat)
    (mixin : Option (List UInt8)) (out : Option Nat) (u : SaUuid) (iv : Vector UInt8 16) :
    (keyStoreExport otp store key mixin out u iv).2 = store := by
  unfold keyStoreExport
  split_ifs
  · rfl
  · split
    · rfl
    · rcases withKey_cases store key u _ with ⟨status, -, ha⟩ | ⟨w, ha, -⟩
      · rw [ha]
      · rw [ha]

theorem unwrapExported_create (hotp : otp.Inverts) (hk : validateHeaderFormat k.header = true)
    (h : wrappedKeyCreate otp (exportDerivationInputs.applyMixin m) k iv = some w) :
    unwrapExported otp (.structures m w.header w.cipherParameters
      (w.ciphertext ++ w.signature.toList)) = some k := by
  have hpos : 0 < aesBlockSize := by decide
  obtain ⟨hwrap, -, hheader, hparameters, -⟩ := wrappedKeyCreate_eq_some.1 h
  have hmod := Pkcs7.length_pad_mod k.key hpos
  have hle := Pkcs7.le_length_pad k.key hpos
  obtain ⟨hlength, -⟩ := hotp _ _ _ _ hmod hwrap
  rw [← hlength] at hmod hle
  have hcipher : w.cipherParameters.ciphertextLength = w.ciphertext.length := by
    rw [hparameters, hlength]
  have htake : (w.ciphertext ++ w.signature.toList).take w.ciphertext.length = w.ciphertext :=
    List.take_left' rfl
  have hdrop : (w.ciphertext ++ w.signature.toList).drop w.ciphertext.length =
      w.signature.toList := List.drop_left' rfl
  have htotal : (w.ciphertext ++ w.signature.toList).length =
      w.ciphertext.length + sizeofSignature := by
    rw [List.length_append, Vector.length_toList, sizeofSignature]
  have hmin : exportedLength (aesBlockSize + sizeofSignature) ≤
      exportedLength (w.ciphertext.length + sizeofSignature) := by
    unfold exportedLength
    omega
  have hblocks : ¬ (w.ciphertext.length < aesBlockSize ∨
      w.ciphertext.length % aesBlockSize ≠ 0) := by
    omega
  have hvalid : validateHeaderFormat w.header = true := by
    rw [hheader]
    exact hk
  simp only [unwrapExported, guard, htotal, hmin, hvalid, hcipher, hblocks, htake, hdrop, if_true,
    not_false_eq_true, Option.pure_def, Option.bind_eq_bind, Option.bind_some]
  exact KeyStore.unwrap_of_create hotp hk h

theorem WrappedKeyStore.keyStoreImportStoredKey_ok {store' : WrappedKeyStore}
    (h : keyStoreImportStoredKey otp store k u inputs iv = (.ok, key, store')) :
    ∃ w, Wraps otp w k ∧ Fills store key w u store' := by
  unfold keyStoreImportStoredKey at h
  by_cases hk : validateHeaderFormat k.header = true
  · rw [if_neg (not_not.2 hk)] at h
    split at h
    · cases h
    · rename_i w hw
      rcases objectStoreAdd_cases store (some w) (some u) with ⟨status, slot, ha, hne⟩ | ⟨o, u',
        slot, store'', ho, hu, ha, -, -, hf⟩
      · rw [ha] at h
        cases h
        exact absurd rfl hne
      · rw [ha] at h
        cases h
        cases ho
        cases hu
        exact ⟨w, ⟨hk, inputs, iv, hw⟩, hf⟩
  · rw [if_pos hk] at h
    cases h

theorem WrappedKeyStore.keyStoreImportStoredKey_error {store' : WrappedKeyStore}
    (h : keyStoreImportStoredKey otp store k u inputs iv = (status, key, store'))
    (hne : status ≠ .ok) : store' = store := by
  unfold keyStoreImportStoredKey at h
  split_ifs at h with hk
  · split at h
    · cases h
      rfl
    · rename_i w hw
      rcases objectStoreAdd_cases store (some w) (some u) with ⟨status', slot, ha, -⟩ |
        ⟨o, u', slot,
        store'', -, -, ha, -⟩
      · rw [ha] at h
        cases h
        rfl
      · rw [ha] at h
        cases h
        exact absurd rfl hne
  · cases h
    rfl

end Operations

/-- A key that was imported, and is still behind its handle when it is exported, is imported from
the exported bytes as it was at first: with the same bytes and the same header. -/
theorem keyStoreImportExported_export (otp : Otp) (hotp : otp.Inverts)
    (store store₁ store₂ : WrappedKeyStore) (k : StoredKey) (key : Nat) (u u₂ : SaUuid)
    (inputs : DerivationInputs) (iv iv₂ : Vector UInt8 16) (mixin : Option (List UInt8))
    (out : Option Nat) (n : Nat) (exported : ExportedKey)
    (himport : WrappedKeyStore.keyStoreImportStoredKey otp store k u inputs iv =
      (.ok, key, store₁))
    (hkept : (store₂.objects key).object = (store₁.objects key).object)
    (hexport : (WrappedKeyStore.keyStoreExport otp store₂ key mixin out u₂ iv₂).1 =
      .ok (n, some exported)) :
    ∀ (store' : WrappedKeyStore) (u' : SaUuid) (inputs' : DerivationInputs)
      (iv' : Vector UInt8 16),
      WrappedKeyStore.keyStoreImportExported otp store' exported u' inputs' iv' =
        WrappedKeyStore.keyStoreImportStoredKey otp store' k u' inputs' iv' ∧
      ∀ key' store'', WrappedKeyStore.keyStoreImportExported otp store' exported u' inputs' iv' =
          (.ok, key', store'') →
        ∃ w', (store''.objects key').object = some w' ∧
          (store''.objects key').ownerUuid = u' ∧ wrappedKeyUnwrap otp w' = some k := by
  obtain ⟨w, hwraps, hfills⟩ := WrappedKeyStore.keyStoreImportStoredKey_ok himport
  obtain ⟨w₂, k₂, m, rewrapped, hw₂, -, hk₂, hrewrapped, rfl, -⟩ :=
    WrappedKeyStore.keyStoreExport_ok hexport
  -- what is exported is the key that was imported
  obtain rfl : w₂ = w := by
    rw [hkept, hfills.objects, Function.update_self] at hw₂
    exact (Option.some.inj hw₂).symm
  obtain rfl : k₂ = k := by
    rw [hwraps.unwrap hotp] at hk₂
    exact (Option.some.inj hk₂).symm
  have hread := unwrapExported_create hotp hwraps.1 hrewrapped
  intro store' u' inputs' iv'
  have heq : WrappedKeyStore.keyStoreImportExported otp store' (.structures m
      rewrapped.header rewrapped.cipherParameters (rewrapped.ciphertext ++
        rewrapped.signature.toList)) u' inputs' iv' =
      WrappedKeyStore.keyStoreImportStoredKey otp store' k₂ u' inputs' iv' := by
    rw [WrappedKeyStore.keyStoreImportExported, hread]
  refine ⟨heq, fun key' store'' h => ?_⟩
  rw [heq] at h
  obtain ⟨w', hwraps', hfills'⟩ := WrappedKeyStore.keyStoreImportStoredKey_ok h
  refine ⟨w', ?_, ?_, hwraps'.unwrap hotp⟩
  · rw [hfills'.objects, Function.update_self]
  · rw [hfills'.objects, Function.update_self]

/-- Functions of `otp.c` with a cipher that is its own inverse, and one MAC for all keys. -/
def xorOtp : Otp where
  wrapAesCbc _ _ inp := some (inp.map (· ^^^ 90))
  unwrapAesCbc _ _ inp := some (inp.map (· ^^^ 90))
  hmacSha256 _ _ _ _ := some (.replicate 32 7)

theorem xorOtp_inverts : xorOtp.Inverts := by
  intro inputs iv inp out _ h
  cases h
  have hcancel : ∀ b : UInt8, b ^^^ 90 ^^^ 90 = b := by
    intro b
    rw [UInt8.xor_assoc, UInt8.xor_self, UInt8.xor_zero]
  constructor
  · rw [List.length_map]
  · simp only [xorOtp, List.map_map, Function.comp_def, hcancel, List.map_id']

def cacheableKey : StoredKey where
  header := {
    rights := ⟨saUsageBitMask .cacheable, 0#64, 0, 2 ^ 63, [allMatch], .replicate 64 0⟩
    type := .symmetric
    typeParameters := .zero
    size := 18 }
  key := List.replicate 18 3

def noWrappedKeys : WrappedKeyStore := (objectStoreInit 32).get objectStoreInit_isSome

def cacheableStore : WrappedKeyStore :=
  (WrappedKeyStore.keyStoreImportStoredKey xorOtp noWrappedKeys cacheableKey (.ofByte 1)
    exportDerivationInputs (.replicate 16 1)).2.2

theorem keyStoreImportExported_export_cacheable : ∃ n exported,
    (WrappedKeyStore.keyStoreExport xorOtp cacheableStore 31 none (some 1776) (.ofByte 1)
      (.replicate 16 2)).1 = .ok (n, some exported) ∧
    ∀ (store' : WrappedKeyStore) (u' : SaUuid) (inputs' : DerivationInputs)
      (iv' : Vector UInt8 16),
      WrappedKeyStore.keyStoreImportExported xorOtp store' exported u' inputs' iv' =
        WrappedKeyStore.keyStoreImportStoredKey xorOtp store' cacheableKey u' inputs' iv' ∧
      ∀ key' store'', WrappedKeyStore.keyStoreImportExported xorOtp store' exported u' inputs' iv' =
          (.ok, key', store'') →
        ∃ w', (store''.objects key').object = some w' ∧
          (store''.objects key').ownerUuid = u' ∧
          wrappedKeyUnwrap xorOtp w' = some cacheableKey := by
  have himport : WrappedKeyStore.keyStoreImportStoredKey xorOtp noWrappedKeys cacheableKey
      (.ofByte 1) exportDerivationInputs (.replicate 16 1) = (.ok, 31, cacheableStore) :=
    Prod.ext (by decide +kernel) (Prod.ext (by decide +kernel) rfl)
  have h : ((WrappedKeyStore.keyStoreExport xorOtp cacheableStore 31 none (some 1776) (.ofByte 1)
      (.replicate 16 2)).1.toOption.bind Prod.snd).isSome = true := by
    decide +kernel
  obtain ⟨exported, h⟩ := Option.isSome_iff_exists.1 h
  obtain ⟨⟨n, _⟩, hr, rfl⟩ := Option.bind_eq_some_iff.1 h
  have hexport := Except.eq_ok_of_toOption hr
  exact ⟨n, exported, hexport, keyStoreImportExported_export xorOtp xorOtp_inverts noWrappedKeys
    cacheableStore cacheableStore cacheableKey 31 (.ofByte 1) (.ofByte 1) exportDerivationInputs
    (.replicate 16 1) (.replicate 16 2) none (some 1776) n exported himport rfl hexport⟩

end TaSecureApi
