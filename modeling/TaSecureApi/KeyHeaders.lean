import TaSecureApi.KeyImports
import TaSecureApi.KeyAncestry
import TaSecureApi.StoreInvariant
import TaSecureApi.ContainerTaLists

namespace TaSecureApi
set_option autoImplicit true
open Transition Wp

def modulusBytes (bits : Nat) : Nat := (bits + 7) / 8

/-- The stored key is what its header says. -/
def StoredKey.AsHeaderSays (pkcs8 : Pkcs8) (k : StoredKey) : Prop :=
  match k.header.type with
  | .symmetric => k.header.size = k.key.length ∧ sym128KeySize ≤ k.header.size ∧
      k.header.size ≤ symMaxKeySize
  | .rsa => validRsaSize k.header.size = true ∧
      ∃ bits, pkcs8 k.key = some (.rsa bits) ∧ modulusBytes bits = k.header.size
  | .ec => ∃ curve, k.header.typeParameters = .curve curve ∧
      pkcs8 k.key = some (.ec (some curve)) ∧ k.header.size = ecKeySizeFromCurve curve
  | .dh => ∃ p g, k.header.typeParameters = .dhParameters p g ∧
      pkcs8 k.key = some (.dh (bigNum p) (bigNum g)) ∧
      (Nat.digits 256 (bigNum p)).length = k.header.size

/-- An RSA key that has one of the sizes when its bits are divided by 8 has that many whole bytes.
-/
def WholeBytes (pkcs8 : Pkcs8) (key : List UInt8) : Prop :=
  ∀ bits, pkcs8 key = some (.rsa bits) → validRsaSize (bits / 8) = true → bits % 8 = 0

section Creations

variable {pkcs8 : Pkcs8} {k : StoredKey}

theorem storedKeyCreate_symmetric
    (h : storedKeyCreate rights parent .symmetric typeParameters size inp = .ok k)
    (hsize : size = inp.length) : k.AsHeaderSays pkcs8 := by
  obtain ⟨hsupports, -, rfl⟩ := storedKeyCreate_ok h
  have hvalid : 16 ≤ size ∧ size ≤ 512 := by
    simp [keyTypeSupportsAny, keyTypeSupportsAes, keyTypeSupportsHmac, keyTypeSupportsRsa,
      keyTypeSupportsEc, keyTypeSupportsDh, validAesSize, validHmacSize] at hsupports
    omega
  exact ⟨hsize, hvalid⟩

/-- A stored RSA key whose size was made by division is what it says if its bits make whole bytes,
and only then. -/
theorem storedKeyCreate_rsa (h : storedKeyCreate rights parent .rsa typeParameters
    (rsaValidatePrivate pkcs8 inp) inp = .ok k) : k.AsHeaderSays pkcs8 ↔ WholeBytes pkcs8 inp := by
  obtain ⟨hsupports, -, rfl⟩ := storedKeyCreate_ok h
  have hvalid : validRsaSize (rsaValidatePrivate pkcs8 inp) = true := by
    simpa [keyTypeSupportsAny, keyTypeSupportsAes, keyTypeSupportsHmac, keyTypeSupportsRsa,
      keyTypeSupportsEc, keyTypeSupportsDh] using hsupports
  obtain ⟨bits, hparse⟩ : ∃ bits, pkcs8 inp = some (.rsa bits) := by
    unfold rsaValidatePrivate at hvalid
    split at hvalid
    · exact ⟨_, by assumption⟩
    · cases hvalid
  have hsize : rsaValidatePrivate pkcs8 inp = bits / 8 := by
    simp only [rsaValidatePrivate, hparse]
  rw [hsize] at hvalid
  constructor
  · intro ⟨_, bits', hparse', hbits'⟩ bits'' hparse'' _
    simp only [hparse, Option.some.injEq, PrivateKey.rsa.injEq] at hparse' hparse''
    subst hparse' hparse''
    dsimp only at hbits'
    rw [hsize, modulusBytes] at hbits'
    omega
  · intro hwhole
    have hbits := hwhole bits hparse hvalid
    refine ⟨by dsimp only; rwa [hsize], bits, hparse, ?_⟩
    dsimp only
    rw [hsize, modulusBytes]
    omega

theorem storedKeyCreate_ec (h : storedKeyCreate rights parent .ec
    (curve.elim .zero SaTypeParameters.curve) (ecValidatePrivate pkcs8 curve inp) inp = .ok k)
    (hne : ecValidatePrivate pkcs8 curve inp ≠ 0) : k.AsHeaderSays pkcs8 := by
  obtain ⟨-, -, rfl⟩ := storedKeyCreate_ok h
  cases curve with
  | none => exact absurd rfl hne
  | some curve =>
    cases hparse : pkcs8 inp with
    | none =>
      simp only [ecValidatePrivate, hparse] at hne
      exact absurd rfl hne
    | some key =>
      cases key with
      | ec other =>
        cases other with
        | none =>
          simp only [ecValidatePrivate, hparse] at hne
          exact absurd rfl hne
        | some other =>
          by_cases hcurve : other = curve
          · subst hcurve
            exact ⟨other, rfl, hparse, by simp only [ecValidatePrivate, hparse, if_true]⟩
          · simp only [ecValidatePrivate, hparse, if_neg hcurve] at hne
            exact absurd rfl hne
      | _ =>
        simp only [ecValidatePrivate, hparse] at hne
        exact absurd rfl hne

theorem importKey_asHeaderSays
    (h : importKey pkcs8 rights wrappingKeyRights keyType parameters inp = .ok k)
    (hwhole : keyType = .rsa → WholeBytes pkcs8 inp) : k.AsHeaderSays pkcs8 := by
  unfold importKey at h
  split at h
  · cases h
  · cases h
  · dsimp only at h
    split_ifs at h with hsize
    exact storedKeyCreate_ec h hsize
  · dsimp only at h
    split_ifs at h
    exact (storedKeyCreate_rsa h).2 (hwhole rfl)
  · exact storedKeyCreate_symmetric h rfl

theorem bigNum_length : (Nat.digits 256 (bigNum p)).length = p.length ↔ p.head? ≠ some 0 := by
  have hdigits (bytes : List UInt8) : ∀ digit ∈ bytes.map UInt8.toNat, digit < 256 := by
    intro digit hdigit
    obtain ⟨byte, -, rfl⟩ := List.mem_map.1 hdigit
    exact byte.toNat_lt
  cases p with
  | nil => simp [bigNum]
  | cons byte p =>
    rw [List.head?_cons, ne_eq, Option.some_inj]
    constructor
    · rintro hlength rfl
      have hzero : bigNum (0 :: p) = bigNum p := by
        simp [bigNum, Nat.ofDigits_append_zero]
      have hlt : bigNum p < 256 ^ p.length := by
        have h := Nat.ofDigits_lt_base_pow_length (by decide) (hdigits p.reverse)
        rwa [List.length_map, List.length_reverse] at h
      have hle := (Nat.digits_length_le_iff (by decide) _).2 hlt
      rw [hzero, List.length_cons] at hlength
      omega
    · intro hbyte
      unfold bigNum
      rw [Nat.digits_ofDigits 256 (by decide) _ (hdigits _), List.length_map, List.length_reverse]
      intro _ hlast
      simp only [List.reverse_cons, List.map_append, List.map_cons, List.map_nil,
        List.getLast_append_singleton] at hlast
      exact hbyte (UInt8.toNat_inj.1 hlast)

end Creations

section Imports

variable {libraries : Libraries} {k : StoredKey}

theorem importSymmetricBytes_asHeaderSays (h : importSymmetricBytes rights inp = .ok k) :
    k.AsHeaderSays pkcs8 := by
  simp only [importSymmetricBytes, bind_eq_ok] at h
  obtain ⟨_, -, h⟩ := h
  exact storedKeyCreate_symmetric h rfl

theorem importEcPrivateBytes_asHeaderSays
    (h : importEcPrivateBytes pkcs8 rights curve inp = .ok k) : k.AsHeaderSays pkcs8 := by
  simp only [importEcPrivateBytes, bind_eq_ok, require_eq_ok, exists_const] at h
  obtain ⟨hsize, h⟩ := h
  exact storedKeyCreate_ec h hsize

theorem importRsaPrivateKeyInfo_asHeaderSays
    (h : importRsaPrivateKeyInfo pkcs8 rights inp = .ok k) :
    k.AsHeaderSays pkcs8 ↔ WholeBytes pkcs8 inp := by
  simp only [importRsaPrivateKeyInfo, bind_eq_ok] at h
  obtain ⟨_, -, _, -, h⟩ := h
  exact storedKeyCreate_rsa h

theorem socCreateKey_asHeaderSays (h : socCreateKey pkcs8 kind rights key = .ok (.ok, some k))
    (hwhole : kind.keyType = .rsa → WholeBytes pkcs8 key) : k.AsHeaderSays pkcs8 := by
  have hcreate {typeParameters : SaTypeParameters} (h : (do
      let storedKey ← liftStatus (storedKeyCreate rights none kind.keyType typeParameters
        kind.keySize key)
      (pure (.ok, some storedKey) : Except Stop (SaStatus × Option StoredKey))) =
      .ok (.ok, some k)) :
      storedKeyCreate rights none kind.keyType typeParameters kind.keySize key = .ok k := by
    simp only [bind_eq_ok, liftStatus_eq_ok] at h
    obtain ⟨storedKey, hcreate, h⟩ := h
    cases h
    exact hcreate
  unfold socCreateKey at h
  dsimp only at h
  split at h
  · rename_i htype
    simp only [bind_eq_ok, demand_eq_ok, exists_const] at h
    obtain ⟨-, hsize, h⟩ := h
    have h := hcreate (bind_eq_ok.2 h)
    rw [htype, ← hsize] at h
    exact (storedKeyCreate_rsa h).2 (hwhole htype)
  · rename_i htype
    split at h
    · cases h
    · rename_i hne
      simp only [bind_eq_ok, demand_eq_ok, exists_const] at h
      obtain ⟨hsize, h⟩ := h
      have h := hcreate (bind_eq_ok.2 h)
      rw [htype, ← hsize] at h
      exact storedKeyCreate_ec h hne
  · rename_i htype
    simp only [bind_eq_ok, demand_eq_ok, exists_const] at h
    obtain ⟨hsize, h⟩ := h
    have h := hcreate (bind_eq_ok.2 h)
    rw [htype] at h
    exact storedKeyCreate_symmetric h hsize.symm
  · cases h

/-- The key in a SoC container, where its type is RSA, has a modulus of whole bytes. -/
def SocWholeBytes (libraries : Libraries) (unwritten : Unwritten) (inp : List UInt8) : Prop :=
  ∀ unpacked payload aad wrappingKey kind key,
    SocTagged libraries unwritten inp unpacked payload aad wrappingKey →
    getKeyTypeAndSize unwritten payload.keyTypeString = some kind → kind.keyType = .rsa →
    libraries.gcm.decrypt wrappingKey payload.iv aad payload.encryptedKey = some key →
    WholeBytes libraries.pkcs8 key

theorem importSoc_asHeaderSays
    (h : importSoc libraries unwritten inp parameters = some (.ok, some k))
    (hwhole : SocWholeBytes libraries unwritten inp) : k.AsHeaderSays libraries.pkcs8 := by
  unfold importSoc at h
  split_ifs at h
  · cases h
  · obtain ⟨unpacked, payload, aad, wrappingKey, htagged,
      ⟨kind, key, rights, hkind, hdecrypt, -, hcreate⟩, -⟩ := socKcUnwrap_eq_ok.1 h
    apply socCreateKey_asHeaderSays hcreate
    intro htype
    exact hwhole _ _ _ _ _ _ htagged hkind htype hdecrypt

theorem typejUnwrap_asHeaderSays
    (h : typejUnwrap libraries unwritten inp storedKeyMac storedKeyEncryption =
      some (.ok, some k)) : k.AsHeaderSays libraries.pkcs8 := by
  rw [typejUnwrap_stages, Unwrapped.of_eq_key] at h
  simp only [bind_eq_ok] at h
  obtain ⟨stage, -, tas, -, h⟩ := h
  obtain ⟨inp, h⟩ := unwrapKeyVersion_imports h
  exact importKey_asHeaderSays h (by rintro ⟨⟩)

end Imports

section Generation

variable {pkcs8 : Pkcs8} {generator : Generator pkcs8} {k : StoredKey}

theorem generateSymmetric_asHeaderSays
    (h : generateSymmetric generator rights keyLength = .ok k) : k.AsHeaderSays pkcs8 := by
  simp only [generateSymmetric, bind_eq_ok] at h
  obtain ⟨_, -, generated, hgenerated, h⟩ := h
  exact storedKeyCreate_symmetric h (generator.randBytes_length hgenerated).symm

theorem ecGenerateKey_asHeaderSays (h : ecGenerateKey generator rights curve = .ok k) :
    k.AsHeaderSays pkcs8 := by
  cases curve with
  | none => cases h
  | some curve =>
    simp only [ecGenerateKey, bind_eq_ok] at h
    obtain ⟨key, hkey, h⟩ := h
    obtain ⟨-, -, rfl⟩ := storedKeyCreate_ok h
    exact ⟨curve, rfl, generator.ecKey_parses hkey, rfl⟩

/-- The number of bits that is asked for is right for every size that is accepted. -/
theorem rsaGenerateKey_asHeaderSays
    (h : rsaGenerateKey generator rights modulusLength = .ok k) : k.AsHeaderSays pkcs8 := by
  simp only [rsaGenerateKey, bind_eq_ok] at h
  obtain ⟨key, hkey, h⟩ := h
  obtain ⟨bits, hbits, hparse⟩ := generator.rsaKey_parses hkey
  obtain ⟨hsupports, -, rfl⟩ := storedKeyCreate_ok h
  have hvalid : validRsaSize modulusLength = true := by
    simpa [keyTypeSupportsAny, keyTypeSupportsAes, keyTypeSupportsHmac, keyTypeSupportsRsa,
      keyTypeSupportsEc, keyTypeSupportsDh] using hsupports
  have hlt : modulusLength < 2 ^ 31 := by
    simp only [validRsaSize, Bool.or_eq_true, decide_eq_true_eq] at hvalid
    omega
  rw [castInt_of_lt hlt] at hbits
  exact ⟨hvalid, bits, hparse, by unfold modulusBytes; dsimp only; omega⟩

/-- A generated DH key is what it says if the modulus has no leading zero bytes, and only then. -/
theorem generateDh_asHeaderSays (h : generateDh generator rights p g = .ok k) :
    k.AsHeaderSays pkcs8 ↔ p.head? ≠ some 0 := by
  simp only [generateDh, dhGenerateKey, bind_eq_ok] at h
  obtain ⟨_, -, _, -, _, -, _, -, key, hkey, h⟩ := h
  obtain ⟨-, -, rfl⟩ := storedKeyCreate_ok h
  rw [← bigNum_length]
  constructor
  · rintro ⟨p', g', hparameters, _, hlength⟩
    cases hparameters
    exact hlength
  · intro hlength
    exact ⟨p, g, rfl, generator.dhKey_parses hkey, hlength⟩

end Generation

section Commands

variable {pkcs8 : Pkcs8} {world : World} {store : KeyStore} {s : CommandState} {k : StoredKey}

def CreatesFitting (pkcs8 : Pkcs8) (command : Command StoredKey) (s : CommandState) : Prop :=
  wp command (fun k _ => k.AsHeaderSays pkcs8) (fun _ _ => True) s

theorem computeSharedSecret_asHeaderSays (h : computeSharedSecret rights storedKey derive = .ok k) :
    k.AsHeaderSays pkcs8 := by
  simp only [computeSharedSecret, bind_eq_ok] at h
  obtain ⟨sharedSecret, -, h⟩ := h
  exact storedKeyCreate_symmetric h rfl

theorem kdfNetflixWrapping_asHeaderSays
    (h : kdfNetflixWrapping rights parentRights enc hmac kdf = .ok k) : k.AsHeaderSays pkcs8 := by
  simp only [kdfNetflixWrapping, bind_eq_ok] at h
  obtain ⟨_, -, _, -, wrappingKey, -, h⟩ := h
  exact storedKeyCreate_symmetric h (by simp)

theorem kdfNetflixSharedSecret_asHeaderSays {storedKeyIn : StoredKey}
    (h : kdfNetflixSharedSecret rightsEnc rightsHmac storedKeyIn sharedSecret kdf =
      .ok (some (enc, hmac))) : enc.AsHeaderSays pkcs8 ∧ hmac.AsHeaderSays pkcs8 := by
  simp only [kdfNetflixSharedSecret, bind_eq_ok] at h
  obtain ⟨_, -, keyBytes, -, h⟩ := h
  cases keyBytes with
  | none => cases h
  | some keyBytes =>
    simp only [bind_eq_ok] at h
    obtain ⟨enc', henc, hmac', hhmac, h⟩ := h
    cases h
    exact ⟨storedKeyCreate_symmetric henc (by simp), storedKeyCreate_symmetric hhmac (by simp)⟩

theorem keyDeriveFrom_fits : CreatesFitting pkcs8
    (keyDeriveFrom supports world store callerUuid rights parent parameters kdf) s := by
  simp only [CreatesFitting, keyDeriveFrom, wp_bind, wp_ofExcept, implies_true, and_true]
  intro _ _
  apply wp_keyStoreUnwrap
  · intro p hp _ _
    simp only [wp_bind, checkDerive, wp_checkRights, wp_check, wp_useKey, wp_ofExcept,
      implies_true, and_true]
    intro _ _ _ derived _ child hchild
    exact storedKeyCreate_symmetric hchild rfl
  · intro _ _
    trivial

/-- An unwrap, where no RSA key has a modulus of broken bytes among those that it can decrypt. -/
theorem keyUnwrapWith_fits
    (hwhole : request.keyType = .rsa → ∀ wrapping key,
      (store.objects request.wrappingKey).object = some wrapping →
      opened wrapping.key = .ok key → WholeBytes pkcs8 key) : CreatesFitting pkcs8
    (keyUnwrapWith supports world store pkcs8 callerUuid request parameters opened) s := by
  simp only [CreatesFitting, keyUnwrapWith, wp_bind, wp_ofExcept, implies_true, and_true]
  intro _ _
  apply wp_keyStoreUnwrap
  · intro p hp _ _
    simp only [wp_bind, checkUnwrap, wp_checkRights, wp_check, wp_useKey, wp_ofExcept,
      implies_true, and_true]
    intro _ _ key hkey child hchild
    exact importKey_asHeaderSays hchild fun htype => hwhole htype p key hp hkey
  · intro _ _
    trivial

theorem taSaKeyUnwrapRsa_fits : CreatesFitting pkcs8
    (taSaKeyUnwrapRsa world store pkcs8 callerUuid request inLength opened) s := by
  simp only [CreatesFitting, taSaKeyUnwrapRsa, wp_bind, wp_check, implies_true, and_true]
  intro _
  apply wp_keyStoreUnwrap
  · intro p hp _ _
    simp only [wp_bind, checkUnwrap, wp_checkRights, wp_check, wp_useKey, wp_ofExcept,
      implies_true, and_true]
    intro _ _ _ key _ child hchild
    exact importKey_asHeaderSays hchild (by rintro ⟨⟩)
  · intro _ _
    trivial

theorem taSaKeyUnwrapEc_fits : CreatesFitting pkcs8
    (taSaKeyUnwrapEc world store pkcs8 callerUuid request parameters inLength offset keyLength
      opened) s := by
  simp only [CreatesFitting, taSaKeyUnwrapEc, wp_bind, wp_check, wp_ofExcept, implies_true,
    and_true]
  intro _ _ _
  apply wp_keyStoreUnwrap
  · intro p hp _ _
    simp only [wp_bind, checkUnwrap, wp_checkRights, wp_check, wp_useKey, wp_ofExcept,
      implies_true, and_true]
    intro _ _ child hchild
    simp only [unwrapEc, bind_eq_ok] at hchild
    obtain ⟨_, -, _, -, _, -, _, -, _, -, _, -, _, -, hchild⟩ := hchild
    exact importKey_asHeaderSays hchild (by rintro ⟨⟩)
  · intro _ _
    trivial

theorem keyExchangeWith_fits : CreatesFitting pkcs8
    (keyExchangeWith supports world store callerUuid rights privateKey derive) s := by
  simp only [CreatesFitting, keyExchangeWith, wp_bind]
  apply wp_keyStoreUnwrap
  · intro p hp _ _
    simp only [wp_bind, checkExchange, wp_checkRights, wp_check, wp_useKey, wp_ofExcept,
      implies_true, and_true]
    intro _ _ child hchild
    exact computeSharedSecret_asHeaderSays hchild
  · intro _ _
    trivial

theorem taSaKeyDeriveNetflix_fits : CreatesFitting pkcs8
    (taSaKeyDeriveNetflix world store callerUuid rights kenc khmac kdf) s := by
  simp only [CreatesFitting, taSaKeyDeriveNetflix, wp_bind]
  apply wp_keyStoreUnwrap
  · intro enc _ _ _
    simp only [wp_bind, checkDerive, wp_checkRights, wp_check, implies_true, and_true]
    intro _ _
    apply wp_keyStoreUnwrap
    · intro hmac _ _ _
      simp only [wp_bind, wp_checkRights, wp_check, wp_useKey, wp_ofExcept, implies_true, and_true]
      intro _ _ child hchild
      exact kdfNetflixWrapping_asHeaderSays hchild
    · intro _ _
      trivial
  · intro _ _
    trivial

theorem taSaKeyExchangeNetflixDh_fits :
    wp (taSaKeyExchangeNetflixDh world store callerUuid request kdf)
      (fun keys _ => keys.enc.AsHeaderSays pkcs8 ∧ keys.hmac.AsHeaderSays pkcs8 ∧
        keys.wrap.AsHeaderSays pkcs8) (fun _ _ => True) s := by
  simp only [taSaKeyExchangeNetflixDh, wp_bind]
  apply wp_keyStoreUnwrap
  · intro p _ _ _
    simp only [wp_bind, checkDerive, wp_checkRights, wp_check, implies_true, and_true]
    intro _ _
    apply wp_keyStoreUnwrap
    · intro privateKey _ _ _
      simp only [wp_bind, checkExchange, wp_checkRights, wp_check, wp_useKey, wp_ofExcept,
        wp_pure, implies_true, and_true]
      intro _ _ sharedSecret _ made hmade keys hkeys wrap hwrap
      rw [some_of_elim hkeys] at hmade
      obtain ⟨henc, hhmac⟩ := kdfNetflixSharedSecret_asHeaderSays hmade
      exact ⟨henc, hhmac, kdfNetflixWrapping_asHeaderSays hwrap⟩
    · intro _ _
      trivial
  · intro _ _
    trivial

theorem importTypej_fits {libraries : Libraries} :
    wp (importTypej libraries unwritten world store callerUuid inp khmac kcipher)
      (fun unwrapped _ => ∀ k, unwrapped = some (.ok, some k) → k.AsHeaderSays libraries.pkcs8)
      (fun _ _ => True) s := by
  simp only [importTypej, wp_bind]
  apply wp_keyStoreUnwrap
  · intro mac _ _ _
    simp only [wp_bind, checkSign, wp_checkRights, wp_check, implies_true, and_true]
    intro _ _
    apply wp_keyStoreUnwrap
    · intro enc _ _ _
      simp only [wp_bind, checkUnwrap, wp_checkRights, wp_check, wp_useKey, wp_pure, implies_true,
        and_true]
      intro _ _ k hk
      exact typejUnwrap_asHeaderSays hk
    · intro _ _
      trivial
  · intro _ _
    trivial

end Commands

section Stores

variable {pkcs8 : Pkcs8} {store : KeyStore} {k : StoredKey}

/-- Every key of the store has a header in the right format, and is what it says. -/
def KeyStore.AllFit (pkcs8 : Pkcs8) (store : KeyStore) : Prop :=
  ∀ key k, (store.objects key).object = some k →
    validateHeaderFormat k.header = true ∧ k.AsHeaderSays pkcs8

theorem keyStoreImportStoredKey_fits (hI : store.AllFit pkcs8) (hk : k.AsHeaderSays pkcs8) :
    (keyStoreImportStoredKey store k u).2.2.AllFit pkcs8 := by
  unfold keyStoreImportStoredKey
  split_ifs with hinvalid
  · exact hI
  · obtain ⟨hrights, htype⟩ := not_or.1 hinvalid
    rcases objectStoreAdd_cases store (some k) (some u) with
      ⟨status, slot, h, -⟩ | ⟨o, u, slot, store', ho, -, h, -, -, hfills⟩
    · rw [h]
      exact hI
    · rw [h]
      cases ho
      intro key k' hk'
      rw [hfills.objects, Function.update_apply] at hk'
      split_ifs at hk' with hslot
      · cases hk'
        exact ⟨by simp_all [validateHeaderFormat], hk⟩
      · exact hI key k' hk'

theorem keyStoreRemove_fits (hI : store.AllFit pkcs8) :
    (keyStoreRemove store key u).2.AllFit pkcs8 := by
  rcases objectStoreRemove_cases store key u with ⟨status, h, -⟩ | ⟨o, store', h, -, -, hd⟩
  · rw [keyStoreRemove, h]
    exact hI
  · rw [keyStoreRemove, h]
    intro key' k hk
    rw [hd.objects, Function.update_apply] at hk
    split_ifs at hk
    exact hI key' k hk

end Stores

section Runs

variable {libraries : Libraries} {otp : Otp} {world : World} {pkcs8 : Pkcs8} {store : KeyStore}
  {keys keys' : KeyState} {σ σ' : KeyTraffic}

theorem KeyState.create_fits {command : Command StoredKey} (hI : keys.store.AllFit pkcs8)
    (h : CreatesFitting pkcs8 command ⟨keys.clock, []⟩) :
    (keys.create command u requested parent other).store.AllFit pkcs8 := by
  unfold create
  split
  · exact hI
  · rename_i child s hrun
    have himport := keyStoreImportStoredKey_fits (u := u) hI (h.of_ok hrun)
    split
    · rename_i hstore
      rwa [hstore] at himport
    · rename_i hstore
      rwa [hstore] at himport

theorem KeyState.importNetflix_fits {netflix : NetflixKeys} (hI : store.AllFit pkcs8)
    (henc : netflix.enc.AsHeaderSays pkcs8) (hhmac : netflix.hmac.AsHeaderSays pkcs8)
    (hwrap : netflix.wrap.AsHeaderSays pkcs8) :
    (importNetflix store u netflix).2.AllFit pkcs8 := by
  have hke := keyStoreImportStoredKey_fits (u := u) hI henc
  unfold importNetflix
  split
  · rename_i ke store₁ h₁
    rw [h₁] at hke
    have hkh := keyStoreImportStoredKey_fits (u := u) hke hhmac
    split
    · rename_i kh store₂ h₂
      rw [h₂] at hkh
      have hkw := keyStoreImportStoredKey_fits (u := u) hkh hwrap
      split
      · rename_i h₃
        rwa [h₃] at hkw
      · rename_i h₃
        rw [h₃] at hkw
        exact keyStoreRemove_fits (keyStoreRemove_fits hkw)
    · rename_i h₂
      rw [h₂] at hkh
      exact keyStoreRemove_fits hkh
  · rename_i h₁
    rwa [h₁] at hke

theorem KeyState.exchangeNetflixDh_fits (hI : keys.store.AllFit pkcs8) :
    (keys.exchangeNetflixDh world u request kdf).store.AllFit pkcs8 := by
  unfold exchangeNetflixDh
  dsimp only
  split
  · exact hI
  · rename_i netflix s hrun
    obtain ⟨henc, hhmac, hwrap⟩ : netflix.enc.AsHeaderSays pkcs8 ∧
        netflix.hmac.AsHeaderSays pkcs8 ∧ netflix.wrap.AsHeaderSays pkcs8 :=
      taSaKeyExchangeNetflixDh_fits.of_ok hrun
    have himport := importNetflix_fits (u := u) hI henc hhmac hwrap
    split
    · rename_i h
      rwa [h] at himport
    · rename_i h
      rwa [h] at himport

/-- The RSA keys that an unwrap can decrypt have moduli of whole bytes. -/
def KeyState.UnwrapsWholeBytes (pkcs8 : Pkcs8) (keys : KeyState) (request : UnwrapRequest)
    (opened : List UInt8 → Except SaStatus (List UInt8)) : Prop :=
  request.keyType = .rsa → ∀ wrapping key, keys.keyAt request.wrappingKey = some wrapping →
    opened wrapping.key = .ok key → WholeBytes pkcs8 key

/-- No private key of the command is an RSA key whose bits do not make whole bytes, or has a modulus
with a leading zero byte; and a container that is accepted as an exported key was exported. -/
def KeyTraffic.Regular (libraries : Libraries) (otp : Otp) (σ : KeyTraffic) :
    KeyRequest libraries.pkcs8 → Prop
  | .importRsa _ _ inp => WholeBytes libraries.pkcs8 inp
  | .importExported _ exported => ∀ k, unwrapExported otp exported = some k → exported ∈ σ.exports
  | .importSoc _ unwritten inp _ => SocWholeBytes libraries unwritten inp
  | .generateDh _ _ _ p _ => p.head? ≠ some 0
  | .act (.unwrapAes _ request _ opened) | .act (.unwrapChacha20 _ request _ opened) =>
    σ.keys.UnwrapsWholeBytes libraries.pkcs8 request opened
  | _ => True

/-- Every key in the store, and every key that was exported, is what its header says. -/
structure KeyTraffic.AllFit (libraries : Libraries) (otp : Otp) (σ : KeyTraffic) : Prop where
  keys : σ.keys.store.AllFit libraries.pkcs8
  exports : ∀ exported ∈ σ.exports, ∀ k, unwrapExported otp exported = some k →
    k.AsHeaderSays libraries.pkcs8

theorem KeyState.step_fits (hI : keys.store.AllFit libraries.pkcs8)
    (hregular : KeyTraffic.Regular libraries otp ⟨keys, exports⟩ (.act a))
    (hadd : ∀ u k, a ≠ .add u k) (h : keys.step libraries.pkcs8 world a = some keys') :
    keys'.store.AllFit libraries.pkcs8 := by
  cases a with
  | add u k => exact absurd rfl (hadd u k)
  | remove callerUuid key =>
    cases h
    exact keyStoreRemove_fits hI
  | deriveRootKeyLadder callerUuid rights parameters ladder =>
    cases h
    apply create_fits hI
    simp only [CreatesFitting, taSaKeyDeriveRootKeyLadder, wp_bind, wp_ofExcept, implies_true,
      and_true]
    intro _ _ derived _ child hchild
    exact storedKeyCreate_symmetric hchild (by simp)
  | deriveAnsiX963 | deriveConcat | deriveCmac | deriveHkdf =>
    cases h
    exact create_fits hI keyDeriveFrom_fits
  | deriveNetflix callerUuid rights kenc khmac kdf =>
    cases h
    exact create_fits hI taSaKeyDeriveNetflix_fits
  | unwrapAes | unwrapChacha20 =>
    cases h
    exact create_fits hI (keyUnwrapWith_fits hregular)
  | unwrapRsa =>
    cases h
    exact create_fits hI taSaKeyUnwrapRsa_fits
  | unwrapEc =>
    cases h
    exact create_fits hI taSaKeyUnwrapEc_fits
  | exchangeDh | exchangeEcdh =>
    cases h
    exact create_fits hI keyExchangeWith_fits
  | exchangeNetflixDh =>
    cases h
    exact exchangeNetflixDh_fits hI

theorem KeyTraffic.store_fits {made : Except SaStatus StoredKey} (hI : σ.AllFit libraries otp)
    (h : ∀ k, made = .ok k → k.AsHeaderSays libraries.pkcs8) :
    (σ.store u made).AllFit libraries otp := by
  cases made with
  | error e => exact hI
  | ok k => exact ⟨keyStoreImportStoredKey_fits hI.keys (h k rfl), hI.exports⟩

theorem KeyTraffic.storeUnwrapped_fits {unwrapped : Unwrapped} (hI : σ.AllFit libraries otp)
    (h : ∀ k, unwrapped = some (.ok, some k) → k.AsHeaderSays libraries.pkcs8)
    (hσ : σ.storeUnwrapped u unwrapped = some σ') : σ'.AllFit libraries otp := by
  unfold storeUnwrapped at hσ
  split at hσ
  · cases hσ
  · cases hσ
    apply store_fits hI
    intro k hk
    cases hk
    exact h _ rfl
  · cases hσ
    exact hI

theorem keyStoreExport_fits (hotp : otp.Inverts) (hI : store.AllFit libraries.pkcs8)
    (h : keyStoreExport otp store key mixin out u iv = .ok (n, some exported))
    (hk : unwrapExported otp exported = some k) : k.AsHeaderSays libraries.pkcs8 := by
  simp only [keyStoreExport, bind_eq_ok] at h
  obtain ⟨_, -, m, -, h⟩ := h
  rcases objectStoreAcquire_cases store key (some u) with
    ⟨status, ha, hne⟩ | ⟨storedKey, u', -, -, -, hkey, -, ha⟩
  · rw [ha] at h
    cases status with
    | ok => exact absurd rfl hne
    | _ => cases h
  · rw [ha] at h
    obtain ⟨hvalid, hfits⟩ := hI key storedKey hkey
    cases out with
    | none =>
      simp only [bind_eq_ok] at h
      obtain ⟨_, -, h⟩ := h
      cases h
    | some outLength =>
      simp only [bind_eq_ok] at h
      obtain ⟨_, -, _, -, rewrapped, hrewrapped, h⟩ := h
      cases h
      rw [unwrapExported_create hotp hvalid (Except.elim_ok hrewrapped)] at hk
      cases hk
      exact hfits

theorem KeyTraffic.step_fits (hotp : otp.Inverts) (hI : σ.AllFit libraries otp)
    (hregular : σ.Regular libraries otp a) (h : σ.step libraries otp world a = some σ') :
    σ'.AllFit libraries otp := by
  cases a with
  | importSymmetric u rights inp =>
    cases h
    exact store_fits hI fun k hk => importSymmetricBytes_asHeaderSays hk
  | importEc u rights curve inp =>
    cases h
    exact store_fits hI fun k hk => importEcPrivateBytes_asHeaderSays hk
  | importRsa u rights inp =>
    cases h
    exact store_fits hI fun k hk => (importRsaPrivateKeyInfo_asHeaderSays hk).2 hregular
  | importExported u exported =>
    cases h
    apply store_fits hI
    intro k hk
    have hk := Except.elim_ok hk
    exact hI.exports exported (hregular k hk) k hk
  | importSoc u unwritten inp parameters =>
    exact storeUnwrapped_fits hI (fun k hk => importSoc_asHeaderSays hk hregular) h
  | importTypej u unwritten inp khmac kcipher =>
    simp only [step] at h
    split at h
    · cases h
      exact ⟨hI.keys, hI.exports⟩
    · rename_i unwrapped s hrun
      have hI' : AllFit libraries otp { σ with keys.clock := s.clock } := ⟨hI.keys, hI.exports⟩
      exact storeUnwrapped_fits hI' (importTypej_fits.of_ok hrun) h
  | generateSymmetric u generator rights keyLength =>
    cases h
    exact store_fits hI fun k hk => generateSymmetric_asHeaderSays hk
  | generateEc u generator rights curve =>
    cases h
    exact store_fits hI fun k hk => ecGenerateKey_asHeaderSays hk
  | generateRsa u generator rights modulusLength =>
    cases h
    exact store_fits hI fun k hk => rsaGenerateKey_asHeaderSays hk
  | generateDh u generator rights p g =>
    cases h
    exact store_fits hI fun k hk => (generateDh_asHeaderSays hk).2 hregular
  | exportKey u key mixin out iv =>
    simp only [step] at h
    split at h
    · rename_i exported hexport
      cases h
      refine ⟨hI.keys, fun e he k hk => ?_⟩
      obtain rfl | he := List.mem_cons.1 he
      · exact keyStoreExport_fits hotp hI.keys hexport hk
      · exact hI.exports e he k hk
    · cases h
      exact hI
  | act action =>
    by_cases hadd : ∃ u k, action = .add u k
    · obtain ⟨u, k, rfl⟩ := hadd
      cases h
    · have hadd : ∀ u k, action ≠ .add u k := fun u k h => hadd ⟨u, k, h⟩
      have h : (σ.keys.step libraries.pkcs8 world action).map
          (fun keys => { σ with keys }) = some σ' := by
        cases action with
        | add u k => exact absurd rfl (hadd u k)
        | _ => exact h
      obtain ⟨keys, hkeys, rfl⟩ := Option.map_eq_some_iff.1 h
      exact ⟨KeyState.step_fits hI.keys hregular hadd hkeys, hI.exports⟩

end Runs

/-- After every run of key commands whose private keys are regular, every key in the store is what
its header says. -/
theorem keyHeaders_fit (libraries : Libraries) (otp : Otp) (hotp : otp.Inverts) (world : World)
    (count : UInt64) (store : KeyStore) (hstore : objectStoreInit count = some store)
    (exports : List ExportedKey)
    (hexports : ∀ exported ∈ exports, ∀ k, unwrapExported otp exported = some k →
      k.AsHeaderSays libraries.pkcs8)
    (requests : List (KeyRequest libraries.pkcs8)) (σ : KeyTraffic)
    (hregular : Meets (KeyTraffic.step libraries otp world) (KeyTraffic.Regular libraries otp)
      ⟨.start store, exports⟩ requests)
    (hrun : exec (KeyTraffic.step libraries otp world) ⟨.start store, exports⟩ requests = some σ) :
    ∀ key k, (σ.keys.store.objects key).object = some k → k.AsHeaderSays libraries.pkcs8 := by
  have hstart : KeyTraffic.AllFit libraries otp ⟨.start store, exports⟩ := by
    refine ⟨?_, hexports⟩
    intro key k hk
    obtain ⟨-, hempty, -⟩ := objectStoreInit_spec hstore
    rw [KeyState.start, hempty key] at hk
    cases hk
  have hσ : σ.AllFit libraries otp :=
    exec_invariant (fun _ _ _ hI hregular h => KeyTraffic.step_fits hotp hI hregular h) hstart
      hregular hrun
  intro key k hk
  exact (hσ.keys key k hk).2

def dhModulus : List UInt8 := .replicate 62 255 ++ [253, 199]

/-- Private keys of RSA with 1024 and 1025 bits, and of DH with that modulus. -/
def somePrivateKeys : Pkcs8
  | [1] => some (.rsa 1024)
  | [2] => some (.rsa 1025)
  | [3] => some (.dh (bigNum dhModulus) 2)
  | _ => none

/-- A generator that makes DH keys with that modulus. -/
def dhGenerator : Generator somePrivateKeys where
  randBytes length := .ok (.replicate length 7)
  rsaKey _ := .error .internalError
  ecKey _ := .error .internalError
  dhKey p g := if p = bigNum dhModulus ∧ g = 2 then .ok [3] else .error .invalidParameter
  randBytes_length h := by
    cases h
    exact List.length_replicate
  rsaKey_parses h := by cases h
  ecKey_parses h := by cases h
  dhKey_parses := by
    intro p g key h
    split_ifs at h with hgroup
    obtain ⟨rfl, rfl⟩ := hgroup
    cases h
    rfl

def firstKey (request : KeyRequest somePrivateKeys) : Option StoredKey :=
  (exec (KeyTraffic.step (plainLibraries [] somePrivateKeys) xorOtp fun _ => noOutputs)
    ⟨.start noKeys, []⟩ [request]).bind fun σ => σ.keys.keyAt 31

/-- A key of 1025 bits is stored with a size of 128 bytes, and a modulus with a leading zero byte
with one byte more than it has. -/
theorem keyHeaders_not_fit :
    (∃ k, firstKey (.importRsa (.ofByte 1) allRights [2]) = some k ∧
      ¬ k.AsHeaderSays somePrivateKeys) ∧
    ∃ k, firstKey (.generateDh (.ofByte 1) dhGenerator allRights (0 :: dhModulus) [2]) = some k ∧
      ¬ k.AsHeaderSays somePrivateKeys := by
  have hrsa : firstKey (.importRsa (.ofByte 1) allRights [2]) =
      some ⟨⟨allRights, .rsa, .zero, 128⟩, [2]⟩ := by
    decide +kernel
  have hdh : firstKey (.generateDh (.ofByte 1) dhGenerator allRights (0 :: dhModulus) [2]) =
      some ⟨⟨allRights, .dh, .dhParameters (0 :: dhModulus) [2], 65⟩, [3]⟩ := by
    decide +kernel
  refine ⟨⟨_, hrsa, ?_⟩, ⟨_, hdh, ?_⟩⟩
  · intro ⟨_, bits, hparse, hbits⟩
    cases hparse
    cases hbits
  · intro ⟨p, g, hparameters, _, hlength⟩
    cases hparameters
    exact bigNum_length.1 hlength rfl

/-- A run that imports keys of 16 bytes and of 1024 bits, and generates a DH key. -/
theorem keyHeaders_fit_run :
    ∃ σ, exec (KeyTraffic.step (plainLibraries [] somePrivateKeys) xorOtp fun _ => noOutputs)
      ⟨.start noKeys, []⟩
      [.importSymmetric (.ofByte 1) allRights (.replicate 16 7),
        .importRsa (.ofByte 1) allRights [1],
        .generateDh (.ofByte 1) dhGenerator allRights dhModulus [2]] = some σ ∧
      (σ.keys.keyAt 29).isSome ∧
      ∀ key k, (σ.keys.store.objects key).object = some k → k.AsHeaderSays somePrivateKeys := by
  have hrun : (exec (KeyTraffic.step (plainLibraries [] somePrivateKeys) xorOtp
      fun _ => noOutputs) ⟨.start noKeys, []⟩
      [.importSymmetric (.ofByte 1) allRights (.replicate 16 7),
        .importRsa (.ofByte 1) allRights [1],
        .generateDh (.ofByte 1) dhGenerator allRights dhModulus [2]]).any
      (fun σ => (σ.keys.keyAt 29).isSome) = true := by
    decide +kernel
  obtain ⟨σ, hσ, hkey⟩ := (Option.any_eq_true _ _).1 hrun
  refine ⟨σ, hσ, hkey, keyHeaders_fit (plainLibraries [] somePrivateKeys) xorOtp xorOtp_inverts
    (fun _ => noOutputs) 32 noKeys (Option.some_get _).symm [] (by simp) _ σ ?_ hσ⟩
  apply Meets.of_labels
  intro a ha σ'
  simp only [List.mem_cons, List.not_mem_nil, or_false] at ha
  obtain rfl | rfl | rfl := ha
  · trivial
  · intro bits hparse _
    cases hparse
    rfl
  · intro hzero
    cases hzero

end TaSecureApi
