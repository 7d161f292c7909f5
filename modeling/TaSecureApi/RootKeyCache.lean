import TaSecureApi.Kdf
import TaSecureApi.KeyContainer
import TaSecureApi.RootKeySelection
import TaSecureApi.Lib.History

namespace TaSecureApi
set_option autoImplicit true

/-- A key store file with what its secret bags decrypt to. -/
structure RootKeystore where
  authSafes : Option (List AuthSafe)
  pkcs8 : ShroudedKeys

def lookupDigit (byte : UInt8) : Option Nat :=
  if 0x30 ≤ byte ∧ byte ≤ 0x39 then some (byte - 0x30).toNat
  else if 0x41 ≤ byte ∧ byte ≤ 0x46 then some (byte - 0x41 + 10).toNat
  else if 0x61 ≤ byte ∧ byte ≤ 0x66 then some (byte - 0x61 + 10).toNat
  else none

/-- `convert_str_to_int`, which is 0 for what is not a number. -/
def convertStrToInt (str : List UInt8) : Nat :=
  if 16 < str.length then 0
  else
    (str.foldlM (fun value byte => (lookupDigit byte).map (value <<< 4 % 2 ^ 64 + ·)) 0).getD 0

/-- The static variables `key` and `key_length` of `get_common_root_key` and of `get_root_key`. -/
abbrev RootKeyCache := (commonRoot : Bool) → InOut

def RootKeyCache.empty : RootKeyCache := fun _ => ⟨fun _ => 0, 0⟩

/-- What a call has besides its arguments: memory for a key, memory for the stages of the key
ladder, and what a buffer for a name has in it before anything is written. -/
structure OtpResources where
  key : Bool
  stages : Bool
  uninitialized : Nat → UInt8

section Loading

variable (keystore : RootKeystore) (resources : OtpResources)

/-- The loading of `get_root_key` into its static variables, with the device id that must not
be 0. -/
def loadRootKey (key : InOut) : Option (Bool × InOut) :=
  let deviceName : InOut := ⟨overwrite resources.uninitialized [0], 16⟩
  (loadPkcs12SecretKey keystore.pkcs8 16 keystore.authSafes ⟨key, deviceName⟩).map
    fun (status, b) => (status && convertStrToInt b.name.contents ≠ 0, b.key)

def loadCommonRootKey (key : InOut) : Option (Bool × InOut) :=
  let name : InOut := ⟨overwrite resources.uninitialized (commonRootName ++ [0]), 50⟩
  (loadPkcs12SecretKey keystore.pkcs8 16 keystore.authSafes ⟨key, name⟩).map
    fun (status, b) => (status, b.key)

def giveKey (outLength : Nat) (key : InOut) : Option (List UInt8) :=
  if outLength < key.length then none else some key.contents

/-- The form of `get_root_key` and `get_common_root_key`: `out` says if there is a place for the
key. -/
def getKey (commonRoot : Bool) (load : InOut → Option (Bool × InOut)) (out : Bool)
    (outLength : Option Nat) : StateT RootKeyCache Option (Option (List UInt8)) := fun cache =>
  match outLength with
  | none => some (none, cache)
  | some outLength =>
    if out = false then some (none, cache)
    else if (cache commonRoot).length = 0 then
      (load (cache commonRoot)).map fun (loaded, key) =>
        (if loaded then giveKey outLength key else none, Function.update cache commonRoot key)
    else some (giveKey outLength (cache commonRoot), cache)

def getRootKey := getKey false (loadRootKey keystore resources)

def getCommonRootKey := getKey true (loadCommonRootKey keystore resources)

end Loading

/-- What the key ladder rests on besides the key store. -/
structure OtpAlgorithms where
  aes : Aes
  encryptCbc (key iv inp : List UInt8) : Option (List UInt8)
  gcm : Gcm
  hmacSha256 (key text : List UInt8) : Except SaStatus (Vector UInt8 32)

section Functions

variable (keystore : RootKeystore) (algorithms : OtpAlgorithms) (resources : OtpResources)

/-- The stages of `otp_hw_key_ladder`, from the root key on. -/
def ladderStages (inputs : KeyLadderInputs) (rootKey : Option (List UInt8)) :
    Except SaStatus (List UInt8) := do
  let rootKey ← rootKey.elim (.error .internalError) .ok
  require (resources.stages = true) .internalError
  let k1 ← unwrapAesEcbInternal algorithms.aes rootKey inputs.c1.toList
  let k2 ← unwrapAesEcbInternal algorithms.aes k1 inputs.c2.toList
  unwrapAesEcbInternal algorithms.aes k2 inputs.c3.toList

/-- `otp_hw_key_ladder` on the static variables. -/
def otpHwKeyLadderCached (rootKeyType : SaRootKeyType) (inputs : KeyLadderInputs) :
    StateT RootKeyCache Option (Except SaStatus (List UInt8)) :=
  match rootKeyType with
  | .unique =>
    ladderStages algorithms resources inputs <$> getRootKey keystore resources true (some 32)
  | .common =>
    ladderStages algorithms resources inputs <$> getCommonRootKey keystore resources true (some 32)
  | .undefined => pure (.error .invalidParameter)

/-- The form of the functions on a key of the ladder: behind the checks the key is derived, and then
it is used. -/
def withLadderKey (checked : Except SaStatus KeyLadderInputs) (rootKeyType : SaRootKeyType)
    (use : List UInt8 → Except SaStatus α) : StateT RootKeyCache Option (Except SaStatus α) :=
  match checked with
  | .error status => pure (.error status)
  | .ok inputs =>
    if resources.key = false then pure (.error .internalError)
    else (·.bind use) <$> otpHwKeyLadderCached keystore algorithms resources rootKeyType inputs

/-- `otp_root_key_ladder`; `out` says if there is a place for what it gives, as in the functions
below. -/
def otpRootKeyLadder (out : Bool) (rights : Option SaRights) (rootKeyType : SaRootKeyType)
    (c1 c2 c3 c4 : Option (Vector UInt8 16)) :
    StateT RootKeyCache Option (Except SaStatus StoredKey) :=
  let checked : Except SaStatus (KeyLadderInputs × SaRights × Vector UInt8 16) := do
    require (out = true) .nullParameter
    let rights ← requireNonNull rights
    let c1 ← requireNonNull c1
    let c2 ← requireNonNull c2
    let c3 ← requireNonNull c3
    let c4 ← requireNonNull c4
    pure (⟨c1, c2, c3⟩, rights, c4)
  withLadderKey keystore algorithms resources (checked.map Prod.fst) rootKeyType fun k3 => do
    let (_, rights, c4) ← checked
    let derived ← unwrapAesEcbInternal algorithms.aes k3 c4.toList
    storedKeyCreate rights none .symmetric .zero aesBlockSize derived

def checkCbc (out : Bool) (inputs : Option KeyLadderInputs) (inp iv : Option (List UInt8)) :
    Except SaStatus (KeyLadderInputs × List UInt8 × List UInt8) := do
  require (out = true) .nullParameter
  let inputs ← requireNonNull inputs
  let inp ← requireNonNull inp
  require (inp.length % aesBlockSize = 0) .invalidParameter
  let iv ← requireNonNull iv
  pure (inputs, inp, iv)

def otpWrapAesCbcCached (out : Bool) (inputs : Option KeyLadderInputs)
    (inp iv : Option (List UInt8)) : StateT RootKeyCache Option (Except SaStatus (List UInt8)) :=
  let checked := checkCbc out inputs inp iv
  withLadderKey keystore algorithms resources (checked.map Prod.fst) .unique fun key => do
    let (_, inp, iv) ← checked
    requireAes key inp
    (algorithms.encryptCbc key iv inp).elim (.error .internalError) .ok

def otpUnwrapAesCbcCached (out : Bool) (inputs : Option KeyLadderInputs)
    (wrapped iv : Option (List UInt8)) :
    StateT RootKeyCache Option (Except SaStatus (List UInt8)) :=
  let checked := checkCbc out inputs wrapped iv
  withLadderKey keystore algorithms resources (checked.map Prod.fst) .unique fun key => do
    let (_, wrapped, iv) ← checked
    unwrapAesCbcInternal algorithms.aes key iv wrapped

def otpUnwrapAesGcmCached (out : Bool) (inputs : Option KeyLadderInputs)
    (rootKeyType : SaRootKeyType) (wrapped iv aad tag : Option (List UInt8)) :
    StateT RootKeyCache Option (Except SaStatus (List UInt8)) :=
  let checked : Except SaStatus
      (KeyLadderInputs × List UInt8 × List UInt8 × List UInt8 × List UInt8) := do
    require (out = true) .nullParameter
    let inputs ← requireNonNull inputs
    let wrapped ← requireNonNull wrapped
    let iv ← requireNonNull iv
    let aad ← requireNonNull aad
    let tag ← requireNonNull tag
    pure (inputs, wrapped, iv, aad, tag)
  withLadderKey keystore algorithms resources (checked.map Prod.fst) rootKeyType fun key => do
    let (_, wrapped, iv, aad, tag) ← checked
    if h : iv.length = 12 then
      unwrapAesGcmInternal algorithms.gcm key ⟨iv.toArray, h⟩ aad tag wrapped
    else .error .invalidParameter

def otpHmacSha256Cached (out : Bool) (inputs : Option KeyLadderInputs) (in1 in2 in3 : SaData) :
    StateT RootKeyCache Option (Except SaStatus (Vector UInt8 32)) :=
  let checked : Except SaStatus KeyLadderInputs := do
    require (out = true) .nullParameter
    let inputs ← requireNonNull inputs
    require (in1.missing = false ∧ in2.missing = false ∧ in3.missing = false) .nullParameter
    pure inputs
  withLadderKey keystore algorithms resources checked .unique fun key =>
    algorithms.hmacSha256 key (in1.contents ++ in2.contents ++ in3.contents)

end Functions

inductive OtpCall
  | getRootKey (out : Bool) (outLength : Option Nat)
  | getCommonRootKey (out : Bool) (outLength : Option Nat)
  | rootKeyLadder (out : Bool) (rights : Option SaRights) (rootKeyType : SaRootKeyType)
    (c1 c2 c3 c4 : Option (Vector UInt8 16))
  | wrapAesCbc (out : Bool) (inputs : Option KeyLadderInputs) (inp iv : Option (List UInt8))
  | unwrapAesCbc (out : Bool) (inputs : Option KeyLadderInputs) (wrapped iv : Option (List UInt8))
  | unwrapAesGcm (out : Bool) (inputs : Option KeyLadderInputs) (rootKeyType : SaRootKeyType)
    (wrapped iv aad tag : Option (List UInt8))
  | hmacSha256 (out : Bool) (inputs : Option KeyLadderInputs) (in1 in2 in3 : SaData)

inductive OtpOutcome
  | rootKey (key : Option (List UInt8))
  | storedKey (result : Except SaStatus StoredKey)
  | bytes (result : Except SaStatus (List UInt8))

def OtpCall.run (keystore : RootKeystore) (algorithms : OtpAlgorithms) (resources : OtpResources) :
    OtpCall → StateT RootKeyCache Option OtpOutcome
  | getRootKey out outLength =>
    .rootKey <$> TaSecureApi.getRootKey keystore resources out outLength
  | getCommonRootKey out outLength =>
    .rootKey <$> TaSecureApi.getCommonRootKey keystore resources out outLength
  | rootKeyLadder out rights rootKeyType c1 c2 c3 c4 =>
    .storedKey <$>
      otpRootKeyLadder keystore algorithms resources out rights rootKeyType c1 c2 c3 c4
  | wrapAesCbc out inputs inp iv =>
    .bytes <$> otpWrapAesCbcCached keystore algorithms resources out inputs inp iv
  | unwrapAesCbc out inputs wrapped iv =>
    .bytes <$> otpUnwrapAesCbcCached keystore algorithms resources out inputs wrapped iv
  | unwrapAesGcm out inputs rootKeyType wrapped iv aad tag =>
    .bytes <$>
      otpUnwrapAesGcmCached keystore algorithms resources out inputs rootKeyType wrapped iv aad tag
  | hmacSha256 out inputs in1 in2 in3 =>
    (fun result => .bytes (result.map Vector.toList)) <$>
      otpHmacSha256Cached keystore algorithms resources out inputs in1 in2 in3

/-- After any calls before it a call comes to what it comes to as the first one. -/
def HistoryIndependent (keystore : RootKeystore) (algorithms : OtpAlgorithms) : Prop :=
  ∀ (calls : List (OtpResources × OtpCall)) (cache : RootKeyCache),
    History.after (calls.map fun (resources, call) => call.run keystore algorithms resources)
      .empty = some cache →
    ∀ (resources : OtpResources) (call : OtpCall),
      (call.run keystore algorithms resources cache).map Prod.fst =
        (call.run keystore algorithms resources .empty).map Prod.fst

def RootKeystore.load (keystore : RootKeystore) (commonRoot : Bool) (resources : OtpResources)
    (key : InOut) : Option (Bool × InOut) :=
  match commonRoot with
  | true => loadCommonRootKey keystore resources key
  | false => loadRootKey keystore resources key

/-- A load that leaves a key succeeds, and so does every other load, with the same key. -/
def RootKeystore.Settled (keystore : RootKeystore) (commonRoot : Bool) : Prop :=
  ∀ resources found key,
    keystore.load commonRoot resources (RootKeyCache.empty commonRoot) = some (found, key) →
    key.length ≠ 0 →
    ∀ resources', ∃ key',
      keystore.load commonRoot resources' (RootKeyCache.empty commonRoot) = some (true, key') ∧
        key'.contents = key.contents

section Loads

variable {keystore : RootKeystore} {algorithms : OtpAlgorithms} {resources : OtpResources}
  {pkcs8 : ShroudedKeys} {capacity : Nat} {requested : Bool}
  {bag : SafeBag} {bags : List SafeBag} {safes : List AuthSafe}

def KeyBuffers.Alike (b b' : KeyBuffers) : Prop :=
  b.key.contents = b'.key.contents ∧ b.name = b'.name

def Loading.Alike (l l' : Loading) : Prop :=
  l.toKeyBuffers.Alike l'.toKeyBuffers ∧ l.parseFailed = l'.parseFailed ∧ l.status = l'.status

theorem optionRel_bind {r : α → β → Prop} {s : γ → δ → Prop} {f : α → Option γ} {g : β → Option δ}
    {a : Option α} {b : Option β} (h : Option.Rel r a b)
    (hf : ∀ x y, r x y → Option.Rel s (f x) (g y)) : Option.Rel s (a.bind f) (b.bind g) := by
  cases h with
  | some h => exact hf _ _ h
  | none => exact .none

theorem copySecretKey_alike {b b' : KeyBuffers} (h : b.Alike b') (octets : Option (List UInt8)) :
    Option.Rel (fun r r' => r.1 = r'.1 ∧ r.2.Alike r'.2)
      (copySecretKey pkcs8 capacity octets b)
      (copySecretKey pkcs8 capacity octets b') := by
  unfold copySecretKey
  cases octets with
  | none => exact .some ⟨rfl, h⟩
  | some octets =>
    dsimp only
    cases pkcs8.unpack octets with
    | none => exact .none
    | some x509Sig =>
      rw [Option.bind_some, Option.bind_some]
      split
      · exact .some ⟨rfl, h⟩
      next secretKey _ =>
        split
        · exact .none
        · have hkey : (⟨overwrite b.key.bytes secretKey, secretKey.length⟩ : InOut).contents =
              (⟨overwrite b'.key.bytes secretKey, secretKey.length⟩ : InOut).contents := by
            rw [InOut.contents_overwrite, InOut.contents_overwrite]
          exact .some ⟨rfl, hkey, h.2⟩

theorem parsePkcs12SafeBag_alike {b b' : KeyBuffers} (h : b.Alike b') :
    Option.Rel (fun r r' => r.1 = r'.1 ∧ r.2.Alike r'.2)
      (parsePkcs12SafeBag pkcs8 capacity bag b)
      (parsePkcs12SafeBag pkcs8 capacity bag b') := by
  have hnamed : KeyBuffers.Alike { b with name := b.name.readName bag.friendlyName }
      { b' with name := b'.name.readName bag.friendlyName } := ⟨h.1, by rw [h.2]⟩
  unfold parsePkcs12SafeBag
  split
  · exact .some ⟨rfl, h⟩
  · split
    · exact .some ⟨rfl, hnamed⟩
    · cases findSecret bag.der with
      | none => exact .none
      | some octets => exact copySecretKey_alike hnamed octets

theorem readBags_alike {l l' : Loading} (h : l.Alike l') :
    Option.Rel Loading.Alike (readBags pkcs8 capacity requested bags l)
      (readBags pkcs8 capacity requested bags l') := by
  induction bags generalizing l l' with
  | nil => exact .some h
  | cons bag bags ih =>
    obtain ⟨hbuffers, hfailed, hstatus⟩ := h
    rw [readBags, readBags, ← hfailed, ← hstatus]
    by_cases hl : l.parseFailed = true
    · rw [if_pos hl, if_pos hl]
      exact .some ⟨hbuffers, hfailed, hstatus⟩
    · rw [if_neg hl, if_neg hl]
      apply optionRel_bind (parsePkcs12SafeBag_alike hbuffers)
      rintro ⟨parsed, b⟩ ⟨parsed', b'⟩ ⟨hparsed, hb⟩
      change parsed = parsed' at hparsed
      subst hparsed
      dsimp only
      rw [← hb.2]
      split
      · exact .some ⟨hb, rfl, rfl⟩
      · exact ih ⟨hb, rfl, rfl⟩

theorem readSafes_alike {l l' : Loading} (h : l.Alike l') :
    Option.Rel Loading.Alike (readSafes pkcs8 capacity requested safes stack l)
      (readSafes pkcs8 capacity requested safes stack l') := by
  induction safes generalizing l l' stack with
  | nil => exact .some h
  | cons safe safes ih =>
    have hfailed := h.2.1
    rw [readSafes, readSafes, ← hfailed]
    by_cases hl : l.parseFailed = true
    · rw [if_pos hl, if_pos hl]
      exact .some h
    · rw [if_neg hl, if_neg hl]
      split
      · split
        · exact .none
        · exact .some ⟨h.1, rfl, h.2.2⟩
      · cases safe.unpack with
        | none => exact ih h
        | some bags => exact optionRel_bind (readBags_alike h) fun _ _ hnext => ih hnext

variable (pkcs8 capacity) in
theorem loadPkcs12SecretKey_alike {b b' : KeyBuffers} (h : b.Alike b')
    (authSafes : Option (List AuthSafe)) :
    Option.Rel (fun r r' => r.1 = r'.1 ∧ r.2.Alike r'.2)
      (loadPkcs12SecretKey pkcs8 capacity authSafes b)
      (loadPkcs12SecretKey pkcs8 capacity authSafes b') := by
  cases authSafes with
  | none => exact .some ⟨rfl, h⟩
  | some safes =>
    have hstart : Loading.Alike ⟨b, false, false⟩ ⟨b', false, false⟩ := ⟨h, rfl, rfl⟩
    rw [loadPkcs12SecretKey, loadPkcs12SecretKey, ← h.2, Option.map_eq_bind, Option.map_eq_bind]
    exact optionRel_bind (readSafes_alike hstart) fun _ _ hl => .some ⟨hl.2.2, hl.1⟩

/-- What is loaded depends on what the variable for the key has in it only as far as that is a
key. -/
theorem RootKeystore.load_alike {key key' : InOut} (h : key.contents = key'.contents) :
    Option.Rel (fun r r' => r.1 = r'.1 ∧ r.2.contents = r'.2.contents)
      (keystore.load commonRoot resources key) (keystore.load commonRoot resources key') := by
  have hload (name : InOut) := loadPkcs12SecretKey_alike keystore.pkcs8 16
    (show KeyBuffers.Alike ⟨key, name⟩ ⟨key', name⟩ from ⟨h, rfl⟩) keystore.authSafes
  cases commonRoot with
  | false =>
    rw [load, load, loadRootKey, loadRootKey, Option.map_eq_bind, Option.map_eq_bind]
    apply optionRel_bind (hload _)
    intro (status, b) (status', b') ⟨hstatus, hb⟩
    change status = status' at hstatus
    have hname : b.name = b'.name := hb.2
    exact .some ⟨by simp only [hstatus, hname], hb.1⟩
  | true =>
    rw [load, load, loadCommonRootKey, loadCommonRootKey, Option.map_eq_bind, Option.map_eq_bind]
    apply optionRel_bind (hload _)
    intro (status, b) (status', b') ⟨hstatus, hb⟩
    exact .some ⟨hstatus, hb.1⟩

theorem InOut.length_contents (b : InOut) : b.contents.length = b.length := by
  simp [InOut.contents]

theorem giveKey_congr {key key' : InOut} (h : key.contents = key'.contents) :
    giveKey outLength key = giveKey outLength key' := by
  have hlength := congrArg List.length h
  rw [InOut.length_contents, InOut.length_contents] at hlength
  rw [giveKey, giveKey, hlength, h]

end Loads

section Histories

variable {keystore : RootKeystore} {algorithms : OtpAlgorithms} {resources : OtpResources}
  {cache : RootKeyCache} {commonRoot : Bool}

def CacheSound (keystore : RootKeystore) (cache : RootKeyCache) : Prop :=
  ∀ commonRoot, (cache commonRoot).length = 0 ∨
    ∀ resources, ∃ key,
      keystore.load commonRoot resources (RootKeyCache.empty commonRoot) = some (true, key) ∧
        key.contents = (cache commonRoot).contents

theorem contents_of_length (h : (cache commonRoot).length = 0) :
    (cache commonRoot).contents = (RootKeyCache.empty commonRoot).contents := by
  have hnil : (cache commonRoot).contents = [] :=
    List.length_eq_zero_iff.1 ((InOut.length_contents _).trans h)
  exact hnil

def RootKeystore.ask (keystore : RootKeystore) (commonRoot : Bool) (resources : OtpResources) :=
  getKey commonRoot (keystore.load commonRoot resources)

theorem RootKeystore.ask_of_empty (hlength : (cache commonRoot).length = 0) :
    keystore.ask commonRoot resources true (some outLength) cache =
      (keystore.load commonRoot resources (cache commonRoot)).map fun (loaded, key) =>
        (if loaded then giveKey outLength key else none, Function.update cache commonRoot key) :=
  if_pos hlength

theorem RootKeystore.ask_of_cached (hlength : (cache commonRoot).length ≠ 0) :
    keystore.ask commonRoot resources true (some outLength) cache =
      some (giveKey outLength (cache commonRoot), cache) :=
  if_neg hlength

/-- A root key that is asked for with an empty variable is the one that is asked for first. -/
theorem RootKeystore.ask_fst_of_empty (hlength : (cache commonRoot).length = 0) :
    (keystore.ask commonRoot resources true (some outLength) cache).map Prod.fst =
      (keystore.ask commonRoot resources true (some outLength) .empty).map Prod.fst := by
  rw [ask_of_empty hlength, ask_of_empty rfl, Option.map_map, Option.map_map]
  have hload : Option.Rel (fun r r' => r.1 = r'.1 ∧ r.2.contents = r'.2.contents)
      (keystore.load commonRoot resources (cache commonRoot))
      (keystore.load commonRoot resources (RootKeyCache.empty commonRoot)) :=
    load_alike (contents_of_length hlength)
  generalize keystore.load commonRoot resources (cache commonRoot) = loaded at hload ⊢
  generalize keystore.load commonRoot resources (RootKeyCache.empty commonRoot) = first at hload ⊢
  cases hload with
  | none => rfl
  | @some r r' h =>
    have hgive : giveKey outLength r.2 = giveKey outLength r'.2 := giveKey_congr h.2
    exact congrArg some (by simp only [Function.comp, h.1, hgive])

theorem CacheSound.update (hcache : CacheSound keystore cache) (h : keystore.Settled commonRoot)
    (hlength : (cache commonRoot).length = 0)
    (hload : keystore.load commonRoot resources (cache commonRoot) = some (found, key)) :
    CacheSound keystore (Function.update cache commonRoot key) := by
  intro other
  by_cases hother : other = commonRoot
  · subst hother
    rw [Function.update_self]
    by_cases hkey : key.length = 0
    · exact .inl hkey
    · right
      intro resources'
      have halike : Option.Rel (fun r r' => r.1 = r'.1 ∧ r.2.contents = r'.2.contents)
          (keystore.load other resources (cache other))
          (keystore.load other resources (RootKeyCache.empty other)) :=
        RootKeystore.load_alike (contents_of_length hlength)
      rw [hload] at halike
      generalize hfirst : keystore.load other resources (RootKeyCache.empty other) = first at halike
      cases halike with
      | @some r r' hcontents =>
        have hlengths := congrArg List.length hcontents.2
        rw [InOut.length_contents, InOut.length_contents] at hlengths
        obtain ⟨key', hkey', hsame⟩ := h resources r'.1 r'.2 hfirst (hlengths ▸ hkey) resources'
        exact ⟨key', hkey', hsame.trans hcontents.2.symm⟩
  · rw [Function.update_of_ne hother]
    exact hcache other

theorem RootKeystore.ask_oblivious (h : keystore.Settled commonRoot) (out : Bool)
    (outLength : Option Nat) :
    History.Oblivious (CacheSound keystore) .empty
      (keystore.ask commonRoot resources out outLength) := by
  intro cache hcache
  cases outLength with
  | none =>
    refine ⟨rfl, fun result cache' hrun => ?_⟩
    cases hrun
    exact hcache
  | some outLength =>
    cases out with
    | false =>
      refine ⟨rfl, fun result cache' hrun => ?_⟩
      cases hrun
      exact hcache
    | true =>
      by_cases hlength : (cache commonRoot).length = 0
      · refine ⟨ask_fst_of_empty hlength, fun result cache' hrun => ?_⟩
        rw [ask_of_empty hlength, Option.map_eq_some_iff] at hrun
        obtain ⟨⟨found, key⟩, hload, heq⟩ := hrun
        cases heq
        exact hcache.update h hlength hload
      · obtain ⟨key, hload, hcontents⟩ := (hcache commonRoot).resolve_left hlength resources
        rw [ask_of_cached hlength]
        constructor
        · rw [ask_of_empty rfl, hload, ← giveKey_congr hcontents]
          rfl
        · intro result cache' hrun
          cases hrun
          exact hcache

theorem otpHwKeyLadderCached_oblivious (h : ∀ commonRoot, keystore.Settled commonRoot)
    (rootKeyType : SaRootKeyType) (inputs : KeyLadderInputs) :
    History.Oblivious (CacheSound keystore) .empty
      (otpHwKeyLadderCached keystore algorithms resources rootKeyType inputs) := by
  cases rootKeyType with
  | undefined => exact .pure _
  | unique => exact .map _ (RootKeystore.ask_oblivious (h false) true (some 32))
  | common => exact .map _ (RootKeystore.ask_oblivious (h true) true (some 32))

theorem withLadderKey_oblivious (h : ∀ commonRoot, keystore.Settled commonRoot)
    (checked : Except SaStatus KeyLadderInputs) (rootKeyType : SaRootKeyType)
    (use : List UInt8 → Except SaStatus α) :
    History.Oblivious (CacheSound keystore) .empty
      (withLadderKey keystore algorithms resources checked rootKeyType use) := by
  unfold withLadderKey
  split
  · exact .pure _
  · split
    · exact .pure _
    · exact .map _ (otpHwKeyLadderCached_oblivious h rootKeyType _)

theorem OtpCall.run_oblivious (h : ∀ commonRoot, keystore.Settled commonRoot) (call : OtpCall) :
    History.Oblivious (CacheSound keystore) .empty (call.run keystore algorithms resources) := by
  cases call with
  | getRootKey out outLength =>
    exact .map _ (RootKeystore.ask_oblivious (h false) out outLength)
  | getCommonRootKey out outLength =>
    exact .map _ (RootKeystore.ask_oblivious (h true) out outLength)
  | rootKeyLadder => exact .map _ (withLadderKey_oblivious h _ _ _)
  | wrapAesCbc => exact .map _ (withLadderKey_oblivious h _ _ _)
  | unwrapAesCbc => exact .map _ (withLadderKey_oblivious h _ _ _)
  | unwrapAesGcm => exact .map _ (withLadderKey_oblivious h _ _ _)
  | hmacSha256 => exact .map _ (withLadderKey_oblivious h _ _ _)

def OtpCall.rootKeyOf (commonRoot : Bool) (outLength : Nat) : OtpCall :=
  match commonRoot with
  | true => getCommonRootKey true (some outLength)
  | false => getRootKey true (some outLength)

theorem OtpCall.run_rootKeyOf :
    (rootKeyOf commonRoot outLength).run keystore algorithms resources cache =
      (keystore.ask commonRoot resources true (some outLength) cache).map
        fun r => (.rootKey r.1, r.2) := by
  cases commonRoot with
  | false => exact History.map_eq _ _ _
  | true => exact History.map_eq _ _ _

theorem giveKey_self (key : InOut) : giveKey key.length key = some key.contents :=
  if_neg (lt_irrefl _)

theorem RootKeystore.settled_of_historyIndependent (h : HistoryIndependent keystore algorithms)
    (commonRoot : Bool) : keystore.Settled commonRoot := by
  intro resources found key hload hkey resources'
  let call := OtpCall.rootKeyOf commonRoot key.length
  let cached : RootKeyCache := Function.update RootKeyCache.empty commonRoot key
  have hcached : cached commonRoot = key := Function.update_self ..
  have hfirst : call.run keystore algorithms resources .empty =
      some (.rootKey (if found then giveKey key.length key else none), cached) := by
    rw [OtpCall.run_rootKeyOf, ask_of_empty rfl, hload]
    rfl
  have hrun : History.after [call.run keystore algorithms resources] .empty = some cached := by
    rw [History.after, hfirst]
    rfl
  have hsecond : (call.run keystore algorithms resources' cached).map Prod.fst =
      some (.rootKey (some key.contents)) := by
    rw [OtpCall.run_rootKeyOf, ask_of_cached (by rwa [hcached]), hcached, giveKey_self]
    rfl
  have hsame := h [(resources, call)] cached hrun resources' call
  rw [hsecond, OtpCall.run_rootKeyOf, ask_of_empty rfl, Option.map_map, Option.map_map] at hsame
  obtain ⟨⟨found', key'⟩, hload', houtcome⟩ := Option.map_eq_some_iff.1 hsame.symm
  have hgive : (if found' then giveKey key.length key' else none) = some key.contents :=
    OtpOutcome.rootKey.inj houtcome
  cases found' with
  | false => nomatch hgive
  | true =>
    rw [if_pos rfl, giveKey] at hgive
    split at hgive
    · nomatch hgive
    · exact ⟨key', hload', Option.some.inj hgive⟩

/-- What a call comes to is independent of the calls before it exactly where a load of either root
key that leaves a key succeeds, and gives the key that every load gives. -/
theorem historyIndependent_iff (keystore : RootKeystore) (algorithms : OtpAlgorithms) :
    HistoryIndependent keystore algorithms ↔ ∀ commonRoot, keystore.Settled commonRoot := by
  constructor
  · exact RootKeystore.settled_of_historyIndependent
  · intro h calls cache hrun resources call
    have hcalls : ∀ operation ∈ calls.map fun (resources, call) =>
        call.run keystore algorithms resources,
        History.Oblivious (CacheSound keystore) .empty operation := by
      intro operation hoperation
      obtain ⟨call, -, rfl⟩ := List.mem_map.1 hoperation
      exact OtpCall.run_oblivious h call.2
    have hempty : CacheSound keystore .empty := fun commonRoot => .inl rfl
    have hcache : CacheSound keystore cache := History.Oblivious.after hcalls hempty hrun
    exact (OtpCall.run_oblivious h call cache hcache).1

end Histories

section Concrete

def namelessKeystore : RootKeystore where
  authSafes := some [.data (some [shroudedKeyBag [0x7a, 0x7a] 2])]
  pkcs8 := ⟨some, some⟩

def failingAlgorithms : OtpAlgorithms where
  aes := ⟨fun _ _ => none, fun _ _ _ => none, fun _ _ _ => Aes.length_failed,
    fun _ _ _ _ => Aes.length_failed⟩
  encryptCbc _ _ _ := none
  gcm := ⟨fun _ _ _ _ => none, fun _ _ _ _ => .replicate 16 0, nofun⟩
  hmacSha256 _ _ := .error .internalError

/-- The root key of a key store that is refused is given at the second call. -/
theorem namelessKeystore_not_historyIndependent :
    ¬HistoryIndependent namelessKeystore failingAlgorithms := by
  intro h
  let resources : OtpResources := ⟨true, true, fun _ => 0⟩
  have hload : (namelessKeystore.load false resources (RootKeyCache.empty false)).map
      (fun r => (r.1, r.2.length)) = some (false, 16) := by decide +kernel
  obtain ⟨⟨found, key⟩, hkey, heq⟩ := Option.map_eq_some_iff.1 hload
  obtain ⟨rfl, hlength⟩ := Prod.mk.inj heq
  change key.length = 16 at hlength
  obtain ⟨key', hkey', -⟩ := RootKeystore.settled_of_historyIndependent h false resources _ key hkey
    (by rw [hlength]; decide) resources
  cases hkey.symm.trans hkey'

/-- The second call gives the key. -/
example :
    let resources : OtpResources := ⟨true, true, fun _ => 0⟩
    let ask := getRootKey namelessKeystore resources true (some 32)
    ((ask .empty).map Prod.fst, ((ask .empty).bind fun r => ask r.2).map Prod.fst) =
      (some none, some (some (List.replicate 16 2))) := by
  decide +kernel

end Concrete

end TaSecureApi
