import TaSecureApi.Status
import Mathlib.Data.BitVec

namespace TaSecureApi
set_option autoImplicit true

/-- `sa_usage_flags`, numbered by bit. -/
inductive SaUsageFlag
  | keyExchange
  | derive
  | unwrap
  | encrypt
  | decrypt
  | sign
  | allowedAnalogUnprotected
  | allowedAnalogCgmsa
  | allowedDigitalUnprotected
  | allowedDigitalHdcp14
  | allowedDigitalHdcp22
  | allowedDigitalDtcp
  | svpOptional
  | cacheable
  deriving DecidableEq, Repr

def SaUsageFlag.bit : SaUsageFlag → Nat
  | keyExchange => 0
  | derive => 1
  | unwrap => 2
  | encrypt => 3
  | decrypt => 4
  | sign => 5
  | allowedAnalogUnprotected => 6
  | allowedAnalogCgmsa => 7
  | allowedDigitalUnprotected => 8
  | allowedDigitalHdcp14 => 9
  | allowedDigitalHdcp22 => 10
  | allowedDigitalDtcp => 11
  | svpOptional => 12
  | cacheable => 13

def saUsageBitMask (flag : SaUsageFlag) : BitVec 64 := 1#64 <<< (flag.bit % 64)

def saUsageBitTest (flags : BitVec 64) (flag : SaUsageFlag) : Bool :=
  flags &&& saUsageBitMask flag != 0#64

def saUsageOutputProtectionsMask : BitVec 64 :=
  saUsageBitMask .allowedAnalogUnprotected ||| saUsageBitMask .allowedAnalogCgmsa |||
  saUsageBitMask .allowedDigitalUnprotected ||| saUsageBitMask .allowedDigitalHdcp14 |||
  saUsageBitMask .allowedDigitalHdcp22 ||| saUsageBitMask .allowedDigitalDtcp |||
  saUsageBitMask .svpOptional

def saKeyUsageMask : BitVec 64 :=
  saUsageBitMask .keyExchange ||| saUsageBitMask .derive ||| saUsageBitMask .unwrap |||
  saUsageBitMask .encrypt ||| saUsageBitMask .decrypt ||| saUsageBitMask .sign

inductive SaKeyType
  | symmetric
  | ec
  | rsa
  | dh
  deriving DecidableEq, Repr

structure SaRights where
  usageFlags : BitVec 64
  childUsageFlags : BitVec 64
  notBefore : Nat
  notOnOrAfter : Nat
  allowedTas : List SaUuid
  id : Vector UInt8 64
  deriving DecidableEq, Repr

structure VideoOutputState where
  analogUnprotectedCount : Int
  analogCgmsaCount : Int
  digitalUnprotectedCount : Int
  digitalHdcp14Count : Int
  digitalHdcp22Count : Int
  svpEnabled : Bool
  deriving DecidableEq, Repr

/-- What a check reads of the world: `time(NULL)` and `video_output_poll`, which can fail. -/
structure Reading where
  time : Nat
  videoOutput : Option VideoOutputState
  deriving DecidableEq, Repr

def rightsAllowedTime (rights : SaRights) (time : Nat) : Bool :=
  if time < rights.notBefore then false
  else if time ≥ rights.notOnOrAfter then false
  else true

/-- No output that the flag is about, unless the rights have the flag. -/
def outputAllowed (rights : SaRights) (flag : SaUsageFlag) (count : Int) : Bool :=
  !(!saUsageBitTest rights.usageFlags flag && decide (count > 0))

def rightsAllowedVideoOutputState (rights : SaRights) (state : VideoOutputState) : Bool :=
  !(!saUsageBitTest rights.usageFlags .svpOptional && !state.svpEnabled) &&
  outputAllowed rights .allowedAnalogUnprotected state.analogUnprotectedCount &&
  outputAllowed rights .allowedAnalogCgmsa state.analogCgmsaCount &&
  outputAllowed rights .allowedDigitalUnprotected state.digitalUnprotectedCount &&
  outputAllowed rights .allowedDigitalHdcp14 state.digitalHdcp14Count &&
  outputAllowed rights .allowedDigitalHdcp22 state.digitalHdcp22Count

def validateVideoOutputState (rights : SaRights) (reading : Reading) : Bool :=
  match reading.videoOutput with
  | none => false
  | some state => rightsAllowedVideoOutputState rights state

def rightsAllowedUsage (flag : SaUsageFlag) (rights : SaRights) (reading : Reading) : Bool :=
  saUsageBitTest rights.usageFlags flag && rightsAllowedTime rights reading.time

def rightsAllowedDerive : SaRights → Reading → Bool := rightsAllowedUsage .derive

def rightsAllowedExchange : SaRights → Reading → Bool := rightsAllowedUsage .keyExchange

def rightsAllowedUnwrap : SaRights → Reading → Bool := rightsAllowedUsage .unwrap

def rightsAllowedSign : SaRights → Reading → Bool := rightsAllowedUsage .sign

/-- The form of the checks for ciphers, which also look at the video outputs. -/
def rightsAllowedCipher (flag : SaUsageFlag) (rights : SaRights) (keyType : SaKeyType)
    (reading : Reading) : Bool :=
  rightsAllowedUsage flag rights reading &&
  (keyType != .symmetric || validateVideoOutputState rights reading)

def rightsAllowedDecrypt : SaRights → SaKeyType → Reading → Bool := rightsAllowedCipher .decrypt

def rightsAllowedEncrypt : SaRights → SaKeyType → Reading → Bool := rightsAllowedCipher .encrypt

def noMatch : SaUuid := ⟨Vector.replicate 16 0⟩

def allMatch : SaUuid := ⟨Vector.replicate 16 0xff⟩

def rightsAllowedUuid (rights : SaRights) (callerUuid : SaUuid) : Bool :=
  rights.allowedTas.any fun ta => ta != noMatch && (ta == allMatch || ta == callerUuid)

def rightsValidateFormat (rights : SaRights) : Bool := rights.id.any (· == 0)

/-- If SVP is required then the decryption can only be done to SVP buffers. -/
def rightsAllowedClear (rights : SaRights) : Bool := saUsageBitTest rights.usageFlags .svpOptional

inductive KeySubtype
  | privateSubtype
  | aesSubtype
  | hmacSubtype
  | chacha20Subtype
  deriving DecidableEq, Repr

/-- `SA_USAGE_BIT_SET`, for several flags. -/
def saUsageBitSet (flags : BitVec 64) (set : List SaUsageFlag) : BitVec 64 :=
  set.foldl (fun flags flag => flags ||| saUsageBitMask flag) flags

/-- `SA_USAGE_BIT_CLEAR`, for several flags. -/
def saUsageBitClear (flags : BitVec 64) (clear : List SaUsageFlag) : BitVec 64 :=
  clear.foldl (fun flags flag => flags &&& ~~~saUsageBitMask flag) flags

/-- `key_usage_to_usage_flags`. The usages are those of `key_usage`: both values for data and key,
data only, and key only. -/
def keyUsageToUsageFlags (usageFlags : BitVec 64) (keyUsage : Int) (keyType : SaKeyType)
    (subtype : KeySubtype) : Except SaStatus (BitVec 64) :=
  let flags := saUsageBitClear usageFlags [.keyExchange, .derive, .unwrap, .decrypt, .encrypt,
    .sign]
  let exchange : List SaUsageFlag :=
    if keyType = .dh ∨ keyType = .ec then [.keyExchange] else []
  if keyUsage = 0 ∨ keyUsage = 3 then
    .ok (saUsageBitSet flags (exchange ++ [.unwrap, .decrypt, .encrypt, .sign, .derive]))
  else if keyUsage = 1 then
    let cipher : List SaUsageFlag := if subtype ≠ .hmacSubtype then [.decrypt, .encrypt] else []
    .ok (saUsageBitSet flags (exchange ++ cipher ++ [.sign, .derive]))
  else if keyUsage = 2 then .ok (saUsageBitSet flags [.unwrap])
  else .error .invalidKeyFormat

def uuidLength : Nat := 36

def lowerCase (c : UInt8) : UInt8 := if 65 ≤ c ∧ c ≤ 90 then c + 32 else c

def hexDigit (c : UInt8) : Option UInt8 :=
  let c := lowerCase c
  if 48 ≤ c ∧ c ≤ 57 then some (c - 48)
  else if 97 ≤ c ∧ c ≤ 102 then some (c - 97 + 10)
  else none

/-- The loop of `convert_uuid`, for the bytes that are still to be set: whether it ran to its end,
and the bytes that it has set. The text may end before the bytes do. -/
def convertUuidBytes : Nat → List UInt8 → Bool × List UInt8
  | 0, _ => (true, [])
  | _ + 1, [] => (true, [])
  | n + 1, c :: text =>
    -- one dash before a byte is skipped
    match (if c = 45 then text else c :: text) with
    | c1 :: c2 :: text =>
      match hexDigit c1, hexDigit c2 with
      | some d1, some d2 =>
        let (converted, bytes) := convertUuidBytes n text
        (converted, (d1 * 16 + d2) :: bytes)
      | _, _ => (false, [])
    | _ => (false, [])

def SaUuid.overwrite (uuid : SaUuid) (bytes : List UInt8) : SaUuid :=
  ⟨Vector.ofFn fun i => bytes.getD i uuid.id[i]⟩

/-- `convert_uuid`: the result and what it makes of the UUID that it is given. -/
def convertUuid (text : List UInt8) (uuid : SaUuid) : Bool × SaUuid :=
  if text.length ≠ uuidLength then (false, uuid)
  else
    let (converted, bytes) := convertUuidBytes 16 text
    (converted, uuid.overwrite bytes)

/-- The bytes that a text spells with two digits each, and with a dash before some of them. -/
def spelledBytes : List Bool → List UInt8 → Option (List UInt8)
  | [], [] => some []
  | false :: dashes, c1 :: c2 :: text => do
    let d1 ← hexDigit c1
    let d2 ← hexDigit c2
    let bytes ← spelledBytes dashes text
    some ((d1 * 16 + d2) :: bytes)
  | true :: dashes, 45 :: c1 :: c2 :: text => do
    let d1 ← hexDigit c1
    let d2 ← hexDigit c2
    let bytes ← spelledBytes dashes text
    some ((d1 * 16 + d2) :: bytes)
  | _, _ => none

/-- The bytes of a UUID text that have a dash before them: five groups of four, two, two, two and
six bytes. -/
def uuidDashes : List Bool :=
  [false, false, false, false, true, false, true, false, true, false, true, false, false, false,
    false, false]

def uuidOfText (text : List UInt8) : Option SaUuid :=
  (spelledBytes uuidDashes text).map noMatch.overwrite

example : uuidOfText ((List.replicate 8 70 ++ [45] ++ List.replicate 4 102 ++ [45] ++
    List.replicate 4 70 ++ [45] ++ List.replicate 4 102 ++ [45] ++ List.replicate 12 102)) =
    some allMatch := by decide

theorem saUsageBitTest_eq (flags : BitVec 64) (flag : SaUsageFlag) :
    saUsageBitTest flags flag = flags.getLsbD flag.bit := by
  have hlt : flag.bit < 64 := by cases flag <;> decide
  have hmask : saUsageBitMask flag = BitVec.twoPow 64 flag.bit := by
    rw [saUsageBitMask, Nat.mod_eq_of_lt hlt, BitVec.twoPow]
  rw [saUsageBitTest, hmask, BitVec.and_twoPow]
  cases flags.getLsbD flag.bit with
  | false => rfl
  | true =>
    have hne : BitVec.twoPow 64 flag.bit ≠ 0#64 := by cases flag <;> decide
    simp [hne]

theorem rightsAllowedTime_iff : rightsAllowedTime rights time = true ↔
    rights.notBefore ≤ time ∧ time < rights.notOnOrAfter := by
  unfold rightsAllowedTime
  split_ifs with h₁ h₂ <;> simp <;> omega

theorem rightsAllowedUsage_iff : rightsAllowedUsage flag rights reading = true ↔
    saUsageBitTest rights.usageFlags flag = true ∧ rights.notBefore ≤ reading.time ∧
      reading.time < rights.notOnOrAfter := by
  rw [rightsAllowedUsage, Bool.and_eq_true, rightsAllowedTime_iff]

theorem rightsAllowedCipher.usage (h : rightsAllowedCipher flag rights keyType reading = true) :
    rightsAllowedUsage flag rights reading = true :=
  (Bool.and_eq_true _ _ ▸ h : _ ∧ _).1

theorem convertUuidBytes_of_spelled (h : spelledBytes dashes text = some bytes) :
    convertUuidBytes dashes.length text = (true, bytes) ∧
      text.length = 2 * dashes.length + dashes.count true := by
  induction dashes, text using spelledBytes.induct generalizing bytes with
  | case1 =>
    cases h
    exact ⟨rfl, rfl⟩
  | case2 dashes c1 c2 text ih =>
    simp only [spelledBytes, Option.bind_eq_bind, Option.bind_eq_some_iff, Option.some.injEq] at h
    obtain ⟨d1, h1, d2, h2, bytes, hbytes, rfl⟩ := h
    obtain ⟨hconvert, hlength⟩ := ih hbytes
    have hdash : c1 ≠ 45 := by
      intro hdash
      subst hdash
      cases h1
    constructor
    · simp only [List.length_cons, convertUuidBytes, if_neg hdash, h1, h2, hconvert]
    · simp only [List.length_cons, hlength, List.count_cons]
      simp only [Bool.false_beq, Bool.not_true, Bool.false_eq_true, if_false]
      omega
  | case3 dashes c1 c2 text ih =>
    simp only [spelledBytes, Option.bind_eq_bind, Option.bind_eq_some_iff, Option.some.injEq] at h
    obtain ⟨d1, h1, d2, h2, bytes, hbytes, rfl⟩ := h
    obtain ⟨hconvert, hlength⟩ := ih hbytes
    constructor
    · simp only [List.length_cons, convertUuidBytes, if_true, h1, h2, hconvert]
    · simp only [List.length_cons, hlength, List.count_cons_self]
      omega
  | case4 dashes text h₁ h₂ h₃ =>
    rw [spelledBytes] at h
    · cases h
    · exact h₁
    · exact h₂
    · exact h₃

theorem convertUuid_of_text (h : uuidOfText text = some uuid) :
    text.length = uuidLength ∧ convertUuid text noMatch = (true, uuid) := by
  obtain ⟨bytes, hbytes, rfl⟩ := Option.map_eq_some_iff.1 h
  obtain ⟨hconvert, hlength⟩ := convertUuidBytes_of_spelled hbytes
  have hlength : text.length = uuidLength := hlength
  have hconvert : convertUuidBytes 16 text = (true, bytes) := hconvert
  refine ⟨hlength, ?_⟩
  rw [convertUuid, if_neg (not_not.2 hlength), hconvert]

end TaSecureApi
