import TaSecureApi.ContainerResults
import TaSecureApi.CryptoCommands
import TaSecureApi.Lib.Expansion

namespace TaSecureApi
set_option autoImplicit true

/-- The block of the hash function, to which `HMAC` fills up a key with zeros. -/
def digestBlockLength : SaDigestAlgorithm → Nat
  | .sha1 | .sha256 => 64
  | .sha384 | .sha512 => 128

/-- `HMAC` of the digest algorithms. -/
structure Hmac where
  mac : (digestAlgorithm : SaDigestAlgorithm) → (key text : List UInt8) →
    Vector UInt8 (digestLength digestAlgorithm)
  padded : ∀ digestAlgorithm key n text, key.length + n ≤ digestBlockLength digestAlgorithm →
    mac digestAlgorithm (key ++ List.replicate n 0) text = mac digestAlgorithm key text

/-- The padding of a key to the block: one that is longer than a block is hashed. -/
def hmacKey (digest : List UInt8 → List UInt8) (blockLength : Nat) (key : List UInt8) :
    List UInt8 :=
  let short := if key.length ≤ blockLength then key else digest key
  short ++ List.replicate (blockLength - short.length) 0

theorem hmacKey_padded (digest : List UInt8 → List UInt8) (h : key.length + n ≤ blockLength) :
    hmacKey digest blockLength (key ++ List.replicate n 0) = hmacKey digest blockLength key := by
  have hkey : key.length ≤ blockLength := (Nat.le_add_right _ n).trans h
  have hlong : (key ++ List.replicate n 0).length = key.length + n := by
    rw [List.length_append, List.length_replicate]
  have hzeros : blockLength - key.length = n + (blockLength - (key.length + n)) := by omega
  rw [hmacKey, hmacKey, hlong, if_pos h, if_pos hkey, hlong, List.append_assoc, hzeros,
    List.replicate_add]

/-- `HMAC` as RFC 2104 makes it of a hash function. -/
def Hmac.ofDigest (digest : (digestAlgorithm : SaDigestAlgorithm) → List UInt8 →
    Vector UInt8 (digestLength digestAlgorithm)) : Hmac where
  mac digestAlgorithm key text :=
    let padded := hmacKey (fun bytes => (digest digestAlgorithm bytes).toList)
      (digestBlockLength digestAlgorithm) key
    digest digestAlgorithm (padded.map (· ^^^ 0x5c) ++
      (digest digestAlgorithm (padded.map (· ^^^ 0x36) ++ text)).toList)
  padded digestAlgorithm key n text h := by rw [hmacKey_padded _ h]

/-- What one derivation calls: the functions of OpenSSL, which of the calls and of the allocations
succeed, by their numbers, and what allocated memory holds. -/
structure KdfLibrary where
  hmac : Hmac
  digest : (digestAlgorithm : SaDigestAlgorithm) → List UInt8 →
    Vector UInt8 (digestLength digestAlgorithm)
  cmac : (key text : List UInt8) → Vector UInt8 aesBlockSize
  succeeds : Nat → Bool
  allocates : Nat → Bool
  unwritten : Nat → UInt8

/-- A pointer and the length that goes with it. -/
inductive SaData
  | null (length : Nat)
  | bytes (contents : List UInt8)

namespace SaData

def missing : SaData → Bool
  | null length => length > 0
  | bytes _ => false

def pointer : SaData → Option (List UInt8)
  | null _ => none
  | bytes contents => some contents

def contents : SaData → List UInt8
  | null _ => []
  | bytes contents => contents

end SaData

/-- What the derivations are called with; `storedKeyDerived` says if there is a place for the key,
and the other pointers can be `NULL`. -/
structure KdfArguments (Parameters : Type) where
  storedKeyDerived : Bool
  rights : Option SaRights
  parameters : Option Parameters
  storedKeyParent : Option StoredKey

structure SaKdfParametersHkdf where
  keyLength : Nat
  digestAlgorithm : DigestNumber
  salt : SaData
  info : SaData

/-- `sa_kdf_parameters_concat` and `sa_kdf_parameters_ansi_x963`. -/
structure SaKdfParametersConcat where
  keyLength : Nat
  digestAlgorithm : DigestNumber
  info : SaData

structure SaKdfParametersCmac where
  keyLength : Nat
  otherData : SaData
  counter : Nat

/-- A key that was derived, with the texts that were hashed for it. -/
structure Derivation where
  storedKey : StoredKey
  texts : List (List UInt8)

/-- A derivation returns, with `SA_STATUS_OK` for a key as it has to be and without a key for every
other status. -/
def Derives (Q : Derivation → Prop) : Except Stop Derivation → Prop
  | .ok derivation => Q derivation
  | .error (.status status) => status ≠ .ok
  | .error .undefined => False

def expand (library : KdfLibrary) (accepts : Prop) [Decidable accepts]
    (H : List UInt8 → List UInt8) (text : Nat → List UInt8 → List UInt8) (size length : Nat) :
    Except Stop (Expansion.State UInt8) :=
  Expansion.run .undefined
    (fun i => demand (accepts ∧ library.succeeds i) .internalError) H text size length
    ((List.range length).map library.unwritten)

/-- `hmac_internal` with the parts of the text appended; OpenSSL gets a zero for the key `NULL`. -/
def hmacInternal (library : KdfLibrary) (digestAlgorithm : SaDigestAlgorithm)
    (key : Option (List UInt8)) (text : List UInt8) : List UInt8 :=
  (library.hmac.mac digestAlgorithm (key.getD [0]) text).toList

def kdfHkdfHmac (library : KdfLibrary) (arguments : KdfArguments SaKdfParametersHkdf) :
    Except Stop Derivation := do
  demand arguments.storedKeyDerived .nullParameter
  let rights ← demandSome .nullParameter arguments.rights
  let parameters ← demandSome .nullParameter arguments.parameters
  demand (parameters.salt.missing = false) .nullParameter
  demand (parameters.info.missing = false) .nullParameter
  let storedKeyParent ← demandSome .nullParameter arguments.storedKeyParent
  let digestAlgorithm ← demandSome .invalidParameter parameters.digestAlgorithm
  let hashLength := digestLength digestAlgorithm
  demand (library.allocates 0) .internalError
  demand (library.allocates 1) .internalError
  demand (library.allocates 2) .internalError
  demand (library.succeeds 0) .internalError
  let prk := hmacInternal library digestAlgorithm parameters.salt.pointer storedKeyParent.key
  -- the status is the one of the extraction from here on
  demand (Expansion.blockCount hashLength parameters.keyLength ≤ 0xff) .ok
  let derived ← expand library True (hmacInternal library digestAlgorithm (some prk))
    (fun loop tag => tag ++ parameters.info.contents ++ [UInt8.ofNat loop]) hashLength
    parameters.keyLength
  let storedKey ← liftStatus (storedKeyCreate rights (some storedKeyParent.header.rights) .symmetric
    .zero parameters.keyLength derived.buffer)
  pure ⟨storedKey, derived.texts⟩

/-- The form of the derivations with a digest; `order` puts the counter, the key and the info one
after the other. -/
def kdfDigest (order : (counter key info : List UInt8) → List UInt8) (library : KdfLibrary)
    (arguments : KdfArguments SaKdfParametersConcat) : Except Stop Derivation := do
  demand arguments.storedKeyDerived .nullParameter
  let rights ← demandSome .nullParameter arguments.rights
  let parameters ← demandSome .nullParameter arguments.parameters
  demand (parameters.info.missing = false) .nullParameter
  let storedKeyParent ← demandSome .nullParameter arguments.storedKeyParent
  let digestAlgorithm ← demandSome .invalidParameter parameters.digestAlgorithm
  let hashLength := digestLength digestAlgorithm
  demand (library.allocates 0) .internalError
  demand (library.allocates 1) .internalError
  demand (Expansion.blockCount hashLength parameters.keyLength ≤ 0xff) .internalError
  -- only the last byte of the counter is written
  let derived ← expand library True (fun text => (library.digest digestAlgorithm text).toList)
    (fun i _ => order [0, 0, 0, UInt8.ofNat i] storedKeyParent.key parameters.info.contents)
    hashLength parameters.keyLength
  let storedKey ← liftStatus (storedKeyCreate rights (some storedKeyParent.header.rights) .symmetric
    .zero parameters.keyLength derived.buffer)
  pure ⟨storedKey, derived.texts⟩

def kdfConcatKdf : KdfLibrary → KdfArguments SaKdfParametersConcat → Except Stop Derivation :=
  kdfDigest fun counter key info => counter ++ key ++ info

def kdfAnsiX963 : KdfLibrary → KdfArguments SaKdfParametersConcat → Except Stop Derivation :=
  kdfDigest fun counter key info => key ++ counter ++ info

/-- `kdf_ctr_cmac`, which makes all four blocks; the place of a block is where the one before has
ended. -/
def kdfCtrCmac (library : KdfLibrary) (arguments : KdfArguments SaKdfParametersCmac) :
    Except Stop Derivation := do
  demand arguments.storedKeyDerived .nullParameter
  let rights ← demandSome .nullParameter arguments.rights
  let parameters ← demandSome .nullParameter arguments.parameters
  demand (parameters.keyLength % 16 = 0) .invalidParameter
  demand (parameters.otherData.missing = false) .nullParameter
  demand (1 ≤ parameters.counter ∧ parameters.counter ≤ 4) .invalidParameter
  demand (parameters.keyLength / 16 ≤ 5 - parameters.counter) .invalidParameter
  let storedKeyParent ← demandSome .nullParameter arguments.storedKeyParent
  demand (library.allocates 0) .internalError
  demand (library.allocates 1) .internalError
  let key := storedKeyParent.key
  let fullKey ← expand library (key.length = 16 ∨ key.length = 32)
    (fun text => (library.cmac key text).toList)
    (fun i _ => UInt8.ofNat i :: parameters.otherData.contents) aesBlockSize (4 * aesBlockSize)
  let position := (parameters.counter - 1) * aesBlockSize
  if position + parameters.keyLength ≤ fullKey.buffer.length then do
    let derived := (fullKey.buffer.drop position).take parameters.keyLength
    let storedKey ← liftStatus (storedKeyCreate rights (some storedKeyParent.header.rights)
      .symmetric .zero parameters.keyLength derived)
    pure ⟨storedKey, fullKey.texts⟩
  else throw .undefined

section Rules

variable {library : KdfLibrary} {H : List UInt8 → List UInt8}
  {text : Nat → List UInt8 → List UInt8} {size length : Nat}

theorem digestLength_pos (digestAlgorithm : SaDigestAlgorithm) :
    0 < digestLength digestAlgorithm := by
  cases digestAlgorithm with
  | sha1 | sha256 | sha384 | sha512 => decide

theorem of_demand {Q : Except Stop β → Prop} {c : Prop} [Decidable c] {f : Unit → Except Stop β}
    (hpass : c → Q (f ())) (hfail : ¬c → Q (.error (.status e))) : Q (demand c e >>= f) := by
  by_cases hc : c
  · rw [demand, if_pos hc]
    exact hpass hc
  · rw [demand, if_neg hc]
    exact hfail hc

theorem of_demandSome {Q : Except Stop β → Prop} {o : Option α} {f : α → Except Stop β}
    (hpass : ∀ a, o = some a → Q (f a)) (hfail : o = none → Q (.error (.status e))) :
    Q (demandSome e o >>= f) := by
  cases o with
  | none => exact hfail rfl
  | some a => exact hpass a rfl

theorem of_liftStatus {Q : Except Stop β → Prop} {x : Except SaStatus α} {f : α → Except Stop β}
    (hpass : ∀ a, x = .ok a → Q (f a)) (hfail : ∀ e, x = .error e → Q (.error (.status e))) :
    Q (liftStatus x >>= f) := by
  cases x with
  | error e => exact hfail e rfl
  | ok a => exact hpass a rfl

theorem forM_demand {p : Nat → Prop} [DecidablePred p] (numbers : List Nat) :
    (forM numbers fun i => demand (p i) e) = demand (∀ i ∈ numbers, p i) e := by
  induction numbers with
  | nil => rfl
  | cons i numbers ih =>
    rw [List.forM_cons, ih]
    by_cases hi : p i
    · rw [demand, if_pos hi, ok_bind]
      simp [demand, hi]
    · rw [demand, if_neg hi, error_bind, demand, if_neg]
      exact fun h => hi (h i List.mem_cons_self)

theorem expand_eq {accepts : Prop} [Decidable accepts] (hsize : 0 < size)
    (hH : ∀ t, (H t).length = size) :
    expand library accepts H text size length =
      (demand (∀ i ∈ List.range' 1 (Expansion.blockCount size length),
        accepts ∧ library.succeeds i) .internalError).map fun _ =>
          ⟨Expansion.output H text size length, length,
            Expansion.chain H text (Expansion.blockCount size length),
            (List.range' 1 (Expansion.blockCount size length)).map fun i =>
              text i (Expansion.chain H text (i - 1))⟩ := by
  have hbuffer : ((List.range length).map library.unwritten).length = length := by
    rw [List.length_map, List.length_range]
  rw [expand, Expansion.run_eq hsize hH hbuffer, forM_demand]

theorem of_expand {Q : Except Stop β → Prop} {accepts : Prop} [Decidable accepts]
    {f : Expansion.State UInt8 → Except Stop β} (hsize : 0 < size)
    (hH : ∀ t, (H t).length = size)
    (hpass : (∀ i ∈ List.range' 1 (Expansion.blockCount size length),
        accepts ∧ library.succeeds i = true) →
      Q (f ⟨Expansion.output H text size length, length,
        Expansion.chain H text (Expansion.blockCount size length),
        (List.range' 1 (Expansion.blockCount size length)).map fun i =>
          text i (Expansion.chain H text (i - 1))⟩))
    (hfail : Q (.error (.status .internalError))) :
    Q (expand library accepts H text size length >>= f) := by
  rw [expand_eq hsize hH, demand]
  split_ifs with hcalls
  · exact hpass hcalls
  · exact hfail

end Rules

end TaSecureApi
