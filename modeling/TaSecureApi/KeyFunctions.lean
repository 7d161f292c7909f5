import TaSecureApi.KeyUnwraps

namespace TaSecureApi.Construction
set_option autoImplicit true
open Frames Wp

section Exchange

variable {lib : KeyLibrary} {s : BuildState}

/-- `dh_compute_shared_secret` comes to `EVP_PKEY_CTX_set_dh_pad`, which fails. -/
structure PadFails (lib : KeyLibrary) (otherPublic : Option (List UInt8)) (key : List UInt8)
    (calls : List OpensslCall) : Prop where
  fails : ∃ other, otherPublic = some other ∧ Exchanges lib .dh other key calls ∧
    lib.oracle (.setDhPad :: exchangeCalls other key calls) = none

theorem clean_dhComputeSharedSecret (hs : s.rest.output = none)
    (hpad : ¬ PadFails lib otherPublic storedKey.key s.calls) :
    Clean (dhComputeSharedSecret lib rights otherPublic storedKey)
      (Finished fun bytes key => key = bytes) s := by
  cases otherPublic with
  | none => exact clean_pure_status hs nofun
  | some otherPublic =>
    refine clean_frame (fun _ _ _ h => h) ?_
    refine tidy_exchangeContext (by simp) (by simp) (by simp) hs fun s₁ hs₁ hexchanges hcalls => ?_
    have hset : (lib.oracle (.setDhPad :: s₁.calls)).isSome = true := by
      rw [Option.isSome_iff_ne_none, hcalls]
      exact fun h => hpad ⟨otherPublic, rfl, hexchanges, h⟩
    refine tidy_attempt ?_
    rw [hset]
    refine tidy_derivedSecret (by simp) hs₁ fun bytes s₂ hs₂ hproduced => ?_
    exact tidy_creates clean_storedKeyCreate hproduced fun _ hkey => hkey.1

theorem evpPkeyFromPkcs8_of_reads (h : Reads lib type inp inLength s.calls own) :
    evpPkeyFromPkcs8 lib type inp inLength s = (some own, { s with
      calls := .pkcs82Pkey :: .d2iPkcs8PrivKeyInfo (inp.take inLength) :: s.calls }) := by
  obtain ⟨info, hinfo⟩ := Option.isSome_iff_exists.1 h.info
  obtain ⟨answer, rfl, htype, hpkey⟩ := h.pkey
  apply frame_of_ok ({ s with
    locals := [.pkcs8]
    calls := .pkcs82Pkey :: .d2iPkcs8PrivKeyInfo (inp.take inLength) :: s.calls })
  refine wp_breakUnless (decide_eq_true h.length_lt) ?_
  refine wp_create hinfo ?_
  refine wp_create hpkey ?_
  refine wp_breakUnless (decide_eq_true htype) ?_
  exact ⟨rfl, rfl⟩

theorem wp_exchangeContext {f : Unit → BuildBody SaStatus γ} {R : γ → BuildState → Prop}
    {F : Exit SaStatus → BuildState → Prop}
    (h : Exchanges lib type otherPublic storedKey.key s.calls)
    (hf : wp (f ()) R F { s with
      locals := [.evpPkeyCtx, .otherEvpPkey, .evpPkey] ++ s.locals
      calls := exchangeCalls otherPublic storedKey.key s.calls }) :
    wp (exchangeContext lib type otherPublic storedKey >>= f) R F s := by
  obtain ⟨own, hreads⟩ := h.reads
  obtain ⟨other, htype, hother⟩ := h.other
  obtain ⟨context, hcontext⟩ := Option.isSome_iff_exists.1 h.context
  obtain ⟨init, hinit⟩ := Option.isSome_iff_exists.1 h.init
  have htypes : own.type = other.pkey.type := by
    obtain ⟨_, _, hown, _⟩ := hreads.pkey
    rw [hown, htype]
  have hown := evpPkeyFromPkcs8_of_reads hreads
  rw [List.take_length] at hown
  simp only [exchangeContext, usePkcs8, bind_assoc, pure_bind]
  refine wp_invoke hown ?_
  change wp (create lib.oracle .otherEvpPkey (.d2iPubkey otherPublic) .internalError >>= _) R F _
  refine wp_create hother ?_
  refine wp_breakUnless (decide_eq_true htypes) ?_
  refine wp_create hcontext ?_
  exact wp_step hinit hf

/-- The return out of the block is a success without a key, and loses the two keys and the
context. -/
theorem dhComputeSharedSecret_of_padFails (rights : SaRights)
    (h : PadFails lib otherPublic storedKey.key s.calls) : ∃ calls,
    dhComputeSharedSecret lib rights otherPublic storedKey s = (.ok, { s with
      calls := calls
      leaked := [.evpPkeyCtx, .otherEvpPkey, .evpPkey] ++ s.leaked }) := by
  obtain ⟨other, rfl, hexchanges, hpad⟩ := h.fails
  refine ⟨.setDhPad :: exchangeCalls other storedKey.key s.calls, ?_⟩
  apply frame_of_returns ({ s with
    locals := [.evpPkeyCtx, .otherEvpPkey, .evpPkey]
    calls := .setDhPad :: exchangeCalls other storedKey.key s.calls })
  refine wp_exchangeContext hexchanges ?_
  refine wp_attempt hpad ?_
  exact ⟨rfl, rfl⟩

end Exchange

section Constructions

/-- The functions that make a key, with what they are given. -/
inductive KeyFunction
  | dhComputeSharedSecret (rights : SaRights) (otherPublic : Option (List UInt8))
      (storedKey : StoredKey)
  | ecComputeEcdhSharedSecret (rights : SaRights) (otherPublic : Option (List UInt8))
      (storedKey : StoredKey)
  | dhGenerateKey (rights : SaRights) (p g : Option (List UInt8))
  | ecGenerateKey (rights : SaRights) (parameters : Option (Option SaEllipticCurve))
  | rsaGenerateKey (rights : SaRights) (modulusLength : Option Nat)
  | unwrapAesEcb (input : UnwrapInput) (padded : Bool)
  | unwrapAesCbc (input : UnwrapInput) (padded : Bool) (iv : Option (List UInt8))
  | unwrapAesCtr (input : UnwrapInput) (ctr : Option (List UInt8))
  | unwrapAesGcm (input : UnwrapInput) (parameters : Option SaUnwrapParametersAesGcm)
  | unwrapChacha20 (input : UnwrapInput) (parameters : Option SaUnwrapParametersChacha20)
  | unwrapChacha20Poly1305 (input : UnwrapInput)
      (parameters : Option SaUnwrapParametersChacha20Poly1305)
  | unwrapRsa (inp : Option (List UInt8)) (rights : SaRights) (cipher : RsaCipher)
      (storedKeyWrapping : StoredKey)
  | unwrapEc (inp : Option (List UInt8)) (rights : SaRights)
      (parameters : SaUnwrapParametersEcElgamal) (storedKeyWrapping : StoredKey)

def KeyFunction.run (lib : KeyLibrary) : KeyFunction → BuildFn SaStatus
  | .dhComputeSharedSecret rights otherPublic storedKey =>
    Construction.dhComputeSharedSecret lib rights otherPublic storedKey
  | .ecComputeEcdhSharedSecret rights otherPublic storedKey =>
    Construction.ecComputeEcdhSharedSecret lib rights otherPublic storedKey
  | .dhGenerateKey rights p g => Construction.dhGenerateKey lib rights p g
  | .ecGenerateKey rights parameters => Construction.ecGenerateKey lib rights parameters
  | .rsaGenerateKey rights modulusLength => Construction.rsaGenerateKey lib rights modulusLength
  | .unwrapAesEcb input padded => Construction.unwrapAesEcb lib input padded
  | .unwrapAesCbc input padded iv => Construction.unwrapAesCbc lib input padded iv
  | .unwrapAesCtr input ctr => Construction.unwrapAesCtr lib input ctr
  | .unwrapAesGcm input parameters => Construction.unwrapAesGcm lib input parameters
  | .unwrapChacha20 input parameters => Construction.unwrapChacha20 lib input parameters
  | .unwrapChacha20Poly1305 input parameters =>
    Construction.unwrapChacha20Poly1305 lib input parameters
  | .unwrapRsa inp rights cipher storedKeyWrapping =>
    Construction.unwrapRsa lib inp rights cipher storedKeyWrapping
  | .unwrapEc inp rights parameters storedKeyWrapping =>
    Construction.unwrapEc lib inp rights parameters storedKeyWrapping

/-- How the key is taken from the bytes that the last step has made. -/
def KeyFunction.Takes (f : KeyFunction) (bytes key : List UInt8) : Prop :=
  match f with
  | .unwrapAesEcb _ padded | .unwrapAesCbc _ padded _ => Unpads padded bytes key
  | .unwrapEc _ _ parameters _ => key = (bytes.drop parameters.offset).take parameters.keyLength
  | _ => key = bytes

/-- The function comes to a return out of its block. -/
def KeyFunction.Deviates (lib : KeyLibrary) (calls : List OpensslCall) : KeyFunction → Prop
  | .dhComputeSharedSecret _ otherPublic storedKey => PadFails lib otherPublic storedKey.key calls
  | .unwrapRsa inp _ cipher _ => LosesBuffer lib inp cipher calls
  | _ => False

/-- The state in front of a function: the output is `NULL`. -/
def start (calls : List OpensslCall) : BuildState := ⟨calls, [], [], none, none⟩

/-- The function succeeds exactly with a key that it has made of the bytes of its last step, and
fails without one. It frees what it has made. -/
structure Constructs (lib : KeyLibrary) (f : KeyFunction) (s : BuildState) : Prop where
  succeeds : (f.run lib s).1 = .ok ↔ ∃ key bytes, (f.run lib s).2.rest.output = some key ∧
    (f.run lib s).2.rest.produced = some bytes ∧ f.Takes bytes key.key
  fails : (f.run lib s).1 ≠ .ok → (f.run lib s).2.rest.output = none
  frees : (f.run lib s).2.leaked = s.leaked

variable {lib : KeyLibrary}

theorem Constructs.of_clean {f : KeyFunction} {s : BuildState}
    (h : Clean (f.run lib) (Finished f.Takes) s) : Constructs lib f s := by
  obtain ⟨_, hleaked, ⟨hok, key, bytes, hmade⟩ | ⟨hne, hnone⟩⟩ := h
  · exact ⟨⟨fun _ => ⟨key, bytes, hmade⟩, fun _ => hok⟩, fun hne => absurd hok hne, hleaked⟩
  · refine ⟨⟨fun hok => absurd hok hne, ?_⟩, fun _ => hnone, hleaked⟩
    intro ⟨key, _, hkey, _⟩
    rw [hnone] at hkey
    cases hkey

/-- A function makes its key in every run but those that come to a return out of the block. -/
theorem constructs_iff (f : KeyFunction) (calls : List OpensslCall) :
    Constructs lib f (start calls) ↔ ¬ f.Deviates lib calls := by
  have hs : (start calls).rest.output = none := rfl
  constructor
  · intro h hdeviates
    cases f with
    | dhComputeSharedSecret rights otherPublic storedKey =>
      obtain ⟨after, hrun⟩ :=
        dhComputeSharedSecret_of_padFails rights (s := start calls) hdeviates
      have hleaked := h.frees
      rw [KeyFunction.run, hrun] at hleaked
      cases hleaked
    | unwrapRsa inp rights cipher storedKeyWrapping =>
      have hleaked := h.frees
      rw [KeyFunction.run, unwrapRsa_of_losesBuffer (s := start calls) hdeviates] at hleaked
      cases hleaked
    | _ => exact hdeviates
  · intro hdeviates
    apply Constructs.of_clean
    cases f with
    | dhComputeSharedSecret => exact clean_dhComputeSharedSecret hs hdeviates
    | ecComputeEcdhSharedSecret => exact clean_ecComputeEcdhSharedSecret hs
    | dhGenerateKey => exact clean_dhGenerateKey hs
    | ecGenerateKey => exact clean_ecGenerateKey hs
    | rsaGenerateKey => exact clean_rsaGenerateKey hs
    | unwrapAesEcb => exact clean_unwrapAesEcb hs
    | unwrapAesCbc => exact clean_unwrapAesCbc hs
    | unwrapAesCtr => exact clean_unwrapAesCtr hs
    | unwrapAesGcm => exact clean_unwrapAesGcm hs
    | unwrapChacha20 => exact clean_unwrapChacha20 hs
    | unwrapChacha20Poly1305 => exact clean_unwrapChacha20Poly1305 hs
    | unwrapRsa => exact clean_unwrapRsa hs hdeviates
    | unwrapEc => exact clean_unwrapEc hs

/-- Every call of this library succeeds but the one that sets the padding. -/
def padlessLibrary : KeyLibrary where
  oracle
    | .setDhPad :: _ => none
    | .decryptUpdate inp _ :: _ => some ⟨inp, ⟨.dh, 2048⟩, 0⟩
    | _ => some ⟨List.replicate aesBlockSize 0, ⟨.dh, 2048⟩, 16⟩
  alloc_length h := by
    obtain rfl := Option.some.inj h
    rfl
  update_length h := by
    obtain rfl := Option.some.inj h
    rfl

def exchange : KeyFunction :=
  .dhComputeSharedSecret allRights (some [1]) ⟨⟨allRights, .dh, .dhParameters [23] [5], 1⟩, [7]⟩

/-- The exchange succeeds without a key. -/
theorem not_constructs_exchange : ¬ Constructs padlessLibrary exchange (start []) := by
  intro h
  have hok : (exchange.run padlessLibrary (start [])).1 = .ok := by decide +kernel
  have hnone : (exchange.run padlessLibrary (start [])).2.rest.output = none := by
    decide +kernel
  obtain ⟨key, _, hkey, _⟩ := h.succeeds.1 hok
  rw [hnone] at hkey
  cases hkey

end Constructions

end TaSecureApi.Construction
