import TaSecureApi.KeyConstruction

namespace TaSecureApi.Construction
set_option autoImplicit true
open Frames
open Signing (EvpPkey EvpPkeyType evpType)

section Parts

variable {lib : KeyLibrary} {frees : List Pointer} {s : BuildState}

theorem tidy_setOutput {f : Unit → BuildBody α γ} {R : γ → BuildState → Prop}
    {E : α → BuildState → Prop} (h : Tidy frees (f ()) R E (BuildState.setOutput s output)) :
    Tidy frees (setOutput output >>= f) R E s := h

theorem tidy_produce {f : Unit → BuildBody α γ} {R : γ → BuildState → Prop}
    {E : α → BuildState → Prop} (h : Tidy frees (f ()) R E (BuildState.produce s bytes)) :
    Tidy frees (produce bytes >>= f) R E s := h

def Quiet (f : BuildFn α) (s : BuildState) : Prop := Clean f (fun _ s' => s'.rest = s.rest) s

/-- The calls with which a private key was read. -/
structure Reads (lib : KeyLibrary) (type : EvpPkeyType) (inp : List UInt8) (inLength : Nat)
    (calls : List OpensslCall) (evpPkey : EvpPkey) : Prop where
  length_lt : inLength < 2 ^ 63
  info : (lib.oracle (.d2iPkcs8PrivKeyInfo (inp.take inLength) :: calls)).isSome
  pkey : ∃ answer, answer.pkey = evpPkey ∧ evpPkey.type = type ∧
    lib.oracle (.pkcs82Pkey :: .d2iPkcs8PrivKeyInfo (inp.take inLength) :: calls) = some answer

theorem clean_evpPkeyFromPkcs8 : Clean (evpPkeyFromPkcs8 lib type inp inLength)
    (fun evpPkey s' => s'.rest = s.rest ∧ ∀ own, evpPkey = some own →
      Reads lib type inp inLength s.calls own ∧
        s'.calls = .pkcs82Pkey :: .d2iPkcs8PrivKeyInfo (inp.take inLength) :: s.calls) s := by
  refine clean_frame (fun _ _ _ h => h) ?_
  refine tidy_breakUnless (fun _ => ⟨rfl, nofun⟩) fun hlength => ?_
  refine tidy_create (by simp) (fun _ => ⟨rfl, nofun⟩) fun info hinfo => ?_
  refine tidy_create_drop (fun _ => ⟨rfl, nofun⟩) fun evpPkey hpkey => ?_
  refine tidy_breakUnless (fun _ => ⟨rfl, nofun⟩) fun htype => ?_
  refine tidy_pure ⟨rfl, fun own hown => ?_⟩
  obtain rfl := Option.some.inj hown
  exact ⟨⟨of_decide_eq_true hlength, Option.isSome_iff_exists.2 ⟨info, hinfo⟩,
    evpPkey, rfl, of_decide_eq_true htype, hpkey⟩, rfl⟩

theorem tidy_usePkcs8 {α γ : Type} {a : α} {f : EvpPkey → BuildBody α γ}
    {R : γ → BuildState → Prop} {E : α → BuildState → Prop} (hp : .evpPkey ∈ frees)
    (hbreak : ∀ s' : BuildState, s'.rest = s.rest → E a s')
    (h : ∀ own s', s'.rest = s.rest → Reads lib type inp inLength s.calls own →
      s'.calls = .pkcs82Pkey :: .d2iPkcs8PrivKeyInfo (inp.take inLength) :: s.calls →
      Tidy frees (f own) R E s') :
    Tidy frees (usePkcs8 lib type inp inLength a >>= f) R E s := by
  rw [usePkcs8, bind_assoc]
  refine tidy_invoke clean_evpPkeyFromPkcs8 fun evpPkey s' ⟨hrest, hreads⟩ => ?_
  rw [bind_assoc]
  refine tidy_breakNone (fun _ => hbreak s' hrest) fun own hown => ?_
  rw [bind_assoc]
  obtain ⟨hown, hcalls⟩ := hreads own hown
  exact tidy_hold hp (h own _ hrest hown hcalls)

theorem quiet_evpPkeyToPkcs8 : Quiet (evpPkeyToPkcs8 lib out) s := by
  refine clean_frame (fun _ _ _ h => h) ?_
  refine tidy_create (by simp) (fun _ => rfl) fun _ _ => ?_
  refine tidy_step (fun _ => rfl) fun length _ => ?_
  cases out with
  | none => exact tidy_pure rfl
  | some outLength =>
    refine tidy_breakUnless (fun _ => rfl) fun _ => ?_
    refine tidy_step (fun _ => rfl) fun _ _ => ?_
    exact tidy_pure rfl

/-- A size that is not zero is that of a key, whose bytes were read. -/
def Validates (inLength : Nat) (s : BuildState) (keySize : Nat) (s' : BuildState) : Prop :=
  s'.rest = s.rest ∧ (keySize ≠ 0 → inLength < 2 ^ 63)

theorem clean_ecValidatePrivate : Clean (ecValidatePrivate lib curve inp inLength)
    (Validates inLength s) s := by
  cases curve with
  | none => exact ⟨rfl, rfl, rfl, fun h => absurd rfl h⟩
  | some curve =>
    have hzero {s' : BuildState} (hs' : s'.rest = s.rest) : Validates inLength s 0 s' :=
      ⟨hs', fun h => absurd rfl h⟩
    refine clean_frame (fun _ _ _ h => h) ?_
    refine tidy_usePkcs8 (by simp) (fun _ => hzero) fun _ s' hrest hreads _ => ?_
    split
    · refine tidy_step (fun _ => hzero hrest) fun name _ => ?_
      refine tidy_breakUnless (fun _ => hzero hrest) fun _ => ?_
      exact tidy_pure ⟨hrest, fun _ => hreads.length_lt⟩
    · exact tidy_pure ⟨hrest, fun _ => hreads.length_lt⟩

theorem clean_rsaValidatePrivate : Clean (rsaValidatePrivate lib inp inLength)
    (Validates inLength s) s := by
  refine clean_frame (fun _ _ _ h => h) ?_
  refine tidy_usePkcs8 (by simp) (fun _ h => ⟨h, fun h' => absurd rfl h'⟩) ?_
  intro _ s' hrest hreads _
  exact tidy_pure ⟨hrest, fun _ => hreads.length_lt⟩

theorem tidy_steps {α γ : Type} {a : α} {calls : List OpensslCall} {f : Unit → BuildBody α γ}
    {R : γ → BuildState → Prop} {E : α → BuildState → Prop}
    (hbreak : ∀ s' : BuildState, s'.rest = s.rest → E a s')
    (h : ∀ s' : BuildState, s'.rest = s.rest → Tidy frees (f ()) R E s') :
    Tidy frees (steps lib calls a >>= f) R E s := by
  induction calls generalizing s with
  | nil => exact h s rfl
  | cons call calls ih =>
    have hsteps : steps lib (call :: calls) a =
        (do let _ ← step lib.oracle call a; steps lib calls a) := by
      rw [steps, List.forM]
      simp only [bind_assoc, pure_bind]
      rfl
    rw [hsteps, bind_assoc]
    refine tidy_step (fun _ => hbreak _ rfl) fun _ _ => ?_
    exact ih hbreak h

theorem tidy_evpDecrypt {α γ : Type} {a : α} {f : List UInt8 → BuildBody α γ}
    {R : γ → BuildState → Prop} {E : α → BuildState → Prop} (hp : .context ∈ frees)
    (hbreak : ∀ s' : BuildState, s'.rest = s.rest → E a s')
    (h : ∀ bytes (s' : BuildState), s'.rest = s.rest → bytes.length = inp.length →
      Tidy frees (f bytes) R E s') :
    Tidy frees (evpDecrypt lib before inp behind a >>= f) R E s := by
  rw [evpDecrypt, bind_assoc]
  refine tidy_create hp (fun _ => hbreak _ rfl) fun _ _ => ?_
  rw [bind_assoc]
  refine tidy_steps hbreak fun s₁ hs₁ => ?_
  rw [bind_assoc]
  refine tidy_step (fun _ => hbreak _ hs₁) fun out hout => ?_
  rw [bind_assoc]
  refine tidy_steps (fun s' hs' => hbreak s' (hs'.trans hs₁)) fun s₂ hs₂ => ?_
  rw [pure_bind]
  exact h _ s₂ (hs₂.trans hs₁) (lib.update_length hout)

def DecryptsTo (P : List UInt8 → Prop) (s : BuildState) (decrypted : Decrypted) (s' : BuildState) :
    Prop :=
  s'.rest = s.rest ∧ (∀ status, decrypted = .error status → status ≠ .ok) ∧
    ∀ bytes, decrypted = .ok bytes → P bytes

theorem decryptsTo_error (hrest : s'.rest = s.rest) (h : status ≠ .ok) :
    DecryptsTo P s (.error status) s' := by
  refine ⟨hrest, fun status' heq => ?_, nofun⟩
  obtain rfl := Except.error.inj heq
  exact h

theorem decryptsTo_ok (hrest : s'.rest = s.rest) (h : P bytes) :
    DecryptsTo P s (.ok bytes) s' := by
  refine ⟨hrest, nofun, fun bytes' heq => ?_⟩
  obtain rfl := Except.ok.inj heq
  exact h

theorem clean_evpDecrypt : Clean (frame [.context] do
      let out ← evpDecrypt lib before inp behind (.error .internalError)
      pure (.ok out))
    (DecryptsTo (fun bytes => bytes.length = inp.length) s) s := by
  refine clean_frame (fun _ _ _ h => h) ?_
  refine tidy_evpDecrypt (by simp) (fun _ hs' => decryptsTo_error hs' nofun) ?_
  intro bytes s' hs' hlength
  exact tidy_pure (decryptsTo_ok hs' hlength)

theorem clean_pure_error (h : status ≠ .ok) :
    Clean (pure (.error status) : BuildFn Decrypted) (DecryptsTo P s) s :=
  ⟨rfl, rfl, decryptsTo_error rfl h⟩

theorem clean_evpDecrypt_blocks (hblocks : ¬ inp.length % aesBlockSize ≠ 0) :
    Clean (frame [.context] do
      let out ← evpDecrypt lib before inp behind (.error .internalError)
      pure (.ok out))
    (DecryptsTo (fun bytes => bytes.length % aesBlockSize = 0) s) s := by
  have hclean : Clean (frame [.context] do
      let out ← evpDecrypt lib before inp behind (.error .internalError)
      pure (.ok out)) (DecryptsTo (fun bytes => bytes.length = inp.length) s) s := clean_evpDecrypt
  obtain ⟨hlocals, hleaked, hrest, herror, hok⟩ := hclean
  refine ⟨hlocals, hleaked, hrest, herror, fun bytes h => ?_⟩
  have hlength : bytes.length = inp.length := hok bytes h
  change bytes.length % aesBlockSize = 0
  rw [hlength]
  exact not_not.1 hblocks

theorem clean_unwrapAesEcbInternal : Clean (unwrapAesEcbInternal lib inp key)
    (DecryptsTo (fun bytes => bytes.length % aesBlockSize = 0) s) s := by
  unfold unwrapAesEcbInternal
  split
  · exact clean_pure_error nofun
  · rename_i hblocks
    split
    · exact clean_pure_error nofun
    · exact clean_evpDecrypt_blocks hblocks

theorem clean_unwrapAesCbcInternal : Clean (unwrapAesCbcInternal lib inp iv key)
    (DecryptsTo (fun bytes => bytes.length % aesBlockSize = 0) s) s := by
  unfold unwrapAesCbcInternal
  split
  · exact clean_pure_error nofun
  · rename_i hblocks
    split
    · exact clean_pure_error nofun
    · exact clean_evpDecrypt_blocks hblocks

theorem clean_unwrapAesGcmInternal : Clean (unwrapAesGcmInternal lib inp parameters key)
    (DecryptsTo (fun bytes => bytes.length = inp.length) s) s := by
  unfold unwrapAesGcmInternal
  split
  · exact clean_pure_error nofun
  · split
    · exact clean_pure_error nofun
    · split
      · exact clean_pure_error nofun
      · split
        · exact clean_pure_error nofun
        · split
          · exact clean_pure_error nofun
          · split
            · exact clean_pure_error nofun
            · exact clean_evpDecrypt

theorem tidy_rsaDecryptContext {f : Unit → BuildBody Decrypted Decrypted}
    {R E : Decrypted → BuildState → Prop} (hp : .evpPkey ∈ frees) (hctx : .evpPkeyCtx ∈ frees)
    (hbreak : ∀ s' : BuildState, s'.rest = s.rest → E (.error .internalError) s')
    (h : ∀ s' : BuildState, s'.rest = s.rest → Tidy frees (f ()) R E s') :
    Tidy frees (rsaDecryptContext lib outLength storedKey inp settings >>= f) R E s := by
  rw [rsaDecryptContext, bind_assoc]
  refine tidy_usePkcs8 hp hbreak fun own s₁ hs₁ _ _ => ?_
  rw [bind_assoc]
  refine tidy_breakUnless (fun _ => hbreak s₁ hs₁) fun _ => ?_
  rw [bind_assoc]
  refine tidy_breakUnless (fun _ => hbreak s₁ hs₁) fun _ => ?_
  rw [bind_assoc]
  refine tidy_create hctx (fun _ => hbreak _ hs₁) fun _ _ => ?_
  exact tidy_steps (fun s' hs' => hbreak s' (hs'.trans hs₁)) fun s' hs' => h s' (hs'.trans hs₁)

theorem clean_rsaDecryptPkcs1v15 : Clean (rsaDecryptPkcs1v15 lib outLength storedKey inp)
    (DecryptsTo (fun _ => True) s) s := by
  refine clean_frame (fun _ _ _ h => h) ?_
  refine tidy_rsaDecryptContext (by simp) (by simp) (fun _ hs' => decryptsTo_error hs' nofun) ?_
  intro s' hs'
  refine tidy_step (fun _ => decryptsTo_error hs' nofun) fun out _ => ?_
  exact tidy_pure (decryptsTo_ok hs' trivial)

theorem tidy_setOaepLabel {f : Unit → BuildBody Decrypted Decrypted}
    {R E : Decrypted → BuildState → Prop}
    (hbreak : ∀ s' : BuildState, s'.rest = s.rest → E (.error .internalError) s')
    (h : ∀ s' : BuildState, s'.rest = s.rest → Tidy frees (f ()) R E s') :
    Tidy frees (setOaepLabel lib label >>= f) R E s := by
  have hlabel : setOaepLabel lib label >>= f = (do
      let _ ← create lib.oracle .newLabel (.secureAlloc label.length) (.error .internalError)
      let set ← attempt lib.oracle (.setRsaOaepLabel label)
      drop .newLabel
      breakUnless set.isSome (.error .internalError)
      f ()) := by
    simp only [setOaepLabel, bind_assoc]
  rw [hlabel]
  refine tidy_create_attempt_drop (fun _ => hbreak _ rfl) ?_
  exact tidy_breakUnless (fun _ => hbreak _ rfl) fun _ => h _ rfl

theorem clean_rsaDecryptOaep : Clean (rsaDecryptOaep lib outLength storedKey parameters inp)
    (DecryptsTo (fun _ => True) s) s := by
  refine clean_frame (fun _ _ _ h => h) ?_
  refine tidy_rsaDecryptContext (by simp) (by simp) (fun _ hs' => decryptsTo_error hs' nofun) ?_
  intro s₁ hs₁
  have hdecrypt (s₂ : BuildState) (hs₂ : s₂.rest = s₁.rest) :
      Tidy [.evpPkey, .evpPkeyCtx] (do
        let out ← step lib.oracle (.decrypt inp) (.error .verificationFailed)
        pure (Except.ok out.bytes)) (DecryptsTo (fun _ => True) s) (DecryptsTo (fun _ => True) s)
        s₂ := by
    have hs := hs₂.trans hs₁
    refine tidy_step (fun _ => decryptsTo_error hs nofun) fun out _ => ?_
    exact tidy_pure (decryptsTo_ok hs trivial)
  cases parameters.label with
  | none => exact hdecrypt s₁ rfl
  | some label =>
    by_cases hlength : parameters.labelLength > 0
    · simp only [if_pos hlength]
      exact tidy_setOaepLabel (fun _ hs' => decryptsTo_error (hs'.trans hs₁) nofun) hdecrypt
    · simp only [if_neg hlength]
      exact hdecrypt s₁ rfl

theorem quiet_exportPoint : Quiet (exportPoint lib) s := by
  refine clean_frame (fun _ _ _ h => h) ?_
  refine tidy_step (fun _ => rfl) fun degree _ => ?_
  refine tidy_breakUnless (fun _ => rfl) fun _ => ?_
  refine tidy_step (fun _ => rfl) fun oct _ => ?_
  refine tidy_breakUnless (fun _ => rfl) fun _ => ?_
  refine tidy_create_drop (fun _ => rfl) fun _ _ => ?_
  exact tidy_pure rfl

theorem clean_ecDecryptElgamal : Clean (ecDecryptElgamal lib outLength storedKey inp)
    (DecryptsTo (fun _ => True) s) s := by
  have herror {s' : BuildState} (hs' : s'.rest = s.rest) : DecryptsTo (fun _ => True) s
      (.error (if storedKey.header.typeParameters.isCurve isPcurve then .internalError
        else SaStatus.operationNotAllowed)) s' := by
    apply decryptsTo_error hs'
    split <;> nofun
  refine clean_frame (fun _ _ _ h => h) ?_
  refine tidy_usePkcs8 (by simp) (fun _ hs' => herror hs') fun own s₁ hs₁ _ _ => ?_
  refine tidy_breakUnless (fun _ => herror hs₁) fun _ => ?_
  refine tidy_breakUnless (fun _ => herror hs₁) fun _ => ?_
  refine tidy_create (by simp) (fun _ => herror hs₁) fun _ _ => ?_
  refine tidy_create (by simp) (fun _ => herror hs₁) fun _ _ => ?_
  refine tidy_step (fun _ => herror hs₁) fun _ _ => ?_
  refine tidy_create (by simp) (fun _ => herror hs₁) fun _ _ => ?_
  refine tidy_step (fun _ => herror hs₁) fun _ _ => ?_
  refine tidy_create (by simp) (fun _ => herror hs₁) fun _ _ => ?_
  refine tidy_create_attempt_drop (fun _ => herror hs₁) ?_
  refine tidy_breakUnless (fun _ => herror hs₁) fun _ => ?_
  refine tidy_step (fun _ => herror hs₁) fun _ _ => ?_
  refine tidy_create (by simp) (fun _ => herror hs₁) fun _ _ => ?_
  refine tidy_step (fun _ => herror hs₁) fun _ _ => ?_
  refine tidy_invoke quiet_exportPoint fun point s₂ hs₂ => ?_
  have hs : s₂.rest = s.rest := hs₂.trans hs₁
  refine tidy_breakNone (fun _ => herror hs) fun point _ => ?_
  refine tidy_hold (by simp) ?_
  refine tidy_breakUnless (fun _ => herror hs) fun _ => ?_
  exact tidy_pure (decryptsTo_ok hs trivial)

end Parts

section Creations

variable {lib : KeyLibrary} {frees : List Pointer} {s : BuildState} {P : StoredKey → Prop}

/-- A creation that succeeds sets the key, and one that fails leaves it `NULL`. -/
structure Creates (P : StoredKey → Prop) (s : BuildState) (status : SaStatus) (s' : BuildState) :
    Prop where
  produced : s'.rest.produced = s.rest.produced
  created : (status = .ok ∧ ∃ key, s'.rest.output = some key ∧ P key) ∨
    (status ≠ .ok ∧ s'.rest.output = none)

theorem creates_error {s' : BuildState} (hproduced : s'.rest.produced = s.rest.produced)
    (houtput : s'.rest.output = none) (h : status ≠ .ok) : Creates P s status s' :=
  ⟨hproduced, .inr ⟨h, houtput⟩⟩

theorem storedKeyCreate_ne_ok
    (h : TaSecureApi.storedKeyCreate rights parentRights keyType typeParameters size inp =
      .error status) : status ≠ .ok := by
  simp only [TaSecureApi.storedKeyCreate, bind_eq_error] at h
  obtain h | ⟨_, _, h | ⟨_, _, h⟩⟩ := h
  · exact require_eq_error h (by decide)
  · exact require_eq_error h (by decide)
  · cases h

/-- The key that is created is of a size that its type supports, with the bytes that were given. -/
theorem clean_storedKeyCreate :
    Clean (storedKeyCreate lib rights parentRights keyType typeParameters size inp)
      (Creates (fun key => key.key = inp ∧ keyTypeSupportsAny keyType typeParameters size = true) s)
      s := by
  unfold storedKeyCreate
  split
  · rename_i status hstatus
    refine clean_frame (fun _ _ _ h => ⟨h.produced, h.created⟩) ?_
    intro _
    exact ⟨List.nil_subset _, rfl, creates_error rfl rfl (storedKeyCreate_ne_ok hstatus)⟩
  · rename_i storedKey hstoredKey
    obtain ⟨hsupports, _, rfl⟩ := storedKeyCreate_ok hstoredKey
    refine clean_frame (fun _ _ _ h => ⟨h.produced, h.created⟩) ?_
    refine tidy_setOutput ?_
    refine tidy_create (by simp) (fun _ => creates_error rfl rfl nofun) fun _ _ => ?_
    refine tidy_create (by simp) (fun _ => creates_error rfl rfl nofun) fun _ _ => ?_
    refine tidy_setOutput ?_
    refine tidy_drop ?_
    refine tidy_drop ?_
    exact tidy_pure ⟨rfl, .inl ⟨rfl, _, rfl, rfl, hsupports⟩⟩

theorem Creates.imp {Q : StoredKey → Prop} {s₁ s' : BuildState} (h : Creates P s₁ status s')
    (hs₁ : s₁.rest = s.rest) (hP : ∀ key, P key → Q key) : Creates Q s status s' where
  produced := by rw [h.produced, hs₁]
  created := by
    obtain ⟨hok, key, houtput, hkey⟩ | hfailed := h.created
    · exact .inl ⟨hok, key, houtput, hP key hkey⟩
    · exact .inr hfailed

theorem size_of_supportsAny_symmetric
    (h : keyTypeSupportsAny .symmetric typeParameters size = true) : size ≤ 512 := by
  simp only [keyTypeSupportsAny, keyTypeSupportsAes, keyTypeSupportsHmac, keyTypeSupportsRsa,
    keyTypeSupportsEc, keyTypeSupportsDh, validAesSize, validHmacSize, decide_true, reduceCtorEq,
    decide_false, Bool.true_and, Bool.false_and, Bool.or_false, Bool.or_eq_true, Bool.and_eq_true,
    decide_eq_true_eq] at h
  omega

theorem clean_importKey (hs : s.rest.output = none) :
    Clean (importKey lib rights wrappingKeyRights keyType parameters inp inLength)
      (Creates (fun key => key.key = inp.take inLength ∧ inLength < 2 ^ 63) s) s := by
  have hbreak {s' : BuildState} (hs' : s'.rest = s.rest) :
      Creates (fun key => key.key = inp.take inLength ∧ inLength < 2 ^ 63) s .internalError s' :=
    creates_error (by rw [hs']) (by rw [hs', hs]) nofun
  have hvalidated {validate : BuildFn Nat} {create : Nat → BuildFn SaStatus}
      (hvalidate : Clean validate (Validates inLength s) { s with locals := [] })
      (hcreate : ∀ keySize s₁, Clean (create keySize)
        (Creates (fun key => key.key = inp.take inLength) s₁) s₁) :
      Clean (frame [] do
        let keySize ← invoke validate
        breakUnless (keySize ≠ 0) .internalError
        invoke (create keySize))
        (Creates (fun key => key.key = inp.take inLength ∧ inLength < 2 ^ 63) s) s := by
    refine clean_frame (fun _ _ _ h => ⟨h.produced, h.created⟩) ?_
    refine tidy_invoke hvalidate fun keySize s₁ ⟨hs₁, hlength⟩ => ?_
    refine tidy_breakUnless (fun _ => hbreak hs₁) fun hsize => ?_
    apply tidy_invoke_end
    obtain ⟨hlocals, hleaked, hcreates⟩ := hcreate keySize s₁
    refine ⟨hlocals, hleaked, hcreates.imp hs₁ fun key hkey => ⟨hkey, hlength ?_⟩⟩
    exact of_decide_eq_true hsize
  have hstored {keySize : Nat} {keyType : SaKeyType} {typeParameters : SaTypeParameters}
      (s₁ : BuildState) : Clean (storedKeyCreate lib rights (some wrappingKeyRights) keyType
        typeParameters keySize (inp.take inLength))
        (Creates (fun key => key.key = inp.take inLength) s₁) s₁ := by
    obtain ⟨hlocals, hleaked, hcreates⟩ := clean_storedKeyCreate (s := s₁)
    exact ⟨hlocals, hleaked, hcreates.imp rfl fun _ h => h.1⟩
  unfold importKey
  split
  · exact ⟨rfl, rfl, creates_error rfl hs nofun⟩
  · exact ⟨rfl, rfl, creates_error rfl hs nofun⟩
  · exact hvalidated clean_ecValidatePrivate fun _ => hstored
  · exact hvalidated clean_rsaValidatePrivate fun _ => hstored
  · refine clean_frame (fun _ _ _ h => ⟨h.produced, h.created⟩) ?_
    apply tidy_invoke_end
    obtain ⟨hlocals, hleaked, hcreates⟩ := clean_storedKeyCreate
      (s := { s with locals := [] })
    refine ⟨hlocals, hleaked, hcreates.imp rfl fun key ⟨hkey, hsupports⟩ => ⟨hkey, ?_⟩⟩
    have hsize := size_of_supportsAny_symmetric hsupports
    omega

end Creations

section Functions

variable {lib : KeyLibrary} {frees : List Pointer} {s : BuildState}
  {Takes : List UInt8 → List UInt8 → Prop}

/-- The function succeeds with a key that it has made of the bytes of its last step, or fails
without one. -/
def Finished (Takes : List UInt8 → List UInt8 → Prop) (status : SaStatus) (s' : BuildState) :
    Prop :=
  (status = .ok ∧ ∃ key bytes, s'.rest.output = some key ∧ s'.rest.produced = some bytes ∧
    Takes bytes key.key) ∨ (status ≠ .ok ∧ s'.rest.output = none)

theorem finished_error {s' : BuildState} (hs' : s'.rest.output = none) (h : status ≠ .ok) :
    Finished Takes status s' := .inr ⟨h, hs'⟩

theorem clean_pure_status (hs : s.rest.output = none) (h : status ≠ .ok) :
    Clean (pure status : BuildFn SaStatus) (Finished Takes) s :=
  ⟨rfl, rfl, finished_error hs h⟩

theorem Creates.finished {s' : BuildState} {P : StoredKey → Prop} (h : Creates P s status s')
    (hproduced : s.rest.produced = some bytes) (hP : ∀ key, P key → Takes bytes key.key) :
    Finished Takes status s' := by
  obtain ⟨hok, key, houtput, hkey⟩ | hfailed := h.created
  · exact .inl ⟨hok, key, bytes, houtput, by rw [h.produced, hproduced], hP key hkey⟩
  · exact .inr hfailed

theorem tidy_creates {f : BuildFn SaStatus} {P : StoredKey → Prop} (hf : Clean f (Creates P s) s)
    (hproduced : s.rest.produced = some bytes) (hP : ∀ key, P key → Takes bytes key.key) :
    Tidy frees (invoke f) (Finished Takes) (Finished Takes) s := by
  apply tidy_invoke_end
  obtain ⟨hlocals, hleaked, hcreates⟩ := hf
  exact ⟨hlocals, hleaked, hcreates.finished hproduced hP⟩

theorem tidy_orStatus {x : Decrypted} {f : List UInt8 → BuildBody SaStatus SaStatus}
    {E : SaStatus → BuildState → Prop} (hbreak : ∀ status, x = .error status → E status s)
    (h : ∀ bytes, x = .ok bytes → Tidy frees (f bytes) E E s) :
    Tidy frees (orStatus x >>= f) E E s := by
  cases x with
  | ok bytes => exact h bytes rfl
  | error status =>
    exact tidy_bind (Q := fun _ _ => False) (tidy_exitWith (hbreak status rfl)) nofun

theorem tidy_generatedKey {f : List UInt8 → BuildBody SaStatus SaStatus} (hp : .key ∈ frees)
    (hs : s.rest.output = none)
    (h : ∀ bytes (s' : BuildState), s'.rest.output = none → s'.rest.produced = some bytes →
      Tidy frees (f bytes) (Finished Takes) (Finished Takes) s') :
    Tidy frees (generatedKey lib >>= f) (Finished Takes) (Finished Takes) s := by
  rw [generatedKey, bind_assoc]
  refine tidy_invoke quiet_evpPkeyToPkcs8 fun length s₁ hs₁ => ?_
  have hs₁ : s₁.rest.output = none := by rw [hs₁, hs]
  rw [bind_assoc]
  refine tidy_breakNone (fun _ => finished_error hs₁ nofun) fun length _ => ?_
  rw [bind_assoc]
  refine tidy_create hp (fun _ => finished_error hs₁ nofun) fun _ _ => ?_
  rw [bind_assoc]
  refine tidy_invoke quiet_evpPkeyToPkcs8 fun key s₂ hs₂ => ?_
  have hs₂ : s₂.rest.output = none := by rw [hs₂]; exact hs₁
  rw [bind_assoc]
  refine tidy_breakNone (fun _ => finished_error hs₂ nofun) fun key _ => ?_
  rw [bind_assoc]
  refine tidy_produce ?_
  rw [pure_bind]
  exact h key.bytes _ hs₂ rfl

theorem tidy_derivedSecret {f : List UInt8 → BuildBody SaStatus SaStatus}
    (hp : .sharedSecret ∈ frees) (hs : s.rest.output = none)
    (h : ∀ bytes (s' : BuildState), s'.rest.output = none → s'.rest.produced = some bytes →
      Tidy frees (f bytes) (Finished Takes) (Finished Takes) s') :
    Tidy frees (derivedSecret lib >>= f) (Finished Takes) (Finished Takes) s := by
  rw [derivedSecret, bind_assoc]
  refine tidy_step (fun _ => finished_error hs nofun) fun _ _ => ?_
  rw [bind_assoc]
  refine tidy_step (fun _ => finished_error hs nofun) fun length _ => ?_
  rw [bind_assoc]
  refine tidy_create hp (fun _ => finished_error hs nofun) fun _ _ => ?_
  rw [bind_assoc]
  refine tidy_step (fun _ => finished_error hs nofun) fun sharedSecret _ => ?_
  rw [bind_assoc]
  refine tidy_produce ?_
  rw [pure_bind]
  exact h sharedSecret.bytes _ hs rfl

/-- The calls of `exchangeContext`, latest first, in front of those that were made before. -/
def exchangeCalls (otherPublic key : List UInt8) (calls : List OpensslCall) : List OpensslCall :=
  [.deriveInit, .pkeyCtxNew, .d2iPubkey otherPublic, .pkcs82Pkey, .d2iPkcs8PrivKeyInfo key] ++ calls

/-- These calls succeed, with two keys of the type. -/
structure Exchanges (lib : KeyLibrary) (type : EvpPkeyType) (otherPublic key : List UInt8)
    (calls : List OpensslCall) : Prop where
  reads : ∃ own, Reads lib type key key.length calls own
  other : ∃ other, other.pkey.type = type ∧ lib.oracle
    (.d2iPubkey otherPublic :: .pkcs82Pkey :: .d2iPkcs8PrivKeyInfo key :: calls) = some other
  context : (lib.oracle (.pkeyCtxNew :: .d2iPubkey otherPublic :: .pkcs82Pkey ::
    .d2iPkcs8PrivKeyInfo key :: calls)).isSome
  init : (lib.oracle (exchangeCalls otherPublic key calls)).isSome

theorem tidy_exchangeContext {f : Unit → BuildBody SaStatus SaStatus}
    (hpkey : .evpPkey ∈ frees) (hother : .otherEvpPkey ∈ frees) (hctx : .evpPkeyCtx ∈ frees)
    (hs : s.rest.output = none)
    (h : ∀ s' : BuildState, s'.rest.output = none →
      Exchanges lib type otherPublic storedKey.key s.calls →
      s'.calls = exchangeCalls otherPublic storedKey.key s.calls →
      Tidy frees (f ()) (Finished Takes) (Finished Takes) s') :
    Tidy frees (exchangeContext lib type otherPublic storedKey >>= f) (Finished Takes)
      (Finished Takes) s := by
  rw [exchangeContext, bind_assoc]
  refine tidy_usePkcs8 hpkey (fun _ hs' => finished_error (by rw [hs', hs]) nofun) ?_
  intro own s₁ hrest hreads hcalls
  have hs₁ : s₁.rest.output = none := by rw [hrest, hs]
  rw [List.take_length] at hcalls
  rw [bind_assoc]
  refine tidy_create hother (fun _ => finished_error hs₁ nofun) fun other hotherKey => ?_
  rw [bind_assoc]
  refine tidy_breakUnless (fun _ => finished_error hs₁ nofun) fun htypes => ?_
  rw [bind_assoc]
  refine tidy_create hctx (fun _ => finished_error hs₁ nofun) fun context hcontext => ?_
  rw [bind_assoc]
  refine tidy_step (fun _ => finished_error hs₁ nofun) fun init hinit => ?_
  rw [pure_bind]
  have hafter : ((((s₁.after (.d2iPubkey otherPublic)).hold .otherEvpPkey).after
      .pkeyCtxNew).hold .evpPkeyCtx).calls =
        .pkeyCtxNew :: .d2iPubkey otherPublic :: s₁.calls := rfl
  rw [hafter, hcalls] at hinit
  have hafter : ((s₁.after (.d2iPubkey otherPublic)).hold .otherEvpPkey).calls =
      .d2iPubkey otherPublic :: s₁.calls := rfl
  rw [hafter, hcalls] at hcontext
  rw [hcalls] at hotherKey
  obtain ⟨answer, hanswer, htype, _⟩ := hreads.pkey
  refine h _ hs₁ ⟨⟨own, hreads⟩, ⟨other, ?_, hotherKey⟩, ?_, ?_⟩ ?_
  · exact (of_decide_eq_true htypes).symm.trans htype
  · exact Option.isSome_iff_exists.2 ⟨context, hcontext⟩
  · exact Option.isSome_iff_exists.2 ⟨init, hinit⟩
  · change .deriveInit :: .pkeyCtxNew :: .d2iPubkey otherPublic :: s₁.calls = _
    rw [hcalls]
    rfl

theorem clean_ecComputeEcdhSharedSecret (hs : s.rest.output = none) :
    Clean (ecComputeEcdhSharedSecret lib rights otherPublic storedKey)
      (Finished fun bytes key => key = bytes) s := by
  cases otherPublic with
  | none => exact clean_pure_status hs nofun
  | some otherPublic =>
    refine clean_frame (fun _ _ _ h => h) ?_
    refine tidy_breakUnless (fun _ => finished_error hs nofun) fun _ => ?_
    refine tidy_exchangeContext (by simp) (by simp) (by simp) hs fun s₁ hs₁ _ _ => ?_
    refine tidy_derivedSecret (by simp) hs₁ fun bytes s₂ hs₂ hproduced => ?_
    exact tidy_creates clean_storedKeyCreate hproduced fun _ hkey => hkey.1

theorem clean_dhGenerateKey (hs : s.rest.output = none) :
    Clean (dhGenerateKey lib rights p g) (Finished fun bytes key => key = bytes) s := by
  unfold dhGenerateKey
  split
  · exact clean_pure_status hs nofun
  · exact clean_pure_status hs nofun
  · split
    · exact clean_pure_status hs nofun
    · split
      · exact clean_pure_status hs nofun
      · refine clean_frame (fun _ _ _ h => h) ?_
        refine tidy_create (by simp) (fun _ => finished_error hs nofun) fun _ _ => ?_
        refine tidy_create (by simp) (fun _ => finished_error hs nofun) fun _ _ => ?_
        refine tidy_create (by simp) (fun _ => finished_error hs nofun) fun _ _ => ?_
        refine tidy_step (fun _ => finished_error hs nofun) fun _ _ => ?_
        refine tidy_create (by simp) (fun _ => finished_error hs nofun) fun _ _ => ?_
        refine tidy_create (by simp) (fun _ => finished_error hs nofun) fun _ _ => ?_
        refine tidy_step (fun _ => finished_error hs nofun) fun _ _ => ?_
        refine tidy_create (by simp) (fun _ => finished_error hs nofun) fun _ _ => ?_
        refine tidy_generatedKey (by simp) hs fun bytes s₁ hs₁ hproduced => ?_
        exact tidy_creates clean_storedKeyCreate hproduced fun _ hkey => hkey.1

theorem tidy_ecKeygenContext {f : Unit → BuildBody SaStatus SaStatus}
    (hparamCtx : .evpPkeyParamCtx ∈ frees) (hparams : .evpPkeyParams ∈ frees)
    (hctx : .evpPkeyCtx ∈ frees) (hs : s.rest.output = none)
    (h : ∀ s' : BuildState, s'.rest.output = none →
      Tidy frees (f ()) (Finished Takes) (Finished Takes) s') :
    Tidy frees (ecKeygenContext lib curve >>= f) (Finished Takes) (Finished Takes) s := by
  unfold ecKeygenContext
  split
  · simp only [bind_assoc, pure_bind]
    refine tidy_create hparamCtx (fun _ => finished_error hs nofun) fun _ _ => ?_
    refine tidy_step (fun _ => finished_error hs nofun) fun _ _ => ?_
    refine tidy_step (fun _ => finished_error hs nofun) fun _ _ => ?_
    refine tidy_step (fun _ => finished_error hs nofun) fun _ _ => ?_
    refine tidy_create hparams (fun _ => finished_error hs nofun) fun _ _ => ?_
    refine tidy_create hctx (fun _ => finished_error hs nofun) fun _ _ => ?_
    exact h _ hs
  · simp only [bind_assoc, pure_bind]
    refine tidy_create hctx (fun _ => finished_error hs nofun) fun _ _ => ?_
    exact h _ hs

theorem clean_ecGenerateKey (hs : s.rest.output = none) :
    Clean (ecGenerateKey lib rights parameters) (Finished fun bytes key => key = bytes) s := by
  obtain _ | _ | curve := parameters
  · exact clean_pure_status hs nofun
  · exact clean_pure_status hs nofun
  · refine clean_frame (fun _ _ _ h => h) ?_
    refine tidy_ecKeygenContext (by simp) (by simp) (by simp) hs fun s₁ hs₁ => ?_
    refine tidy_step (fun _ => finished_error hs₁ nofun) fun _ _ => ?_
    refine tidy_create (by simp) (fun _ => finished_error hs₁ nofun) fun _ _ => ?_
    refine tidy_generatedKey (by simp) hs₁ fun bytes s₂ hs₂ hproduced => ?_
    exact tidy_creates clean_storedKeyCreate hproduced fun _ hkey => hkey.1

theorem clean_rsaGenerateKey (hs : s.rest.output = none) :
    Clean (rsaGenerateKey lib rights parameters) (Finished fun bytes key => key = bytes) s := by
  cases parameters with
  | none => exact clean_pure_status hs nofun
  | some modulusLength =>
    refine clean_frame (fun _ _ _ h => h) ?_
    refine tidy_create (by simp) (fun _ => finished_error hs nofun) fun _ _ => ?_
    refine tidy_step (fun _ => finished_error hs nofun) fun _ _ => ?_
    refine tidy_step (fun _ => finished_error hs nofun) fun _ _ => ?_
    refine tidy_create (by simp) (fun _ => finished_error hs nofun) fun _ _ => ?_
    refine tidy_generatedKey (by simp) hs fun bytes s₁ hs₁ hproduced => ?_
    exact tidy_creates clean_storedKeyCreate hproduced fun _ hkey => hkey.1

end Functions

end TaSecureApi.Construction
