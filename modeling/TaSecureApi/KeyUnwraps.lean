import TaSecureApi.KeyBuilds

namespace TaSecureApi.Construction
set_option autoImplicit true
open Frames Wp

/-- The key is what is left of the bytes without their padding, if they have one. -/
def Unpads (padded : Bool) (bytes key : List UInt8) : Prop :=
  if padded then
    ∃ n, Pkcs7.check aesBlockSize (bytes.drop (bytes.length - aesBlockSize)) = some n ∧
      key = bytes.take (bytes.length - n)
  else key = bytes

theorem unpads_of_unpaddedLength (hfront : front.length = aesBlockSize)
    (hblocks : padded = true → bytes.length % aesBlockSize = 0)
    (hlength : unpaddedLength padded front bytes = some length) (hlt : length < 2 ^ 63) :
    Unpads padded bytes (bytes.take length) := by
  cases padded with
  | false =>
    obtain rfl := Option.some.inj hlength
    exact List.take_length
  | true =>
    simp only [unpaddedLength, if_true, Option.map_eq_some_iff] at hlength
    obtain ⟨n, hcheck, rfl⟩ := hlength
    obtain ⟨hpos, hle⟩ := Pkcs7.check_bounds hcheck
    have hblocks := hblocks rfl
    have hblock : aesBlockSize ≤ bytes.length := by
      rw [sizeDifference, aesBlockSize] at *
      split at hlt <;> omega
    have hdrop : (front ++ bytes).drop bytes.length =
        bytes.drop (bytes.length - aesBlockSize) := by
      rw [List.drop_append, List.drop_eq_nil_of_le (by omega), List.nil_append, hfront]
    rw [hdrop] at hcheck
    refine ⟨n, hcheck, ?_⟩
    rw [sizeDifference, if_pos (hle.trans hblock)]

section Unwraps

variable {lib : KeyLibrary} {frees : List Pointer} {s : BuildState} {input : UnwrapInput}

theorem tidy_importKey (hs : s.rest.output = none) (hproduced : s.rest.produced = some bytes)
    (hTakes : length < 2 ^ 63 → Takes bytes (inp.take length)) :
    Tidy frees (invoke (importKey lib rights wrappingKeyRights keyType parameters inp length))
      (Finished Takes) (Finished Takes) s := by
  apply tidy_creates (clean_importKey hs) hproduced
  intro key ⟨hkey, hlt⟩
  rw [hkey]
  exact hTakes hlt

/-- An unwrap with a block cipher, whose decryption makes whole blocks where they are padded. -/
theorem clean_unwrapAesBlocks {decrypt : List UInt8 → List UInt8 → BuildFn Decrypted}
    (hs : s.rest.output = none)
    (hdecrypt : ∀ inp key s₁, Clean (decrypt inp key)
      (DecryptsTo (fun bytes => padded = true → bytes.length % aesBlockSize = 0) s₁) s₁) :
    Clean (unwrapAesBlocks lib input padded decrypt) (Finished (Unpads padded)) s := by
  unfold unwrapAesBlocks
  split
  · exact clean_pure_status hs nofun
  · refine clean_frame (fun _ _ _ h => h) ?_
    refine tidy_create (by simp) (fun _ => finished_error hs nofun) fun front hfront => ?_
    refine tidy_invoke (hdecrypt _ _ _) fun decrypted s₁ ⟨hrest, herror, hok⟩ => ?_
    have hs₁ : s₁.rest.output = none := by rw [hrest]; exact hs
    refine tidy_orStatus (fun status h => finished_error hs₁ (herror status h)) fun bytes h => ?_
    refine tidy_produce ?_
    refine tidy_breakNone (fun _ => finished_error hs₁ nofun) fun length hlength => ?_
    exact tidy_importKey (s := BuildState.produce s₁ bytes) hs₁ rfl
      (unpads_of_unpaddedLength (lib.alloc_length hfront) (hok bytes h) hlength)

theorem clean_unwrapAesEcb (hs : s.rest.output = none) :
    Clean (unwrapAesEcb lib input padded) (Finished (Unpads padded)) s := by
  apply clean_unwrapAesBlocks hs
  intro inp key s₁
  obtain ⟨hlocals, hleaked, hrest, herror, hok⟩ := clean_unwrapAesEcbInternal (s := s₁)
  exact ⟨hlocals, hleaked, hrest, herror, fun bytes h _ => hok bytes h⟩

theorem clean_unwrapAesCbc (hs : s.rest.output = none) :
    Clean (unwrapAesCbc lib input padded iv) (Finished (Unpads padded)) s := by
  cases iv with
  | none => exact clean_pure_status hs nofun
  | some iv =>
    apply clean_unwrapAesBlocks hs
    intro inp key s₁
    obtain ⟨hlocals, hleaked, hrest, herror, hok⟩ := clean_unwrapAesCbcInternal (s := s₁)
    exact ⟨hlocals, hleaked, hrest, herror, fun bytes h _ => hok bytes h⟩

theorem clean_unwrapAesGcm (hs : s.rest.output = none) :
    Clean (unwrapAesGcm lib input parameters) (Finished fun bytes key => key = bytes) s := by
  cases parameters with
  | none => exact clean_pure_status hs nofun
  | some parameters =>
    change Clean _ (Finished (Unpads false)) s
    apply clean_unwrapAesBlocks hs
    intro inp key s₁
    obtain ⟨hlocals, hleaked, hrest, herror, hok⟩ := clean_unwrapAesGcmInternal (s := s₁)
    exact ⟨hlocals, hleaked, hrest, herror, fun bytes h => nofun⟩

theorem clean_unwrapStream (hs : s.rest.output = none) :
    Clean (unwrapStream lib input before behind) (Finished fun bytes key => key = bytes) s := by
  unfold unwrapStream
  split
  · exact clean_pure_status hs nofun
  · refine clean_frame (fun _ _ _ h => h) ?_
    refine tidy_create (by simp) (fun _ => finished_error hs nofun) fun _ _ => ?_
    refine tidy_evpDecrypt (by simp) (fun _ hs' => finished_error (by rw [hs']; exact hs) nofun) ?_
    intro bytes s₁ hrest _
    have hs₁ : s₁.rest.output = none := by rw [hrest]; exact hs
    refine tidy_produce ?_
    exact tidy_importKey (s := BuildState.produce s₁ bytes) hs₁ rfl fun _ => List.take_length

theorem clean_unwrapAesCtr (hs : s.rest.output = none) :
    Clean (unwrapAesCtr lib input ctr) (Finished fun bytes key => key = bytes) s := by
  cases ctr with
  | none => exact clean_pure_status hs nofun
  | some ctr =>
    rw [unwrapAesCtr]
    exact clean_unwrapStream hs

theorem clean_unwrapChacha20 (hs : s.rest.output = none) :
    Clean (unwrapChacha20 lib input parameters) (Finished fun bytes key => key = bytes) s := by
  cases parameters with
  | none => exact clean_pure_status hs nofun
  | some parameters =>
    rw [unwrapChacha20]
    exact clean_unwrapStream hs

theorem clean_unwrapChacha20Poly1305 (hs : s.rest.output = none) :
    Clean (unwrapChacha20Poly1305 lib input parameters) (Finished fun bytes key => key = bytes)
      s := by
  cases parameters with
  | none => exact clean_pure_status hs nofun
  | some parameters =>
    rw [unwrapChacha20Poly1305]
    exact clean_unwrapStream hs

theorem clean_unwrapEc (hs : s.rest.output = none) :
    Clean (unwrapEc lib inp rights parameters storedKeyWrapping)
      (Finished fun bytes key => key = (bytes.drop parameters.offset).take parameters.keyLength)
      s := by
  cases inp with
  | none => exact clean_pure_status hs nofun
  | some inp =>
    refine clean_frame (fun _ _ _ h => h) ?_
    refine tidy_breakUnless (fun _ => finished_error hs nofun) fun _ => ?_
    refine tidy_breakUnless (fun _ => finished_error hs nofun) fun _ => ?_
    refine tidy_breakNone (fun _ => finished_error hs nofun) fun _ _ => ?_
    refine tidy_breakUnless (fun _ => finished_error hs nofun) fun _ => ?_
    refine tidy_breakUnless (fun _ => finished_error hs nofun) fun _ => ?_
    refine tidy_create (by simp) (fun _ => finished_error hs nofun) fun _ _ => ?_
    refine tidy_invoke clean_ecDecryptElgamal fun decrypted s₁ ⟨hrest, herror, _⟩ => ?_
    have hs₁ : s₁.rest.output = none := by rw [hrest]; exact hs
    refine tidy_orStatus (fun status h => finished_error hs₁ (herror status h)) fun bytes h => ?_
    refine tidy_breakUnless (fun _ => finished_error hs₁ nofun) fun _ => ?_
    refine tidy_produce ?_
    exact tidy_importKey (s := BuildState.produce s₁ bytes) hs₁ rfl fun _ => List.take_length

/-- The parameters whose label has a length but is `NULL`: the check for them does not leave the
block with a break. -/
def RsaCipher.LacksLabel : RsaCipher → Prop
  | oaep (some parameters) => parameters.label = none ∧ parameters.labelLength ≠ 0
  | _ => False

theorem tidy_rsaDecrypt {cipher : RsaCipher} {f : List UInt8 → BuildBody SaStatus SaStatus}
    (hs : s.rest.output = none) (hlabel : ¬ cipher.LacksLabel)
    (h : ∀ bytes (s' : BuildState), s'.rest.output = none →
      Tidy frees (f bytes) (Finished Takes) (Finished Takes) s') :
    Tidy frees (cipher.decrypt lib storedKey inp >>= f) (Finished Takes) (Finished Takes) s := by
  have hdecrypted {g : BuildFn Decrypted} (hg : Clean g (DecryptsTo (fun _ => True) s) s) :
      Tidy frees (invoke g >>= fun decrypted => orStatus decrypted >>= f) (Finished Takes)
        (Finished Takes) s := by
    refine tidy_invoke hg fun decrypted s₁ ⟨hrest, herror, _⟩ => ?_
    have hs₁ : s₁.rest.output = none := by rw [hrest, hs]
    exact tidy_orStatus (fun status h' => finished_error hs₁ (herror status h'))
      fun bytes _ => h bytes s₁ hs₁
  obtain (_ | parameters) | _ := cipher
  · exact tidy_bind (Q := fun _ _ => False) (tidy_exitWith (finished_error hs nofun)) nofun
  · have hcheck : (!(parameters.label.isNone && parameters.labelLength ≠ 0)) = true := by
      simp only [RsaCipher.LacksLabel] at hlabel
      simpa [Option.isSome_iff_ne_none, or_iff_not_imp_left] using hlabel
    simp only [RsaCipher.decrypt, hcheck, returnUnless, if_true, pure_bind, bind_assoc]
    exact hdecrypted clean_rsaDecryptOaep
  · simp only [RsaCipher.decrypt, bind_assoc]
    exact hdecrypted clean_rsaDecryptPkcs1v15

/-- `unwrap_rsa` comes to that check, with a buffer. -/
structure LosesBuffer (lib : KeyLibrary) (inp : Option (List UInt8)) (cipher : RsaCipher)
    (calls : List OpensslCall) : Prop where
  allocated : ∃ bytes, inp = some bytes ∧
    (lib.oracle (.secureAlloc bytes.length :: calls)).isSome
  label : cipher.LacksLabel

theorem clean_unwrapRsa {cipher : RsaCipher} (hs : s.rest.output = none)
    (hbuffer : ¬ LosesBuffer lib inp cipher s.calls) :
    Clean (unwrapRsa lib inp rights cipher storedKeyWrapping)
      (Finished fun bytes key => key = bytes) s := by
  cases inp with
  | none => exact clean_pure_status hs nofun
  | some inp =>
    refine clean_frame (fun _ _ _ h => h) ?_
    refine tidy_create (by simp) (fun _ => finished_error hs nofun) fun buffer hcreated => ?_
    have hlabel : ¬ cipher.LacksLabel := fun h =>
      hbuffer ⟨⟨inp, rfl, Option.isSome_iff_exists.2 ⟨buffer, hcreated⟩⟩, h⟩
    refine tidy_rsaDecrypt hs hlabel fun bytes s₁ hs₁ => ?_
    refine tidy_produce ?_
    exact tidy_importKey (s := BuildState.produce s₁ bytes) hs₁ rfl fun _ => List.take_length

theorem unwrapRsa_of_losesBuffer {cipher : RsaCipher}
    (h : LosesBuffer lib inp cipher s.calls) :
    (unwrapRsa lib inp rights cipher storedKeyWrapping s).2.leaked = .unwrappedKey :: s.leaked := by
  obtain ⟨⟨bytes, rfl, halloc⟩, hlabel⟩ := h
  obtain ⟨front, hfront⟩ := Option.isSome_iff_exists.1 halloc
  obtain (_ | parameters) | _ := cipher
  · exact hlabel.elim
  · obtain ⟨hnone, hlength⟩ := hlabel
    have hcheck : (!(parameters.label.isNone && parameters.labelLength ≠ 0)) = false := by
      simp [hnone, hlength]
    have hrun : unwrapRsa lib (some bytes) rights (.oaep (some parameters)) storedKeyWrapping s =
        (.invalidParameter, { s with
          calls := .secureAlloc bytes.length :: s.calls
          leaked := .unwrappedKey :: s.leaked }) := by
      apply frame_of_returns ((({ s with locals := [] } : BuildState).after
        (.secureAlloc bytes.length)).hold .unwrappedKey)
      refine wp_create hfront ?_
      simp only [RsaCipher.decrypt, hcheck, returnUnless, Bool.false_eq_true, if_false]
      exact ⟨rfl, rfl⟩
    rw [hrun]
  · exact hlabel.elim

end Unwraps

end TaSecureApi.Construction
