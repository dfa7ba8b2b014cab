import Kmsync.Client.IdentityText

/-! Loads of an identity that is there already.  A load keeps the key pair of the file and leaves
the file in a form that the next load reads the same identity from, unless it is a load for the
local file and the file has no private key in it. -/

namespace Kmsync.Client

open ProofKit

section Files

variable [DeviceIdentityJson] {σ : Type} {path : String} {call : LoadCall}
  {stored : DeviceIdentityFile} {state : IdentityState σ} {text : String}
  {E : String → IdentityState σ → Prop}

omit [DeviceIdentityJson] in
theorem meets_readToString {Q : String → IdentityState σ → Prop} (hFile : state.file = some text)
    (hQ : Q text state) (hE : ∀ error, call.readError ≠ none → E error state) :
    Meets (readToString path call) Q E state := by
  unfold readToString
  rw [meets_bind, meets_get, hFile]
  cases hRead : call.readError with
  | none => exact hQ
  | some error => exact hE _ (by rw [hRead]; exact Option.some_ne_none error)

theorem meets_parseIdentityFile {Q : DeviceIdentityFile → IdentityState σ → Prop}
    (hText : DeviceIdentityJson.fromStr text = .ok stored) (hQ : Q stored state) :
    Meets (parseIdentityFile path text) Q E state := by
  unfold parseIdentityFile
  rw [hText]
  exact hQ

/-- A write replaces the file by a text of what is written, or leaves it as it is. -/
theorem meets_writeDeviceIdentityMetadata [LawfulDeviceIdentityJson]
    {Q : Unit → IdentityState σ → Prop}
    (hQ : ∀ text, DeviceIdentityJson.fromStr text = .ok stored →
      Q () { state with file := some text })
    (hE : ∀ error, call.writeError ≠ none → E error state) :
    Meets (writeDeviceIdentityMetadata call stored) Q E state := by
  obtain ⟨text, hPretty, hText⟩ := LawfulDeviceIdentityJson.fromStr_toStringPretty stored
  unfold writeDeviceIdentityMetadata writeDeviceIdentityText
  rw [hPretty]
  cases hWrite : call.writeError with
  | none => exact hQ text hText
  | some error => exact hE _ (by rw [hWrite]; exact Option.some_ne_none error)

end Files

section Loads

variable [DeviceIdentityJson] [SigningKeys] {σ : Type} [DeviceIdentitySecretStore σ]
  {path : String} {mode : DeviceIdentityStorageMode} {call : LoadCall}
  {stored : DeviceIdentityFile} {state : IdentityState σ} {text privateKey : String}

/-- A load in this mode finds the private key where the file has it, and leaves it there. -/
def DeviceIdentityFile.Holds (stored : DeviceIdentityFile) (secrets : σ) (privateKey : String) :
    DeviceIdentityStorageMode → Prop
  | .localFile => stored.privateKey = some privateKey
  | .systemSecretStore => ∃ ref, stored.privateKeyRef = some ref ∧
      DeviceIdentitySecretStore.loadPrivateKey ref secrets = .ok privateKey

/-- The file has the whole identity, in the form of the mode. -/
structure Settled (mode : DeviceIdentityStorageMode) (identity : DeviceIdentity)
    (state : IdentityState σ) : Prop where
  file : ∃ text stored, state.file = some text ∧ DeviceIdentityJson.fromStr text = .ok stored ∧
    stored.deviceId = some identity.deviceId ∧ stored.publicKey = identity.publicKey ∧
    stored.Holds state.secrets identity.privateKey mode

/-- The identity of a file, with the id that the load would generate if the file has none. -/
def DeviceIdentityFile.identityWith (stored : DeviceIdentityFile) (call : LoadCall)
    (privateKey : String) : DeviceIdentity :=
  ⟨stored.deviceId.getD call.newDeviceId, stored.publicKey, privateKey⟩

variable [LawfulDeviceIdentityJson]

section

omit [SigningKeys]

variable {deviceId publicKey : String} {ref : DeviceIdentitySecretRef}
  {E : String → IdentityState σ → Prop}

theorem meets_writeDeviceIdentityFile
    (hRef : DeviceIdentitySecretStore.loadPrivateKey ref state.secrets = .ok privateKey)
    (hE : ∀ error, call.writeError ≠ none → E error state) :
    Meets (writeDeviceIdentityFile call deviceId publicKey ref)
      (fun _ after => Settled .systemSecretStore ⟨deviceId, publicKey, privateKey⟩ after) E state :=
  meets_writeDeviceIdentityMetadata
    (fun text hText => ⟨text, _, rfl, hText, rfl, rfl, ref, rfl, hRef⟩) hE

theorem meets_writeDeviceIdentityLocalFile
    (hE : ∀ error, call.writeError ≠ none → E error state) :
    Meets (writeDeviceIdentityLocalFile call deviceId publicKey privateKey)
      (fun _ after => Settled .localFile ⟨deviceId, publicKey, privateKey⟩ after) E state :=
  meets_writeDeviceIdentityMetadata (fun text hText => ⟨text, _, rfl, hText, rfl, rfl, rfl⟩) hE

/-- The file has a reference, and the store the key behind it. -/
theorem meets_load_of_ref (hFile : state.file = some text)
    (hText : DeviceIdentityJson.fromStr text = .ok stored) (hRef : stored.privateKeyRef = some ref)
    (hKey : DeviceIdentitySecretStore.loadPrivateKey ref state.secrets = .ok privateKey) :
    Meets (stored.load path call)
      (fun identity after => identity = stored.identityWith call privateKey ∧
        Settled .systemSecretStore identity after)
      (fun _ after => after = state ∧ ¬ call.Works) state := by
  unfold DeviceIdentityFile.load loadPrivateKey
  simp only [hRef, meets_bind, meets_get, hKey, meets_ofExcept_ok]
  cases hId : stored.deviceId with
  | none =>
    simp only [Option.isNone_none, if_true, meets_bind]
    refine (meets_writeDeviceIdentityFile hKey fun error hWrite =>
      ⟨rfl, fun hWorks => hWrite hWorks.2⟩).mono (fun _ after hSettled => ?_) fun _ _ => id
    exact ⟨by rw [DeviceIdentityFile.identityWith, hId], hSettled⟩
  | some deviceId =>
    refine ⟨by rw [DeviceIdentityFile.identityWith, hId], ?_⟩
    exact ⟨text, stored, hFile, hText, hId, rfl, ref, hRef, hKey⟩

/-- The file has the key itself, and no reference: the key moves to the store. -/
theorem meets_load_of_inline [FaithfulSecretStore σ] (hRef : stored.privateKeyRef = none)
    (hKey : stored.privateKey = some privateKey) :
    Meets (stored.load path call)
      (fun identity after => identity = stored.identityWith call privateKey ∧
        Settled .systemSecretStore identity after) (fun _ _ => True) state := by
  unfold DeviceIdentityFile.load storePrivateKey
  simp only [hRef, hKey, meets_bind, meets_get]
  cases hStore : DeviceIdentitySecretStore.storePrivateKey
      (DeviceIdentitySecretRef.forPublicKey stored.publicKey) privateKey state.secrets with
  | error error => trivial
  | ok secrets =>
    refine (meets_writeDeviceIdentityFile (FaithfulSecretStore.load_store _ _ _ _ hStore)
      fun _ _ => trivial).mono (fun _ after hSettled => ?_) fun _ _ => id
    exact ⟨rfl, hSettled⟩

end

theorem meets_loadLocal_of_some (hKey : stored.privateKey = some privateKey) :
    Meets (stored.loadLocal call)
      (fun identity after => identity = stored.identityWith call privateKey ∧
        Settled .localFile identity after)
      (fun _ after => after = state ∧ ¬ call.Works) state := by
  unfold DeviceIdentityFile.loadLocal
  simp only [hKey, meets_bind]
  refine (meets_writeDeviceIdentityLocalFile fun _ hWrite =>
    ⟨rfl, fun hWorks => hWrite hWorks.2⟩).mono (fun _ after hSettled => ?_) fun _ _ => id
  exact ⟨rfl, hSettled⟩

omit [DeviceIdentitySecretStore σ] in
theorem meets_loadOrGenerateLocalFile {Q : DeviceIdentity → IdentityState σ → Prop}
    {E : String → IdentityState σ → Prop} (hFile : state.file = some text)
    (hText : DeviceIdentityJson.fromStr text = .ok stored)
    (hLoad : Meets (stored.loadLocal call) Q E state)
    (hRead : ∀ error, call.readError ≠ none → E error state) :
    Meets (loadOrGenerateLocalFile path call) Q E state := by
  have hBlank : Server.trimmed text ≠ "" := fun hBlank =>
    LawfulDeviceIdentityJson.fromStr_blank text stored hBlank hText
  unfold loadOrGenerateLocalFile
  rw [meets_bind, meets_get, hFile]
  simp only [Option.isNone_some, Bool.false_eq_true, if_false, meets_bind]
  refine meets_readToString hFile ?_ hRead
  rw [if_neg hBlank, meets_bind]
  exact meets_parseIdentityFile hText hLoad

omit [LawfulDeviceIdentityJson] in
theorem meets_loadOrGenerateWithStore {Q : DeviceIdentity → IdentityState σ → Prop}
    {E : String → IdentityState σ → Prop} (hFile : state.file = some text)
    (hText : DeviceIdentityJson.fromStr text = .ok stored)
    (hLoad : Meets (stored.load path call) Q E state)
    (hRead : ∀ error, call.readError ≠ none → E error state) :
    Meets (loadOrGenerateWithStore path call) Q E state := by
  unfold loadOrGenerateWithStore
  rw [meets_bind, meets_get, hFile]
  simp only [Option.isNone_some, Bool.false_eq_true, if_false, meets_bind]
  exact meets_readToString hFile (meets_parseIdentityFile hText hLoad) hRead

/-- A load that finds the private key where the file has it.  Nothing is changed if it fails. -/
theorem meets_loadOrGenerate_of_holds (hFile : state.file = some text)
    (hText : DeviceIdentityJson.fromStr text = .ok stored)
    (hHolds : stored.Holds state.secrets privateKey mode) :
    Meets (loadOrGenerateForStorageMode path call mode)
      (fun identity after => identity = stored.identityWith call privateKey ∧
        Settled mode identity after)
      (fun _ after => after = state ∧ ¬ call.Works) state := by
  have hRead : ∀ error : String, call.readError ≠ none → state = state ∧ ¬ call.Works :=
    fun _ hRead => ⟨rfl, fun hWorks => hRead hWorks.1⟩
  cases mode with
  | localFile =>
    exact meets_loadOrGenerateLocalFile hFile hText (meets_loadLocal_of_some hHolds) hRead
  | systemSecretStore =>
    obtain ⟨ref, hRef, hKey⟩ := hHolds
    exact meets_loadOrGenerateWithStore hFile hText (meets_load_of_ref hFile hText hRef hKey) hRead

/-- A load for the local file that does not find the private key in it. -/
theorem loadOrGenerate_of_none (hFile : state.file = some text)
    (hText : DeviceIdentityJson.fromStr text = .ok stored) (hKey : stored.privateKey = none)
    (hWorks : call.Works) :
    ∃ after, loadOrGenerateForStorageMode path call .localFile state =
      .ok (DeviceIdentity.generate call) after := by
  have hEnds : Ends (loadOrGenerateForStorageMode path call .localFile)
      (fun identity _ => identity = DeviceIdentity.generate call) state := by
    refine meets_loadOrGenerateLocalFile hFile hText ?_ fun _ hRead => hRead hWorks.1
    unfold DeviceIdentityFile.loadLocal generateLocalFile
    simp only [hKey, meets_bind]
    exact (meets_writeDeviceIdentityLocalFile fun _ hWrite => hWrite hWorks.2).mono
      (fun _ _ _ => rfl) fun _ _ => id
  obtain ⟨identity, after, hLoad, rfl⟩ := hEnds.exists_ok
  exact ⟨after, hLoad⟩

theorem loadOrGenerate_of_holds (hFile : state.file = some text)
    (hText : DeviceIdentityJson.fromStr text = .ok stored)
    (hHolds : stored.Holds state.secrets privateKey mode) (hWorks : call.Works) :
    ∃ after, loadOrGenerateForStorageMode path call mode state =
      .ok (stored.identityWith call privateKey) after := by
  have hMeets : Meets (loadOrGenerateForStorageMode path call mode) _ _ state :=
    meets_loadOrGenerate_of_holds hFile hText hHolds
  rcases hMeets.ok_or_error with
    ⟨_, after, hLoad, rfl, -⟩ | ⟨_, _, -, -, hFails⟩
  · exact ⟨after, hLoad⟩
  · exact absurd hWorks hFails

/-- A load of a settled identity returns it, whatever it would generate. -/
theorem Settled.meets_load {identity : DeviceIdentity} (h : Settled mode identity state) :
    Meets (loadOrGenerateForStorageMode path call mode)
      (fun identity' after => identity' = identity ∧ Settled mode identity after)
      (fun _ after => Settled mode identity after ∧ ¬ call.Works) state := by
  obtain ⟨text, stored, hFile, hText, hDeviceId, hPublicKey, hHolds⟩ := h.file
  have hIdentity : stored.identityWith call identity.privateKey = identity := by
    rw [DeviceIdentityFile.identityWith, hDeviceId, hPublicKey, Option.getD_some]
  refine (meets_loadOrGenerate_of_holds hFile hText hHolds).mono ?_ ?_
  · rintro identity' after ⟨rfl, hSettled⟩
    rw [hIdentity] at hSettled ⊢
    exact ⟨rfl, hSettled⟩
  · rintro _ _ ⟨rfl, hWorks⟩
    exact ⟨h, hWorks⟩

end Loads

section Runs

variable [DeviceIdentityJson] [SigningKeys] {σ : Type} [DeviceIdentitySecretStore σ]
  (path : String) (mode : DeviceIdentityStorageMode)

/-- The state after a load, however it ends. -/
def IdentityState.afterLoad (state : IdentityState σ) (call : LoadCall) : IdentityState σ :=
  match loadOrGenerateForStorageMode path call mode state with
  | .ok _ after => after
  | .error _ after => after

/-- An identity that a load returned is the one of the file before, and the one of every load in the
same mode that comes later. -/
structure StableIdentity (stored : DeviceIdentityFile) (before : IdentityState σ)
    (identity : DeviceIdentity) (after : IdentityState σ) : Prop where
  publicKey : identity.publicKey = stored.publicKey
  deviceId : ∀ deviceId, stored.deviceId = some deviceId → identity.deviceId = deviceId
  privateKey : stored.privateKey = some identity.privateKey ∨
    ∃ ref, stored.privateKeyRef = some ref ∧
      DeviceIdentitySecretStore.loadPrivateKey ref before.secrets = .ok identity.privateKey
  later : ∀ (earlier : List LoadCall) (call : LoadCall),
    Meets (loadOrGenerateForStorageMode path call mode)
    (fun identity' _ => identity' = identity) (fun _ _ => ¬ call.Works)
    (earlier.foldl (IdentityState.afterLoad path mode) after)

variable {path mode} [LawfulDeviceIdentityJson] {identity : DeviceIdentity}
  {state after : IdentityState σ} {stored : DeviceIdentityFile} {call : LoadCall}

theorem Settled.afterLoad (h : Settled mode identity state) :
    Settled mode identity (state.afterLoad path mode call) := by
  unfold IdentityState.afterLoad
  have hMeets : Meets (loadOrGenerateForStorageMode path call mode) _ _ state := h.meets_load
  rcases hMeets.ok_or_error with
    ⟨identity', s, hLoad, -, hSettled⟩ | ⟨error, s, hLoad, hSettled, -⟩
  · rw [hLoad]
    exact hSettled
  · rw [hLoad]
    exact hSettled

/-- Loads keep an identity settled, those that fail too. -/
theorem Settled.run (h : Settled mode identity state) (calls : List LoadCall) :
    Settled mode identity (calls.foldl (IdentityState.afterLoad path mode) state) := by
  induction calls generalizing state with
  | nil => exact h
  | cons call calls ih => exact ih h.afterLoad

theorem Settled.stable (h : Settled mode (stored.identityWith call identity.privateKey) after)
    (hIdentity : identity = stored.identityWith call identity.privateKey)
    (hKey : stored.privateKey = some identity.privateKey ∨
      ∃ ref, stored.privateKeyRef = some ref ∧
        DeviceIdentitySecretStore.loadPrivateKey ref state.secrets = .ok identity.privateKey) :
    StableIdentity path mode stored state identity after where
  publicKey := by rw [hIdentity, DeviceIdentityFile.identityWith]
  deviceId deviceId hId := by rw [hIdentity, DeviceIdentityFile.identityWith, hId, Option.getD_some]
  privateKey := hKey
  later earlier call := by
    rw [← hIdentity] at h
    exact (h.run earlier).meets_load.mono (fun _ _ => And.left) fun _ _ => And.right

end Runs

section Generated

/-- The two digits of a byte give it back. -/
theorem hexEncode_injective : Function.Injective hexEncode := by
  intro bytes bytes' h
  have hDigits := String.ofList_injective h
  clear h
  induction bytes generalizing bytes' with
  | nil =>
    cases bytes' with
    | nil => rfl
    | cons byte' bytes' => simp at hDigits
  | cons byte bytes ih =>
    cases bytes' with
    | nil => simp at hDigits
    | cons byte' bytes' =>
      simp only [List.flatMap_cons, List.cons_append, List.nil_append, List.cons.injEq] at hDigits
      obtain ⟨hHigh, hLow, hRest⟩ := hDigits
      have hByte : byte.toNat = byte'.toNat := by
        rw [← Nat.div_add_mod byte.toNat 16, hex_inj hHigh, hex_inj hLow, Nat.div_add_mod]
      rw [ih hRest, UInt8.toNat_inj.mp hByte]

/-- Some key that could be generated is not the given one. -/
theorem exists_generate_ne [SigningKeys] [LawfulSigningKeys] (publicKey : String) :
    ∃ call : LoadCall, call.Works ∧ (DeviceIdentity.generate call).publicKey ≠ publicKey := by
  obtain ⟨key, key', hNe⟩ := LawfulSigningKeys.exists_ne
  by_cases hKey : (DeviceIdentity.generate ⟨"", key, none, none⟩).publicKey = publicKey
  · refine ⟨⟨"", key', none, none⟩, ⟨rfl, rfl⟩, fun hKey' => hNe ?_⟩
    have hHex : hexEncode (SigningKeys.verifyingKey key).toList =
        hexEncode (SigningKeys.verifyingKey key').toList := by
      have hText : "ed25519:" ++ hexEncode _ = "ed25519:" ++ hexEncode _ := hKey.trans hKey'.symm
      simpa using hText
    exact Vector.toList_inj.mp (hexEncode_injective hHex)
  · exact ⟨⟨"", key, none, none⟩, ⟨rfl, rfl⟩, hKey⟩

end Generated

section Stable

variable [DeviceIdentityJson] [LawfulDeviceIdentityJson] [SigningKeys] [LawfulSigningKeys]
  {σ : Type} [DeviceIdentitySecretStore σ] [FaithfulSecretStore σ] {path : String}
  {mode : DeviceIdentityStorageMode} {call : LoadCall} {stored : DeviceIdentityFile}
  {identity : DeviceIdentity} {state after : IdentityState σ} {text : String}

omit [LawfulSigningKeys] in
theorem stable_of_load (hFile : state.file = some text)
    (hText : DeviceIdentityJson.fromStr text = .ok stored)
    (hForm : mode = .localFile → stored.privateKey ≠ none) :
    Meets (loadOrGenerateForStorageMode path call mode)
      (StableIdentity path mode stored state) (fun _ _ => True) state := by
  cases mode with
  | localFile =>
    obtain ⟨privateKey, hKey⟩ := Option.ne_none_iff_exists'.mp (hForm rfl)
    have hHolds : stored.Holds state.secrets privateKey .localFile := hKey
    refine (meets_loadOrGenerate_of_holds hFile hText hHolds).mono ?_ fun _ _ _ => trivial
    rintro _ after ⟨rfl, hSettled⟩
    exact hSettled.stable rfl (.inl hKey)
  | systemSecretStore =>
    refine meets_loadOrGenerateWithStore hFile hText ?_ fun _ _ => trivial
    cases hRef : stored.privateKeyRef with
    | some ref =>
      cases hSecret : DeviceIdentitySecretStore.loadPrivateKey ref state.secrets with
      | ok privateKey =>
        refine (meets_load_of_ref hFile hText hRef hSecret).mono ?_ fun _ _ _ => trivial
        rintro _ after ⟨rfl, hSettled⟩
        exact hSettled.stable rfl (.inr ⟨ref, hRef, hSecret⟩)
      | error error =>
        unfold DeviceIdentityFile.load loadPrivateKey
        simp only [hRef, meets_bind, meets_get, hSecret, meets_ofExcept_error]
    | none =>
      cases hKey : stored.privateKey with
      | some privateKey =>
        refine (meets_load_of_inline hRef hKey).mono ?_ fun _ _ => id
        rintro _ after ⟨rfl, hSettled⟩
        exact hSettled.stable rfl (.inl hKey)
      | none =>
        unfold DeviceIdentityFile.load
        simp only [hRef, hKey, meets_throw]

/-- An identity stays the one of its file, in any form of the file but one: a file without a private
key in it, in a mode that keeps the key there, makes way for a generated identity. -/
theorem loadOrGenerate_stable_iff (hFile : state.file = some text)
    (hText : DeviceIdentityJson.fromStr text = .ok stored) (path : String)
    (mode : DeviceIdentityStorageMode) :
    (∀ call identity after, loadOrGenerateForStorageMode path call mode state = .ok identity after →
      StableIdentity path mode stored state identity after) ↔
      (mode = .localFile → stored.privateKey ≠ none) := by
  constructor
  · rintro hStable rfl hKey
    obtain ⟨call, hWorks, hNe⟩ := exists_generate_ne stored.publicKey
    obtain ⟨after, hLoad⟩ := loadOrGenerate_of_none hFile hText hKey hWorks
    exact hNe (hStable call _ after hLoad).publicKey
  · intro hForm call identity after hLoad
    exact (Meets.of_ok hLoad).mp (stable_of_load hFile hText hForm)

end Stable

section Moved

/-- A file that was moved to the secret store. -/
def movedFile : DeviceIdentityFile where
  deviceId := some "33333333-3333-4333-8333-333333333333"
  publicKey := "ed25519:legacy-public"
  privateKey := none
  privateKeyRef := some (.forPublicKey "ed25519:legacy-public")

def movedState : IdentityState SystemDeviceIdentitySecretStore where
  file := some (String.ofList (identityText movedFile))
  secrets := ⟨[(("com.kmsync.device-identity", "device-ed25519_legacy_public"),
    "ed25519:legacy-private")]⟩

theorem movedFile_text :
    DeviceIdentityJson.fromStr (String.ofList (identityText movedFile)) = .ok movedFile := by
  obtain ⟨text, hText, hRead⟩ := LawfulDeviceIdentityJson.fromStr_toStringPretty movedFile
  obtain rfl := Except.ok.inj hText
  exact hRead

theorem movedState_file : movedState.file = some (String.ofList (identityText movedFile)) := rfl

theorem movedFile_holds :
    movedFile.Holds movedState.secrets "ed25519:legacy-private" .systemSecretStore :=
  ⟨_, rfl, by decide +kernel⟩

def movedCall : LoadCall := ⟨"44444444-4444-4444-8444-444444444444", sampleSigningKey, none, none⟩

theorem movedCall_works : movedCall.Works := ⟨rfl, rfl⟩

/-- A load for the local file puts a generated identity in its place. -/
theorem loadOrGenerate_moved_forgets :
    ¬ ∀ call identity after,
      loadOrGenerateForStorageMode "identity.json" call .localFile movedState = .ok identity after →
        StableIdentity "identity.json" .localFile movedFile movedState identity after := by
  intro hStable
  obtain ⟨after, hLoad⟩ := loadOrGenerate_of_none movedState_file movedFile_text rfl movedCall_works
  have hKey := (hStable movedCall _ after hLoad).publicKey
  revert hKey
  decide +kernel

/-- A load with the secret store keeps the identity. -/
theorem loadOrGenerate_moved_stable :
    ∃ after, StableIdentity "identity.json" .systemSecretStore movedFile movedState
      ⟨"33333333-3333-4333-8333-333333333333", "ed25519:legacy-public", "ed25519:legacy-private"⟩
      after := by
  obtain ⟨after, hLoad⟩ :=
    loadOrGenerate_of_holds movedState_file movedFile_text movedFile_holds movedCall_works
  exact ⟨after, (loadOrGenerate_stable_iff movedState_file movedFile_text "identity.json"
    .systemSecretStore).mpr nofun movedCall _ after hLoad⟩

end Moved

end Kmsync.Client
