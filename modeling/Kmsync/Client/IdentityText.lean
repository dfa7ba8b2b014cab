import Kmsync.Client.Identity

/-! The text of an identity file, as `to_string_pretty` lays it out, and a reader of that layout. -/

namespace Kmsync.Client

open ProofKit

section Layout

def deviceIdLead : String := "\x7b\n  \"device_id\": \""
def publicKeyLead : Bool → String
  | true => ",\n  \"public_key\": \""
  | false => "\x7b\n  \"public_key\": \""
def privateKeyLead : String := ",\n  \"private_key\": \""
def storeLead : String := ",\n  \"private_key_ref\": \x7b\n    \"store\": \""
def serviceLead : String := ",\n    \"service\": \""
def accountLead : String := ",\n    \"account\": \""
def refEnd : List Char := "\n  \x7d\n\x7d".toList
def fileEnd : List Char := "\n\x7d".toList

/-- A field that may be missing. -/
def quote? (lead : String) (value : Option String) (rest : List Char) : List Char :=
  match value with
  | some value => quote lead value rest
  | none => rest

def readQuote? (lead : String) (text : List Char) : Option String × List Char :=
  match readQuote lead text with
  | some (value, rest) => (some value, rest)
  | none => (none, text)

def refText : Option DeviceIdentitySecretRef → List Char
  | some ref => quote storeLead ref.store
      (quote serviceLead ref.service (quote accountLead ref.account refEnd))
  | none => fileEnd

def identityText (stored : DeviceIdentityFile) : List Char :=
  quote? deviceIdLead stored.deviceId (quote (publicKeyLead stored.deviceId.isSome) stored.publicKey
    (quote? privateKeyLead stored.privateKey (refText stored.privateKeyRef)))

def readRef (text : List Char) : Option (Option DeviceIdentitySecretRef) :=
  match readQuote storeLead text with
  | some (store, text) => do
    let (service, text) ← readQuote serviceLead text
    let (account, text) ← readQuote accountLead text
    if text = refEnd then return some ⟨store, service, account⟩ else none
  | none => if text = fileEnd then some none else none

def readIdentity (text : List Char) : Option DeviceIdentityFile := do
  let (deviceId, text) := readQuote? deviceIdLead text
  let (publicKey, text) ← readQuote (publicKeyLead deviceId.isSome) text
  let (privateKey, text) := readQuote? privateKeyLead text
  return ⟨deviceId, publicKey, privateKey, ← readRef text⟩

theorem readRef_refText (ref : Option DeviceIdentitySecretRef) : readRef (refText ref) = some ref := by
  cases ref with
  | none => rfl
  | some ref => simp [readRef, refText]

@[simp] theorem readQuote?_quote (lead value : String) (rest : List Char) :
    readQuote? lead (quote lead value rest) = (some value, rest) := by
  rw [readQuote?, readQuote_quote]

theorem readQuote?_of_differ {lead lead' : String} (h : differ lead'.toList lead.toList = true)
    (value : String) (rest : List Char) :
    readQuote? lead (quote lead' value rest) = (none, quote lead' value rest) := by
  rw [readQuote?, readQuote_of_differ h]

theorem readQuote?_privateKey (privateKey : Option String) (ref : Option DeviceIdentitySecretRef) :
    readQuote? privateKeyLead (quote? privateKeyLead privateKey (refText ref)) =
      (privateKey, refText ref) := by
  cases privateKey with
  | some privateKey => exact readQuote?_quote _ _ _
  | none =>
    cases ref with
    | some ref => exact readQuote?_of_differ (by decide) _ _
    | none => rfl

theorem readQuote?_deviceId (deviceId : Option String) (publicKey : String) (rest : List Char) :
    readQuote? deviceIdLead (quote? deviceIdLead deviceId
      (quote (publicKeyLead deviceId.isSome) publicKey rest)) =
      (deviceId, quote (publicKeyLead deviceId.isSome) publicKey rest) := by
  cases deviceId with
  | some deviceId => exact readQuote?_quote _ _ _
  | none => exact readQuote?_of_differ (by decide) _ _

/-- The layout is read back. -/
theorem readIdentity_identityText (stored : DeviceIdentityFile) :
    readIdentity (identityText stored) = some stored := by
  simp [readIdentity, identityText, readQuote?_deviceId, readQuote?_privateKey, readRef_refText]

/-- A file begins with a brace. -/
theorem brace_of_readIdentity {text : List Char} {stored : DeviceIdentityFile}
    (h : readIdentity text = some stored) : ['{'] <+: text := by
  unfold readIdentity readQuote? at h
  cases hDeviceId : readQuote deviceIdLead text with
  | some read => exact .trans (by decide) (lead_of_readQuote hDeviceId)
  | none =>
    rw [hDeviceId] at h
    obtain ⟨read, hPublicKey, -⟩ := Option.bind_eq_some_iff.mp h
    exact .trans (by decide) (lead_of_readQuote hPublicKey)

end Layout

section Instances

/-- The files that `to_string_pretty` writes. -/
instance : DeviceIdentityJson where
  fromStr text :=
    match readIdentity text.toList with
    | some stored => .ok stored
    | none => .error "not an identity file"
  toStringPretty stored := .ok (String.ofList (identityText stored))

instance : LawfulDeviceIdentityJson where
  fromStr_toStringPretty stored := by
    refine ⟨_, rfl, ?_⟩
    rw [DeviceIdentityJson.fromStr]
    simp [instDeviceIdentityJson, readIdentity_identityText]
  fromStr_blank text stored hBlank hText := by
    change (match readIdentity text.toList with
      | some stored => Except.ok stored
      | none => .error "not an identity file") = .ok stored at hText
    cases hRead : readIdentity text.toList with
    | none => rw [hRead] at hText; cases hText
    | some read =>
      obtain ⟨rest, hRest⟩ := brace_of_readIdentity hRead
      have hTrim : trim text.toList = [] := by
        have := congrArg String.toList hBlank
        rwa [Server.trimmed, String.toList_ofList] at this
      rw [← hRest, trim, List.singleton_append, List.dropWhile_cons_of_neg (by decide),
        List.rdropWhile_eq_nil_iff] at hTrim
      exact absurd (hTrim '{' List.mem_cons_self) (by decide)

/-- The secrets of Windows' credential manager: the last one of each service and account is the one
that is found. -/
structure SystemDeviceIdentitySecretStore where
  entries : List ((String × String) × String)
  deriving DecidableEq

instance : DeviceIdentitySecretStore SystemDeviceIdentitySecretStore where
  storePrivateKey ref privateKey secrets :=
    .ok ⟨((ref.service, ref.account), privateKey) :: secrets.entries⟩
  loadPrivateKey ref secrets :=
    match secrets.entries.lookup (ref.service, ref.account) with
    | some privateKey => .ok privateKey
    | none => .error ("failed to load private key from system credential store: " ++
        "No matching entry found in secure storage")

instance : FaithfulSecretStore SystemDeviceIdentitySecretStore where
  load_store ref privateKey secrets secrets' h := by
    obtain rfl := Except.ok.inj h
    simp [DeviceIdentitySecretStore.loadPrivateKey]

/-- One key pair of Ed25519. -/
def sampleSigningKey : Vector UInt8 32 :=
  #v[0x9d, 0x61, 0xb1, 0x9d, 0xef, 0xfd, 0x5a, 0x60, 0xba, 0x84, 0x4a, 0xf4, 0x92, 0xec, 0x2c, 0xc4,
    0x44, 0x49, 0xc5, 0x69, 0x7b, 0x32, 0x69, 0x19, 0x70, 0x3b, 0xac, 0x03, 0x1c, 0xae, 0x7f, 0x60]

def sampleVerifyingKey : Vector UInt8 32 :=
  #v[0xd7, 0x5a, 0x98, 0x01, 0x82, 0xb1, 0x0a, 0xb7, 0xd5, 0x4b, 0xfe, 0xd3, 0xc9, 0x64, 0x07, 0x3a,
    0x0e, 0xe1, 0x72, 0xf3, 0xda, 0xa6, 0x23, 0x25, 0xaf, 0x02, 0x1a, 0x68, 0xf7, 0x07, 0x51, 0x1a]

instance : SigningKeys where
  verifyingKey key := if key = sampleSigningKey then sampleVerifyingKey else key

instance : LawfulSigningKeys where
  exists_ne := ⟨sampleSigningKey, Vector.replicate 32 0, by decide⟩

end Instances

end Kmsync.Client
