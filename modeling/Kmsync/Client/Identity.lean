import Kmsync.ProofKit.Postcondition
import Kmsync.ProofKit.QuotedText
import Kmsync.Server.Store

/-! The identity of a device: its id and its key pair.  They are kept in a file, which holds the
private key itself or a reference to where the secret store has it. -/

namespace Kmsync.Client

open ProofKit
open Server (trimmed)

section Files

structure DeviceIdentity where
  deviceId : String
  publicKey : String
  privateKey : String
  deriving DecidableEq

inductive DeviceIdentityStorageMode where
  | localFile | systemSecretStore
  deriving DecidableEq

structure DeviceIdentitySecretRef where
  store : String
  service : String
  account : String
  deriving DecidableEq

structure DeviceIdentityFile where
  deviceId : Option String
  publicKey : String
  privateKey : Option String
  privateKeyRef : Option DeviceIdentitySecretRef
  deriving DecidableEq

def deviceIdentitySecretStoreSystem : String := "system"
def deviceIdentitySecretService : String := "com.kmsync.device-identity"

def sanitizeSecretAccount (value : String) : String :=
  String.ofList (value.toList.map fun c => if c.isAlphanum then c else '_')

def DeviceIdentitySecretRef.forPublicKey (publicKey : String) : DeviceIdentitySecretRef where
  store := deviceIdentitySecretStoreSystem
  service := deviceIdentitySecretService
  account := s!"device-{sanitizeSecretAccount publicKey}"

/-- `serde_json` on the file of an identity. -/
class DeviceIdentityJson where
  fromStr : String → Except String DeviceIdentityFile
  toStringPretty : DeviceIdentityFile → Except String String

/-- What is written is read as it was; a blank text is not read. -/
class LawfulDeviceIdentityJson [DeviceIdentityJson] : Prop where
  fromStr_toStringPretty : ∀ stored, ∃ text, DeviceIdentityJson.toStringPretty stored = .ok text ∧
    DeviceIdentityJson.fromStr text = .ok stored
  fromStr_blank : ∀ text stored, trimmed text = "" → DeviceIdentityJson.fromStr text ≠ .ok stored

/-- `σ` is what the store holds. -/
class DeviceIdentitySecretStore (σ : Type) where
  storePrivateKey : DeviceIdentitySecretRef → String → σ → Except String σ
  loadPrivateKey : DeviceIdentitySecretRef → σ → Except String String

/-- A read returns what was last written. -/
class FaithfulSecretStore (σ : Type) [DeviceIdentitySecretStore σ] : Prop where
  load_store : ∀ (ref : DeviceIdentitySecretRef) (privateKey : String) (secrets secrets' : σ),
    DeviceIdentitySecretStore.storePrivateKey ref privateKey secrets = .ok secrets' →
      DeviceIdentitySecretStore.loadPrivateKey ref secrets' = .ok privateKey

end Files

section Keys

/-- `SigningKey::verifying_key`, on the bytes of the keys. -/
class SigningKeys where
  verifyingKey : Vector UInt8 32 → Vector UInt8 32

/-- Not all signing keys have one verifying key. -/
class LawfulSigningKeys [SigningKeys] : Prop where
  exists_ne : ∃ key key', SigningKeys.verifyingKey key ≠ SigningKeys.verifyingKey key'

def hexEncode (bytes : List UInt8) : String :=
  String.ofList (bytes.flatMap fun byte : UInt8 =>
    have hHigh : byte.toNat / 16 < 16 := Nat.div_lt_of_lt_mul byte.toNat_lt
    [hex[byte.toNat / 16], hex[byte.toNat % 16]])

end Keys

section Loading

/-- What a load meets: the id and the key that it would generate, and the errors of the file
system, if there are any. -/
structure LoadCall where
  newDeviceId : String
  newSigningKey : Vector UInt8 32
  readError : Option String
  writeError : Option String

/-- The file system does what it is asked. -/
def LoadCall.Works (call : LoadCall) : Prop := call.readError = none ∧ call.writeError = none

/-- The text of the file, if there is one, and the secrets. -/
structure IdentityState (σ : Type) where
  file : Option String
  secrets : σ
  deriving DecidableEq

abbrev Load (σ : Type) := EStateM String (IdentityState σ)

variable {σ : Type} (path : String) (call : LoadCall)

def readToString : Load σ String := do
  match call.readError, (← get).file with
  | none, some text => return text
  | none, none => throw s!"failed to read {path}: No such file or directory (os error 2)"
  | some error, _ => throw s!"failed to read {path}: {error}"

/-- `write_text_atomic`: the file is replaced, or left as it is. -/
def writeDeviceIdentityText (text : String) : Load σ Unit :=
  match call.writeError with
  | some error => throw error
  | none => modify fun state => { state with file := some text }

variable [DeviceIdentityJson]

def parseIdentityFile (text : String) : Load σ DeviceIdentityFile :=
  match DeviceIdentityJson.fromStr text with
  | .ok stored => return stored
  | .error error => throw s!"failed to parse {path}: {error}"

def writeDeviceIdentityMetadata (stored : DeviceIdentityFile) : Load σ Unit :=
  match DeviceIdentityJson.toStringPretty stored with
  | .ok text => writeDeviceIdentityText call text
  | .error error => throw s!"failed to encode device identity: {error}"

def writeDeviceIdentityFile (deviceId publicKey : String)
    (privateKeyRef : DeviceIdentitySecretRef) : Load σ Unit :=
  writeDeviceIdentityMetadata call ⟨some deviceId, publicKey, none, some privateKeyRef⟩

def writeDeviceIdentityLocalFile (deviceId publicKey privateKey : String) : Load σ Unit :=
  writeDeviceIdentityMetadata call ⟨some deviceId, publicKey, some privateKey, none⟩

section Stores

variable [DeviceIdentitySecretStore σ]

def storePrivateKey (ref : DeviceIdentitySecretRef) (privateKey : String) : Load σ Unit := do
  let state ← get
  match DeviceIdentitySecretStore.storePrivateKey ref privateKey state.secrets with
  | .ok secrets => set { state with secrets }
  | .error error => throw error

def loadPrivateKey (ref : DeviceIdentitySecretRef) : Load σ String := do
  MonadExcept.ofExcept (DeviceIdentitySecretStore.loadPrivateKey ref (← get).secrets)

def DeviceIdentityFile.load (stored : DeviceIdentityFile) : Load σ DeviceIdentity := do
  let deviceId := stored.deviceId.getD call.newDeviceId
  let missingDeviceId := stored.deviceId.isNone
  match stored.privateKeyRef, stored.privateKey with
  | some privateKeyRef, _ =>
    let privateKey ← loadPrivateKey privateKeyRef
    if missingDeviceId then
      writeDeviceIdentityFile call deviceId stored.publicKey privateKeyRef
    return ⟨deviceId, stored.publicKey, privateKey⟩
  | none, some privateKey =>
    let privateKeyRef := DeviceIdentitySecretRef.forPublicKey stored.publicKey
    storePrivateKey privateKeyRef privateKey
    writeDeviceIdentityFile call deviceId stored.publicKey privateKeyRef
    return ⟨deviceId, stored.publicKey, privateKey⟩
  | none, none => throw s!"device identity {path} is missing a private key reference"

end Stores

variable [SigningKeys]

def DeviceIdentity.generate : DeviceIdentity where
  deviceId := call.newDeviceId
  publicKey := s!"ed25519:{hexEncode (SigningKeys.verifyingKey call.newSigningKey).toList}"
  privateKey := s!"ed25519:{hexEncode call.newSigningKey.toList}"

/-- The end of `load_or_generate_local_file`. -/
def generateLocalFile : Load σ DeviceIdentity := do
  let identity := DeviceIdentity.generate call
  writeDeviceIdentityLocalFile call identity.deviceId identity.publicKey identity.privateKey
  return identity

/-- What `load_or_generate_local_file` does with a file: one without a private key in it is passed
over, as if there were none. -/
def DeviceIdentityFile.loadLocal (stored : DeviceIdentityFile) : Load σ DeviceIdentity :=
  match stored.privateKey with
  | some privateKey => do
    let deviceId := stored.deviceId.getD call.newDeviceId
    writeDeviceIdentityLocalFile call deviceId stored.publicKey privateKey
    return ⟨deviceId, stored.publicKey, privateKey⟩
  | none => generateLocalFile call

def loadOrGenerateLocalFile : Load σ DeviceIdentity := do
  if (← get).file.isNone then
    generateLocalFile call
  else
    let text ← readToString path call
    if trimmed text = "" then
      generateLocalFile call
    else
      let stored ← parseIdentityFile path text
      stored.loadLocal call

variable [DeviceIdentitySecretStore σ]

def loadOrGenerateWithStore : Load σ DeviceIdentity := do
  if (← get).file.isNone then
    let identity := DeviceIdentity.generate call
    let privateKeyRef := DeviceIdentitySecretRef.forPublicKey identity.publicKey
    storePrivateKey privateKeyRef identity.privateKey
    writeDeviceIdentityFile call identity.deviceId identity.publicKey privateKeyRef
    return identity
  else
    let text ← readToString path call
    let stored ← parseIdentityFile path text
    stored.load path call

def loadOrGenerateForStorageMode : DeviceIdentityStorageMode → Load σ DeviceIdentity
  | .localFile => loadOrGenerateLocalFile path call
  | .systemSecretStore => loadOrGenerateWithStore path call

end Loading

end Kmsync.Client
