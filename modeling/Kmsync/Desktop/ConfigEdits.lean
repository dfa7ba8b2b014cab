import Kmsync.Desktop.Layouts
import Kmsync.Desktop.ServerEndpoint
import Kmsync.ProofKit.Chunks

/-! What is set in a config.  Each function reads the object, puts some members into it, and writes
it again; the text members that it does not name are kept. -/

namespace Kmsync.Desktop

open ProofKit
open Server (trimmed)

section Programs

inductive DesktopRole where
  | master | client
  deriving DecidableEq

/-- `serde_json::to_value` on a layout. -/
class LayoutJson where
  toValue : DesktopLayout → Except String JsonValue

def DesktopRole.toValue : DesktopRole → JsonValue
  | .master => .string "master"
  | .client => .string "client"

def masterDeviceIdValue : Option String → JsonValue
  | some masterDeviceId => .string masterDeviceId
  | none => .other "null"

variable [ConfigJson]

def setRoleInConfigText (text : String) (role : DesktopRole) (masterDeviceId : Option String) :
    Except String String := do
  let object ← parseConfigObject text
  let object := object.insert "role" role.toValue
  serializeConfigObject (object.insert "master_device_id" (masterDeviceIdValue masterDeviceId))

def setCurrentDeviceConfigInConfigText (text deviceName : String) (role : DesktopRole)
    (masterDeviceId : Option String) : Except String String := do
  let object ← parseConfigObject text
  let deviceName := trimmed deviceName
  if deviceName = "" then .error "device name must not be empty"
  else
    let object := object.insert "device_name" (.string deviceName)
    let object := object.insert "role" role.toValue
    serializeConfigObject (object.insert "master_device_id" (masterDeviceIdValue masterDeviceId))

variable [LayoutJson]

def setLayoutInConfigText (text : String) (layout : DesktopLayout) : Except String String := do
  let object ← parseConfigObject text
  let value ← LayoutJson.toValue layout
  serializeConfigObject (object.insert "layout" value)

def setTopologyInConfigText (text : String) (role : DesktopRole) (masterDeviceId : Option String)
    (layout : DesktopLayout) : Except String String := do
  let object ← parseConfigObject text
  let object := object.insert "role" role.toValue
  let object := object.insert "master_device_id" (masterDeviceIdValue masterDeviceId)
  let value ← LayoutJson.toValue layout
  serializeConfigObject (object.insert "layout" value)

/-- A call of one of the functions that set something in the config file. -/
inductive ConfigEdit where
  | setRole (role : DesktopRole) (masterDeviceId : Option String)
  | setLayout (layout : DesktopLayout)
  | setTopology (role : DesktopRole) (masterDeviceId : Option String) (layout : DesktopLayout)
  | setServerEndpoint (host : String) (port : UInt16)
  | setCurrentDeviceConfig (deviceName : String) (role : DesktopRole)
      (masterDeviceId : Option String)
  deriving DecidableEq

namespace ConfigEdit

/-- The text that is made of the text of the config. -/
def apply (text : String) : ConfigEdit → Except String String
  | setRole role masterDeviceId => setRoleInConfigText text role masterDeviceId
  | setLayout layout => setLayoutInConfigText text layout
  | setTopology role masterDeviceId layout =>
    setTopologyInConfigText text role masterDeviceId layout
  | setServerEndpoint host port => setServerEndpointInConfigText text host port
  | setCurrentDeviceConfig deviceName role masterDeviceId =>
    setCurrentDeviceConfigInConfigText text deviceName role masterDeviceId

/-- One edit after the other. -/
def applyAll (text : String) (edits : List ConfigEdit) : Except String String :=
  edits.foldlM apply text

end ConfigEdit

end Programs

section Members

namespace ConfigEdit

/-- The members that an edit puts into the object. -/
def members : ConfigEdit → List String
  | setRole _ _ => ["role", "master_device_id"]
  | setLayout _ => ["layout"]
  | setTopology _ _ _ => ["role", "master_device_id", "layout"]
  | setServerEndpoint _ _ => ["server_url"]
  | setCurrentDeviceConfig _ _ _ => ["device_name", "role", "master_device_id"]

end ConfigEdit

variable [ConfigJson] {text updated key value : String}

/-- A text in a config. -/
def storedText (text key : String) : Option String :=
  match parseConfigObject text with
  | .ok object => (object.get? key).bind JsonValue.asStr
  | .error _ => none

theorem storedText_of_parse {object : HashMap String JsonValue}
    (h : parseConfigObject text = .ok object) :
    storedText text key = (object.get? key).bind JsonValue.asStr := by
  rw [storedText, h]

theorem storedText_eq_some (h : storedText text key = some value) :
    ∃ object, parseConfigObject text = .ok object ∧ object.get? key = some (.string value) := by
  rw [storedText] at h
  split at h
  next object hRead =>
    refine ⟨object, hRead, ?_⟩
    obtain ⟨member, hMember, hText⟩ := Option.bind_eq_some_iff.mp h
    cases member with
    | string text =>
      cases hText
      exact hMember
    | other json => cases hText
  next => cases h

variable [LayoutJson]

theorem ConfigEdit.applyAll_snoc (text : String) (edits : List ConfigEdit) (edit : ConfigEdit) :
    applyAll text (edits ++ [edit]) = (applyAll text edits).bind fun text => edit.apply text := by
  rw [applyAll, List.foldlM_append]
  exact congrArg _ (funext fun text => List.foldlM_cons.trans (bind_pure _))

/-- An edit reads the object, and writes one that has its other members. -/
theorem ConfigEdit.apply_eq_ok {edit : ConfigEdit} (h : edit.apply text = .ok updated) :
    ∃ object object', parseConfigObject text = .ok object ∧
      serializeConfigObject object' = .ok updated ∧
      ∀ key ∉ edit.members, object'.get? key = object.get? key := by
  cases edit with
  | setRole role masterDeviceId =>
    obtain ⟨object, hRead, hWrite⟩ := except_bind_eq_ok.mp h
    refine ⟨object, _, hRead, hWrite, fun key hKey => ?_⟩
    simp only [members, List.mem_cons, List.not_mem_nil, or_false, not_or] at hKey
    simp only [HashMap.get?_insert, if_neg hKey.1, if_neg hKey.2]
  | setLayout layout =>
    obtain ⟨object, hRead, h⟩ := except_bind_eq_ok.mp h
    obtain ⟨value, -, hWrite⟩ := except_bind_eq_ok.mp h
    refine ⟨object, _, hRead, hWrite, fun key hKey => ?_⟩
    simp only [members, List.mem_cons, List.not_mem_nil, or_false] at hKey
    rw [HashMap.get?_insert, if_neg hKey]
  | setTopology role masterDeviceId layout =>
    obtain ⟨object, hRead, h⟩ := except_bind_eq_ok.mp h
    obtain ⟨value, -, hWrite⟩ := except_bind_eq_ok.mp h
    refine ⟨object, _, hRead, hWrite, fun key hKey => ?_⟩
    simp only [members, List.mem_cons, List.not_mem_nil, or_false, not_or] at hKey
    simp only [HashMap.get?_insert, if_neg hKey.1, if_neg hKey.2.1, if_neg hKey.2.2]
  | setServerEndpoint host port =>
    obtain ⟨object, hRead, h⟩ := except_bind_eq_ok.mp h
    obtain ⟨url, -, hWrite⟩ := except_bind_eq_ok.mp h
    refine ⟨object, _, hRead, hWrite, fun key hKey => ?_⟩
    simp only [members, List.mem_cons, List.not_mem_nil, or_false] at hKey
    rw [HashMap.get?_insert, if_neg hKey]
  | setCurrentDeviceConfig deviceName role masterDeviceId =>
    obtain ⟨object, hRead, h⟩ := except_bind_eq_ok.mp h
    dsimp only at h
    split at h
    next => cases h
    next =>
      refine ⟨object, _, hRead, h, fun key hKey => ?_⟩
      simp only [members, List.mem_cons, List.not_mem_nil, or_false, not_or] at hKey
      simp only [HashMap.get?_insert, if_neg hKey.1, if_neg hKey.2.1, if_neg hKey.2.2]

variable [LawfulConfigJson]

/-- A text that an edit does not name is what it was. -/
theorem ConfigEdit.storedText_apply {edit : ConfigEdit} (h : edit.apply text = .ok updated)
    (hKey : key ∉ edit.members) (hText : storedText text key = some value) :
    storedText updated key = some value := by
  obtain ⟨object, object', hRead, hWrite, hKept⟩ := apply_eq_ok h
  obtain ⟨object₁, hRead₁, hMember⟩ := storedText_eq_some hText
  obtain rfl := Except.ok.inj (hRead.symm.trans hRead₁)
  obtain ⟨text', object'', hPretty, hAgain, hTexts⟩ :=
    LawfulConfigJson.fromStr_toStringPretty object'
  rw [serializeConfigObject, hPretty] at hWrite
  cases hWrite
  have hParse : parseConfigObject (text' ++ "\n") = .ok object'' := by
    rw [parseConfigObject, hAgain]
  rw [storedText_of_parse hParse, hTexts key value ((hKept key hKey).trans hMember)]
  rfl

theorem ConfigEdit.storedText_applyAll {edits : List ConfigEdit}
    (h : applyAll text edits = .ok updated) (hKey : ∀ edit ∈ edits, key ∉ edit.members)
    (hText : storedText text key = some value) : storedText updated key = some value := by
  induction edits generalizing text with
  | nil =>
    cases h
    exact hText
  | cons edit edits ih =>
    obtain ⟨text', hApply, hRest⟩ := except_bind_eq_ok.mp (List.foldlM_cons.symm.trans h)
    exact ih hRest (fun other hMem => hKey other (List.mem_cons_of_mem _ hMem))
      (storedText_apply hApply (hKey edit List.mem_cons_self) hText)

end Members

end Kmsync.Desktop
