import Kmsync.ProofKit.HashMap
import Kmsync.ProofKit.SplitText
import Kmsync.Server.Store

/-! The server's address in a config.  It is written from a host and a port, and shown as a host and
a port that are read off it. -/

namespace Kmsync.Desktop

open ProofKit
open Server (trimmed)

section Configs

/-- A value of a config, as far as it is looked at. -/
inductive JsonValue where
  | string (text : String)
  | other (json : String)

namespace JsonValue

def asStr : JsonValue → Option String
  | string text => some text
  | other _ => none

end JsonValue

/-- A whole JSON text. -/
inductive JsonDocument where
  | object (entries : HashMap String JsonValue)
  | other (json : String)

/-- `serde_json` on the text of a config. -/
class ConfigJson where
  fromStr : String → Except String JsonDocument
  toStringPretty : HashMap String JsonValue → Except String String

/-- An object is written with its texts; a line feed behind it does no harm. -/
class LawfulConfigJson [ConfigJson] : Prop where
  fromStr_toStringPretty : ∀ object, ∃ text object',
    ConfigJson.toStringPretty object = .ok text ∧
    ConfigJson.fromStr (text ++ "\n") = .ok (.object object') ∧
    ∀ key value, object.get? key = some (.string value) → object'.get? key = some (.string value)

end Configs

section Writing

/-- A character of a scheme. -/
def isSchemeChar (c : Char) : Bool := c.isAlphanum || c == '+' || c == '-' || c == '.'

def serverUrlScheme (serverUrl : String) : Option String :=
  match splitOnce "://".toList serverUrl.toList with
  | some (scheme, _) =>
    if scheme ≠ [] ∧ scheme.all isSchemeChar then some (String.ofList scheme) else none
  | none => none

def buildServerUrl (existingServerUrl : Option JsonValue) (host : String) (port : UInt16) :
    Except String String :=
  let host := trimmed host
  if host = "" then .error "server host must not be empty"
  else if (splitOnce "://".toList host.toList).isSome ∨ '/' ∈ host.toList then
    .error "server host must be an IP address or domain without scheme or path"
  else if port = 0 then .error "server port must be between 1 and 65535"
  else
    let scheme := ((existingServerUrl.bind JsonValue.asStr).bind serverUrlScheme).getD "http"
    .ok s!"{scheme}://{host}:{port.toNat}"

variable [ConfigJson]

def parseConfigObject (text : String) : Except String (HashMap String JsonValue) :=
  match ConfigJson.fromStr text with
  | .ok (.object object) => .ok object
  | .ok (.other _) => .error "desktop config must be a JSON object"
  | .error error => .error s!"failed to parse config: {error}"

def serializeConfigObject (object : HashMap String JsonValue) : Except String String :=
  match ConfigJson.toStringPretty object with
  | .ok text => .ok (text ++ "\n")
  | .error error => .error s!"failed to encode desktop config: {error}"

def setServerEndpointInConfigText (text host : String) (port : UInt16) : Except String String := do
  let object ← parseConfigObject text
  let serverUrl ← buildServerUrl (object.get? "server_url") host port
  serializeConfigObject (object.insert "server_url" (.string serverUrl))

/-- The address that is in a config. -/
def storedServerUrl (text : String) : Option String :=
  match parseConfigObject text with
  | .ok object => (object.get? "server_url").bind JsonValue.asStr
  | .error _ => none

end Writing

section Reading

/-- `str::parse::<u16>` -/
def parseU16 (text : List Char) : Option UInt16 :=
  let digits := if text.head? = some '+' then text.tail else text
  if digits ≠ [] ∧ digits.all Char.isDigit ∧ Nat.ofDigitChars 10 digits 0 < 65536 then
    some (UInt16.ofNat (Nat.ofDigitChars 10 digits 0))
  else none

def parsePort (port : List Char) : Option UInt16 := (parseU16 port).filter (0 < ·)

/-- A host in brackets, and the port behind it. -/
def bracketedParts (authority : List Char) : Option (List Char × Option UInt16) := do
  let afterBracket ← authority.dropPrefix? ['[']
  let (host, rest) ← splitOnce [']'] afterBracket
  return (host, (rest.dropPrefix? [':']).bind parsePort)

/-- What is between the scheme and the path, without what comes before an `@`. -/
def authorityOf (serverUrl : List Char) : List Char :=
  let rest :=
    match splitOnce "://".toList serverUrl with
    | some (_, rest) => rest
    | none => serverUrl
  trim ((rest.takeWhile (· ≠ '/')).rtakeWhile (· ≠ '@'))

/-- The host and the port of what is left. -/
def authorityParts (authority : List Char) : Option (List Char) × Option UInt16 :=
  if authority = [] then (none, none)
  else
    match bracketedParts authority, rsplitOnce ':' authority with
    | some (host, port), _ => (some host, port)
    | none, some (c :: host, port) => (some (c :: host), parsePort port)
    | none, _ => (some authority, none)

def serverEndpointParts (serverUrl : String) : Option String × Option UInt16 :=
  let (host, port) := authorityParts (authorityOf serverUrl.toList)
  (host.map String.ofList, port)

end Reading

end Kmsync.Desktop
