import Kmsync.Core.Event
import Kmsync.ProofKit.LittleEndian
import Mathlib.Data.List.DropRight

/-! The frames two devices exchange, with the constructors that fill in their hashes, and the file
names the constructors sanitise. -/

namespace Kmsync

open ProofKit

/-- An `f32` on the wire, as its bit pattern. -/
abbrev F32 := UInt32

/-- `u64::saturating_add` of one -/
def saturatingNext (n : UInt64) : UInt64 := if n = UInt64.ofNat (2 ^ 64 - 1) then n else n + 1

theorem toNat_saturatingNext_eq (n : UInt64) :
    (saturatingNext n).toNat = min (n.toNat + 1) (2 ^ 64 - 1) := by
  have hn := n.toNat_lt
  have hLast : (UInt64.ofNat (2 ^ 64 - 1)).toNat = 2 ^ 64 - 1 := by decide
  unfold saturatingNext
  split
  next hEq =>
    rw [hEq, hLast]
    rfl
  next hNot =>
    have hLt : n.toNat < 2 ^ 64 - 1 := by
      have hNe : n.toNat ≠ 2 ^ 64 - 1 := fun hEq => hNot (UInt64.toNat_inj.mp (hEq.trans hLast.symm))
      omega
    rw [UInt64.toNat_add, show (1 : UInt64).toNat = 1 from rfl, Nat.mod_eq_of_lt (by omega)]
    omega

theorem toNat_saturatingNext {n : UInt64} (h : n.toNat < 2 ^ 64 - 1) :
    (saturatingNext n).toNat = n.toNat + 1 := by
  rw [toNat_saturatingNext_eq, Nat.min_eq_left (by omega)]

def currentProtocolVersion : UInt16 := 2

inductive InputChannel where
  | inputUnreliable | inputReliable
  deriving DecidableEq, Repr

inductive TransportLane where
  | inputUnreliable | inputReliable | clipboard | control
  deriving DecidableEq, Repr

namespace InputChannel

/-- `InputChannel::for_event`: only relative moves may be lost. -/
def forEvent {φ : Type} : InputEvent φ → InputChannel
  | .mouse (.move _ _) => inputUnreliable
  | .key _ | .mouse (.position _ _) | .mouse (.button _ _) | .scroll _ => inputReliable

def transportLane : InputChannel → TransportLane
  | inputUnreliable => .inputUnreliable
  | inputReliable => .inputReliable

end InputChannel

structure InputEventEnvelope where
  sourceDeviceId : DeviceId
  targetDeviceId : DeviceId
  protocolVersion : UInt16
  channel : InputChannel
  event : InputEvent F32
  deriving DecidableEq

namespace InputEventEnvelope

def current (sourceDeviceId targetDeviceId : DeviceId) (event : InputEvent F32) :
    InputEventEnvelope :=
  ⟨sourceDeviceId, targetDeviceId, currentProtocolVersion, InputChannel.forEvent event, event⟩

def legacy (event : InputEvent F32) : InputEventEnvelope :=
  ⟨0, 0, 0, InputChannel.forEvent event, event⟩

end InputEventEnvelope

inductive ClipboardFormat where
  | plainText | url | html | image
  deriving DecidableEq, Repr

def encodeClipboardFormat : ClipboardFormat → UInt8
  | .plainText => 0
  | .url => 1
  | .html => 2
  | .image => 3

/-- `str::as_bytes` -/
def asBytes (text : String) : List UInt8 := text.toByteArray.data.toList

section Hashes

def fnvOffset : UInt64 := 0xcbf29ce484222325

def fnvPrime : UInt64 := 0x00000100000001b3

def fnvHashBytes (hash : UInt64) (bytes : List UInt8) : UInt64 :=
  bytes.foldl (fun hash byte => (hash ^^^ byte.toUInt64) * fnvPrime) hash

def clipboardTextHash (text : String) : UInt64 := fnvHashBytes fnvOffset (asBytes text)

def clipboardContentHash (format : ClipboardFormat) (text : String) (html : Option String) :
    UInt64 :=
  if format = .plainText ∧ html = none then
    clipboardTextHash text
  else
    let hash := (fnvOffset ^^^ (encodeClipboardFormat format).toUInt64) * fnvPrime
    let hash := fnvHashBytes hash (asBytes text)
    let hash := (hash ^^^ 0xff) * fnvPrime
    match html with
    | some html => fnvHashBytes hash (asBytes html)
    | none => hash

def clipboardImageHash (width height : UInt32) (rgba : List UInt8) : UInt64 :=
  let hash := (fnvOffset ^^^ (encodeClipboardFormat .image).toUInt64) * fnvPrime
  let hash := fnvHashBytes hash (toLeBytes width ++ toLeBytes height)
  fnvHashBytes hash rgba

end Hashes

structure ClipboardImage where
  width : UInt32
  height : UInt32
  rgba : List UInt8
  deriving DecidableEq

structure ClipboardText where
  sourceId : DeviceId
  version : UInt64
  contentHash : UInt64
  format : ClipboardFormat
  text : String
  html : Option String
  image : Option ClipboardImage
  deriving DecidableEq

namespace ClipboardText

def new (sourceId : DeviceId) (version : UInt64) (text : String) : ClipboardText :=
  ⟨sourceId, version, clipboardTextHash text, .plainText, text, none, none⟩

def legacy (text : String) : ClipboardText := new 0 0 text

def url (sourceId : DeviceId) (version : UInt64) (text : String) : ClipboardText :=
  ⟨sourceId, version, clipboardContentHash .url text none, .url, text, none, none⟩

/-- `ClipboardText::html` -/
def newHtml (sourceId : DeviceId) (version : UInt64) (html text : String) : ClipboardText :=
  ⟨sourceId, version, clipboardContentHash .html text (some html), .html, text, some html, none⟩

/-- `ClipboardText::image` -/
def newImage (sourceId : DeviceId) (version : UInt64) (width height : UInt32)
    (rgba : List UInt8) : ClipboardText :=
  ⟨sourceId, version, clipboardImageHash width height rgba, .image, "", none,
    some ⟨width, height, rgba⟩⟩

def withSourceVersion (clipboard : ClipboardText) (sourceId : DeviceId) (version : UInt64) :
    ClipboardText :=
  match clipboard.format with
  | .plainText => new sourceId version clipboard.text
  | .url => url sourceId version clipboard.text
  | .html => newHtml sourceId version (clipboard.html.getD "") clipboard.text
  | .image =>
    let image := clipboard.image.getD ⟨0, 0, []⟩
    newImage sourceId version image.width image.height image.rgba

end ClipboardText

section FileNames

/-- `char::is_whitespace`: the characters with the Unicode property White_Space. -/
def isWhitespace (c : Char) : Bool :=
  let n := c.toNat
  (0x09 ≤ n && n ≤ 0x0d) || n == 0x20 || n == 0x85 || n == 0xa0 || n == 0x1680 ||
    (0x2000 ≤ n && n ≤ 0x200a) || n == 0x2028 || n == 0x2029 || n == 0x202f || n == 0x205f ||
    n == 0x3000

/-- `str::trim` -/
def trim (name : List Char) : List Char := (name.dropWhile isWhitespace).rdropWhile isWhitespace

def isSeparator (c : Char) : Bool := c == '/' || c == '\\'

/-- The last part of a name, `rsplit(['/', '\\']).next()`. -/
def lastPart (name : List Char) : List Char := name.rtakeWhile fun c => !isSeparator c

def sanitizeClipboardFileName (name : String) : String :=
  let base := lastPart (trim name.toList)
  if base.isEmpty then "unnamed" else String.ofList base

end FileNames

structure ClipboardFileMetadata where
  name : String
  byteLen : UInt64
  contentHash : UInt64
  deriving DecidableEq

def ClipboardFileMetadata.new (name : String) (byteLen contentHash : UInt64) :
    ClipboardFileMetadata :=
  ⟨sanitizeClipboardFileName name, byteLen, contentHash⟩

def clipboardFilesHash (files : List ClipboardFileMetadata) : UInt64 :=
  files.foldl
    (fun hash file =>
      let hash := fnvHashBytes hash (asBytes file.name)
      let hash := (hash ^^^ 0xff) * fnvPrime
      let hash := fnvHashBytes hash (toLeBytes file.byteLen)
      fnvHashBytes hash (toLeBytes file.contentHash))
    ((fnvOffset ^^^ 0x05) * fnvPrime)

structure ClipboardFiles where
  sourceId : DeviceId
  version : UInt64
  contentHash : UInt64
  files : List ClipboardFileMetadata
  deriving DecidableEq

def ClipboardFiles.new (sourceId : DeviceId) (version : UInt64)
    (files : List ClipboardFileMetadata) : ClipboardFiles :=
  ⟨sourceId, version, clipboardFilesHash files, files⟩

structure FileTransferChunk where
  transferId : BitVec 128
  sourceId : DeviceId
  fileIndex : UInt32
  offset : UInt64
  totalSize : UInt64
  chunkIndex : UInt32
  isFinal : Bool
  data : List UInt8
  deriving DecidableEq

structure ProtocolVersionRange where
  min : UInt16
  max : UInt16
  deriving DecidableEq

structure ControlChannelFlags where
  inputUnreliable : Bool
  inputReliable : Bool
  clipboard : Bool
  control : Bool
  deriving DecidableEq

inductive ControlSessionState where
  | starting | active | suspended | closing
  deriving DecidableEq, Repr

inductive ControlMessage where
  | heartbeat (sourceDeviceId : DeviceId) (sessionId : BitVec 128) (sequence : UInt64)
  | capabilities (sourceDeviceId : DeviceId) (protocol : ProtocolVersionRange)
      (channels : ControlChannelFlags)
  | configVersion (sourceDeviceId : DeviceId) (version : UInt64)
  | sessionState (sourceDeviceId : DeviceId) (sessionId : BitVec 128)
      (state : ControlSessionState)
  deriving DecidableEq

inductive ProtocolPayload where
  | input (input : InputEventEnvelope)
  | clipboardText (clipboard : ClipboardText)
  | clipboardFiles (files : ClipboardFiles)
  | fileChunk (chunk : FileTransferChunk)
  | control (message : ControlMessage)
  deriving DecidableEq

def ProtocolPayload.transportLane : ProtocolPayload → TransportLane
  | .input envelope => envelope.channel.transportLane
  | .clipboardText _ | .clipboardFiles _ | .fileChunk _ => .clipboard
  | .control _ => .control

/-- The older, unframed form of an input event. -/
structure ProtocolEvent where
  sequence : UInt64
  timestampMicros : UInt64
  event : InputEvent F32
  deriving DecidableEq

structure ProtocolFrame where
  sequence : UInt64
  timestampMicros : UInt64
  payload : ProtocolPayload
  deriving DecidableEq

end Kmsync
