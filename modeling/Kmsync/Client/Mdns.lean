import Kmsync.Client.DnsFormat
import Kmsync.Core.Decode

/-! What this machine takes from an answer to its mDNS query: the endpoints of other machines.  An
index or a range that is not in the packet is a panic; what the packet lacks is an ordinary error.
-/

namespace Kmsync.Client

open ProofKit
open Server (trimmed)

section Reading

/-- A computation that may return `None`. -/
abbrev Read (α : Type) := Checked Unit α

variable {α : Type}

def noneFound : Read α := .error (.error ())

def someOr : Option α → Read α
  | some x => .ok x
  | none => noneFound

/-- The value, or that there is none; a panic stays a panic. -/
def attempt : Read α → Read (Option α)
  | .ok x => .ok (some x)
  | .error (.error ()) => .ok none
  | .error .panic => .error .panic

def addOffset (a b : ℕ) : Read ℕ := orPanic (checkedAdd a b)

def readU16 (packet : List UInt8) (offset : ℕ) : Read UInt16 := do
  let stop ← addOffset offset 2
  let bytes ← someOr (slice? packet offset stop)
  return fromBeBytes (← readByte bytes 0) (← readByte bytes 1)

end Reading

section Names

/-- The variables of `read_dns_name`. -/
structure NameReader where
  labels : List String
  cursor : ℕ
  offset : ℕ
  jumped : Bool
  jumps : UInt8

/-- What one round of the loop comes to. -/
inductive NameStep where
  | done (labels : List String) (offset : ℕ)
  | again (reader : NameReader)

/-- `jumps.saturating_add(1)` -/
def saturatingAddOne (jumps : UInt8) : UInt8 := if jumps = 255 then jumps else jumps + 1

/-- The offset behind the name: that of the first jump, or of the end. -/
def NameReader.offsetAfter (r : NameReader) (n : ℕ) : Read ℕ :=
  if r.jumped then .ok r.offset else addOffset r.cursor n

/-- One round of the loop of `read_dns_name`. -/
def nameStep (packet : List UInt8) (r : NameReader) : Read NameStep := do
  let length ← someOr packet[r.cursor]?
  if length &&& 0xC0 = 0xC0 then
    let next ← someOr packet[← addOffset r.cursor 1]?
    let pointer := pointerOf length next
    if packet.length ≤ pointer ∨ 12 < r.jumps then noneFound
    else
      let offset ← r.offsetAfter 2
      return .again
        { r with cursor := pointer, offset, jumped := true, jumps := saturatingAddOne r.jumps }
  else if length &&& 0xC0 ≠ 0 then noneFound
  else if length = 0 then
    let offset ← r.offsetAfter 1
    return .done r.labels offset
  else
    let cursor ← addOffset r.cursor 1
    let stop ← someOr (checkedAdd cursor length.toNat)
    let label ← someOr (slice? packet cursor stop)
    let text ← someOr (String.fromUTF8? ⟨label.toArray⟩)
    return .again { r with labels := r.labels ++ [text], cursor := stop }

/-- What a round can come to. -/
inductive NameStepped (packet : List UInt8) (r : NameReader) : NameStep → Prop
  | jumps (length next : UInt8) (hLength : packet[r.cursor]? = some length)
      (hBits : length &&& 0xC0 = 0xC0) (hNext : packet[r.cursor + 1]? = some next)
      (hInside : pointerOf length next < packet.length) (hJumps : r.jumps ≤ 12) :
    NameStepped packet r (.again
      { r with
        cursor := pointerOf length next
        offset := if r.jumped then r.offset else r.cursor + 2
        jumped := true, jumps := saturatingAddOne r.jumps })
  | ends (hLength : packet[r.cursor]? = some 0) :
    NameStepped packet r (.done r.labels (if r.jumped then r.offset else r.cursor + 1))
  | reads (length : UInt8) (label : List UInt8) (text : String)
      (hLength : packet[r.cursor]? = some length) (hBits : length &&& 0xC0 = 0) (hSome : length ≠ 0)
      (hLabel : slice? packet (r.cursor + 1) (r.cursor + 1 + length.toNat) = some label)
      (hText : String.fromUTF8? ⟨label.toArray⟩ = some text) :
    NameStepped packet r (.again
      { r with labels := r.labels ++ [text], cursor := r.cursor + 1 + length.toNat })

variable {packet : List UInt8} {r : NameReader} {step : NameStep} {α : Type}

theorem someOr_eq_ok {x : Option α} {y : α} : someOr x = .ok y ↔ x = some y := by
  cases x <;> simp [someOr, noneFound]

theorem checkedAdd_eq_some {a b c : ℕ} (h : checkedAdd a b = some c) : c = a + b := by
  unfold checkedAdd at h
  split at h
  next => exact (Option.some.inj h).symm
  next => cases h

theorem addOffset_eq_ok {a b c : ℕ} (h : addOffset a b = .ok c) : c = a + b :=
  checkedAdd_eq_some (orPanic_eq_ok.mp h)

theorem offsetAfter_eq_ok {n offset : ℕ} (h : r.offsetAfter n = .ok offset) :
    offset = if r.jumped then r.offset else r.cursor + n := by
  unfold NameReader.offsetAfter at h
  split at h
  next hJumped => rw [if_pos hJumped, Except.ok.inj h]
  next hJumped => rw [if_neg hJumped, addOffset_eq_ok h]

theorem nameStepped (h : nameStep packet r = .ok step) : NameStepped packet r step := by
  unfold nameStep at h
  obtain ⟨length, hLength, h⟩ := bind_eq_ok.mp h
  rw [someOr_eq_ok] at hLength
  split at h
  next hBits =>
    obtain ⟨place, hPlace, h⟩ := bind_eq_ok.mp h
    obtain rfl := addOffset_eq_ok hPlace
    obtain ⟨next, hNext, h⟩ := bind_eq_ok.mp h
    rw [someOr_eq_ok] at hNext
    dsimp only at h
    split at h
    next => cases h
    next hFits =>
      obtain ⟨hInside, hJumps⟩ := not_or.mp hFits
      obtain ⟨offset, hEnd, h⟩ := bind_eq_ok.mp h
      obtain rfl := offsetAfter_eq_ok hEnd
      obtain rfl := Except.ok.inj h
      exact .jumps length next hLength hBits hNext (not_le.mp hInside) (UInt8.not_lt.mp hJumps)
  next =>
    split at h
    next => cases h
    next hBits =>
      have hBits := not_not.mp hBits
      split at h
      next hZero =>
        obtain ⟨offset, hEnd, h⟩ := bind_eq_ok.mp h
        obtain rfl := offsetAfter_eq_ok hEnd
        obtain rfl := Except.ok.inj h
        exact .ends (hZero ▸ hLength)
      next hSome =>
        obtain ⟨cursor, hCursor, h⟩ := bind_eq_ok.mp h
        obtain rfl := addOffset_eq_ok hCursor
        obtain ⟨stop, hStop, h⟩ := bind_eq_ok.mp h
        obtain rfl := checkedAdd_eq_some (someOr_eq_ok.mp hStop)
        obtain ⟨label, hLabel, h⟩ := bind_eq_ok.mp h
        obtain ⟨text, hText, h⟩ := bind_eq_ok.mp h
        obtain rfl := Except.ok.inj h
        exact .reads length label text hLength hBits hSome (someOr_eq_ok.mp hLabel)
          (someOr_eq_ok.mp hText)

/-- Counts down: there are thirteen jumps at most, and between two of them the cursor moves on. -/
def NameReader.left (packet : List UInt8) (r : NameReader) : ℕ :=
  (13 - r.jumps.toNat) * (packet.length + 1) + (packet.length - r.cursor)

theorem nameStep_decreases {next : NameReader} (h : nameStep packet r = .ok (.again next)) :
    next.left packet < r.left packet := by
  cases nameStepped h with
  | jumps length next hLength hBits hNext hInside hJumps =>
    have hLe : r.jumps.toNat ≤ 12 := UInt8.le_iff_toNat_le.mp hJumps
    have hNe : r.jumps ≠ 255 := fun hEq => by simp [hEq] at hLe
    have hJump : (r.jumps + 1).toNat = r.jumps.toNat + 1 := by
      rw [UInt8.toNat_add]
      simp only [UInt8.reduceToNat]
      omega
    have hLeft : 13 - r.jumps.toNat = 13 - (r.jumps.toNat + 1) + 1 := by omega
    dsimp only [NameReader.left]
    rw [saturatingAddOne, if_neg hNe, hJump, hLeft, Nat.succ_mul]
    omega
  | reads length label text hLength hBits hSome hLabel hText =>
    have hInside : r.cursor < packet.length := (List.getElem?_eq_some_iff.mp hLength).1
    dsimp only [NameReader.left]
    omega

/-- The loop of `read_dns_name`: the labels, and the offset behind the name. -/
def readLabels (packet : List UInt8) (r : NameReader) : Read (List String × ℕ) :=
  match _h : nameStep packet r with
  | .error fault => .error fault
  | .ok (.done labels offset) => .ok (labels, offset)
  | .ok (.again next) => readLabels packet next
  termination_by r.left packet
  decreasing_by exact nameStep_decreases _h

/-- The name, and the offset behind it. -/
def readDnsName (packet : List UInt8) (offset : ℕ) : Read (String × ℕ) := do
  let (labels, offset) ← readLabels packet ⟨[], offset, offset, false, 0⟩
  return (".".intercalate labels, offset)

end Names

section Records

structure DnsHeader where
  questionCount : UInt16
  answerCount : UInt16
  authorityCount : UInt16
  additionalCount : UInt16
  deriving DecidableEq

def DnsHeader.parse (packet : List UInt8) : Read DnsHeader := do
  return ⟨← readU16 packet 4, ← readU16 packet 6, ← readU16 packet 8, ← readU16 packet 10⟩

def DnsHeader.recordCount (header : DnsHeader) : ℕ :=
  Client.recordCount header.answerCount header.authorityCount header.additionalCount

/-- The record, and the offset behind it.  The class is read, but not looked at. -/
def DnsRecord.parse (packet : List UInt8) (offset : ℕ) : Read (DnsRecord × ℕ) := do
  let (name, offset) ← readDnsName packet offset
  let recordType ← readU16 packet offset
  let _class ← readU16 packet (← addOffset offset 2)
  let dataLen ← readU16 packet (← addOffset offset 8)
  let dataStart ← someOr (checkedAdd offset 10)
  let dataEnd ← someOr (checkedAdd dataStart dataLen.toNat)
  if packet.length < dataEnd then noneFound
  else return (⟨name, recordType, dataStart, dataLen.toNat⟩, dataEnd)

/-- The offset behind the question. -/
def skipDnsQuestion (packet : List UInt8) (offset : ℕ) : Read ℕ := do
  let (_, offset) ← readDnsName packet offset
  let stop ← someOr (checkedAdd offset 4)
  if stop ≤ packet.length then return stop else noneFound

/-- `for _ in 0..question_count` -/
def skipDnsQuestions (packet : List UInt8) : ℕ → ℕ → Read ℕ
  | 0, offset => return offset
  | count + 1, offset => do skipDnsQuestions packet count (← skipDnsQuestion packet offset)

end Records

section Texts

/-- `strip_prefix` -/
def withoutFront (text front : String) : Option String :=
  if front.toList <+: text.toList then some (String.ofList (text.toList.drop front.toList.length))
  else none

/-- `strip_suffix` -/
def withoutBack (text back : String) : Option String :=
  if back.toList <:+ text.toList then
    some (String.ofList (text.toList.take (text.toList.length - back.toList.length)))
  else none

/-- `trim_matches('.')` -/
def trimDots (text : String) : String :=
  String.ofList ((text.toList.dropWhile (· = '.')).rdropWhile (· = '.'))

def serviceInstanceDeviceId (instanceName : String) : String :=
  trimDots ((withoutBack instanceName ("." ++ normalizeDnsName mdnsServiceType)).getD instanceName)

/-- The device id that an entry of a TXT record gives. -/
def txtEntryDeviceId (entry : String) : Option String :=
  (((withoutFront entry "device_id=").or (withoutFront entry "id=")).filter
    (trimmed · ≠ "")).map trimmed

/-- One entry of a TXT record: what it gives, and the offset behind it. -/
def txtStep (data : List UInt8) (offset : ℕ) : Read (Option String × ℕ) := do
  let length ← someOr data[offset]?
  let start ← addOffset offset 1
  let stop ← someOr (checkedAdd start length.toNat)
  let bytes ← someOr (slice? data start stop)
  let entry ← someOr (String.fromUTF8? ⟨bytes.toArray⟩)
  return (txtEntryDeviceId entry, stop)

theorem lt_of_txtStep {data : List UInt8} {offset stop : ℕ} {found : Option String}
    (h : txtStep data offset = .ok (found, stop)) : offset < stop := by
  unfold txtStep at h
  obtain ⟨length, -, h⟩ := bind_eq_ok.mp h
  obtain ⟨start, hStart, h⟩ := bind_eq_ok.mp h
  obtain ⟨stop', hStop, h⟩ := bind_eq_ok.mp h
  obtain ⟨bytes, -, h⟩ := bind_eq_ok.mp h
  obtain ⟨entry, -, h⟩ := bind_eq_ok.mp h
  cases h
  obtain rfl := addOffset_eq_ok hStart
  obtain rfl := checkedAdd_eq_some (someOr_eq_ok.mp hStop)
  omega

/-- `read_txt_device_id`, from an offset on. -/
def readTxtDeviceId (data : List UInt8) (offset : ℕ) : Read String :=
  if _hOffset : offset < data.length then
    match _h : txtStep data offset with
    | .error fault => .error fault
    | .ok (some deviceId, _) => .ok deviceId
    | .ok (none, stop) => readTxtDeviceId data stop
  else noneFound
  termination_by data.length - offset
  decreasing_by
    have := lt_of_txtStep _h
    omega

end Texts

section Tables

/-- What has been gathered from the records. -/
structure MdnsTables where
  ptrInstances : HashSet String := ∅
  srvRecords : HashMap String (String × UInt16) := ∅
  txtDeviceIds : HashMap String String := ∅
  addresses : HashMap String (List IpAddr) := ∅

/-- `entry(name).or_default().push(ip)` -/
def pushAddress (addresses : HashMap String (List IpAddr)) (name : String) (ip : IpAddr) :
    HashMap String (List IpAddr) :=
  addresses.insert name ((addresses.get? name).getD [] ++ [ip])

/-- `octets.copy_from_slice(bytes)`, which panics if the lengths differ. -/
def octetsOf (n : ℕ) (bytes : List UInt8) : Read (Vector UInt8 n) :=
  if h : bytes.length = n then .ok ⟨bytes.toArray, h⟩ else .error .panic

section Arms

variable (packet : List UInt8) (tables : MdnsTables) (record : DnsRecord)

def takePtr : Read MdnsTables := do
  match ← attempt (readDnsName packet record.dataStart) with
  | some (instanceName, _) =>
    return { tables with
      ptrInstances := tables.ptrInstances.insert (normalizeDnsName instanceName) }
  | none => return tables

def takeSrv : Read MdnsTables := do
  if 7 ≤ record.dataLen then
    let port := (← attempt (readU16 packet (← addOffset record.dataStart 4))).getD 0
    match ← attempt (readDnsName packet (← addOffset record.dataStart 6)) with
    | some (target, _) =>
      return { tables with
        srvRecords := tables.srvRecords.insert (normalizeDnsName record.name)
          (normalizeDnsName target, port) }
    | none => return tables
  else return tables

def takeTxt : Read MdnsTables := do
  let data ← readSlice packet record.dataStart (← addOffset record.dataStart record.dataLen)
  match ← attempt (readTxtDeviceId data 0) with
  | some deviceId =>
    return { tables with
      txtDeviceIds := tables.txtDeviceIds.insert (normalizeDnsName record.name) deviceId }
  | none => return tables

def MdnsTables.withAddress (name : String) (ip : IpAddr) : MdnsTables :=
  { tables with addresses := pushAddress tables.addresses name ip }

def takeA : Read MdnsTables := do
  let first ← readByte packet record.dataStart
  let second ← readByte packet (← addOffset record.dataStart 1)
  let third ← readByte packet (← addOffset record.dataStart 2)
  let fourth ← readByte packet (← addOffset record.dataStart 3)
  return tables.withAddress (normalizeDnsName record.name) (.v4 #v[first, second, third, fourth])

def takeAaaa : Read MdnsTables := do
  let data ← readSlice packet record.dataStart (← addOffset record.dataStart record.dataLen)
  return tables.withAddress (normalizeDnsName record.name) (.v6 (← octetsOf 16 data))

/-- The match on the type of a record. -/
def takeRecord : Read MdnsTables :=
  if record.recordType = dnsTypePtr ∧
      normalizeDnsName record.name = normalizeDnsName mdnsServiceType then
    takePtr packet tables record
  else if record.recordType = dnsTypeSrv then takeSrv packet tables record
  else if record.recordType = dnsTypeTxt then takeTxt packet tables record
  else if record.recordType = dnsTypeA ∧ record.dataLen = 4 then takeA packet tables record
  else if record.recordType = dnsTypeAaaa ∧ record.dataLen = 16 then takeAaaa packet tables record
  else return tables

end Arms

/-- The loop over the records, which ends at the first that cannot be read. -/
def takeRecords (packet : List UInt8) : ℕ → ℕ → MdnsTables → Read MdnsTables
  | 0, _, tables => return tables
  | count + 1, offset, tables => do
    match ← attempt (DnsRecord.parse packet offset) with
    | some (record, next) => takeRecords packet count next (← takeRecord packet tables record)
    | none => return tables

end Tables

section Endpoints

structure LanDiscoveryEndpoint where
  deviceId : String
  address : SocketAddr
  deriving DecidableEq

/-- `SocketAddr::new` -/
def SocketAddr.new (ip : IpAddr) (port : UInt16) : SocketAddr :=
  match ip with
  | .v4 octets => .v4 octets port
  | .v6 octets => .v6 octets port 0 0

/-- The endpoints of one instance. -/
def instanceEndpoints (tables : MdnsTables) (instanceName : String) : List LanDiscoveryEndpoint :=
  match tables.srvRecords.get? instanceName with
  | none => []
  | some (target, port) =>
    match tables.addresses.get? target with
    | none => []
    | some targetAddresses =>
      let deviceId :=
        (tables.txtDeviceIds.get? instanceName).getD (serviceInstanceDeviceId instanceName)
      if deviceId = "" then []
      else targetAddresses.map fun ip => ⟨deviceId, .new ip port⟩

def dedupeLanEndpoints (endpoints : List LanDiscoveryEndpoint) : List LanDiscoveryEndpoint :=
  dedupBy (fun endpoint => (endpoint.deviceId, endpoint.address)) [] endpoints

/-- What is received.  No slice has more than `isize::MAX` bytes. -/
structure Packet where
  bytes : List UInt8
  fits : bytes.length < 2 ^ 63

/-- The instances are visited in the order of the hash set. -/
def parseMdnsLanEndpoints (hash : String → ℕ) (packet : List UInt8) :
    Read (List LanDiscoveryEndpoint) := do
  match ← attempt (DnsHeader.parse packet) with
  | none => return []
  | some header =>
    match ← attempt (skipDnsQuestions packet header.questionCount.toNat 12) with
    | none => return []
    | some offset =>
      let tables ← takeRecords packet header.recordCount offset {}
      return dedupeLanEndpoints
        ((tables.ptrInstances.elements hash).flatMap (instanceEndpoints tables))

end Endpoints

end Kmsync.Client
