import Kmsync.Client.LanCandidates
import Kmsync.ProofKit.Bytes
import Kmsync.Server.Store

/-! The format of a DNS message, as far as an answer to the mDNS query is looked at: what it means
that a name, a record or the address of a host stands in a packet.  Nothing here reads a packet. -/

namespace Kmsync.Client

open ProofKit

section Wire

/-- `u16::from_be_bytes` -/
def fromBeBytes (high low : UInt8) : UInt16 := high.toUInt16 <<< 8 ||| low.toUInt16

/-- The place that the two bytes of a compression pointer name. -/
def pointerOf (length next : UInt8) : ℕ := ((length &&& 0x3F).toUInt16 <<< 8 ||| next.toUInt16).toNat

def dnsTypeA : UInt16 := 1
def dnsTypePtr : UInt16 := 12
def dnsTypeTxt : UInt16 := 16
def dnsTypeAaaa : UInt16 := 28
def dnsTypeSrv : UInt16 := 33

def mdnsServiceType : String := "_kmsync._udp.local"

/-- `trim_end_matches('.')` and `to_ascii_lowercase` -/
def normalizeDnsName (name : String) : String :=
  Server.toAsciiLowercase (String.ofList (name.toList.rdropWhile (· = '.')))

variable (packet : List UInt8)

structure U16At (offset : ℕ) (value : UInt16) : Prop where
  bytes : ∃ high low, packet[offset]? = some high ∧ packet[offset + 1]? = some low ∧
    value = fromBeBytes high low

/-- The labels of the name that starts at an offset.  A pointer goes on with the labels of another
place. -/
inductive NameAt : ℕ → List String → Prop
  | root {offset : ℕ} (hLength : packet[offset]? = some 0) : NameAt offset []
  | label {offset : ℕ} {length : UInt8} {bytes : List UInt8} {text : String} {labels : List String}
      (hLength : packet[offset]? = some length) (hBits : length &&& 0xC0 = 0) (hSome : length ≠ 0)
      (hBytes : slice? packet (offset + 1) (offset + 1 + length.toNat) = some bytes)
      (hText : String.fromUTF8? ⟨bytes.toArray⟩ = some text)
      (hRest : NameAt (offset + 1 + length.toNat) labels) : NameAt offset (text :: labels)
  | pointer {offset : ℕ} {length next : UInt8} {labels : List String}
      (hLength : packet[offset]? = some length) (hBits : length &&& 0xC0 = 0xC0)
      (hNext : packet[offset + 1]? = some next) (hRest : NameAt (pointerOf length next) labels) :
      NameAt offset labels

/-- The offset behind the bytes of a name, the last of which are a root label or a pointer. -/
inductive NameEnds : ℕ → ℕ → Prop
  | root {offset : ℕ} (hLength : packet[offset]? = some 0) : NameEnds offset (offset + 1)
  | label {offset stop : ℕ} {length : UInt8} (hLength : packet[offset]? = some length)
      (hBits : length &&& 0xC0 = 0) (hSome : length ≠ 0)
      (hRest : NameEnds (offset + 1 + length.toNat) stop) : NameEnds offset stop
  | pointer {offset : ℕ} {length : UInt8} (hLength : packet[offset]? = some length)
      (hBits : length &&& 0xC0 = 0xC0) : NameEnds offset (offset + 2)

/-- The text of a name: its labels with dots between them. -/
def NameTextAt (offset : ℕ) (name : String) : Prop :=
  ∃ labels, NameAt packet offset labels ∧ name = ".".intercalate labels

end Wire

section Messages

/-- The sum of three counts, each addition saturating. -/
def recordCount (answers authorities additionals : UInt16) : ℕ :=
  min (min (answers.toNat + authorities.toNat) 65535 + additionals.toNat) 65535

structure DnsRecord where
  name : String
  recordType : UInt16
  dataStart : ℕ
  dataLen : ℕ
  deriving DecidableEq

variable (packet : List UInt8)

/-- The record stands at an offset, with its name, type, length and data; another may follow at
`next`. -/
structure RecordAt (offset : ℕ) (record : DnsRecord) (next : ℕ) : Prop where
  name : NameTextAt packet offset record.name
  fields : ∃ stop dataLen, NameEnds packet offset stop ∧ U16At packet stop record.recordType ∧
    U16At packet (stop + 8) dataLen ∧ record.dataStart = stop + 10 ∧
    record.dataLen = dataLen.toNat
  next_eq : next = record.dataStart + record.dataLen
  inside : next ≤ packet.length

inductive RecordsAt : ℕ → List DnsRecord → Prop
  | nil (offset : ℕ) : RecordsAt offset []
  | cons {offset next : ℕ} {record : DnsRecord} {records : List DnsRecord}
      (hRecord : RecordAt packet offset record next) (hRest : RecordsAt next records) :
      RecordsAt offset (record :: records)

/-- Questions, of a name and four bytes each, and the offset behind them. -/
inductive QuestionsAt : ℕ → ℕ → ℕ → Prop
  | nil (offset : ℕ) : QuestionsAt 0 offset offset
  | cons {count offset stop last : ℕ} (hName : NameEnds packet offset stop)
      (hInside : stop + 4 ≤ packet.length) (hRest : QuestionsAt count (stop + 4) last) :
      QuestionsAt (count + 1) offset last

/-- The first records of a packet, no more than its header says. -/
structure RecordsOf (records : List DnsRecord) : Prop where
  header : ∃ questions answers authorities additionals start, U16At packet 4 questions ∧
    U16At packet 6 answers ∧ U16At packet 8 authorities ∧ U16At packet 10 additionals ∧
    QuestionsAt packet questions.toNat 12 start ∧ RecordsAt packet start records ∧
    records.length ≤ recordCount answers authorities additionals

end Messages

section Justification

variable (packet : List UInt8)

/-- The name that starts at an offset ends in the data of the record.  A pointer, which is its last
part, may lead anywhere. -/
structure NameInData (record : DnsRecord) (offset : ℕ) (name : String) : Prop where
  text : NameTextAt packet offset name
  inside : ∃ stop, NameEnds packet offset stop ∧ stop ≤ record.dataStart + record.dataLen

/-- A PTR record of the service type, with the instance that it names. -/
structure NamesInstance (record : DnsRecord) (instanceName : String) : Prop where
  type : record.recordType = dnsTypePtr
  service : normalizeDnsName record.name = normalizeDnsName mdnsServiceType
  data : ∃ name, NameInData packet record record.dataStart name ∧
    instanceName = normalizeDnsName name

/-- An SRV record of an instance, with its port and host. -/
structure ServesAt (record : DnsRecord) (instanceName host : String) (port : UInt16) : Prop where
  type : record.recordType = dnsTypeSrv
  name : normalizeDnsName record.name = instanceName
  port : U16At packet (record.dataStart + 4) port
  host : ∃ name, NameInData packet record (record.dataStart + 6) name ∧
    host = normalizeDnsName name

/-- An A or an AAAA record of a host, with its address. -/
inductive HostAddress (record : DnsRecord) (host : String) : IpAddr → Prop
  | v4 (octets : Vector UInt8 4) (hType : record.recordType = dnsTypeA)
      (hName : normalizeDnsName record.name = host) (hLen : record.dataLen = 4)
      (hData : slice? packet record.dataStart (record.dataStart + 4) = some octets.toList) :
      HostAddress record host (.v4 octets)
  | v6 (octets : Vector UInt8 16) (hType : record.recordType = dnsTypeAaaa)
      (hName : normalizeDnsName record.name = host) (hLen : record.dataLen = 16)
      (hData : slice? packet record.dataStart (record.dataStart + 16) = some octets.toList) :
      HostAddress record host (.v6 octets)

end Justification

section Unique

variable {packet : List UInt8} {offset : ℕ}

theorem U16At.unique {value value' : UInt16} (h : U16At packet offset value)
    (h' : U16At packet offset value') : value = value' := by
  obtain ⟨high, low, hHigh, hLow, rfl⟩ := h.bytes
  obtain ⟨high', low', hHigh', hLow', rfl⟩ := h'.bytes
  rw [Option.some.inj (hHigh.symm.trans hHigh'), Option.some.inj (hLow.symm.trans hLow')]

/-- The two top bits of a length say what it is. -/
theorem length_kinds {length : UInt8} : ¬(length &&& 0xC0 = 0 ∧ length &&& 0xC0 = 0xC0) :=
  fun h => absurd (h.1.symm.trans h.2) (by decide)

theorem NameAt.unique {labels labels' : List String} (h : NameAt packet offset labels)
    (h' : NameAt packet offset labels') : labels = labels' := by
  induction h generalizing labels' with
  | root hLength =>
    cases h' with
    | root => rfl
    | label hLength' _ hSome => exact absurd (Option.some.inj (hLength'.symm.trans hLength)) hSome
    | pointer hLength' hBits =>
      obtain rfl := Option.some.inj (hLength.symm.trans hLength')
      exact absurd hBits (by decide)
  | label hLength hBits hSome hBytes hText _ ih =>
    cases h' with
    | root hLength' => exact absurd (Option.some.inj (hLength.symm.trans hLength')) hSome
    | label hLength' _ _ hBytes' hText' hRest' =>
      obtain rfl := Option.some.inj (hLength.symm.trans hLength')
      obtain rfl := Option.some.inj (hBytes.symm.trans hBytes')
      rw [Option.some.inj (hText.symm.trans hText'), ih hRest']
    | pointer hLength' hBits' =>
      obtain rfl := Option.some.inj (hLength.symm.trans hLength')
      exact absurd ⟨hBits, hBits'⟩ length_kinds
  | pointer hLength hBits hNext _ ih =>
    cases h' with
    | root hLength' =>
      obtain rfl := Option.some.inj (hLength.symm.trans hLength')
      exact absurd hBits (by decide)
    | label hLength' hBits' =>
      obtain rfl := Option.some.inj (hLength.symm.trans hLength')
      exact absurd ⟨hBits', hBits⟩ length_kinds
    | pointer hLength' _ hNext' hRest' =>
      obtain rfl := Option.some.inj (hLength.symm.trans hLength')
      obtain rfl := Option.some.inj (hNext.symm.trans hNext')
      exact ih hRest'

theorem NameEnds.unique {stop stop' : ℕ} (h : NameEnds packet offset stop)
    (h' : NameEnds packet offset stop') : stop = stop' := by
  induction h generalizing stop' with
  | root hLength =>
    cases h' with
    | root => rfl
    | label hLength' _ hSome => exact absurd (Option.some.inj (hLength'.symm.trans hLength)) hSome
    | pointer hLength' hBits =>
      obtain rfl := Option.some.inj (hLength.symm.trans hLength')
      exact absurd hBits (by decide)
  | label hLength hBits hSome _ ih =>
    cases h' with
    | root hLength' => exact absurd (Option.some.inj (hLength.symm.trans hLength')) hSome
    | label hLength' _ _ hRest' =>
      obtain rfl := Option.some.inj (hLength.symm.trans hLength')
      exact ih hRest'
    | pointer hLength' hBits' =>
      obtain rfl := Option.some.inj (hLength.symm.trans hLength')
      exact absurd ⟨hBits, hBits'⟩ length_kinds
  | pointer hLength hBits =>
    cases h' with
    | root hLength' =>
      obtain rfl := Option.some.inj (hLength.symm.trans hLength')
      exact absurd hBits (by decide)
    | label hLength' hBits' =>
      obtain rfl := Option.some.inj (hLength.symm.trans hLength')
      exact absurd ⟨hBits', hBits⟩ length_kinds
    | pointer => rfl

theorem NameEnds.lt {stop : ℕ} (h : NameEnds packet offset stop) : offset < stop := by
  induction h with
  | root => omega
  | label _ _ _ _ ih => omega
  | pointer => omega

theorem RecordAt.unique {record record' : DnsRecord} {next next' : ℕ}
    (h : RecordAt packet offset record next) (h' : RecordAt packet offset record' next') :
    record = record' ∧ next = next' := by
  obtain ⟨⟨labels, hLabels, hName⟩, ⟨stop, dataLen, hStop, hType, hLen, hStart, hDataLen⟩, hNext, -⟩ :=
    h
  obtain ⟨⟨labels', hLabels', hName'⟩,
    ⟨stop', dataLen', hStop', hType', hLen', hStart', hDataLen'⟩, hNext', -⟩ := h'
  obtain rfl := hLabels.unique hLabels'
  obtain rfl := hStop.unique hStop'
  obtain rfl := hLen.unique hLen'
  have hSame : record = record' := by
    cases record
    cases record'
    rw [DnsRecord.mk.injEq]
    exact ⟨hName.trans hName'.symm, hType.unique hType', hStart.trans hStart'.symm,
      hDataLen.trans hDataLen'.symm⟩
  subst hSame
  exact ⟨rfl, hNext.trans hNext'.symm⟩

/-- There is one way to go from record to record. -/
theorem RecordsAt.prefix_of_length_le {records records' : List DnsRecord}
    (h : RecordsAt packet offset records) (h' : RecordsAt packet offset records')
    (hLength : records.length ≤ records'.length) : records <+: records' := by
  induction h generalizing records' with
  | nil => exact List.nil_prefix
  | cons hRecord _ ih =>
    cases h' with
    | nil => exact absurd hLength (by simp)
    | cons hRecord' hRest' =>
      obtain ⟨rfl, rfl⟩ := hRecord.unique hRecord'
      exact List.cons_prefix_cons.mpr ⟨rfl, ih hRest' (Nat.le_of_succ_le_succ hLength)⟩

theorem QuestionsAt.unique {count last last' : ℕ} (h : QuestionsAt packet count offset last)
    (h' : QuestionsAt packet count offset last') : last = last' := by
  induction h with
  | nil =>
    cases h'
    rfl
  | cons hName _ _ ih =>
    cases h' with
    | cons hName' _ hRest' =>
      obtain rfl := hName.unique hName'
      exact ih hRest'

end Unique

end Kmsync.Client
