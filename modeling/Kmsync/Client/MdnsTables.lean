import Kmsync.Client.MdnsSafe

/-! What the reader of mDNS answers makes of the records of a packet.  Each record adds at most one
entry to the tables, of several SRV or TXT records of an instance the last one counts, and an
endpoint is a chain of a PTR, an SRV and an address record. -/

namespace Kmsync.Client

open ProofKit

section Sayings

variable (packet : List UInt8) (record : DnsRecord)

/-- The instance that a PTR record of the service names. -/
def instanceNamed : Option String :=
  if record.recordType = dnsTypePtr ∧
      normalizeDnsName record.name = normalizeDnsName mdnsServiceType then
    (readDnsName packet record.dataStart).toOption.map fun named => normalizeDnsName named.1
  else none

/-- The host and the port of an SRV record. -/
def hostServed : Option (String × UInt16) :=
  if record.recordType = dnsTypeSrv ∧ 7 ≤ record.dataLen then
    (readDnsName packet (record.dataStart + 6)).toOption.map fun target =>
      (normalizeDnsName target.1, (readU16 packet (record.dataStart + 4)).toOption.getD 0)
  else none

/-- The bytes of the record's data. -/
def DnsRecord.data : List UInt8 :=
  (slice? packet record.dataStart (record.dataStart + record.dataLen)).getD []

/-- The device id of a TXT record. -/
def deviceIdTold : Option String :=
  if record.recordType = dnsTypeTxt then (readTxtDeviceId (record.data packet) 0).toOption else none

/-- The address of an A or an AAAA record. -/
def addressGiven : Option IpAddr :=
  if record.recordType = dnsTypeA ∧ record.dataLen = 4 then
    (octetsOf 4 (record.data packet)).toOption.map .v4
  else if record.recordType = dnsTypeAaaa ∧ record.dataLen = 16 then
    (octetsOf 16 (record.data packet)).toOption.map .v6
  else none

/-- The tables with what a record adds to them. -/
def MdnsTables.withRecord (tables : MdnsTables) : MdnsTables where
  ptrInstances := (instanceNamed packet record).elim tables.ptrInstances tables.ptrInstances.insert
  srvRecords := (hostServed packet record).elim tables.srvRecords
    (tables.srvRecords.insert (normalizeDnsName record.name))
  txtDeviceIds := (deviceIdTold packet record).elim tables.txtDeviceIds
    (tables.txtDeviceIds.insert (normalizeDnsName record.name))
  addresses := (addressGiven packet record).elim tables.addresses
    (pushAddress tables.addresses (normalizeDnsName record.name))

/-- The records that the loop reads, up to the first that cannot be read. -/
def recordsFrom : ℕ → ℕ → List DnsRecord
  | 0, _ => []
  | count + 1, offset =>
    ((DnsRecord.parse packet offset).toOption.map fun parsed =>
      parsed.1 :: recordsFrom count parsed.2).getD []

def packetRecords : List DnsRecord :=
  ((DnsHeader.parse packet).toOption.bind fun header =>
    (skipDnsQuestions packet header.questionCount.toNat 12).toOption.map
      (recordsFrom packet header.recordCount)).getD []

end Sayings

section Records

variable {packet : List UInt8} {record : DnsRecord} {tables : MdnsTables}

theorem data_eq (hData : record.dataStart + record.dataLen ≤ packet.length) :
    slice? packet record.dataStart (record.dataStart + record.dataLen) =
        some (record.data packet) ∧ (record.data packet).length = record.dataLen := by
  have hSlice := slice?_eq_some (Nat.le_add_right record.dataStart record.dataLen) hData
  rw [DnsRecord.data, hSlice]
  refine ⟨rfl, ?_⟩
  rw [Option.getD_some, slice?_length hSlice, Nat.add_sub_cancel_left]

theorem readSlice_data (hData : record.dataStart + record.dataLen ≤ packet.length) :
    (readSlice packet record.dataStart (record.dataStart + record.dataLen) : Read _) =
      .ok (record.data packet) := by
  rw [readSlice, (data_eq hData).1]
  rfl

section Silent

/-! A record is silent about what is not of its type. -/

theorem instanceNamed_eq_none (h : ¬(record.recordType = dnsTypePtr ∧
    normalizeDnsName record.name = normalizeDnsName mdnsServiceType)) :
    instanceNamed packet record = none := if_neg h

theorem hostServed_eq_none (h : record.recordType ≠ dnsTypeSrv) :
    hostServed packet record = none := if_neg fun hBoth => h hBoth.1

theorem deviceIdTold_eq_none (h : record.recordType ≠ dnsTypeTxt) :
    deviceIdTold packet record = none := if_neg h

theorem addressGiven_eq_none (hA : ¬(record.recordType = dnsTypeA ∧ record.dataLen = 4))
    (hAaaa : ¬(record.recordType = dnsTypeAaaa ∧ record.dataLen = 16)) :
    addressGiven packet record = none := by
  rw [addressGiven, if_neg hA, if_neg hAaaa]

end Silent

variable (hLen : packet.length < 2 ^ 63)
include hLen

theorem takePtr_eq (hPtr : record.recordType = dnsTypePtr ∧
    normalizeDnsName record.name = normalizeDnsName mdnsServiceType) :
    takePtr packet tables record = .ok (tables.withRecord packet record) := by
  have hSrv : record.recordType ≠ dnsTypeSrv := hPtr.1 ▸ by decide
  have hTxt : record.recordType ≠ dnsTypeTxt := hPtr.1 ▸ by decide
  have hA : record.recordType ≠ dnsTypeA := hPtr.1 ▸ by decide
  have hAaaa : record.recordType ≠ dnsTypeAaaa := hPtr.1 ▸ by decide
  rw [takePtr, attempt_of_noPanic (noPanic_readDnsName hLen record.dataStart), ok_bind,
    MdnsTables.withRecord, hostServed_eq_none hSrv, deviceIdTold_eq_none hTxt,
    addressGiven_eq_none (fun h => hA h.1) (fun h => hAaaa h.1), instanceNamed, if_pos hPtr]
  cases (readDnsName packet record.dataStart).toOption with
  | none => rfl
  | some named => rfl

variable (hData : record.dataStart + record.dataLen ≤ packet.length)
include hData

theorem takeSrv_eq (hSrv : record.recordType = dnsTypeSrv) :
    takeSrv packet tables record = .ok (tables.withRecord packet record) := by
  have hPtr : record.recordType ≠ dnsTypePtr := hSrv ▸ by decide
  have hTxt : record.recordType ≠ dnsTypeTxt := hSrv ▸ by decide
  have hA : record.recordType ≠ dnsTypeA := hSrv ▸ by decide
  have hAaaa : record.recordType ≠ dnsTypeAaaa := hSrv ▸ by decide
  rw [MdnsTables.withRecord, instanceNamed_eq_none (fun h => hPtr h.1), deviceIdTold_eq_none hTxt,
    addressGiven_eq_none (fun h => hA h.1) (fun h => hAaaa h.1), hostServed, takeSrv]
  by_cases hLong : 7 ≤ record.dataLen
  · rw [if_pos hLong, if_pos ⟨hSrv, hLong⟩, addOffset_of_lt (by omega), ok_bind,
      attempt_of_noPanic (noPanic_readU16 (by omega)), ok_bind, addOffset_of_lt (by omega), ok_bind,
      attempt_of_noPanic (noPanic_readDnsName hLen _), ok_bind]
    cases (readDnsName packet (record.dataStart + 6)).toOption with
    | none => rfl
    | some target => rfl
  · rw [if_neg hLong, if_neg fun h => hLong h.2]
    rfl

theorem takeTxt_eq (hTxt : record.recordType = dnsTypeTxt) :
    takeTxt packet tables record = .ok (tables.withRecord packet record) := by
  have hPtr : record.recordType ≠ dnsTypePtr := hTxt ▸ by decide
  have hSrv : record.recordType ≠ dnsTypeSrv := hTxt ▸ by decide
  have hA : record.recordType ≠ dnsTypeA := hTxt ▸ by decide
  have hAaaa : record.recordType ≠ dnsTypeAaaa := hTxt ▸ by decide
  have hFits : (record.data packet).length < 2 ^ 63 := by
    rw [(data_eq hData).2]
    omega
  rw [MdnsTables.withRecord, instanceNamed_eq_none (fun h => hPtr h.1), hostServed_eq_none hSrv,
    addressGiven_eq_none (fun h => hA h.1) (fun h => hAaaa h.1), deviceIdTold, if_pos hTxt, takeTxt,
    addOffset_of_lt (by omega), ok_bind, readSlice_data hData, ok_bind,
    attempt_of_noPanic (noPanic_readTxtDeviceId hFits), ok_bind]
  cases (readTxtDeviceId (record.data packet) 0).toOption with
  | none => rfl
  | some deviceId => rfl

theorem takeA_eq (hA : record.recordType = dnsTypeA ∧ record.dataLen = 4) :
    takeA packet tables record = .ok (tables.withRecord packet record) := by
  have hPtr : record.recordType ≠ dnsTypePtr := hA.1 ▸ by decide
  have hSrv : record.recordType ≠ dnsTypeSrv := hA.1 ▸ by decide
  have hTxt : record.recordType ≠ dnsTypeTxt := hA.1 ▸ by decide
  obtain ⟨hSlice, hLength⟩ := data_eq hData
  rw [MdnsTables.withRecord, instanceNamed_eq_none (fun h => hPtr h.1), hostServed_eq_none hSrv,
    deviceIdTold_eq_none hTxt, addressGiven, if_pos hA]
  rw [hA.2] at hSlice hLength
  obtain ⟨first, second, third, fourth, hOctets⟩ := List.length_eq_four.mp hLength
  rw [hOctets] at hSlice ⊢
  have hByte : ∀ {i byte}, [first, second, third, fourth][i]? = some byte →
      i < 4 → (readByte packet (record.dataStart + i) : Read UInt8) = .ok byte := by
    intro i byte hAt hLt
    rw [getElem?_of_slice? hSlice (by omega)] at hAt
    exact orPanic_eq_ok.mpr hAt
  have hFirst : (readByte packet record.dataStart : Read UInt8) = .ok first :=
    hByte (i := 0) rfl (by omega)
  rw [takeA, hFirst, ok_bind, addOffset_of_lt (by omega), ok_bind, hByte (i := 1) rfl (by omega),
    ok_bind, addOffset_of_lt (by omega), ok_bind, hByte (i := 2) rfl (by omega), ok_bind,
    addOffset_of_lt (by omega), ok_bind, hByte (i := 3) rfl (by omega), ok_bind]
  rfl

theorem takeAaaa_eq (hAaaa : record.recordType = dnsTypeAaaa ∧ record.dataLen = 16) :
    takeAaaa packet tables record = .ok (tables.withRecord packet record) := by
  have hPtr : record.recordType ≠ dnsTypePtr := hAaaa.1 ▸ by decide
  have hSrv : record.recordType ≠ dnsTypeSrv := hAaaa.1 ▸ by decide
  have hTxt : record.recordType ≠ dnsTypeTxt := hAaaa.1 ▸ by decide
  have hA : record.recordType ≠ dnsTypeA := hAaaa.1 ▸ by decide
  have hOctets : (record.data packet).length = 16 := (data_eq hData).2.trans hAaaa.2
  rw [MdnsTables.withRecord, instanceNamed_eq_none (fun h => hPtr h.1), hostServed_eq_none hSrv,
    deviceIdTold_eq_none hTxt, addressGiven, if_neg fun h => hA h.1, if_pos hAaaa, takeAaaa,
    addOffset_of_lt (by omega), ok_bind, readSlice_data hData, ok_bind, octetsOf, dif_pos hOctets,
    ok_bind]
  rfl

/-- A record whose data is in the packet is taken without a panic, for what it says. -/
theorem takeRecord_eq :
    takeRecord packet tables record = .ok (tables.withRecord packet record) := by
  unfold takeRecord
  split
  next hPtr => exact takePtr_eq hLen hPtr
  split
  next hSrv => exact takeSrv_eq hLen hData hSrv
  split
  next hTxt => exact takeTxt_eq hLen hData hTxt
  split
  next hA => exact takeA_eq hLen hData hA
  split
  next hAaaa => exact takeAaaa_eq hLen hData hAaaa
  next hPtr hSrv hTxt hA hAaaa =>
    rw [MdnsTables.withRecord, instanceNamed_eq_none hPtr, hostServed_eq_none hSrv,
      deviceIdTold_eq_none hTxt, addressGiven_eq_none hA hAaaa]
    rfl

end Records

section Loop

variable {packet : List UInt8}

theorem recordsFrom_sound (count offset : ℕ) :
    RecordsAt packet offset (recordsFrom packet count offset) ∧
      (recordsFrom packet count offset).length ≤ count := by
  induction count generalizing offset with
  | zero => exact ⟨.nil offset, Nat.le_refl 0⟩
  | succ count ih =>
    rw [recordsFrom]
    cases hParse : (DnsRecord.parse packet offset).toOption with
    | none => exact ⟨.nil offset, Nat.zero_le _⟩
    | some parsed =>
      obtain ⟨hRest, hCount⟩ := ih parsed.2
      exact ⟨.cons (parse_sound (toOption_eq_some.mp hParse)) hRest, Nat.succ_le_succ hCount⟩

/-- The records of a packet are its first ones. -/
theorem recordsOf_packetRecords {record : DnsRecord} (h : record ∈ packetRecords packet) :
    RecordsOf packet (packetRecords packet) := by
  unfold packetRecords at h ⊢
  cases hHeader : (DnsHeader.parse packet).toOption with
  | none =>
    rw [hHeader] at h
    exact absurd h List.not_mem_nil
  | some header =>
    rw [hHeader, Option.bind_some] at h
    rw [Option.bind_some]
    obtain ⟨hQuestions, hAnswers, hAuthorities, hAdditionals⟩ :=
      header_sound (toOption_eq_some.mp hHeader)
    cases hStart : (skipDnsQuestions packet header.questionCount.toNat 12).toOption with
    | none =>
      rw [hStart] at h
      exact absurd h List.not_mem_nil
    | some start =>
      obtain ⟨hRecords, hCount⟩ : RecordsAt packet start _ ∧ _ ≤ header.recordCount :=
        recordsFrom_sound header.recordCount start
      exact ⟨_, _, _, _, start, hQuestions, hAnswers, hAuthorities, hAdditionals,
        skipDnsQuestions_sound (toOption_eq_some.mp hStart), hRecords, hCount⟩

/-- A packet with as many records as its header says has no others. -/
theorem RecordsOf.mem_packetRecords {records : List DnsRecord} (h : RecordsOf packet records)
    {header : DnsHeader} (hHeader : DnsHeader.parse packet = .ok header)
    (hAll : (packetRecords packet).length = header.recordCount) {record : DnsRecord}
    (hMem : record ∈ records) : record ∈ packetRecords packet := by
  obtain ⟨questions, answers, authorities, additionals, start, hQuestions, hAnswers, hAuthorities,
    hAdditionals, hStart, hRecords, hCount⟩ := h.header
  obtain ⟨hQuestions', hAnswers', hAuthorities', hAdditionals'⟩ := header_sound hHeader
  obtain rfl := hQuestions.unique hQuestions'
  obtain rfl := hAnswers.unique hAnswers'
  obtain rfl := hAuthorities.unique hAuthorities'
  obtain rfl := hAdditionals.unique hAdditionals'
  have hLength : records.length ≤ (packetRecords packet).length := hCount.trans hAll.ge
  unfold packetRecords at hLength ⊢
  rw [toOption_eq_some.mpr hHeader, Option.bind_some] at hLength ⊢
  cases hStart' : (skipDnsQuestions packet header.questionCount.toNat 12).toOption with
  | none =>
    rw [hStart'] at hLength
    rw [List.length_eq_zero_iff.mp (Nat.le_zero.mp hLength)] at hMem
    exact absurd hMem List.not_mem_nil
  | some start' =>
    rw [hStart'] at hLength
    obtain rfl := hStart.unique (skipDnsQuestions_sound (toOption_eq_some.mp hStart'))
    obtain ⟨hRead, -⟩ : RecordsAt packet start _ ∧ _ ≤ header.recordCount :=
      recordsFrom_sound header.recordCount start
    exact (hRecords.prefix_of_length_le hRead hLength).mem hMem

/-- The loop over the records ends without a panic. -/
theorem takeRecords_eq (hLen : packet.length < 2 ^ 63) (count offset : ℕ) (tables : MdnsTables) :
    takeRecords packet count offset tables = .ok ((recordsFrom packet count offset).foldl
      (fun tables record => tables.withRecord packet record) tables) := by
  induction count generalizing offset tables with
  | zero => rfl
  | succ count ih =>
    rw [takeRecords, attempt_of_noPanic (noPanic_parse hLen offset), ok_bind, recordsFrom]
    cases hParse : (DnsRecord.parse packet offset).toOption with
    | none => rfl
    | some parsed =>
      have hRecord := parse_sound (toOption_eq_some.mp hParse)
      dsimp only
      rw [takeRecord_eq hLen (hRecord.next_eq ▸ hRecord.inside), ok_bind, ih]
      rfl

/-- What the records of a packet come to. -/
def packetTables (packet : List UInt8) : MdnsTables :=
  (packetRecords packet).foldl (fun tables record => tables.withRecord packet record) {}

/-- For every packet the parser ends, without an access outside of it. -/
theorem parseMdnsLanEndpoints_eq (hash : String → ℕ) (packet : Packet) :
    parseMdnsLanEndpoints hash packet.bytes = .ok (dedupeLanEndpoints
      (((packetTables packet.bytes).ptrInstances.elements hash).flatMap
        (instanceEndpoints (packetTables packet.bytes)))) := by
  rw [parseMdnsLanEndpoints, attempt_of_noPanic (noPanic_header packet.bytes), ok_bind, packetTables,
    packetRecords]
  cases (DnsHeader.parse packet.bytes).toOption with
  | none => rfl
  | some header =>
    dsimp only
    rw [attempt_of_noPanic (noPanic_skipDnsQuestions packet.fits header.questionCount.toNat 12),
      ok_bind, Option.bind_some]
    cases (skipDnsQuestions packet.bytes header.questionCount.toNat 12).toOption with
    | none => rfl
    | some start =>
      dsimp only
      rw [takeRecords_eq packet.fits, ok_bind]
      rfl

end Loop

end Kmsync.Client
