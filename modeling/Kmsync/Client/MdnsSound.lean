import Kmsync.Client.MdnsTables

/-! The endpoints that come of an answer to the mDNS query.  A name in the data of a PTR or an SRV
record is read without a look at where the data ends.  Where such a name runs past the end, the
reader takes bytes of the next record for it, and may make up an endpoint. -/

namespace Kmsync.Client

open ProofKit

section Chains

variable (packet : List UInt8)

/-- The host and port that a record gives for an instance. -/
def servedAs (instanceName : String) (record : DnsRecord) : Option (String × UInt16) :=
  if normalizeDnsName record.name = instanceName then hostServed packet record else none

/-- The device id that a record gives for an instance. -/
def toldOf (instanceName : String) (record : DnsRecord) : Option String :=
  if normalizeDnsName record.name = instanceName then deviceIdTold packet record else none

/-- The address that a record gives for a host. -/
def givenTo (host : String) (record : DnsRecord) : Option IpAddr :=
  if normalizeDnsName record.name = host then addressGiven packet record else none

/-- The device id of the last TXT record of an instance that has one, or else one made from the name
of the instance. -/
def deviceIdOf (instanceName : String) : String :=
  ((packetRecords packet).reverse.findSome? (toldOf packet instanceName)).getD
    (serviceInstanceDeviceId instanceName)

/-- The last SRV record of an instance, with its host and port. -/
structure LastServing (instanceName : String) (srv : DnsRecord) (served : String × UInt16) :
    Prop where
  last : ∃ before later, packetRecords packet = before ++ srv :: later ∧
    servedAs packet instanceName srv = some served ∧
    ∀ record ∈ later, servedAs packet instanceName record = none

/-- The records, as the reader takes their names, lead from an instance to an address and a port. -/
structure LeadTo (instanceName : String) (ip : IpAddr) (port : UInt16) (ptr srv address : DnsRecord) :
    Prop where
  ptr_mem : ptr ∈ packetRecords packet
  address_mem : address ∈ packetRecords packet
  names : instanceNamed packet ptr = some instanceName
  serves : ∃ host, LastServing packet instanceName srv (host, port) ∧
    givenTo packet host address = some ip
  deviceId_ne : deviceIdOf packet instanceName ≠ ""

variable {packet} {instanceName host : String} {endpoint : LanDiscoveryEndpoint}

theorem mem_ptrInstances : instanceName ∈ (packetTables packet).ptrInstances ↔
    ∃ record ∈ packetRecords packet, instanceNamed packet record = some instanceName := by
  have hFold : (packetTables packet).ptrInstances = (packetRecords packet).foldl
      (fun s record => (instanceNamed packet record).elim s s.insert) ∅ :=
    (List.foldl_hom MdnsTables.ptrInstances fun _ _ => rfl).symm
  rw [hFold, HashSet.mem_foldl_insert]
  exact or_iff_right (AList.notMem_empty instanceName)

theorem get?_srvRecords : (packetTables packet).srvRecords.get? instanceName =
    (packetRecords packet).reverse.findSome? (servedAs packet instanceName) := by
  have hFold : (packetTables packet).srvRecords = (packetRecords packet).foldl
      (fun m record => (hostServed packet record).elim m
        (m.insert (normalizeDnsName record.name))) ∅ :=
    (List.foldl_hom MdnsTables.srvRecords fun _ _ => rfl).symm
  rw [hFold, HashMap.get?_foldl_insert, HashMap.get?_empty, Option.or_none]
  rfl

theorem get?_txtDeviceIds : (packetTables packet).txtDeviceIds.get? instanceName =
    (packetRecords packet).reverse.findSome? (toldOf packet instanceName) := by
  have hFold : (packetTables packet).txtDeviceIds = (packetRecords packet).foldl
      (fun m record => (deviceIdTold packet record).elim m
        (m.insert (normalizeDnsName record.name))) ∅ :=
    (List.foldl_hom MdnsTables.txtDeviceIds fun _ _ => rfl).symm
  rw [hFold, HashMap.get?_foldl_insert, HashMap.get?_empty, Option.or_none]
  rfl

theorem getD_addresses : ((packetTables packet).addresses.get? host).getD [] =
    (packetRecords packet).filterMap (givenTo packet host) := by
  have hFold : (packetTables packet).addresses = (packetRecords packet).foldl
      (fun m record => (addressGiven packet record).elim m fun ip =>
        m.insert (normalizeDnsName record.name)
          ((m.get? (normalizeDnsName record.name)).getD [] ++ [ip])) ∅ :=
    (List.foldl_hom MdnsTables.addresses fun _ _ => rfl).symm
  rw [hFold, HashMap.getD_foldl_push, HashMap.get?_empty, Option.getD_none, List.nil_append]
  rfl

/-- The last SRV record of an instance is the one that is found. -/
theorem exists_lastServing {served : String × UInt16} :
    (packetTables packet).srvRecords.get? instanceName = some served ↔
      ∃ srv, LastServing packet instanceName srv served := by
  rw [get?_srvRecords, List.findSome?_eq_some_iff]
  constructor
  · rintro ⟨later, srv, before, hSplit, hServed, hLater⟩
    refine ⟨srv, before.reverse, later.reverse, ?_, hServed, fun record hMem =>
      hLater record (List.mem_reverse.mp hMem)⟩
    rw [← List.reverse_reverse (packetRecords packet), hSplit]
    simp
  · rintro ⟨srv, before, later, hSplit, hServed, hLater⟩
    refine ⟨later.reverse, srv, before.reverse, ?_, hServed, fun record hMem =>
      hLater record (List.mem_reverse.mp hMem)⟩
    rw [hSplit]
    simp

theorem mem_instanceEndpoints : endpoint ∈ instanceEndpoints (packetTables packet) instanceName ↔
    endpoint.deviceId ≠ "" ∧ ∃ srv host port, LastServing packet instanceName srv (host, port) ∧
      ∃ address ∈ packetRecords packet, ∃ ip, givenTo packet host address = some ip ∧
        endpoint = ⟨deviceIdOf packet instanceName, .new ip port⟩ := by
  have hAddresses : ∀ host, ((packetTables packet).addresses.get? host).getD [] = _ :=
    fun _ => getD_addresses
  have hServing : ∀ served, (packetTables packet).srvRecords.get? instanceName = some served ↔ _ :=
    fun _ => exists_lastServing
  rw [instanceEndpoints, get?_txtDeviceIds, ← deviceIdOf]
  cases hSrv : (packetTables packet).srvRecords.get? instanceName with
  | none =>
    refine iff_of_false List.not_mem_nil ?_
    rintro ⟨-, srv, host, port, hLast, -⟩
    cases hSrv.symm.trans ((hServing _).mpr ⟨srv, hLast⟩)
  | some served =>
    obtain ⟨host, port⟩ := served
    obtain ⟨srv, hLast⟩ := (hServing _).mp hSrv
    have hOnly : ∀ {srv' host' port'}, LastServing packet instanceName srv' (host', port') →
        host' = host ∧ port' = port := fun h =>
      Prod.mk.inj (Option.some.inj (((hServing _).mpr ⟨_, h⟩).symm.trans hSrv))
    have hIps := hAddresses host
    dsimp only
    constructor
    · intro h
      cases hGet : (packetTables packet).addresses.get? host with
      | none =>
        rw [hGet] at h
        cases h
      | some ips =>
        rw [hGet] at h hIps
        dsimp only at h
        split at h
        next => cases h
        next hSome =>
          obtain ⟨ip, hIp, rfl⟩ := List.mem_map.mp h
          rw [Option.getD_some] at hIps
          rw [hIps] at hIp
          obtain ⟨address, hMem, hGiven⟩ := List.mem_filterMap.mp hIp
          exact ⟨hSome, srv, host, port, hLast, address, hMem, ip, hGiven, rfl⟩
    · rintro ⟨hSome, srv', host', port', hLast', address, hMem, ip, hGiven, rfl⟩
      obtain ⟨rfl, rfl⟩ := hOnly hLast'
      have hIp := List.mem_filterMap.mpr ⟨address, hMem, hGiven⟩
      rw [← hIps] at hIp
      cases hGet : (packetTables packet).addresses.get? host' with
      | none =>
        rw [hGet] at hIp
        cases hIp
      | some ips =>
        rw [hGet] at hIp
        dsimp only
        rw [if_neg hSome]
        exact List.mem_map.mpr ⟨ip, hIp, rfl⟩

theorem nodup_dedupeLanEndpoints (endpoints : List LanDiscoveryEndpoint) :
    (dedupeLanEndpoints endpoints).Nodup :=
  List.Nodup.of_map _ nodup_dedupBy

theorem mem_dedupeLanEndpoints {endpoints : List LanDiscoveryEndpoint} :
    endpoint ∈ dedupeLanEndpoints endpoints ↔ endpoint ∈ endpoints := by
  refine ⟨fun h => dedupBy_sublist.mem h, fun h => ?_⟩
  have hNew : (endpoint.deviceId, endpoint.address) ∉ ([] : List (String × SocketAddr)) :=
    List.not_mem_nil
  obtain ⟨other, hOther, hSame⟩ :
      ∃ other ∈ dedupeLanEndpoints endpoints,
        (other.deviceId, other.address) = (endpoint.deviceId, endpoint.address) :=
    exists_mem_dedupBy hNew h
  obtain ⟨deviceId, address⟩ := endpoint
  obtain ⟨deviceId', address'⟩ := other
  obtain ⟨rfl, rfl⟩ := Prod.mk.inj hSame
  exact hOther

/-- For every packet the parser ends, without an access outside of it, and returns once each address
to which the records of an instance lead. -/
theorem parseMdnsLanEndpoints_leadTo (hash : String → ℕ) (packet : Packet) :
    ∃ endpoints, parseMdnsLanEndpoints hash packet.bytes = .ok endpoints ∧ endpoints.Nodup ∧
      ∀ endpoint, endpoint ∈ endpoints ↔ ∃ instanceName ip port ptr srv address,
        LeadTo packet.bytes instanceName ip port ptr srv address ∧
          endpoint = ⟨deviceIdOf packet.bytes instanceName, .new ip port⟩ := by
  refine ⟨_, parseMdnsLanEndpoints_eq hash packet, nodup_dedupeLanEndpoints _, fun endpoint => ?_⟩
  rw [mem_dedupeLanEndpoints, List.mem_flatMap]
  constructor
  · rintro ⟨instanceName, hInstance, hEndpoint⟩
    obtain ⟨ptr, hPtr, hNames⟩ := mem_ptrInstances.mp (HashSet.mem_elements.mp hInstance)
    obtain ⟨hSome, srv, host, port, hLast, address, hMem, ip, hGiven, rfl⟩ :=
      mem_instanceEndpoints.mp hEndpoint
    exact ⟨instanceName, ip, port, ptr, srv, address,
      ⟨hPtr, hMem, hNames, ⟨host, hLast, hGiven⟩, hSome⟩, rfl⟩
  · rintro ⟨instanceName, ip, port, ptr, srv, address,
      ⟨hPtr, hMem, hNames, ⟨host, hLast, hGiven⟩, hSome⟩, rfl⟩
    refine ⟨instanceName, HashSet.mem_elements.mpr (mem_ptrInstances.mpr ⟨ptr, hPtr, hNames⟩), ?_⟩
    exact mem_instanceEndpoints.mpr ⟨hSome, srv, host, port, hLast, address, hMem, ip, hGiven, rfl⟩

end Chains

section Justification

/-- The packet names an instance, with its port and its host, and the address of the host. -/
structure GivenBy (packet : List UInt8) (ip : IpAddr) (port : UInt16) : Prop where
  records : ∃ records, RecordsOf packet records ∧
    ∃ ptr ∈ records, ∃ srv ∈ records, ∃ address ∈ records, ∃ instanceName host,
      NamesInstance packet ptr instanceName ∧ ServesAt packet srv instanceName host port ∧
      HostAddress packet address host ip

/-- The address and the port of the endpoint stand in records of the packet. -/
structure Justified (packet : List UInt8) (endpoint : LanDiscoveryEndpoint) : Prop where
  given : ∃ ip port, GivenBy packet ip port ∧ endpoint.address = .new ip port

variable {packet : List UInt8} {record : DnsRecord} {offset : ℕ} {instanceName host : String}
  {port : UInt16} {ip : IpAddr}

/-- The name that is read at an offset ends behind the data of the record. -/
def DnsRecord.namesBeyond (packet : List UInt8) (record : DnsRecord) (offset : ℕ) : Bool :=
  (readDnsName packet offset).toOption.any fun named => record.dataStart + record.dataLen < named.2

theorem nameInData {name : String} {stop : ℕ} (h : readDnsName packet offset = .ok (name, stop))
    (hBeyond : ¬record.namesBeyond packet offset) : NameInData packet record offset name := by
  obtain ⟨hText, hEnds⟩ := readDnsName_sound h
  refine ⟨hText, stop, hEnds, ?_⟩
  rw [DnsRecord.namesBeyond, toOption_eq_some.mpr h] at hBeyond
  simpa using hBeyond

theorem namesInstance_of_instanceNamed (h : instanceNamed packet record = some instanceName)
    (hBeyond : ¬record.namesBeyond packet record.dataStart) :
    NamesInstance packet record instanceName := by
  rw [instanceNamed] at h
  split at h
  next hPtr =>
    obtain ⟨⟨name, stop⟩, hName, rfl⟩ := Option.map_eq_some_iff.mp h
    exact ⟨hPtr.1, hPtr.2, name, nameInData (toOption_eq_some.mp hName) hBeyond, rfl⟩
  next => cases h

theorem le_length_of_mem (h : record ∈ packetRecords packet) :
    record.dataStart + record.dataLen ≤ packet.length := by
  obtain ⟨_, _, _, _, start, -, -, -, -, -, hRecords, -⟩ := (recordsOf_packetRecords h).header
  generalize packetRecords packet = records at h hRecords
  induction hRecords with
  | nil => cases h
  | cons hRecord _ ih =>
    rcases List.mem_cons.mp h with rfl | hRest
    · exact hRecord.next_eq ▸ hRecord.inside
    · exact ih hRest

theorem servesAt_of_servedAs (hLen : packet.length < 2 ^ 63) (hMem : record ∈ packetRecords packet)
    (h : servedAs packet instanceName record = some (host, port))
    (hBeyond : ¬record.namesBeyond packet (record.dataStart + 6)) :
    ServesAt packet record instanceName host port := by
  have hInside := le_length_of_mem hMem
  rw [servedAs] at h
  split at h
  next hOwn =>
    rw [hostServed] at h
    split at h
    next hSrv =>
      obtain ⟨hType, hLong⟩ := hSrv
      obtain ⟨⟨name, stop⟩, hName, hEq⟩ := Option.map_eq_some_iff.mp h
      obtain ⟨read, hRead⟩ : ∃ read, readU16 packet (record.dataStart + 4) = .ok read :=
        exists_readU16 (by omega) hLen
      rw [toOption_eq_some.mpr hRead] at hEq
      obtain ⟨rfl, rfl⟩ := Prod.mk.inj hEq
      exact ⟨hType, hOwn, readU16_sound hRead, name,
        nameInData (toOption_eq_some.mp hName) hBeyond, rfl⟩
    next => cases h
  next => cases h

theorem octetsOf_eq_ok {n : ℕ} {bytes : List UInt8} {octets : Vector UInt8 n}
    (h : octetsOf n bytes = .ok octets) : bytes = octets.toList := by
  unfold octetsOf at h
  split at h
  next => rw [← Except.ok.inj h]; rfl
  next => cases h

theorem hostAddress_of_givenTo (hMem : record ∈ packetRecords packet)
    (h : givenTo packet host record = some ip) : HostAddress packet record host ip := by
  obtain ⟨hSlice, -⟩ := data_eq (le_length_of_mem hMem)
  rw [givenTo] at h
  split at h
  next hOwn =>
    rw [addressGiven] at h
    split at h
    next hA =>
      obtain ⟨octets, hOctets, rfl⟩ := Option.map_eq_some_iff.mp h
      rw [hA.2, octetsOf_eq_ok (toOption_eq_some.mp hOctets)] at hSlice
      exact .v4 octets hA.1 hOwn hA.2 hSlice
    next =>
      split at h
      next hAaaa =>
        obtain ⟨octets, hOctets, rfl⟩ := Option.map_eq_some_iff.mp h
        rw [hAaaa.2, octetsOf_eq_ok (toOption_eq_some.mp hOctets)] at hSlice
        exact .v6 octets hAaaa.1 hOwn hAaaa.2 hSlice
      next => cases h
  next => cases h

variable {ptr srv address : DnsRecord}

theorem LastServing.mem {served : String × UInt16} (h : LastServing packet instanceName srv served) :
    srv ∈ packetRecords packet := by
  obtain ⟨before, later, hSplit, -, -⟩ := h.last
  rw [hSplit]
  exact List.mem_append_right before List.mem_cons_self

theorem SocketAddr.new_inj {ip' : IpAddr} {port' : UInt16} :
    SocketAddr.new ip port = .new ip' port' ↔ ip = ip' ∧ port = port' := by
  cases ip <;> cases ip' <;> simp [SocketAddr.new]

theorem justified_new {deviceId : String} :
    Justified packet ⟨deviceId, .new ip port⟩ ↔ GivenBy packet ip port := by
  constructor
  · rintro ⟨ip', port', hGiven, hSame⟩
    obtain ⟨rfl, rfl⟩ := SocketAddr.new_inj.mp hSame
    exact hGiven
  · exact fun h => ⟨ip, port, h, rfl⟩

/-- What is read from records whose names end in their data stands in the packet. -/
theorem LeadTo.givenBy (h : LeadTo packet instanceName ip port ptr srv address)
    (hLen : packet.length < 2 ^ 63) (hPtr : ¬ptr.namesBeyond packet ptr.dataStart)
    (hSrv : ¬srv.namesBeyond packet (srv.dataStart + 6)) : GivenBy packet ip port := by
  obtain ⟨host, hLast, hGiven⟩ := h.serves
  obtain ⟨_, _, -, hServed, -⟩ := hLast.last
  exact ⟨packetRecords packet, recordsOf_packetRecords h.ptr_mem, ptr, h.ptr_mem, srv, hLast.mem,
    address, h.address_mem, instanceName, host, namesInstance_of_instanceNamed h.names hPtr,
    servesAt_of_servedAs hLen hLast.mem hServed hSrv, hostAddress_of_givenTo h.address_mem hGiven⟩

/-- Where a PTR or an SRV record, with a name that runs past its data, leads to an address and a
port, other records of the packet give these as well. -/
def OverreadsConfirmed (packet : List UInt8) : Prop :=
  ∀ instanceName ip port ptr srv address, LeadTo packet instanceName ip port ptr srv address →
    ptr.namesBeyond packet ptr.dataStart ∨ srv.namesBeyond packet (srv.dataStart + 6) →
    GivenBy packet ip port

/-- The names that are taken end in the data of their records. -/
structure NamesInside (packet : List UInt8) : Prop where
  ptr : ∀ record ∈ packetRecords packet, (instanceNamed packet record).isSome →
    ¬record.namesBeyond packet record.dataStart
  srv : ∀ record ∈ packetRecords packet, (hostServed packet record).isSome →
    ¬record.namesBeyond packet (record.dataStart + 6)

theorem NamesInside.overreadsConfirmed (h : NamesInside packet) : OverreadsConfirmed packet := by
  intro instanceName ip port ptr srv address hLead hBeyond
  obtain ⟨host, hLast, -⟩ := hLead.serves
  obtain ⟨_, _, -, hServed, -⟩ := hLast.last
  rw [servedAs, Option.ite_none_right_eq_some] at hServed
  rcases hBeyond with hBeyond | hBeyond
  · exact absurd hBeyond (h.ptr ptr hLead.ptr_mem (hLead.names ▸ rfl))
  · exact absurd hBeyond (h.srv srv hLast.mem (hServed.2 ▸ rfl))

/-- For every packet the parser ends, without an access outside of it, with different endpoints that
have a device id.  The records of the packet justify them exactly if names that run past the data of
a record lead to no other addresses; so they do if no name that is taken runs past it. -/
theorem parseMdnsLanEndpoints_sound_iff (hash : String → ℕ) (packet : Packet) :
    ∃ endpoints, parseMdnsLanEndpoints hash packet.bytes = .ok endpoints ∧ endpoints.Nodup ∧
      (∀ endpoint ∈ endpoints, endpoint.deviceId ≠ "") ∧
      ((∀ endpoint ∈ endpoints, Justified packet.bytes endpoint) ↔
        OverreadsConfirmed packet.bytes) ∧
      (NamesInside packet.bytes → ∀ endpoint ∈ endpoints, Justified packet.bytes endpoint) := by
  obtain ⟨endpoints, hParse, hNodup, hLeads⟩ := parseMdnsLanEndpoints_leadTo hash packet
  have hNamed : ∀ endpoint ∈ endpoints, endpoint.deviceId ≠ "" := by
    intro endpoint hMem
    obtain ⟨_, _, _, _, _, _, hLead, rfl⟩ := (hLeads endpoint).mp hMem
    exact hLead.deviceId_ne
  have hConfirmed : (∀ endpoint ∈ endpoints, Justified packet.bytes endpoint) ↔
      OverreadsConfirmed packet.bytes := by
    constructor
    · intro h instanceName ip port ptr srv address hLead _
      exact justified_new.mp (h _ ((hLeads _).mpr ⟨_, _, _, _, _, _, hLead, rfl⟩))
    · intro h endpoint hMem
      obtain ⟨instanceName, ip, port, ptr, srv, address, hLead, rfl⟩ := (hLeads endpoint).mp hMem
      rw [justified_new]
      by_cases hBeyond : ptr.namesBeyond packet.bytes ptr.dataStart ∨
          srv.namesBeyond packet.bytes (srv.dataStart + 6)
      · exact h instanceName ip port ptr srv address hLead hBeyond
      · obtain ⟨hPtr, hSrv⟩ := not_or.mp hBeyond
        exact hLead.givenBy packet.fits hPtr hSrv
  exact ⟨endpoints, hParse, hNodup, hNamed, hConfirmed,
    fun hInside => hConfirmed.mpr hInside.overreadsConfirmed⟩

end Justification

section Sample

def dnsLabel (text : String) : List UInt8 :=
  UInt8.ofNat text.utf8ByteSize :: text.toUTF8.data.toList

def serviceName : List UInt8 := dnsLabel "_kmsync" ++ dnsLabel "_udp" ++ dnsLabel "local" ++ [0]

/-- The type, the class, the time to live and the length of the data of a record. -/
def recordFields (recordType length : UInt8) : List UInt8 :=
  [0, recordType, 0, 1, 0, 0, 0, 120, 0, length]

/-- A PTR record with the data, an SRV record of `desk`, and the address of its host. -/
def answerNaming (data : List UInt8) : List UInt8 :=
  [0, 0, 0, 0, 0, 0, 0, 3, 0, 0, 0, 0] ++ serviceName ++ recordFields 12 (.ofNat data.length) ++ data ++
    dnsLabel "desk" ++ serviceName ++ recordFields 33 9 ++ [0, 0, 0, 0, 96, 224] ++ dnsLabel "h" ++
    [0] ++ dnsLabel "h" ++ [0] ++ recordFields 1 4 ++ [10, 0, 0, 9]

/-- The PTR record names the instance. -/
def deskPacket : Packet := ⟨answerNaming (dnsLabel "desk" ++ serviceName), by decide +kernel⟩

/-- The PTR record has no data. -/
def emptyPtrPacket : Packet := ⟨answerNaming [], by decide +kernel⟩

def deskEndpoint : LanDiscoveryEndpoint := ⟨"desk", .v4 #v[10, 0, 0, 9] 24800⟩

theorem parse_deskPacket :
    parseMdnsLanEndpoints (fun _ => 0) deskPacket.bytes = .ok [deskEndpoint] := by decide +kernel

theorem parseMdnsLanEndpoints_sound_iff_desk : Justified deskPacket.bytes deskEndpoint := by
  obtain ⟨endpoints, hParse, -, -, -, hSound⟩ := parseMdnsLanEndpoints_sound_iff (fun _ => 0) deskPacket
  obtain rfl := Except.ok.inj (parse_deskPacket.symm.trans hParse)
  refine hSound ⟨?_, ?_⟩ deskEndpoint List.mem_cons_self
  · decide +kernel
  · decide +kernel

/-- The reader takes the name of the SRV record for that in the data of the PTR record, of which
there is none. -/
theorem emptyPtrPacket_unjustified :
    parseMdnsLanEndpoints (fun _ => 0) emptyPtrPacket.bytes = .ok [deskEndpoint] ∧
      ¬Justified emptyPtrPacket.bytes deskEndpoint ∧
      ¬∃ endpoints, parseMdnsLanEndpoints (fun _ => 0) emptyPtrPacket.bytes = .ok endpoints ∧
        endpoints.Nodup ∧ ∀ endpoint ∈ endpoints,
          endpoint.deviceId ≠ "" ∧ Justified emptyPtrPacket.bytes endpoint := by
  have hParse : parseMdnsLanEndpoints (fun _ => 0) emptyPtrPacket.bytes = .ok [deskEndpoint] := by
    decide +kernel
  have hHeader : DnsHeader.parse emptyPtrPacket.bytes = .ok ⟨0, 3, 0, 0⟩ := by
    decide +kernel
  have hAll : (packetRecords emptyPtrPacket.bytes).length = 3 := by decide +kernel
  have hEmpty : ∀ record ∈ packetRecords emptyPtrPacket.bytes, record.recordType = dnsTypePtr →
      record.dataLen = 0 := by decide +kernel
  have hNot : ¬Justified emptyPtrPacket.bytes deskEndpoint := by
    rintro ⟨_, _, ⟨records, hOf, ptr, hPtr, -, -, -, -, instanceName, -, hNames, -⟩, -⟩
    obtain ⟨name, ⟨-, stop, hEnds, hStop⟩, -⟩ := hNames.data
    have hLength := hEmpty ptr (hOf.mem_packetRecords hHeader hAll hPtr) hNames.type
    have hLt := hEnds.lt
    omega
  refine ⟨hParse, hNot, ?_⟩
  rintro ⟨endpoints, hOther, -, hSound⟩
  obtain rfl := Except.ok.inj (hParse.symm.trans hOther)
  exact hNot (hSound deskEndpoint List.mem_cons_self).2

end Sample

end Kmsync.Client
