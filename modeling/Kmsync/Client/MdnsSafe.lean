import Kmsync.Client.Mdns

/-! The reader of mDNS answers takes nothing from outside the packet, whatever the packet is.  The
names, records and questions that it reads stand in the packet. -/

namespace Kmsync.Client

open ProofKit

section Panics

variable {packet : List UInt8} {α : Type} {m : Read α} {offset : ℕ}

theorem noPanic_someOr (x : Option α) : NoPanic (someOr x) := by
  cases x with
  | none => exact .error ()
  | some x => exact .ok x

theorem addOffset_of_lt {a b : ℕ} (h : a + b < 2 ^ 64) : addOffset a b = .ok (a + b) := by
  rw [addOffset, checkedAdd, if_pos h]
  rfl

theorem noPanic_addOffset {a b : ℕ} (h : a + b < 2 ^ 64) : NoPanic (addOffset a b) := by
  rw [addOffset_of_lt h]
  exact .ok _

theorem toOption_eq_some {a : α} : m.toOption = some a ↔ m = .ok a := by
  cases m <;> simp [Except.toOption]

theorem attempt_of_noPanic (h : NoPanic m) : attempt m = .ok m.toOption := by
  rcases h.ok_or_error with ⟨a, rfl⟩ | ⟨⟨⟩, rfl⟩
  · rfl
  · rfl

theorem lt_length_of_someOr {bytes : List α} {i : ℕ} {a : α} (h : someOr bytes[i]? = .ok a) :
    i < bytes.length :=
  (List.getElem?_eq_some_iff.mp (someOr_eq_ok.mp h)).1

theorem noPanic_readU16 (hOffset : offset + 2 < 2 ^ 64) : NoPanic (readU16 packet offset) := by
  refine .bind_of_ok (noPanic_addOffset hOffset) fun stop hStop => ?_
  obtain rfl := addOffset_eq_ok hStop
  refine .bind_of_ok (noPanic_someOr _) fun bytes hBytes => ?_
  have hLength : bytes.length = 2 := by
    rw [slice?_length (someOr_eq_ok.mp hBytes)]
    omega
  refine .bind (.readByte (by omega)) fun _ => ?_
  exact .bind (.readByte (by omega)) fun _ => .ok _

theorem noPanic_offsetAfter {r : NameReader} {n : ℕ} (h : r.cursor + n < 2 ^ 64) :
    NoPanic (r.offsetAfter n) :=
  .ite (fun _ => .ok _) fun _ => noPanic_addOffset h

theorem noPanic_nameStep (hLen : packet.length < 2 ^ 63) (r : NameReader) :
    NoPanic (nameStep packet r) := by
  refine .bind_of_ok (noPanic_someOr _) fun length hLength => ?_
  have hCursor := lt_length_of_someOr hLength
  refine .ite (fun _ => ?_) fun _ => .ite (fun _ => .error ()) fun _ => .ite (fun _ => ?_) fun _ => ?_
  · refine .bind (noPanic_addOffset (by omega)) fun _ => ?_
    refine .bind (noPanic_someOr _) fun next => ?_
    refine .ite (fun _ => .error ()) fun _ => ?_
    exact .bind (noPanic_offsetAfter (by omega)) fun _ => .ok _
  · exact .bind (noPanic_offsetAfter (by omega)) fun _ => .ok _
  · refine .bind (noPanic_addOffset (by omega)) fun _ => ?_
    refine .bind (noPanic_someOr _) fun _ => .bind (noPanic_someOr _) fun _ => ?_
    exact .bind (noPanic_someOr _) fun _ => .ok _

theorem noPanic_readLabels (hLen : packet.length < 2 ^ 63) (r : NameReader) :
    NoPanic (readLabels packet r) := by
  fun_induction readLabels packet r with
  | case1 r fault hStep =>
    rintro ⟨⟩
    exact noPanic_nameStep hLen r hStep
  | case2 r labels offset hStep => exact .ok _
  | case3 r next hStep ih => exact ih

theorem noPanic_readDnsName (hLen : packet.length < 2 ^ 63) (offset : ℕ) :
    NoPanic (readDnsName packet offset) :=
  .bind (noPanic_readLabels hLen _) fun _ => .ok _

theorem noPanic_txtStep {data : List UInt8} (hLen : data.length < 2 ^ 63) :
    NoPanic (txtStep data offset) := by
  refine .bind_of_ok (noPanic_someOr _) fun length hLength => ?_
  have hOffset := lt_length_of_someOr hLength
  refine .bind (noPanic_addOffset (by omega)) fun _ => .bind (noPanic_someOr _) fun _ => ?_
  exact .bind (noPanic_someOr _) fun _ => .bind (noPanic_someOr _) fun _ => .ok _

theorem noPanic_readTxtDeviceId {data : List UInt8} (hLen : data.length < 2 ^ 63) :
    NoPanic (readTxtDeviceId data offset) := by
  fun_induction readTxtDeviceId data offset with
  | case1 offset hOffset fault hStep =>
    rintro ⟨⟩
    exact noPanic_txtStep hLen hStep
  | case2 offset hOffset deviceId stop hStep => exact .ok _
  | case3 offset hOffset stop hStep ih => exact ih
  | case4 offset hOffset => exact .error ()

end Panics

section Names

variable {packet : List UInt8} {offset : ℕ}

/-- What the loop adds to its labels stands at the cursor, and the offset is behind that, if there
was no jump before. -/
theorem readLabels_sound {r : NameReader} {labels : List String}
    (h : readLabels packet r = .ok (labels, offset)) :
    (∃ rest, labels = r.labels ++ rest ∧ NameAt packet r.cursor rest) ∧
      if r.jumped then offset = r.offset else NameEnds packet r.cursor offset := by
  fun_induction readLabels packet r with
  | case1 r fault hStep => cases h
  | case2 r labels' offset' hStep =>
    cases h
    cases nameStepped hStep with
    | ends hLength =>
      refine ⟨⟨[], (List.append_nil _).symm, .root hLength⟩, ?_⟩
      split
      next hJumped => rfl
      next hJumped => exact .root hLength
  | case3 r next hStep ih =>
    obtain ⟨⟨rest, rfl, hName⟩, hEnd⟩ := ih h
    cases nameStepped hStep with
    | jumps length second hLength hBits hNext hInside hJumps =>
      refine ⟨⟨rest, rfl, .pointer hLength hBits hNext hName⟩, ?_⟩
      dsimp only at hEnd
      rw [if_pos rfl] at hEnd
      rw [hEnd]
      split
      next => rfl
      next => exact .pointer hLength hBits
    | reads length bytes text hLength hBits hSome hBytes hText =>
      refine ⟨⟨text :: rest, List.append_assoc .., .label hLength hBits hSome hBytes hText hName⟩, ?_⟩
      dsimp only at hEnd
      split
      next hJumped =>
        rw [if_pos hJumped] at hEnd
        exact hEnd
      next hJumped =>
        rw [if_neg hJumped] at hEnd
        exact .label hLength hBits hSome hEnd

theorem readDnsName_sound {name : String} {stop : ℕ}
    (h : readDnsName packet offset = .ok (name, stop)) :
    NameTextAt packet offset name ∧ NameEnds packet offset stop := by
  obtain ⟨⟨labels, stop'⟩, hLabels, hName⟩ := bind_eq_ok.mp h
  cases hName
  obtain ⟨⟨rest, hRest, hName⟩, hEnd⟩ := readLabels_sound hLabels
  exact ⟨⟨rest, hName, by rw [hRest]; rfl⟩, hEnd⟩

theorem readU16_sound {value : UInt16} (h : readU16 packet offset = .ok value) :
    U16At packet offset value := by
  obtain ⟨stop, hStop, h⟩ := bind_eq_ok.mp h
  obtain rfl := addOffset_eq_ok hStop
  obtain ⟨bytes, hBytes, h⟩ := bind_eq_ok.mp h
  obtain ⟨high, hHigh, h⟩ := bind_eq_ok.mp h
  obtain ⟨low, hLow, h⟩ := bind_eq_ok.mp h
  cases h
  have hAt := fun {i : ℕ} => getElem?_of_slice? (i := i) (someOr_eq_ok.mp hBytes)
  refine ⟨high, low, ?_, ?_, rfl⟩
  · exact (hAt (by omega)).symm.trans (orPanic_eq_ok.mp hHigh)
  · exact (hAt (by omega)).symm.trans (orPanic_eq_ok.mp hLow)

theorem exists_readU16 (h : offset + 2 ≤ packet.length) (hLen : packet.length < 2 ^ 63) :
    ∃ value, readU16 packet offset = .ok value := by
  have hSlice := slice?_eq_some (Nat.le_add_right offset 2) h
  have hLength := slice?_length hSlice
  rw [Nat.add_sub_cancel_left] at hSlice hLength
  obtain ⟨high, low, hBytes⟩ := List.length_eq_two.mp hLength
  rw [hBytes] at hSlice
  rw [readU16, addOffset_of_lt (by omega), ok_bind, hSlice]
  exact ⟨_, rfl⟩

theorem NameEnds.le_length {stop : ℕ} (h : NameEnds packet offset stop) :
    stop ≤ packet.length + 1 := by
  induction h with
  | root hLength =>
    have := (List.getElem?_eq_some_iff.mp hLength).1
    omega
  | label _ _ _ _ ih => exact ih
  | pointer hLength =>
    have := (List.getElem?_eq_some_iff.mp hLength).1
    omega

end Names

section Records

variable {packet : List UInt8} {offset next : ℕ} {record : DnsRecord}

theorem noPanic_header (packet : List UInt8) : NoPanic (DnsHeader.parse packet) := by
  refine .bind (noPanic_readU16 (by omega)) fun _ => .bind (noPanic_readU16 (by omega)) fun _ => ?_
  exact .bind (noPanic_readU16 (by omega)) fun _ => .bind (noPanic_readU16 (by omega)) fun _ => .ok _

theorem header_sound {header : DnsHeader} (h : DnsHeader.parse packet = .ok header) :
    U16At packet 4 header.questionCount ∧ U16At packet 6 header.answerCount ∧
      U16At packet 8 header.authorityCount ∧ U16At packet 10 header.additionalCount := by
  obtain ⟨questions, hQuestions, h⟩ := bind_eq_ok.mp h
  obtain ⟨answers, hAnswers, h⟩ := bind_eq_ok.mp h
  obtain ⟨authorities, hAuthorities, h⟩ := bind_eq_ok.mp h
  obtain ⟨additionals, hAdditionals, h⟩ := bind_eq_ok.mp h
  cases h
  exact ⟨readU16_sound hQuestions, readU16_sound hAnswers, readU16_sound hAuthorities,
    readU16_sound hAdditionals⟩

theorem noPanic_parse (hLen : packet.length < 2 ^ 63) (offset : ℕ) :
    NoPanic (DnsRecord.parse packet offset) := by
  refine .bind_of_ok (noPanic_readDnsName hLen offset) fun ⟨name, stop⟩ hName => ?_
  have hStop := (readDnsName_sound hName).2.le_length
  refine .bind (noPanic_readU16 (by omega)) fun recordType => ?_
  refine .bind_of_ok (noPanic_addOffset (by omega)) fun place hPlace => ?_
  obtain rfl := addOffset_eq_ok hPlace
  refine .bind (noPanic_readU16 (by omega)) fun _ => ?_
  refine .bind_of_ok (noPanic_addOffset (by omega)) fun place hPlace => ?_
  obtain rfl := addOffset_eq_ok hPlace
  refine .bind (noPanic_readU16 (by omega)) fun dataLen => ?_
  refine .bind (noPanic_someOr _) fun dataStart => .bind (noPanic_someOr _) fun dataEnd => ?_
  exact .ite (fun _ => .error ()) fun _ => .ok _

theorem parse_sound (h : DnsRecord.parse packet offset = .ok (record, next)) :
    RecordAt packet offset record next := by
  obtain ⟨⟨name, stop⟩, hName, h⟩ := bind_eq_ok.mp h
  obtain ⟨recordType, hType, h⟩ := bind_eq_ok.mp h
  obtain ⟨place, hPlace, h⟩ := bind_eq_ok.mp h
  obtain ⟨_, _, h⟩ := bind_eq_ok.mp h
  obtain ⟨place', hPlace', h⟩ := bind_eq_ok.mp h
  obtain rfl := addOffset_eq_ok hPlace'
  obtain ⟨dataLen, hDataLen, h⟩ := bind_eq_ok.mp h
  obtain ⟨dataStart, hDataStart, h⟩ := bind_eq_ok.mp h
  obtain rfl := checkedAdd_eq_some (someOr_eq_ok.mp hDataStart)
  obtain ⟨dataEnd, hDataEnd, h⟩ := bind_eq_ok.mp h
  obtain rfl := checkedAdd_eq_some (someOr_eq_ok.mp hDataEnd)
  split at h
  next => cases h
  next hInside =>
    cases h
    obtain ⟨hText, hEnd⟩ := readDnsName_sound hName
    exact ⟨hText, ⟨stop, dataLen, hEnd, readU16_sound hType, readU16_sound hDataLen, rfl, rfl⟩, rfl,
      not_lt.mp hInside⟩

theorem noPanic_skipDnsQuestion (hLen : packet.length < 2 ^ 63) :
    NoPanic (skipDnsQuestion packet offset) := by
  refine .bind (noPanic_readDnsName hLen offset) fun _ => .bind (noPanic_someOr _) fun _ => ?_
  exact .ite (fun _ => .ok _) fun _ => .error ()

theorem noPanic_skipDnsQuestions (hLen : packet.length < 2 ^ 63) (count offset : ℕ) :
    NoPanic (skipDnsQuestions packet count offset) := by
  induction count generalizing offset with
  | zero => exact .ok _
  | succ count ih => exact .bind (noPanic_skipDnsQuestion hLen) fun _ => ih _

theorem skipDnsQuestions_sound {count : ℕ} (h : skipDnsQuestions packet count offset = .ok next) :
    QuestionsAt packet count offset next := by
  induction count generalizing offset with
  | zero =>
    cases h
    exact .nil _
  | succ count ih =>
    obtain ⟨stop, hStop, h⟩ := bind_eq_ok.mp h
    obtain ⟨⟨name, nameStop⟩, hName, hStop⟩ := bind_eq_ok.mp hStop
    obtain ⟨stop', hAdd, hStop⟩ := bind_eq_ok.mp hStop
    obtain rfl := checkedAdd_eq_some (someOr_eq_ok.mp hAdd)
    split at hStop
    next hInside =>
      cases hStop
      exact .cons (readDnsName_sound hName).2 hInside (ih h)
    next => cases hStop

end Records

end Kmsync.Client
