import Kmsync.ProofKit.Bytes

/-! Messages on a byte stream, each behind its length in four bytes.  `front` reads the message at
the front of what has arrived, with a limit on its length, and `readMessages` one after the other
until none is left that is whole.  `Cut` says what the reader of a stream gets from the first `n`
bytes of it. -/

namespace ProofKit

/-- A message with its length in front. -/
def delimited (message : List UInt8) : List UInt8 :=
  toLeBytes (UInt32.ofNat message.length) ++ message

@[simp] theorem delimited_length (message : List UInt8) :
    (delimited message).length = 4 + message.length := by
  simp [delimited]

/-- Why there is no message at the front of the bytes. -/
inductive Stop where
  | inLength (read : ℕ)
  | tooLong (length : ℕ)
  | inMessage (read : ℕ)
  deriving DecidableEq

section Reading

variable {limit n : ℕ} {message bytes rest : List UInt8} {messages taken : List (List UInt8)}
  {stop : Stop}

/-- The message at the front, and the bytes behind it. -/
def front (limit : ℕ) (bytes : List UInt8) : Except Stop (List UInt8 × List UInt8) :=
  match leAt? UInt32 bytes 0 4 with
  | none => .error (.inLength bytes.length)
  | some length =>
    if limit < length.toNat then .error (.tooLong length.toNat)
    else
      match slice? bytes 4 (4 + length.toNat) with
      | none => .error (.inMessage (bytes.length - 4))
      | some message => .ok (message, bytes.drop (4 + length.toNat))

theorem leAt?_eq_none (h : bytes.length < 4) : leAt? UInt32 bytes 0 4 = none := by
  rw [leAt?, slice?, if_neg (by omega)]
  rfl

theorem front_short (h : bytes.length < 4) : front limit bytes = .error (.inLength bytes.length) := by
  rw [front, leAt?_eq_none h]

/-- With the bytes of a length, the rest depends on the number that they hold. -/
theorem front_of_le (h : 4 ≤ bytes.length) {length : ℕ} (hValue : leValue (bytes.take 4) = length) :
    front limit bytes =
      if limit < length then .error (.tooLong length)
      else if 4 + length ≤ bytes.length then
        .ok ((bytes.drop 4).take length, bytes.drop (4 + length))
      else .error (.inMessage (bytes.length - 4)) := by
  have hSize : (bytes.take 4).length = 4 := by
    rw [List.length_take]
    omega
  have hLt := leValue_lt (bytes.take 4)
  rw [hSize, hValue] at hLt
  have hLength : leAt? UInt32 bytes 0 4 = some (UInt32.ofNat length) := by
    rw [leAt?, slice?, if_pos ⟨Nat.zero_le 4, h⟩, List.drop_zero, Nat.sub_zero, Option.bind_some]
    rw [fromLeBytes?, if_pos (hSize.trans width_u32.symm), hValue]
    rfl
  have hNat : (UInt32.ofNat length).toNat = length := UInt32.toNat_ofNat_of_lt' hLt
  rw [front, hLength]
  dsimp only
  rw [hNat]
  by_cases hAll : 4 + length ≤ bytes.length
  · rw [slice?_eq_some (Nat.le_add_right 4 length) hAll, if_pos hAll, Nat.add_sub_cancel_left]
  · have hNone : slice? bytes 4 (4 + length) = none := if_neg fun hBounds => hAll hBounds.2
    rw [hNone, if_neg hAll]

/-- The length of a message is read from the first bytes of its frame. -/
theorem leAt?_take_delimited (hn : 4 ≤ n) :
    leAt? UInt32 ((delimited message ++ rest).take n) 0 4 = some (UInt32.ofNat message.length) := by
  rw [leAt?_take hn, delimited, List.append_assoc]
  exact leAt?_here rfl

theorem toNat_ofNat_length (hFits : message.length < 2 ^ 32) :
    (UInt32.ofNat message.length).toNat = message.length :=
  UInt32.toNat_ofNat_of_lt' hFits

theorem front_tooLong (hFits : message.length < 2 ^ 32) (hLong : limit < message.length)
    (hn : 4 ≤ n) :
    front limit ((delimited message ++ rest).take n) = .error (.tooLong message.length) := by
  rw [front, leAt?_take_delimited hn]
  dsimp only
  rw [toNat_ofNat_length hFits, if_pos hLong]

theorem front_cut (hFits : message.length < 2 ^ 32) (hShort : message.length ≤ limit) (hn : 4 ≤ n)
    (hCut : n < 4 + message.length) :
    front limit ((delimited message ++ rest).take n) = .error (.inMessage (n - 4)) := by
  have hLength : ((delimited message ++ rest).take n).length = n := by
    rw [List.length_take, List.length_append, delimited_length]
    omega
  rw [front, leAt?_take_delimited hn]
  dsimp only
  rw [toNat_ofNat_length hFits, if_neg (by omega), slice?, if_neg (by omega), hLength]

theorem front_whole (hFits : message.length < 2 ^ 32) (hShort : message.length ≤ limit)
    (hn : 4 + message.length ≤ n) :
    front limit ((delimited message ++ rest).take n) =
      .ok (message, rest.take (n - (4 + message.length))) := by
  have hSlice : slice? ((delimited message ++ rest).take n) 4 (4 + message.length) = some message := by
    rw [slice?_take hn, delimited]
    exact slice?_mid _ message rest (by simp) rfl
  have hRest : ((delimited message ++ rest).take n).drop (4 + message.length) =
      rest.take (n - (4 + message.length)) := by
    rw [List.drop_take, List.drop_left' (delimited_length message)]
  rw [front, leAt?_take_delimited (by omega)]
  dsimp only
  rw [toNat_ofNat_length hFits, if_neg (by omega), hSlice, hRest]

/-- What is read from the first bytes of a stream is its first message. -/
theorem front_take_eq_ok (hFits : ∀ message ∈ messages, message.length < 2 ^ 32)
    (h : front limit ((messages.flatMap delimited).take n) = .ok (message, bytes)) :
    ∃ rest, messages = message :: rest ∧ 4 + message.length ≤ n ∧
      bytes = (rest.flatMap delimited).take (n - (4 + message.length)) := by
  cases messages with
  | nil =>
    rw [List.flatMap_nil, List.take_nil, front_short (by simp)] at h
    cases h
  | cons first rest =>
    have hFirst := hFits first List.mem_cons_self
    rw [List.flatMap_cons] at h
    by_cases hn : n < 4
    · have hShort : ((delimited first ++ rest.flatMap delimited).take n).length < 4 := by
        rw [List.length_take]
        omega
      rw [front_short hShort] at h
      cases h
    · by_cases hLong : limit < first.length
      · rw [front_tooLong hFirst hLong (by omega)] at h
        cases h
      · by_cases hCut : n < 4 + first.length
        · rw [front_cut hFirst (by omega) (by omega) hCut] at h
          cases h
        · rw [front_whole hFirst (by omega) (by omega)] at h
          cases h
          exact ⟨rest, rfl, by omega, rfl⟩

/-- A message that is read leaves fewer bytes. -/
theorem length_lt_of_front (h : front limit bytes = .ok (message, rest)) :
    rest.length < bytes.length := by
  unfold front at h
  split at h
  · cases h
  · split at h
    · cases h
    · split at h
      · cases h
      next hSlice =>
        cases h
        have hBounds : _ ∧ _ := Classical.byContradiction fun hNot => by
          rw [slice?, if_neg hNot] at hSlice
          cases hSlice
        rw [List.length_drop]
        omega

/-- The messages one after the other, and why the reading stops. -/
def readMessages (limit : ℕ) (bytes : List UInt8) : List (List UInt8) × Stop :=
  match h : front limit bytes with
  | .error stop => ([], stop)
  | .ok (message, rest) =>
    have := length_lt_of_front h
    let (messages, stop) := readMessages limit rest
    (message :: messages, stop)
termination_by bytes.length

theorem readMessages_of_error (h : front limit bytes = .error stop) :
    readMessages limit bytes = ([], stop) := by
  rw [readMessages]
  split
  next hFront =>
    cases hFront.symm.trans h
    rfl
  next hFront => cases hFront.symm.trans h

theorem readMessages_of_ok (h : front limit bytes = .ok (message, rest)) :
    readMessages limit bytes =
      (message :: (readMessages limit rest).1, (readMessages limit rest).2) := by
  rw [readMessages]
  split
  next hFront => cases hFront.symm.trans h
  next hFront =>
    cases hFront.symm.trans h
    rfl

/-- The messages of which the first `n` bytes of a stream have all, up to one that is too long, and
why there are no more. -/
inductive Cut (limit : ℕ) : ℕ → List (List UInt8) → List (List UInt8) → Stop → Prop
  | ended (n : ℕ) : Cut limit n [] [] (.inLength 0)
  | inLength (n : ℕ) (message : List UInt8) (messages : List (List UInt8)) (hn : n < 4) :
      Cut limit n (message :: messages) [] (.inLength n)
  | tooLong (n : ℕ) (message : List UInt8) (messages : List (List UInt8)) (hn : 4 ≤ n)
      (hLong : limit < message.length) :
      Cut limit n (message :: messages) [] (.tooLong message.length)
  | inMessage (n : ℕ) (message : List UInt8) (messages : List (List UInt8)) (hn : 4 ≤ n)
      (hShort : message.length ≤ limit) (hCut : n < 4 + message.length) :
      Cut limit n (message :: messages) [] (.inMessage (n - 4))
  | whole (n : ℕ) (message : List UInt8) (messages taken : List (List UInt8)) (stop : Stop)
      (hShort : message.length ≤ limit) (hn : 4 + message.length ≤ n)
      (hRest : Cut limit (n - (4 + message.length)) messages taken stop) :
      Cut limit n (message :: messages) (message :: taken) stop

/-- What is read from the first `n` bytes of a stream. -/
theorem readMessages_take (limit : ℕ) (hFits : ∀ message ∈ messages, message.length < 2 ^ 32)
    (n : ℕ) :
    Cut limit n messages (readMessages limit ((messages.flatMap delimited).take n)).1
      (readMessages limit ((messages.flatMap delimited).take n)).2 := by
  induction messages generalizing n with
  | nil =>
    rw [List.flatMap_nil, List.take_nil, readMessages_of_error (front_short (by simp))]
    exact .ended n
  | cons message messages ih =>
    have hMessage := hFits message List.mem_cons_self
    rw [List.flatMap_cons]
    by_cases hn : n < 4
    · have hLength : ((delimited message ++ messages.flatMap delimited).take n).length = n := by
        rw [List.length_take, List.length_append, delimited_length]
        omega
      rw [readMessages_of_error (front_short (by omega)), hLength]
      exact .inLength n message messages hn
    · by_cases hLong : limit < message.length
      · rw [readMessages_of_error (front_tooLong hMessage hLong (by omega))]
        exact .tooLong n message messages (by omega) hLong
      · by_cases hCut : n < 4 + message.length
        · rw [readMessages_of_error (front_cut hMessage (by omega) (by omega) hCut)]
          exact .inMessage n message messages (by omega) (by omega) hCut
        · rw [readMessages_of_ok (front_whole hMessage (by omega) (by omega))]
          exact .whole n message messages _ _ (by omega) (by omega)
            (ih (fun m hm => hFits m (List.mem_cons_of_mem message hm)) _)

namespace Cut

/-- What is read is a first part of the messages. -/
theorem isPrefix (h : Cut limit n messages taken stop) : taken <+: messages := by
  induction h with
  | ended | inLength | tooLong | inMessage => exact List.nil_prefix
  | whole n message messages taken stop hShort hn hRest ih =>
    exact List.cons_prefix_cons.mpr ⟨rfl, ih⟩

end Cut

end Reading

end ProofKit
