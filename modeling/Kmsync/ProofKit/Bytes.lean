import Kmsync.ProofKit.LittleEndian

/-! Reading parts of a byte string and writing into a buffer.  `slice?` and `leAt?` read with the
bounds checked, so that a read past the end is an explicit `none`; their simp lemmas walk a read
past the parts of an append, to the part that holds it.  `overwrite` writes at an offset, and
`Filled` says how much of a buffer has been written from its start on. -/

namespace ProofKit

variable {α : Type}

/-- The elements from `start` up to `stop`, when the list has them. -/
def slice? (xs : List α) (start stop : Nat) : Option (List α) :=
  if start ≤ stop ∧ stop ≤ xs.length then some ((xs.drop start).take (stop - start)) else none

/-- The elements from `start` on, when the list has so many. -/
def sliceFrom? (xs : List α) (start : Nat) : Option (List α) :=
  if start ≤ xs.length then some (xs.drop start) else none

/-- The integer that the bytes from `start` up to `stop` hold. -/
def leAt? (β : Type) [LeInt β] (bytes : List UInt8) (start stop : Nat) : Option β :=
  (slice? bytes start stop).bind fromLeBytes?

theorem slice?_eq_some {xs : List α} {start stop : Nat} (h : start ≤ stop)
    (hStop : stop ≤ xs.length) : slice? xs start stop = some ((xs.drop start).take (stop - start)) :=
  if_pos ⟨h, hStop⟩

/-- A slice that succeeds is followed by the rest of the list. -/
theorem drop_eq_of_slice? {xs ys : List α} {start stop : Nat} (h : slice? xs start stop = some ys) :
    xs.drop start = ys ++ xs.drop stop := by
  unfold slice? at h
  split at h
  next hBounds =>
    cases h
    rw [show xs.drop stop = (xs.drop start).drop (stop - start) by
      rw [List.drop_drop, Nat.add_sub_cancel' hBounds.1], List.take_append_drop]
  next => cases h

theorem slice?_length {xs ys : List α} {start stop : Nat} (h : slice? xs start stop = some ys) :
    ys.length = stop - start := by
  unfold slice? at h
  split at h
  next hBounds =>
    cases h
    rw [List.length_take, List.length_drop]
    omega
  next => cases h

theorem getElem?_of_slice? {xs ys : List α} {start stop i : Nat} (h : slice? xs start stop = some ys)
    (hi : start + i < stop) : ys[i]? = xs[start + i]? := by
  unfold slice? at h
  split at h
  next =>
    cases h
    rw [List.getElem?_take_of_lt (by omega), List.getElem?_drop]
  next => cases h

/-- A slice behind a first part is a slice of the rest. -/
@[simp] theorem slice?_append_skip {xs ys : List α} {start stop : Nat} (h : xs.length ≤ start)
    (hStop : start ≤ stop) :
    slice? (xs ++ ys) start stop = slice? ys (start - xs.length) (stop - xs.length) := by
  simp only [slice?, List.length_append, List.drop_append, List.drop_eq_nil_of_le h,
    List.nil_append, show stop - xs.length - (start - xs.length) = stop - start by omega]
  by_cases hs : stop ≤ xs.length + ys.length
  · rw [if_pos ⟨hStop, hs⟩, if_pos ⟨by omega, by omega⟩]
  · rw [if_neg (by omega), if_neg (by omega)]

@[simp] theorem slice?_cons_skip {x : α} {ys : List α} {start stop : Nat} (h : 1 ≤ start)
    (hStop : start ≤ stop) : slice? (x :: ys) start stop = slice? ys (start - 1) (stop - 1) :=
  @slice?_append_skip _ [x] ys _ _ h hStop

/-- A slice of the first elements is one of the list. -/
theorem slice?_take {xs : List α} {start stop n : Nat} (h : stop ≤ n) :
    slice? (xs.take n) start stop = slice? xs start stop := by
  simp only [slice?, List.length_take, List.drop_take, List.take_take,
    show min (stop - start) (n - start) = stop - start by omega]
  exact if_congr (by omega) rfl rfl

/-- Offsets behind a first part can be counted from its end. -/
theorem slice?_append_shift (xs ys : List α) (start stop : Nat) :
    slice? (xs ++ ys) (xs.length + start) (xs.length + stop) = slice? ys start stop := by
  simp only [slice?, List.length_append, Nat.add_le_add_iff_left, List.drop_append,
    List.drop_eq_nil_of_le (Nat.le_add_right _ _), List.nil_append, Nat.add_sub_cancel_left,
    Nat.add_sub_add_left]

/-- A slice of exactly a middle part. -/
theorem slice?_mid (xs ys zs : List α) {start stop : Nat} (h : start = xs.length)
    (hStop : stop = start + ys.length) : slice? (xs ++ ys ++ zs) start stop = some ys := by
  subst h hStop
  rw [slice?_eq_some (Nat.le_add_right _ _) (by simp), List.append_assoc, List.drop_left,
    Nat.add_sub_cancel_left, List.take_left]

/-- A slice of exactly the first part. -/
@[simp] theorem slice?_append_here {xs ys : List α} {stop : Nat} (h : stop = xs.length) :
    slice? (xs ++ ys) 0 stop = some xs := by
  subst h
  simp [slice?]

@[simp high] theorem slice?_append_skip_add {xs ys : List α} {start size : Nat}
    (h : xs.length ≤ start) :
    slice? (xs ++ ys) start (start + size) =
      slice? ys (start - xs.length) (start - xs.length + size) := by
  rw [slice?_append_skip h (Nat.le_add_right _ _), Nat.sub_add_comm h]

@[simp] theorem slice?_all {xs : List α} {stop : Nat} (h : stop = xs.length) :
    slice? xs 0 stop = some xs := by
  subst h
  simp [slice?]

@[simp] theorem sliceFrom?_zero {xs : List α} : sliceFrom? xs 0 = some xs := by
  simp [sliceFrom?]

@[simp] theorem sliceFrom?_append_skip {xs ys : List α} {start : Nat} (h : xs.length ≤ start) :
    sliceFrom? (xs ++ ys) start = sliceFrom? ys (start - xs.length) := by
  simp only [sliceFrom?, List.length_append, List.drop_append, List.drop_eq_nil_of_le h,
    List.nil_append]
  by_cases hs : start ≤ xs.length + ys.length
  · rw [if_pos hs, if_pos (by omega)]
  · rw [if_neg hs, if_neg (by omega)]

@[simp] theorem sliceFrom?_cons_skip {x : α} {ys : List α} {start : Nat} (h : 1 ≤ start) :
    sliceFrom? (x :: ys) start = sliceFrom? ys (start - 1) :=
  @sliceFrom?_append_skip _ [x] ys _ h

@[simp] theorem getElem?_append_skip {xs ys : List α} {index : Nat} (h : xs.length ≤ index) :
    (xs ++ ys)[index]? = ys[index - xs.length]? :=
  List.getElem?_append_right h

section

variable {β : Type} [LeInt β]

theorem leAt?_append_shift (xs ys : List UInt8) (start stop : Nat) :
    leAt? β (xs ++ ys) (xs.length + start) (xs.length + stop) = leAt? β ys start stop := by
  rw [leAt?, leAt?, slice?_append_shift]

@[simp] theorem leAt?_append_skip {xs ys : List UInt8} {start stop : Nat} (h : xs.length ≤ start)
    (hStop : start ≤ stop) :
    leAt? β (xs ++ ys) start stop = leAt? β ys (start - xs.length) (stop - xs.length) := by
  rw [leAt?, leAt?, slice?_append_skip h hStop]

@[simp] theorem leAt?_cons_skip {x : UInt8} {ys : List UInt8} {start stop : Nat} (h : 1 ≤ start)
    (hStop : start ≤ stop) : leAt? β (x :: ys) start stop = leAt? β ys (start - 1) (stop - 1) :=
  @leAt?_append_skip _ _ [x] ys _ _ h hStop

theorem leAt?_take {bytes : List UInt8} {start stop n : Nat} (h : stop ≤ n) :
    leAt? β (bytes.take n) start stop = leAt? β bytes start stop := by
  rw [leAt?, leAt?, slice?_take h]

@[simp] theorem leAt?_here {x : β} {ys : List UInt8} {stop : Nat} (h : stop = LeInt.width β) :
    leAt? β (toLeBytes x ++ ys) 0 stop = some x := by
  rw [leAt?, slice?_append_here (by rw [toLeBytes_length, h])]
  exact fromLeBytes?_toLeBytes x

@[simp] theorem leAt?_last {x : β} {stop : Nat} (h : stop = LeInt.width β) :
    leAt? β (toLeBytes x) 0 stop = some x := by
  rw [leAt?, slice?_all (by rw [toLeBytes_length, h])]
  exact fromLeBytes?_toLeBytes x

theorem slice?_of_leAt? {bytes : List UInt8} {start stop : Nat} {x : β}
    (h : leAt? β bytes start stop = some x) : slice? bytes start stop = some (toLeBytes x) := by
  obtain ⟨part, hPart, hx⟩ := Option.bind_eq_some_iff.mp h
  rw [hPart, toLeBytes_of_fromLeBytes? hx]

/-- An integer read within the bounds, of the right width, succeeds. -/
theorem leAt?_isSome {bytes : List UInt8} {start stop : Nat} (h : start ≤ stop)
    (hStop : stop ≤ bytes.length) (hWidth : stop - start = LeInt.width β) :
    ∃ x : β, leAt? β bytes start stop = some x := by
  rw [leAt?, slice?_eq_some h hStop]
  exact fromLeBytes?_isSome (by rw [List.length_take, List.length_drop]; omega)

end

/-- `out` with `bytes` written from `offset` on. -/
def overwrite (out : List α) (offset : Nat) (bytes : List α) : List α :=
  out.take offset ++ bytes ++ out.drop (offset + bytes.length)

@[simp] theorem overwrite_length {out : List α} {offset : Nat} {bytes : List α}
    (h : offset + bytes.length ≤ out.length) : (overwrite out offset bytes).length = out.length := by
  simp only [overwrite, List.length_append, List.length_take, List.length_drop]
  omega

/-- The buffer `out` of `size` elements starts with `written`. -/
structure Filled (size : Nat) (out written : List α) : Prop where
  size_eq : out.length = size
  starts : out.take written.length = written

namespace Filled

variable {size : Nat} {out written bytes : List α}

theorem nil (out : List α) : Filled out.length out [] := ⟨rfl, rfl⟩

/-- Writing right behind what is written extends it. -/
theorem write (h : Filled size out written) {offset : Nat} (hOffset : offset = written.length)
    (hFits : written.length + bytes.length ≤ size) :
    Filled size (overwrite out offset bytes) (written ++ bytes) := by
  subst hOffset
  refine ⟨by rw [overwrite_length (by rw [h.size_eq]; exact hFits), h.size_eq], ?_⟩
  rw [overwrite, h.starts, List.take_left' rfl]

theorem take_eq (h : Filled size out written) {n : Nat} (hn : n = written.length) :
    out.take n = written := by
  rw [hn, h.starts]

end Filled

end ProofKit
