import Kmsync.Platform.WindowsInject
import Mathlib.Tactic.NormNum

/-! Runs of injections on Windows.  Infinities are clamped away, but a NaN stays in the tracked
pointer, where every later move keeps it; and the wheel has a range. -/

namespace Kmsync.Windows

open ProofKit
open Extended (number infinite nan)

section Clamping

variable {x : Extended} {q low high : ℚ}

theorem clamp_number (h : low ≤ high) :
    clamp (number q) (number low) (number high) = number (max low (min q high)) := by
  unfold clamp
  simp only [gt_iff_lt, Extended.number_lt]
  split
  next hLow => rw [min_eq_left (hLow.le.trans h), max_eq_left hLow.le]
  next hLow =>
    split
    next hHigh => rw [min_eq_right hHigh.le, max_eq_right h]
    next hHigh => rw [min_eq_left (not_lt.mp hHigh), max_eq_right (not_lt.mp hLow)]

theorem clamp_infinite (sign : Bool) :
    clamp (infinite sign) (number low) (number high) =
      .number (if sign then low else high) := by
  cases sign <;> simp [clamp]

@[simp] theorem clamp_nan (low high : Extended) : clamp nan low high = nan := by
  simp [clamp]

/-- What is not a NaN is a number afterwards, within the bounds. -/
theorem exists_clamp (h : low ≤ high) (hNan : x ≠ nan) :
    ∃ q, clamp x (number low) (number high) = number q ∧ low ≤ q ∧ q ≤ high := by
  cases x with
  | number q => exact ⟨_, clamp_number h, le_max_left _ _, max_le h (min_le_right _ _)⟩
  | infinite sign =>
    refine ⟨_, clamp_infinite sign, ?_⟩
    cases sign
    · exact ⟨h, le_rfl⟩
    · exact ⟨le_rfl, h⟩
  | nan => exact absurd rfl hNan

end Clamping

section Coordinates

theorem coordinate_range (ratio : Extended) :
    0 ≤ normalizedAbsoluteCoordinate ratio ∧ normalizedAbsoluteCoordinate ratio ≤ 65535 := by
  unfold normalizedAbsoluteCoordinate
  rw [Extended.zero_def, Extended.one_def]
  by_cases hNan : ratio = nan
  · rw [hNan, clamp_nan]
    exact ⟨le_rfl, by decide⟩
  · obtain ⟨q, hClamp, hLow, hHigh⟩ := exists_clamp (zero_le_one' ℚ) hNan
    have hLower : 0 ≤ roundAway (q * 65535) := (le_roundAway_iff le_rfl).mpr (by norm_num; linarith)
    have hUpper : roundAway (q * 65535) ≤ 65535 :=
      (roundAway_le_iff (by norm_num)).mpr (by push_cast; linarith)
    rw [hClamp, Extended.number_mul, Extended.round, Extended.toI32, roundTowards_intCast]
    omega

theorem coordinateForAxis_range (value origin length : Extended) :
    0 ≤ normalizedAbsoluteCoordinateForAxis value origin length ∧
      normalizedAbsoluteCoordinateForAxis value origin length ≤ 65535 := by
  unfold normalizedAbsoluteCoordinateForAxis
  split
  next => exact ⟨le_rfl, by decide⟩
  next => exact coordinate_range _

end Coordinates

section Wheels

/-- The steps of the wheel that fit in an `i32`.  A NaN is none at all. -/
def WheelFits : Extended → Prop
  | .number q => |q| < 17895697 + 1 / 2
  | .infinite _ => False
  | .nan => True

theorem wheelAmount_isOk_iff {delta : Extended} :
    (∃ amount, wheelAmount delta = .ok amount) ↔ WheelFits delta := by
  have hOk : (∃ amount, wheelAmount delta = .ok amount) ↔
      -2 ^ 31 ≤ delta.round.toI32 * wheelDelta ∧ delta.round.toI32 * wheelDelta < 2 ^ 31 := by
    by_cases h : -2 ^ 31 ≤ delta.round.toI32 * wheelDelta ∧
        delta.round.toI32 * wheelDelta < 2 ^ 31
    · exact iff_of_true ⟨_, if_pos h⟩ h
    · refine iff_of_false ?_ h
      rintro ⟨amount, hAmount⟩
      exact nomatch (if_neg h).symm.trans hAmount
  rw [hOk, wheelDelta]
  cases delta with
  | number q =>
    have hUpper : roundAway q ≤ 17895697 ↔ _ := roundAway_le_iff (by norm_num)
    have hLower : -17895697 ≤ roundAway q ↔ _ := le_roundAway_iff (by norm_num)
    push_cast at hUpper hLower
    rw [WheelFits, abs_lt, neg_add', ← hUpper, ← hLower, Extended.round, Extended.toI32,
      roundTowards_intCast]
    omega
  | infinite sign => cases sign <;> exact iff_of_false (by decide) id
  | nan => exact iff_of_true (by decide) trivial

end Wheels

section Events

variable {screen : Screen} {cursor : ℤ × ℤ} {pointer after : RemotePointerState}
  {inputs : List MouseInput} {event : NumericEvent}

/-- A number in a stretch of the screen. -/
structure Within (origin length : ℤ) (x : Extended) : Prop where
  exists_number : ∃ q : ℚ, x = number q ∧ origin ≤ q ∧ q ≤ origin + length - 1

/-- A number inside the bounds, on both axes. -/
structure InBounds (screen : Screen) (position : PointerPosition Extended) : Prop where
  x : Within screen.x screen.width position.x
  y : Within screen.y screen.height position.y

/-- The events that do no harm: a NaN does not come as a move or a place, and the wheel stays in its
range. -/
def Harmless : NumericEvent → Prop
  | .move dx dy => dx ≠ nan ∧ dy ≠ nan
  | .position xRatio yRatio => xRatio ≠ nan ∧ yRatio ≠ nan
  | .scroll event => WheelFits event.dx ∧ WheelFits event.dy

/-- A coordinate moved by a delta, within a stretch of the screen. -/
def movedBy (origin length : ℤ) (q delta : ℚ) : ℚ := max origin (min (q + delta) (origin + length - 1))

/-- What is asked of one event: the pointer is a number inside the bounds, the coordinates that are
sent are in range, and a move by numbers moves the pointer by them. -/
structure Sound (screen : Screen) (cursor : ℤ × ℤ) (pointer : RemotePointerState)
    (event : NumericEvent) (after : RemotePointerState) (inputs : List MouseInput) : Prop where
  tracked : ∀ position ∈ after.current, InBounds screen position
  coordinates : ∀ input ∈ inputs, 0 ≤ input.dx ∧ input.dx ≤ 65535 ∧ 0 ≤ input.dy ∧ input.dy ≤ 65535
  moves : ∀ dx dy : ℚ, event = .move (number dx) (number dy) → ¬ (dx = 0 ∧ dy = 0) →
    ∃ x y : ℚ, ensureRemotePointer cursor pointer = ⟨number x, number y⟩ ∧
      after.current = some ⟨number (movedBy screen.x screen.width x dx),
        number (movedBy screen.y screen.height y dy)⟩

/-- The screen has a positive size. -/
structure Screen.Positive (screen : Screen) : Prop where
  width : 0 < screen.width
  height : 0 < screen.height

def Screen.bounds (screen : Screen) : DisplayBounds Extended :=
  ⟨number screen.x, number screen.y, number screen.width, number screen.height⟩

theorem boundsOrError_ok (h : screen.Positive) : boundsOrError screen = .ok screen.bounds := by
  rw [boundsOrError, windowsVirtualDisplayBounds, if_neg (by have := h.1; have := h.2; omega)]
  rfl

theorem coordinates_of_position (position : PointerPosition Extended) :
    ∀ input ∈ [absoluteMousePositionInputForPosition screen.bounds position],
      0 ≤ input.dx ∧ input.dx ≤ 65535 ∧ 0 ≤ input.dy ∧ input.dy ≤ 65535 := by
  intro input hMem
  obtain rfl := List.mem_singleton.mp hMem
  exact ⟨(coordinateForAxis_range _ _ _).1, (coordinateForAxis_range _ _ _).2,
    (coordinateForAxis_range _ _ _).1, (coordinateForAxis_range _ _ _).2⟩

theorem not_within_nan {origin length : ℤ} : ¬ Within origin length nan := by
  rintro ⟨q, hNumber, -⟩
  cases hNumber

theorem clamp_axis (origin : ℤ) {length : ℤ} (h : 0 < length) (x : Extended) :
    clamp x (number origin) (number origin + number length - 1) =
      clamp x (number origin) (number (origin + length - 1)) ∧ (origin : ℚ) ≤ origin + length - 1 := by
  have hLength : (1 : ℚ) ≤ length := by exact_mod_cast h
  rw [Extended.number_add, Extended.one_def, Extended.number_sub]
  exact ⟨rfl, by linarith⟩

theorem within_clamp {origin length : ℤ} (h : 0 < length) {x : Extended} (hNan : x ≠ nan) :
    Within origin length (clamp x (number origin) (number origin + number length - 1)) := by
  obtain ⟨hClamp, hLe⟩ := clamp_axis origin h x
  obtain ⟨q, hq, hLow, hHigh⟩ := exists_clamp hLe hNan
  rw [hClamp, hq]
  exact ⟨q, rfl, hLow, hHigh⟩

theorem clamp_moved {origin length : ℤ} (h : 0 < length) (q delta : ℚ) :
    clamp (number q + number delta) (number origin) (number origin + number length - 1) =
      number (movedBy origin length q delta) := by
  obtain ⟨hClamp, hLe⟩ := clamp_axis origin h (number q + number delta)
  rw [hClamp, Extended.number_add, clamp_number hLe, movedBy]

theorem within_position {origin length : ℤ} (h : 0 < length) {ratio : Extended}
    (hNan : ratio ≠ nan) : Within origin length
      (number origin + max (number length - 1) 0 * clamp ratio 0 1) := by
  have hLength : (1 : ℚ) ≤ length := by exact_mod_cast h
  have hMax : max (number length - 1) (0 : Extended) = number (length - 1) := by
    have hNotLess : ¬ number (length - 1 : ℚ) < number 0 := by
      rw [Extended.number_lt]
      linarith
    rw [Extended.one_def, Extended.number_sub]
    exact (if_neg nofun).trans (if_neg hNotLess)
  obtain ⟨q, hq, hLow, hHigh⟩ := exists_clamp (zero_le_one' ℚ) hNan
  rw [hMax, Extended.zero_def, Extended.one_def, hq, Extended.number_mul, Extended.number_add]
  refine ⟨_, rfl, by nlinarith, by nlinarith⟩

/-- A pointer from which moves go on: every place is a number inside the bounds. -/
def Good (screen : Screen) (pointer : RemotePointerState) : Prop :=
  ∀ position ∈ pointer.current, InBounds screen position

theorem Good.exists_numbers (h : Good screen pointer) (cursor : ℤ × ℤ) :
    ∃ x y : ℚ, ensureRemotePointer cursor pointer = ⟨number x, number y⟩ := by
  unfold ensureRemotePointer
  cases hCurrent : pointer.current with
  | none => exact ⟨cursor.1, cursor.2, rfl⟩
  | some position =>
    obtain ⟨⟨x, hX, -⟩, ⟨y, hY, -⟩⟩ := h position hCurrent
    exact ⟨x, y, by rw [Option.getD_some, ← hX, ← hY]⟩

/-- A move by nothing is left out. -/
theorem inject_move_zero {dx dy : Extended} (h : (dx == 0 && dy == 0) = true) :
    inject screen cursor pointer (.move dx dy) = .ok (pointer, []) := by
  simp only [inject, injectMouseMove, h, if_true, pure_eq_ok]

/-- Where a move leads. -/
def movedPosition (screen : Screen) (cursor : ℤ × ℤ) (pointer : RemotePointerState)
    (dx dy : Extended) : PointerPosition Extended :=
  clampPointerToBounds ⟨(ensureRemotePointer cursor pointer).x + dx,
    (ensureRemotePointer cursor pointer).y + dy⟩ screen.bounds

theorem inject_move {dx dy : Extended} (hScreen : screen.Positive)
    (h : (dx == 0 && dy == 0) = false) :
    inject screen cursor pointer (.move dx dy) =
      .ok (⟨some (movedPosition screen cursor pointer dx dy)⟩,
        [absoluteMousePositionInputForPosition screen.bounds
          (movedPosition screen cursor pointer dx dy)]) := by
  simp only [inject, injectMouseMove, h, Bool.false_eq_true, if_false, boundsOrError_ok hScreen,
    ok_bind, pure_eq_ok]
  rfl

theorem inject_position {xRatio yRatio : Extended} (hScreen : screen.Positive) :
    inject screen cursor pointer (.position xRatio yRatio) =
      .ok (⟨some (normalizedPointerPosition screen.bounds xRatio yRatio)⟩,
        [absoluteMousePositionInputForPosition screen.bounds
          (normalizedPointerPosition screen.bounds xRatio yRatio)]) := by
  simp only [inject, injectMousePosition, boundsOrError_ok hScreen, ok_bind, pure_eq_ok]

/-- An event whose place is tracked. -/
theorem sound_of_position {position : PointerPosition Extended}
    (h : InBounds screen position)
    (hMoves : ∀ dx dy : ℚ, event = .move (number dx) (number dy) → ¬ (dx = 0 ∧ dy = 0) →
      ∃ x y : ℚ, ensureRemotePointer cursor pointer = ⟨number x, number y⟩ ∧
        position = ⟨number (movedBy screen.x screen.width x dx),
          number (movedBy screen.y screen.height y dy)⟩) :
    Sound screen cursor pointer event ⟨some position⟩
      [absoluteMousePositionInputForPosition screen.bounds position] where
  tracked := by
    rintro _ ⟨⟩
    exact h
  coordinates := coordinates_of_position position
  moves dx dy hEvent hZero := by
    obtain ⟨x, y, hPointer, hPosition⟩ := hMoves dx dy hEvent hZero
    exact ⟨x, y, hPointer, congrArg some hPosition⟩

theorem inBounds_moved (hScreen : screen.Positive) (hGood : Good screen pointer) (cursor : ℤ × ℤ)
    {dx dy : Extended} : InBounds screen (movedPosition screen cursor pointer dx dy) ↔
      dx ≠ nan ∧ dy ≠ nan := by
  obtain ⟨x, y, hPointer⟩ := hGood.exists_numbers cursor
  rw [movedPosition, hPointer]
  constructor
  · rintro ⟨hX, hY⟩
    constructor
    · rintro rfl
      exact not_within_nan hX
    · rintro rfl
      exact not_within_nan hY
  · rintro ⟨hX, hY⟩
    refine ⟨within_clamp hScreen.width ?_, within_clamp hScreen.height ?_⟩
    · cases dx <;> first | exact absurd rfl hX | nofun
    · cases dy <;> first | exact absurd rfl hY | nofun

theorem inBounds_position (hScreen : screen.Positive) {xRatio yRatio : Extended} :
    InBounds screen (normalizedPointerPosition screen.bounds xRatio yRatio) ↔
      xRatio ≠ nan ∧ yRatio ≠ nan := by
  constructor
  · rintro ⟨hX, hY⟩
    constructor
    · rintro rfl
      exact not_within_nan (by simpa [normalizedPointerPosition] using hX)
    · rintro rfl
      exact not_within_nan (by simpa [normalizedPointerPosition] using hY)
  · rintro ⟨hX, hY⟩
    exact ⟨within_position hScreen.width hX, within_position hScreen.height hY⟩

theorem wheelInput_isOk_iff {delta : Extended} (flags : UInt32) :
    (∃ inputs, wheelInput delta flags = .ok inputs) ↔ WheelFits delta := by
  rw [← wheelAmount_isOk_iff]
  unfold wheelInput
  cases hZero : delta == 0 with
  | true =>
    refine iff_of_true ⟨[], rfl⟩ ?_
    rw [wheelAmount_isOk_iff]
    cases delta with
    | number q =>
      have hq : q = 0 := of_decide_eq_true hZero
      rw [hq, WheelFits, abs_zero]
      norm_num
    | infinite sign => cases hZero
    | nan => trivial
  | false =>
    simp only [Bool.false_eq_true, if_false]
    cases wheelAmount delta with
    | ok amount => exact iff_of_true ⟨_, rfl⟩ ⟨amount, rfl⟩
    | error fault => exact iff_of_false (fun h => nomatch h) fun h => nomatch h

theorem wheelInput_coordinates {delta : Extended} {flags : UInt32}
    (h : wheelInput delta flags = .ok inputs) : ∀ input ∈ inputs, input.dx = 0 ∧ input.dy = 0 := by
  unfold wheelInput at h
  split at h
  next =>
    obtain rfl := Except.ok.inj h
    exact fun input hMem => absurd hMem List.not_mem_nil
  next =>
    obtain ⟨amount, -, hInputs⟩ := bind_eq_ok.mp h
    obtain rfl := Except.ok.inj hInputs
    intro input hMem
    obtain rfl := List.mem_singleton.mp hMem
    exact ⟨rfl, rfl⟩

theorem buildScrollInputs_isOk_iff {event : ScrollEvent Extended} :
    (∃ inputs, buildScrollInputs event = .ok inputs) ↔ WheelFits event.dx ∧ WheelFits event.dy := by
  unfold buildScrollInputs
  rw [← wheelInput_isOk_iff mouseeventfHwheel, ← wheelInput_isOk_iff mouseeventfWheel]
  constructor
  · rintro ⟨inputs, h⟩
    obtain ⟨vertical, hVertical, h⟩ := bind_eq_ok.mp h
    obtain ⟨horizontal, hHorizontal, -⟩ := bind_eq_ok.mp h
    exact ⟨⟨horizontal, hHorizontal⟩, vertical, hVertical⟩
  · rintro ⟨⟨horizontal, hHorizontal⟩, vertical, hVertical⟩
    exact ⟨_, bind_eq_ok.mpr ⟨vertical, hVertical, bind_eq_ok.mpr ⟨horizontal, hHorizontal, rfl⟩⟩⟩

theorem buildScrollInputs_coordinates {event : ScrollEvent Extended}
    (h : buildScrollInputs event = .ok inputs) : ∀ input ∈ inputs, input.dx = 0 ∧ input.dy = 0 := by
  obtain ⟨vertical, hVertical, h⟩ := bind_eq_ok.mp h
  obtain ⟨horizontal, hHorizontal, hInputs⟩ := bind_eq_ok.mp h
  obtain rfl := Except.ok.inj hInputs
  intro input hMem
  rcases List.mem_append.mp hMem with hMem | hMem
  · exact wheelInput_coordinates hVertical input hMem
  · exact wheelInput_coordinates hHorizontal input hMem

/-- What is equal to zero is no NaN. -/
theorem ne_nan_of_zero {x : Extended} (h : (x == 0) = true) : x ≠ nan := by
  rintro rfl
  cases h

/-- One event does what is asked of it exactly if it does no harm. -/
theorem sound_inject_iff (hScreen : screen.Positive) (hGood : Good screen pointer)
    (cursor : ℤ × ℤ) :
    (∃ after inputs, inject screen cursor pointer event = .ok (after, inputs) ∧
      Sound screen cursor pointer event after inputs) ↔ Harmless event := by
  cases event with
  | move dx dy =>
    cases hZero : dx == 0 && dy == 0 with
    | true =>
      obtain ⟨hX, hY⟩ := (Bool.and_eq_true_iff).mp hZero
      refine iff_of_true ⟨pointer, [], inject_move_zero hZero, hGood, ?_, ?_⟩
        ⟨ne_nan_of_zero hX, ne_nan_of_zero hY⟩
      · exact fun input hMem => absurd hMem List.not_mem_nil
      · rintro dx dy ⟨⟩ hNot
        exact absurd ⟨of_decide_eq_true hX, of_decide_eq_true hY⟩ hNot
    | false =>
      rw [Harmless, ← inBounds_moved hScreen hGood cursor, inject_move hScreen hZero]
      constructor
      · rintro ⟨_, _, ⟨⟩, hSound⟩
        exact hSound.tracked _ rfl
      · intro hBounds
        refine ⟨_, _, rfl, sound_of_position hBounds ?_⟩
        rintro dx dy ⟨⟩ -
        obtain ⟨x, y, hPointer⟩ := hGood.exists_numbers cursor
        refine ⟨x, y, hPointer, ?_⟩
        rw [movedPosition, hPointer]
        exact congrArg₂ PointerPosition.mk (clamp_moved hScreen.width x dx)
          (clamp_moved hScreen.height y dy)
  | position xRatio yRatio =>
    rw [Harmless, ← inBounds_position hScreen, inject_position hScreen]
    constructor
    · rintro ⟨_, _, ⟨⟩, hSound⟩
      exact hSound.tracked _ rfl
    · intro hBounds
      exact ⟨_, _, rfl, sound_of_position hBounds nofun⟩
  | scroll event =>
    rw [Harmless, ← buildScrollInputs_isOk_iff]
    constructor
    · rintro ⟨after, inputs, hInject, -⟩
      obtain ⟨inputs', hInputs, -⟩ := bind_eq_ok.mp hInject
      exact ⟨inputs', hInputs⟩
    · rintro ⟨inputs, hInputs⟩
      refine ⟨pointer, inputs, bind_eq_ok.mpr ⟨inputs, hInputs, rfl⟩, hGood, ?_, nofun⟩
      intro input hMem
      obtain ⟨hX, hY⟩ := buildScrollInputs_coordinates hInputs input hMem
      omega

end Events

section Runs

/-- An event, and what `GetCursorPos` would read before it. -/
structure Call where
  cursor : ℤ × ℤ
  event : NumericEvent

/-- Every event of a run does what is asked of it. -/
def Safe (screen : Screen) : RemotePointerState → List Call → Prop
  | _, [] => True
  | pointer, call :: calls =>
    ∃ after inputs, inject screen call.cursor pointer call.event = .ok (after, inputs) ∧
      Sound screen call.cursor pointer call.event after inputs ∧ Safe screen after calls

variable {screen : Screen} {pointer : RemotePointerState}

theorem safe_iff_of_good (hScreen : screen.Positive) (hGood : Good screen pointer)
    (calls : List Call) : Safe screen pointer calls ↔ ∀ call ∈ calls, Harmless call.event := by
  induction calls generalizing pointer with
  | nil => exact iff_of_true trivial fun call hMem => absurd hMem List.not_mem_nil
  | cons call calls ih =>
    rw [List.forall_mem_cons, ← sound_inject_iff hScreen hGood call.cursor]
    constructor
    · rintro ⟨after, inputs, hInject, hSound, hRest⟩
      exact ⟨⟨after, inputs, hInject, hSound⟩, (ih hSound.tracked).mp hRest⟩
    · rintro ⟨⟨after, inputs, hInject, hSound⟩, hRest⟩
      exact ⟨after, inputs, hInject, hSound, (ih hSound.tracked).mpr hRest⟩

theorem good_none : Good screen ⟨none⟩ := fun _ h => absurd h (Option.not_mem_none _)

/-- A run from the start is safe after every event exactly if no event of it does harm. -/
theorem injections_safe_iff (hScreen : screen.Positive) (calls : List Call) :
    Safe screen ⟨none⟩ calls ↔ ∀ call ∈ calls, Harmless call.event :=
  safe_iff_of_good hScreen good_none calls

def fullHd : Screen := ⟨0, 0, 1920, 1080⟩

theorem fullHd_positive : fullHd.Positive := ⟨by decide, by decide⟩

/-- Infinities, a place outside of the screen, and a wheel at the end of its range. -/
theorem injections_safe_extremes : Safe fullHd ⟨none⟩
    [⟨(5, 5), .move (infinite false) (number 3)⟩, ⟨(5, 5), .position (number 7) (infinite true)⟩,
      ⟨(5, 5), .scroll ⟨nan, number 17895697⟩⟩] := by
  refine (injections_safe_iff fullHd_positive _).mpr ?_
  simp only [List.forall_mem_cons, List.not_mem_nil, false_implies, implies_true, and_true]
  refine ⟨⟨nofun, nofun⟩, ⟨nofun, nofun⟩, trivial, ?_⟩
  rw [WheelFits, abs_of_pos (by norm_num)]
  norm_num

/-- The bytes of a move by a NaN. -/
def nanMove : List UInt8 := [eventMouseMove, 0, 0, 0xC0, 0x7F, 0, 0, 0, 0]

/-- A NaN that was decoded stays in the pointer, and the next move does not move it. -/
theorem injections_poisoned :
    decodeInputEvent nanMove = .ok (.mouse (.move 0x7FC00000 0)) ∧
      numeric (.mouse (.move 0x7FC00000 0)) = some (.move nan (number 0)) ∧
      ¬ Safe fullHd ⟨none⟩ [⟨(5, 5), .move nan (number 0)⟩, ⟨(5, 5), .move (number 1) (number 0)⟩] := by
  refine ⟨by decide, by decide +kernel, ?_⟩
  rintro ⟨after, inputs, hInject, hSound, -⟩
  rw [inject_move fullHd_positive rfl] at hInject
  obtain ⟨rfl, -⟩ := Prod.mk.inj (Except.ok.inj hInject)
  exact ((inBounds_moved fullHd_positive good_none (5, 5)).mp (hSound.tracked _ rfl)).1 rfl

end Runs

end Kmsync.Windows
