import Kmsync.Platform.X11Inject
import Mathlib.Algebra.Order.Archimedean.Basic

/-! What a run of moves and wheel events comes to on X11.  Nothing of an event is kept for the next,
so the error of a run is the sum of the errors of its events.  Windows and macOS keep the fraction
of a pixel in the position of the pointer; here it is lost. -/

namespace Kmsync.X11

open ProofKit

section Clicks

variable {q : ℚ} {detail positive negative : UInt8} {state : KeyState}

theorem injectButton_inj {detail' : UInt8} {state' : KeyState} :
    injectButton detail state = injectButton detail' state' ↔
      detail = detail' ∧ state = state' := by
  cases state <;> cases state' <;> simp [injectButton, buttonEventType]

/-- Each click is one press and one release of its button. -/
theorem count_clicks (button : UInt8 × UInt8) :
    (clicks button).count (injectButton detail state) =
      if button.1 = detail then button.2.toNat else 0 := by
  unfold clicks
  induction button.2.toNat with
  | zero => simp
  | succ n ih =>
    rw [List.replicate_succ, List.flatten_cons, List.count_append, ih]
    by_cases hDetail : button.1 = detail <;> cases state <;>
      simp [injectButton_inj, hDetail, Nat.add_comm]

/-- The calls for one axis of a wheel. -/
def axisClicks (value : Extended) (positive negative : UInt8) : List FakeInput :=
  [scrollAxisButton value positive negative].reduceOption.flatMap clicks

theorem injectScroll_eq (event : ScrollEvent Extended) :
    injectScroll event = axisClicks event.dy 4 5 ++ axisClicks event.dx 7 6 := by
  unfold injectScroll axisClicks x11ScrollButtonSequence
  rw [← List.flatMap_append, ← List.reduceOption_append]
  rfl

/-- Only the buttons of the axis are clicked. -/
theorem count_axisClicks_of_ne (hPositive : positive ≠ detail) (hNegative : negative ≠ detail) :
    (axisClicks (.number q) positive negative).count (injectButton detail state) = 0 := by
  unfold axisClicks scrollAxisButton
  dsimp only
  split_ifs
  all_goals simp [List.reduceOption_cons_of_some, List.reduceOption_cons_of_none, count_clicks,
    hPositive, hNegative]

theorem roundedI16_number (hLow : -2 ^ 15 ≤ q) (hHigh : q ≤ 2 ^ 15 - 1) :
    roundedI16 (.number q) = roundAway q := by
  have hLower : -2 ^ 15 ≤ roundAway q :=
    (le_roundAway_iff (by norm_num)).mpr (by push_cast; linarith)
  have hUpper : roundAway q ≤ 2 ^ 15 - 1 :=
    (roundAway_le_iff (by norm_num)).mpr (by push_cast; linarith)
  rw [roundedI16]
  omega

/-- The clicks of an axis, those of its second button counted below zero. -/
theorem net_axisClicks (hNe : positive ≠ negative) (h : |q| ≤ 255) :
    ((axisClicks (.number q) positive negative).count (injectButton positive state) : ℤ) -
        (axisClicks (.number q) positive negative).count (injectButton negative state) =
      roundAway q := by
  obtain ⟨hLow, hHigh⟩ := abs_le.mp h
  have hLower : -255 ≤ roundAway q := (le_roundAway_iff (by norm_num)).mpr (by push_cast; linarith)
  have hUpper : roundAway q ≤ 255 := (roundAway_le_iff (by norm_num)).mpr (by push_cast; linarith)
  unfold axisClicks scrollAxisButton
  rw [roundedI16_number (by linarith) (by linarith)]
  dsimp only
  have hSteps : (UInt8.ofNat (min (roundAway q).natAbs 255)).toNat = (roundAway q).natAbs := by
    rw [UInt8.toNat_ofNat']
    omega
  split_ifs
  all_goals simp only [List.reduceOption_cons_of_some, List.reduceOption_cons_of_none,
    List.reduceOption_nil, List.flatMap_cons, List.flatMap_nil, List.append_nil, List.count_nil,
    count_clicks, hSteps, hNe, hNe.symm, if_true, if_false]
  all_goals omega

end Clicks

section Events

variable {axis : Axis} {event : MotionEvent ℚ}

theorem injected_append (inputs inputs' : List FakeInput) :
    axis.injected (inputs ++ inputs') = axis.injected inputs + axis.injected inputs' := by
  cases axis <;> simp [Axis.injected, List.filter_append, List.count_append] <;> omega

/-- No calls of one kind come out of the events of the other. -/
theorem injected_injectRelativeMotion (dx dy : Extended) :
    axis.injected (injectRelativeMotion dx dy) =
      match axis with
      | .moveX => roundedI16 dx
      | .moveY => roundedI16 dy
      | .scrollX _ | .scrollY _ => 0 := by
  unfold injectRelativeMotion x11RelativeMotion
  dsimp only
  split
  next hZero => cases axis <;> simp [Axis.injected, hZero]
  next =>
    cases axis with
    | moveX => simp [Axis.injected]
    | moveY => simp [Axis.injected]
    | scrollX state | scrollY state =>
      cases state <;> simp [Axis.injected, injectButton, buttonEventType]

theorem not_motion_of_mem_injectScroll {event : ScrollEvent Extended} {input : FakeInput}
    (h : input ∈ injectScroll event) : input.eventType ≠ .motionNotify := by
  obtain ⟨button, -, hClicks⟩ := List.mem_flatMap.mp h
  obtain ⟨click, hClick, hInput⟩ := List.mem_flatten.mp hClicks
  obtain rfl := List.eq_of_mem_replicate hClick
  rcases List.mem_pair.mp hInput with rfl | rfl
  · exact nofun
  · exact nofun

/-- What the calls of one event come to: its delta, rounded. -/
theorem injected_inject (h : event.InRange) :
    axis.injected (inject event) = roundAway (axis.delta event) := by
  have hZero : roundAway 0 = 0 := roundAway_intCast 0
  cases event with
  | move dx dy =>
    obtain ⟨⟨hLowX, hHighX⟩, hLowY, hHighY⟩ := h
    rw [inject, injected_injectRelativeMotion]
    cases axis with
    | moveX => exact roundedI16_number hLowX hHighX
    | moveY => exact roundedI16_number hLowY hHighY
    | scrollX | scrollY => exact hZero.symm
  | scroll event =>
    obtain ⟨hX, hY⟩ := h
    have hMotions : (injectScroll ⟨.number event.dx, .number event.dy⟩).filter
        (fun input => input.eventType = .motionNotify) = [] :=
      List.filter_eq_nil_iff.mpr fun input hMem => by
        simpa using not_motion_of_mem_injectScroll hMem
    rw [inject]
    cases axis with
    | moveX | moveY =>
      rw [Axis.injected, hMotions]
      exact hZero.symm
    | scrollX state =>
      have hPositive : (axisClicks (.number event.dy) 4 5).count (injectButton 7 state) = 0 :=
        count_axisClicks_of_ne (by decide) (by decide)
      have hNegative : (axisClicks (.number event.dy) 4 5).count (injectButton 6 state) = 0 :=
        count_axisClicks_of_ne (by decide) (by decide)
      rw [Axis.injected, injectScroll_eq, List.count_append, List.count_append, hPositive,
        hNegative, zero_add, zero_add]
      exact net_axisClicks (by decide) hX
    | scrollY state =>
      have hPositive : (axisClicks (.number event.dx) 7 6).count (injectButton 4 state) = 0 :=
        count_axisClicks_of_ne (by decide) (by decide)
      have hNegative : (axisClicks (.number event.dx) 7 6).count (injectButton 5 state) = 0 :=
        count_axisClicks_of_ne (by decide) (by decide)
      rw [Axis.injected, injectScroll_eq, List.count_append, List.count_append, hPositive,
        hNegative, add_zero, add_zero]
      exact net_axisClicks (by decide) hY

variable {events : List (MotionEvent ℚ)}

/-- What the calls of a run come to: the deltas, rounded one by one. -/
theorem injected_run (h : ∀ event ∈ events, event.InRange) :
    axis.injected (events.flatMap inject) =
      ((events.map axis.delta).map roundAway).sum := by
  induction events with
  | nil => cases axis <;> rfl
  | cons event events ih =>
    obtain ⟨hHead, hRest⟩ := List.forall_mem_cons.mp h
    rw [List.flatMap_cons, injected_append, injected_inject hHead, ih hRest]
    rfl

/-- The sum that is injected is off by at most a half for each event that does not ask for whole
pixels or steps. -/
theorem injected_sum_close (axis : Axis) (h : ∀ event ∈ events, event.InRange) :
    |(axis.injected (events.flatMap inject) : ℚ) - (events.map axis.delta).sum| ≤
      events.countP (fun event => !(axis.delta event).isInt) / 2 := by
  rw [injected_run h]
  refine (abs_sum_roundAway_sub_le _).trans_eq ?_
  rw [List.countP_map]
  rfl

/-- What is injected is off by less than a pixel or a step. -/
def InjectedClose (axis : Axis) (events : List (MotionEvent ℚ)) : Prop :=
  |(axis.injected (events.flatMap inject) : ℚ) - (events.map axis.delta).sum| < 1

/-- What is injected is off by the fractions of all events, since none is carried over. -/
theorem injected_sub_sum (axis : Axis) (h : ∀ event ∈ events, event.InRange) :
    (axis.injected (events.flatMap inject) : ℚ) - (events.map axis.delta).sum =
      -(events.map fun event => fraction (axis.delta event)).sum := by
  rw [injected_run h, sum_roundAway_sub, List.map_map]
  rfl

/-- An event that is repeated repeats its error. -/
theorem injected_replicate_sub_sum (axis : Axis) (h : event.InRange) (n : ℕ) :
    (axis.injected ((List.replicate n event).flatMap inject) : ℚ) -
        ((List.replicate n event).map axis.delta).sum =
      -(n * fraction (axis.delta event)) := by
  have hRange : ∀ repeated ∈ List.replicate n event, repeated.InRange := fun repeated hMem =>
    List.eq_of_mem_replicate hMem ▸ h
  rw [injected_sub_sum axis hRange, List.map_replicate, List.sum_replicate, nsmul_eq_mul]

theorem injectedClose_iff (axis : Axis) (h : ∀ event ∈ events, event.InRange) :
    InjectedClose axis events ↔
      |(events.map fun event => fraction (axis.delta event)).sum| < 1 := by
  rw [InjectedClose, injected_sub_sum axis h, abs_neg]

theorem injectedClose_of_countP_le (axis : Axis) (h : ∀ event ∈ events, event.InRange)
    (hCount : events.countP (fun event => !(axis.delta event).isInt) ≤ 1) :
    InjectedClose axis events := by
  have hCast : (events.countP (fun event => !(axis.delta event).isInt) : ℚ) ≤ 1 :=
    mod_cast hCount
  have hClose := injected_sum_close axis h
  rw [InjectedClose]
  linarith

/-- An event that does not ask for a whole number cannot be repeated for ever. -/
theorem exists_not_injectedClose (axis : Axis) (h : event.InRange)
    (hFraction : ¬(axis.delta event).isInt) :
    ∃ n, ¬InjectedClose axis (List.replicate n event) := by
  have hPos : 0 < |fraction (axis.delta event)| := abs_pos.mpr (fraction_ne_zero hFraction)
  obtain ⟨n, hn⟩ := exists_nat_ge (1 / |fraction (axis.delta event)|)
  refine ⟨n, ?_⟩
  rw [InjectedClose, injected_replicate_sub_sum axis h, abs_neg, abs_mul, Nat.abs_cast, not_lt]
  exact (div_le_iff₀ hPos).mp hn

/-- The sum that is injected on an axis is off by less than one exactly if the fractions of the
deltas, which are not carried over, add up to less than one.  That is so if no more than one of the
deltas is fractional; any fractional delta breaks it when it is repeated often enough. -/
theorem injected_close_iff (axis : Axis) (h : ∀ event ∈ events, event.InRange) :
    (InjectedClose axis events ↔
      |(events.map fun event => fraction (axis.delta event)).sum| < 1) ∧
    (events.countP (fun event => !(axis.delta event).isInt) ≤ 1 → InjectedClose axis events) ∧
    ∀ event ∈ events, ¬(axis.delta event).isInt →
      ∃ n, ¬InjectedClose axis (List.replicate n event) :=
  ⟨injectedClose_iff axis h, injectedClose_of_countP_le axis h,
    fun event hMem => exists_not_injectedClose axis (h event hMem)⟩

/-- A slow move to the right, and a wheel that is turned by halves of a step. -/
def slowly : List (MotionEvent ℚ) :=
  List.replicate 4 (.move (1 / 4) 0) ++ List.replicate 2 (.scroll ⟨0, 1 / 2⟩)

theorem injected_close_iff_slowly :
    ¬InjectedClose .moveX slowly ∧ InjectedClose .moveY slowly := by
  have hRange : ∀ event ∈ slowly, event.InRange := by decide +kernel
  constructor
  · rw [(injected_close_iff .moveX hRange).1]
    decide +kernel
  · exact (injected_close_iff .moveY hRange).2.1 (by decide +kernel)

/-- A pixel is lost, and a step is two. -/
theorem slowly_injected :
    (∀ event ∈ slowly, event.InRange) ∧
      Axis.moveX.injected (slowly.flatMap inject) = 0 ∧
      (slowly.map Axis.moveX.delta).sum = 1 ∧
      (Axis.scrollY .pressed).injected (slowly.flatMap inject) = 2 ∧
      (slowly.map (Axis.scrollY .pressed).delta).sum = 1 ∧
      ¬ ∀ axis : Axis,
        |(axis.injected (slowly.flatMap inject) : ℚ) - (slowly.map axis.delta).sum| < 1 := by
  have hMoves : Axis.moveX.injected (slowly.flatMap inject) = 0 := by decide +kernel
  have hDeltas : (slowly.map Axis.moveX.delta).sum = 1 := by decide +kernel
  refine ⟨by decide +kernel, hMoves, hDeltas, by decide +kernel, by decide +kernel, fun h => ?_⟩
  have hLess := h .moveX
  rw [hMoves, hDeltas] at hLess
  norm_num at hLess

end Events

end Kmsync.X11
