import Kmsync.Platform.X11Capture
import Kmsync.ProofKit.SharedFlags

/-! The modifiers that are tracked on X11, over whole histories.  A release clears the flag that the
left and the right key share, whether or not the other is held. -/

namespace Kmsync

open ProofKit

section Flags

variable {flag other : Modifiers}

/-- The modifiers of one key each. -/
def Modifiers.single : List Modifiers := [.control, .shift, .alt, .metaModifier]

theorem contains_with (hFlag : flag ∈ Modifiers.single) (hOther : other ∈ Modifiers.single)
    (modifiers : Modifiers) :
    (modifiers.with flag).contains other = true ↔
      flag = other ∨ modifiers.contains other = true := by
  have hAll : ∀ flag ∈ Modifiers.single, ∀ other ∈ Modifiers.single, ∀ n < 16,
      ((Modifiers.fromBits (.ofNat n)).with flag).contains other =
        (decide (flag = other) || (Modifiers.fromBits (.ofNat n)).contains other) := by
    decide +kernel
  have hBits := hAll flag hFlag other hOther modifiers.bits.toNat
    (UInt8.lt_iff_toNat_lt.mp modifiers.bits_lt)
  rw [UInt8.ofNat_toNat, Modifiers.fromBits_bits] at hBits
  rw [hBits, Bool.or_eq_true, decide_eq_true_iff]

theorem contains_without (hFlag : flag ∈ Modifiers.single) (hOther : other ∈ Modifiers.single)
    (modifiers : Modifiers) :
    (modifiers.without flag).contains other = true ↔
      flag ≠ other ∧ modifiers.contains other = true := by
  have hAll : ∀ flag ∈ Modifiers.single, ∀ other ∈ Modifiers.single, ∀ n < 16,
      ((Modifiers.fromBits (.ofNat n)).without flag).contains other =
        (decide (flag ≠ other) && (Modifiers.fromBits (.ofNat n)).contains other) := by
    decide +kernel
  have hBits := hAll flag hFlag other hOther modifiers.bits.toNat
    (UInt8.lt_iff_toNat_lt.mp modifiers.bits_lt)
  rw [UInt8.ofNat_toNat, Modifiers.fromBits_bits] at hBits
  rw [hBits, Bool.and_eq_true, decide_eq_true_iff]

end Flags

namespace X11

section Keys

/-- The modifier of the key that a code stands for. -/
def modifierOfDetail (detail : UInt32) : Option Modifiers :=
  (keyOfDetail detail).bind x11ModifierForKey

theorem modifierOfDetail_mem (detail : UInt32) :
    ∀ modifier ∈ modifierOfDetail detail, modifier ∈ Modifiers.single := by
  intro modifier hMem
  obtain ⟨key, -, hModifier⟩ := Option.bind_eq_some_iff.mp hMem
  unfold x11ModifierForKey at hModifier
  split at hModifier <;> cases hModifier <;> decide

variable {φ : Type} {capture : X11CaptureState} {detail : UInt32} {state : KeyState}
  {modifier : Modifiers}

/-- A key sets or clears its own flag, and leaves the others. -/
theorem keyEvent_latch (hModifier : modifier ∈ Modifiers.single) :
    (keyEvent capture detail state : Option (InputEvent φ) × _).2.modifiers.contains modifier ↔
      (modifierOfDetail detail = some modifier ∧ state = .pressed) ∨
        (modifierOfDetail detail ≠ some modifier ∧ capture.modifiers.contains modifier = true) := by
  have hSingle := modifierOfDetail_mem detail
  unfold keyEvent modifierOfDetail at *
  cases hKey : keyOfDetail detail with
  | none => simp
  | some key =>
    rw [hKey] at hSingle
    simp only [Option.bind_some] at hSingle ⊢
    cases hOwn : x11ModifierForKey key with
    | none => simp
    | some own =>
      have hOwnMem := hSingle own hOwn
      cases state with
      | pressed =>
        simp only [contains_with hOwnMem hModifier, Option.some.injEq]
        by_cases hSame : own = modifier <;> simp [hSame]
      | released =>
        simp only [contains_without hOwnMem hModifier, Option.some.injEq]
        simp

/-- What is returned carries the modifiers that are tracked then. -/
theorem keyEvent_carries {key : KeyEvent}
    (h : (keyEvent capture detail state : Option (InputEvent φ) × _).1 = some (.key key)) :
    key.modifiers = (keyEvent capture detail state : Option (InputEvent φ) × _).2.modifiers := by
  unfold keyEvent at h ⊢
  split at h
  next => cases h
  next =>
    cases h
    rfl

end Keys

section Histories

/-- The stroke of a key, if the event is one. -/
def X11Event.stroke : X11Event → Option (Stroke UInt32)
  | .xinputRawKeyPress detail => some ⟨detail, true⟩
  | .xinputRawKeyRelease detail => some ⟨detail, false⟩
  | _ => none

/-- The keys that are held, and the state of the capture. -/
structure Tracking where
  held : Finset UInt32 := ∅
  capture : X11CaptureState := {}
  deriving DecidableEq

variable {φ : Type} [Zero φ] [One φ] [Neg φ] [BEq φ] (ψ : Type) (toF32 : Fp3232 → φ)

/-- What is captured of an event, and the state of the capture after it. -/
abbrev captured (s : Tracking) (event : X11Event) : Option (CapturedInput φ ψ) × X11CaptureState :=
  capturedInput toF32 s.capture event

/-- An event that the server sends, as it is captured.  Keys are pressed and let go in turn. -/
def tracking (s : Tracking) (event : X11Event) : Option Tracking :=
  match event.stroke with
  | some stroke =>
    (press s.held stroke).map fun held => ⟨held, (captured ψ toF32 s event).2⟩
  | none => some ⟨s.held, (captured ψ toF32 s event).2⟩

/-- The flags are those of the keys that are held. -/
def Exact (s : Tracking) : Prop :=
  ∀ modifier ∈ Modifiers.single,
    s.capture.modifiers.contains modifier = true ↔ Shown modifierOfDetail s.held modifier

/-- A modifier key is let go only while the other of its pair is not held. -/
def KeyAlone (s : Tracking) (event : X11Event) : Prop :=
  ∀ stroke ∈ event.stroke, Alone modifierOfDetail s.held stroke

instance (s : Tracking) (event : X11Event) : Decidable (KeyAlone s event) :=
  inferInstanceAs (Decidable (∀ stroke ∈ event.stroke, Alone modifierOfDetail s.held stroke))

variable {ψ toF32} {s after : Tracking} {event : X11Event} {events : List X11Event}

variable (ψ toF32 s) in
theorem captured_of_stroke {stroke : Stroke UInt32} (h : event.stroke = some stroke) :
    ((captured ψ toF32 s event).1.map fun input => input.event, (captured ψ toF32 s event).2) =
      keyEvent s.capture stroke.key (if stroke.down then .pressed else .released) := by
  cases event <;> cases h
  all_goals simp [capturedInput, Option.map_map, Function.comp_def]

omit [BEq φ] in
theorem buttonOfDetail_ne_key {detail : UInt32} {state : KeyState} {key : KeyEvent} :
    (buttonOfDetail detail state : Option (InputEvent φ)) ≠ some (.key key) := by
  unfold buttonOfDetail x11ButtonEvent
  split
  next => split <;> exact nofun
  next => exact nofun

/-- Every other event leaves the state as it was, and is not captured as a key. -/
theorem captured_of_not_stroke (h : event.stroke = none) :
    (captured ψ toF32 s event).2 = s.capture ∧
      ∀ input ∈ (captured ψ toF32 s event).1, ∀ key, input.event ≠ .key key := by
  cases event with
  | xinputRawKeyPress | xinputRawKeyRelease => cases h
  | xinputRawButtonPress | xinputRawButtonRelease =>
    refine ⟨rfl, fun input hInput key hKey => ?_⟩
    obtain ⟨button, hButton, rfl⟩ := Option.map_eq_some_iff.mp hInput
    exact buttonOfDetail_ne_key (hButton.trans (congrArg some hKey))
  | xinputRawMotion valuatorMask axisvaluesRaw =>
    refine ⟨rfl, fun input hInput key hKey => ?_⟩
    obtain ⟨motion, hMotion, rfl⟩ := Option.map_eq_some_iff.mp hInput
    obtain ⟨deltas, -, rfl⟩ := Option.map_eq_some_iff.mp hMotion
    cases hKey
  | other => exact ⟨rfl, nofun⟩

/-- An event keeps the flags right if and only if it lets no key go while the other of its pair is
held. -/
theorem exact_iff (hExact : Exact s) (hStep : tracking ψ toF32 s event = some after) :
    Exact after ↔ KeyAlone s event := by
  unfold tracking at hStep
  unfold KeyAlone
  cases hStroke : event.stroke with
  | none =>
    rw [hStroke] at hStep
    obtain rfl := Option.some.inj hStep
    refine iff_of_true ?_ nofun
    rwa [(captured_of_not_stroke hStroke).1]
  | some stroke =>
    rw [hStroke] at hStep
    obtain ⟨held, hPress, rfl⟩ := Option.map_eq_some_iff.mp hStep
    have hCapture := (Prod.ext_iff.mp (captured_of_stroke ψ toF32 s hStroke)).2
    dsimp only at hCapture
    have hLatched : Exact ⟨held, (captured ψ toF32 s event).2⟩ ↔
        Alone modifierOfDetail s.held stroke := by
      refine latched_iff hPress (modifierOfDetail_mem _) hExact fun modifier hMem => ?_
      rw [hCapture, keyEvent_latch hMem]
      cases stroke.down <;> simp
    exact hLatched.trans (by simp)

/-- What is returned carries the modifiers that are tracked after the event. -/
theorem captured_carries (hStep : tracking ψ toF32 s event = some after)
    {input : CapturedInput φ ψ} {key : KeyEvent} (hInput : input ∈ (captured ψ toF32 s event).1)
    (hKey : input.event = .key key) : key.modifiers = after.capture.modifiers := by
  unfold tracking at hStep
  cases hStroke : event.stroke with
  | none => exact absurd hKey ((captured_of_not_stroke hStroke).2 input hInput key)
  | some stroke =>
    rw [hStroke] at hStep
    obtain ⟨held, -, rfl⟩ := Option.map_eq_some_iff.mp hStep
    obtain ⟨hEvent, hCapture⟩ := Prod.ext_iff.mp (captured_of_stroke ψ toF32 s hStroke)
    dsimp only at hEvent hCapture
    rw [hCapture]
    refine keyEvent_carries ?_
    rw [← hEvent, hInput, Option.map_some, hKey]

variable (ψ toF32) in
/-- All along a history, each flag is set if and only if a key of its modifier is held, and the keys
that are returned carry these flags. -/
structure Tracked (events : List X11Event) : Prop where
  flags : ∀ before after s, events = before ++ after →
    run (tracking ψ toF32) {} before = some s → Exact s
  carried : ∀ before event after s s', events = before ++ event :: after →
    run (tracking ψ toF32) {} before = some s → tracking ψ toF32 s event = some s' →
    ∀ input ∈ (captured ψ toF32 s event).1, ∀ key, input.event = .key key →
      key.modifiers = s'.capture.modifiers

variable (ψ toF32) in
/-- The flags are right exactly in the histories in which no modifier key is let go while the other
of its pair is held. -/
theorem tracked_iff (hRun : run (tracking ψ toF32) {} events = some after) :
    Tracked ψ toF32 events ↔
      Along (fun s event _ => KeyAlone s event) (tracking ψ toF32) {} events := by
  have hStart : Exact {} := by
    unfold Exact
    decide +kernel
  have hFlags := invariant_iff_along (fun _ _ _ hExact hStep => exact_iff hExact hStep) hStart hRun
  rw [← hFlags]
  constructor
  · exact fun h => h.flags
  · refine fun h => ⟨h, fun _ _ _ _ _ _ _ hStep input hInput key hKey => ?_⟩
    exact captured_carries hStep hInput hKey

/-- A shift key and a control key overlap, and then the other shift key is pressed. -/
def crossed : List X11Event :=
  [.xinputRawKeyPress 50, .xinputRawKeyPress 105, .xinputRawButtonPress 4, .xinputRawKeyRelease 50,
    .xinputRawKeyPress 62, .other, .xinputRawKeyRelease 105, .xinputRawKeyRelease 62]

theorem tracked_crossed : Tracked ℕ (fun value : Fp3232 => value.integral) crossed := by
  have hRun : run (tracking ℕ fun value : Fp3232 => value.integral) {} crossed = some {} := by
    decide +kernel
  exact (tracked_iff ℕ _ hRun).mpr (by decide +kernel)

/-- Both shift keys are held, and the left one is let go. -/
def rolled : List X11Event :=
  [.xinputRawKeyPress 50, .xinputRawKeyPress 62, .xinputRawKeyRelease 50]

/-- No modifier is tracked while the right key is held. -/
theorem rolled_not_tracked :
    run (tracking ℕ fun value : Fp3232 => value.integral) {} rolled = some ⟨{62}, ⟨.none⟩⟩ ∧
      modifierOfDetail 62 = some .shift ∧
      ¬ Tracked ℕ (fun value : Fp3232 => value.integral) rolled := by
  have hRun : run (tracking ℕ fun value : Fp3232 => value.integral) {} rolled =
      some ⟨{62}, ⟨.none⟩⟩ := by decide +kernel
  refine ⟨hRun, by decide +kernel, fun h => ?_⟩
  have hExact := h.flags rolled [] _ (List.append_nil rolled).symm hRun .shift (by decide)
  exact absurd (hExact.mpr ⟨62, by decide +kernel⟩) (by decide)

end Histories

end X11

end Kmsync
