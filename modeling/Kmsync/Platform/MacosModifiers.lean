import Kmsync.Platform.MacosCapture
import Kmsync.ProofKit.SharedFlags

/-! The modifier keys of macOS over whole histories.  A key that is let go while the other of its
pair is held leaves the flag set, and is reported as pressed once more. -/

namespace Kmsync.Macos

open ProofKit

section Histories

variable {ψ : Type}

/-- The flag that a modifier key shares with the other of its pair. -/
def sharedFlag : Key → Option CGEventFlag
  | .leftShift | .rightShift => some .shift
  | .leftControl | .rightControl => some .control
  | .leftAlt | .rightAlt => some .alternate
  | .leftMeta | .rightMeta => some .command
  | _ => none

theorem modifierIsActive_eq {flags : CGEventFlag → Bool} {key : Key} {flag : CGEventFlag}
    (h : sharedFlag key = some flag) : modifierIsActive flags key = flags flag := by
  unfold sharedFlag at h
  split at h <;> cases h <;> rfl

/-- What a modifier key did, and the event that tells of it. -/
structure ModifierChange (ψ : Type) where
  key : Key
  state : KeyState
  event : CGEvent ψ

def ModifierChange.stroke (change : ModifierChange ψ) : Stroke Key :=
  ⟨change.key, change.state = .pressed⟩

/-- The event has the code of the key, and each flag that it shows is that of a key then held. -/
def ModifierChange.Tells (change : ModifierChange ψ) (held : Finset Key) : Prop :=
  keyOfEvent change.event = some change.key ∧
    ∀ flag ∈ CGEventFlag.all, change.event.flags flag = true ↔ Shown sharedFlag held flag

instance (change : ModifierChange ψ) (held : Finset Key) : Decidable (change.Tells held) :=
  inferInstanceAs (Decidable (_ ∧ _))

/-- One change: of a modifier key, which is up when it is pressed and held when it is let go. -/
def history (held : Finset Key) (change : ModifierChange ψ) : Option (Finset Key) :=
  if (sharedFlag change.key).isSome then
    (press held change.stroke).filter fun after => change.Tells after
  else none

variable {held after : Finset Key} {change : ModifierChange ψ} {changes : List (ModifierChange ψ)}

theorem history_eq_some (h : history held change = some after) :
    (∃ flag, sharedFlag change.key = some flag) ∧ press held change.stroke = some after ∧
      change.Tells after := by
  unfold history at h
  split at h
  next hFlag =>
    obtain ⟨hPress, hTells⟩ := Option.filter_eq_some_iff.mp h
    exact ⟨Option.isSome_iff_exists.mp hFlag, hPress, of_decide_eq_true hTells⟩
  next => cases h

/-- The keys of a history are pressed and let go in turn. -/
theorem run_press (hRun : run history held changes = some after) :
    run press held (changes.map (·.stroke)) = some after := by
  induction changes generalizing held with
  | nil => exact hRun
  | cons change changes ih =>
    obtain ⟨next, hStep, hRest⟩ := run_cons_eq_some.mp hRun
    exact run_cons_eq_some.mpr ⟨next, (history_eq_some hStep).2.1, ih hRest⟩

end Histories

section Reports

variable (φ : Type) [IntCast φ] {ψ : Type} {held after : Finset Key} {change : ModifierChange ψ}
  {changes : List (ModifierChange ψ)}

/-- What is reported of a key. -/
def reportOf (change : ModifierChange ψ) : Option (Stroke Key) :=
  match (macCaptureEvent .flagsChanged change.event : Option (CapturedInput φ ψ)) with
  | some ⟨.key event, _⟩ => some ⟨event.key, event.state = .pressed⟩
  | _ => none

def reports (changes : List (ModifierChange ψ)) : List (Stroke Key) :=
  changes.filterMap (reportOf φ)

theorem reportOf_eq (h : change.Tells after) :
    reportOf φ change = some ⟨change.key, modifierIsActive change.event.flags change.key⟩ := by
  simp only [reportOf, macCaptureEvent, h.1, keyInput, Option.map_some]
  cases modifierIsActive change.event.flags change.key <;> rfl

/-- A change is reported as it is, if and only if the other key does not stand in for it. -/
theorem reportOf_iff (h : history held change = some after) :
    reportOf φ change = some change.stroke ↔ Alone sharedFlag held change.stroke := by
  obtain ⟨⟨flag, hFlag⟩, hPress, hTells⟩ := history_eq_some h
  rw [← shown_press_iff hPress hFlag, ← hTells.2 flag (by cases flag <;> decide),
    reportOf_eq φ hTells, modifierIsActive_eq hFlag, Bool.coe_iff_coe]
  simp [ModifierChange.stroke]

/-- Every change is reported as it is; so each key's reports alternate, and once all keys are up the
last of each is a release. -/
structure Followed (changes : List (ModifierChange ψ)) (held : Finset Key) : Prop where
  reported : reports φ changes = changes.map (·.stroke)
  alternate : ∀ key, Alternate false (strokesOf key (reports φ changes))
  released : held = ∅ → ∀ key, (strokesOf key (reports φ changes)).getLastD false = false

theorem reports_eq_iff (hRun : run history held changes = some after) :
    reports φ changes = changes.map (·.stroke) ↔
      ∀ change ∈ changes, reportOf φ change = some change.stroke := by
  induction changes generalizing held with
  | nil => exact iff_of_true rfl fun change hMem => absurd hMem List.not_mem_nil
  | cons change changes ih =>
    obtain ⟨next, hStep, hRest⟩ := run_cons_eq_some.mp hRun
    have hReport := reportOf_eq φ (history_eq_some hStep).2.2
    rw [List.forall_mem_cons, ← ih hRest, reports, List.filterMap_cons_some hReport, List.map_cons,
      List.cons.injEq, hReport, Option.some.injEq]
    rfl

/-- The reports follow the keys exactly in the histories in which no modifier key is let go while
the other of its pair is held. -/
theorem followed_iff (hRun : run history ∅ changes = some held) :
    Followed φ changes held ↔
      Along (fun held change _ => Alone sharedFlag held change.stroke) history ∅ changes := by
  have hAlong : Along (fun held change _ => Alone sharedFlag held change.stroke) history ∅ changes ↔
      Along (fun _ change _ => reportOf φ change = some change.stroke) history ∅ changes :=
    along_congr (fun _ _ _ _ hStep => (reportOf_iff φ hStep).symm) hRun
  rw [hAlong]
  constructor
  · intro h
    exact along_of_forall ((reports_eq_iff φ hRun).mp h.reported)
  · intro h
    have hReported := (reports_eq_iff φ hRun).mpr (forall_of_along hRun h)
    have hPress := run_press hRun
    refine ⟨hReported, fun key => ?_, fun hUp key => ?_⟩
    · have hAlternate := alternate_of_run hPress key
      rw [hReported]
      simpa using hAlternate
    · have hLast := getLastD_strokesOf hPress key
      rw [hReported]
      simpa [hUp] using hLast

/-- The event of a key, by its code, with the keys that are held then. -/
def flagsChanged (keycode : ℤ) (held : Finset Key) : CGEvent ℕ where
  location := ⟨0, 0⟩
  keyboardEventKeycode := keycode
  mouseEventDeltaX := 0
  mouseEventDeltaY := 0
  scrollWheelEventDeltaAxis1 := 0
  scrollWheelEventDeltaAxis2 := 0
  flags flag := decide (Shown sharedFlag held flag)

/-- A shift key and a control key overlap, and then the other shift key is pressed. -/
def crossed : List (ModifierChange ℕ) :=
  [⟨.leftShift, .pressed, flagsChanged 0x38 {.leftShift}⟩,
    ⟨.rightControl, .pressed, flagsChanged 0x3e {.leftShift, .rightControl}⟩,
    ⟨.leftShift, .released, flagsChanged 0x38 {.rightControl}⟩,
    ⟨.rightShift, .pressed, flagsChanged 0x3c {.rightControl, .rightShift}⟩,
    ⟨.rightControl, .released, flagsChanged 0x3e {.rightShift}⟩,
    ⟨.rightShift, .released, flagsChanged 0x3c ∅⟩]

theorem followed_crossed : Followed ℤ crossed ∅ :=
  (followed_iff ℤ (by decide +kernel)).mpr (by decide +kernel)

/-- Both shift keys are held, and then let go. -/
def rolled : List (ModifierChange ℕ) :=
  [⟨.leftShift, .pressed, flagsChanged 0x38 {.leftShift}⟩,
    ⟨.rightShift, .pressed, flagsChanged 0x3c {.leftShift, .rightShift}⟩,
    ⟨.leftShift, .released, flagsChanged 0x38 {.rightShift}⟩,
    ⟨.rightShift, .released, flagsChanged 0x3c ∅⟩]

/-- The left key is reported as pressed twice, and never as released. -/
theorem rolled_not_followed :
    run history ∅ rolled = some ∅ ∧
      strokesOf .leftShift (reports ℤ rolled) = [true, true] ∧ ¬ Followed ℤ rolled ∅ := by
  have hReports : strokesOf .leftShift (reports ℤ rolled) = [true, true] := by decide +kernel
  refine ⟨by decide +kernel, hReports, fun h => ?_⟩
  have hLast := h.released rfl .leftShift
  rw [hReports] at hLast
  exact nomatch hLast

end Reports

end Kmsync.Macos
