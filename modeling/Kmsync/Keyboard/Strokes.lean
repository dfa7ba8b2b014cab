import Kmsync.Keyboard.Keymap
import Kmsync.ProofKit.Answered
import Mathlib.Algebra.Ring.Int.Defs

/-! Presses and releases through a profile.  An event that is a shortcut comes out under the key of
its translation, any other under the key of the map, and the modifiers that decide between the two
may change while a key is held. -/

namespace Kmsync

open ProofKit

variable {φ : Type}

section Compile

/-- The key that a profile maps a key to. -/
def Profile.mappedKey (profile : Profile φ) (key : Key) : Key :=
  ((profile.keyMappings.find? (·.fromKey = key)).map KeyMapping.toKey).getD key

theorem compileMappings_of_seen {seen : Key → Bool} {keyMap result : Key → Key}
    {mappings : List KeyMapping} (h : compileMappings seen keyMap mappings = .ok result) {key : Key}
    (hSeen : seen key) : result key = keyMap key := by
  induction mappings generalizing seen keyMap with
  | nil =>
    cases h
    rfl
  | cons mapping mappings ih =>
    rw [compileMappings] at h
    split at h
    next => cases h
    next hFresh =>
      have hKey : key ≠ mapping.fromKey := fun hEq => hFresh (hEq ▸ hSeen)
      rw [ih h (by rwa [Function.update_of_ne hKey]), Function.update_of_ne hKey]

/-- The compiled map sends a key to the target of its mapping, and to itself without one. -/
theorem compileMappings_eq_ok {seen : Key → Bool} {keyMap result : Key → Key}
    {mappings : List KeyMapping} (h : compileMappings seen keyMap mappings = .ok result)
    (key : Key) :
    result key =
      ((mappings.find? (·.fromKey = key)).map KeyMapping.toKey).getD (keyMap key) := by
  induction mappings generalizing seen keyMap with
  | nil =>
    cases h
    rfl
  | cons mapping mappings ih =>
    rw [compileMappings] at h
    split at h
    next => cases h
    next hFresh =>
      by_cases hKey : mapping.fromKey = key
      · subst hKey
        rw [compileMappings_of_seen h (Function.update_self _ _ _), Function.update_self,
          List.find?_cons_of_pos (by simp)]
        rfl
      · rw [ih h, Function.update_of_ne (Ne.symm hKey),
          List.find?_cons_of_neg (by simpa using hKey)]

/-- The mappings are accepted exactly when no key is mapped twice. -/
theorem compileMappings_isOk_iff (seen : Key → Bool) (keyMap : Key → Key)
    (mappings : List KeyMapping) :
    (∃ result, compileMappings seen keyMap mappings = .ok result) ↔
      (mappings.map KeyMapping.fromKey).Nodup ∧ ∀ mapping ∈ mappings, ¬ seen mapping.fromKey := by
  induction mappings generalizing seen keyMap with
  | nil => exact iff_of_true ⟨_, rfl⟩ ⟨List.nodup_nil, by simp⟩
  | cons mapping mappings ih =>
    rw [compileMappings, List.map_cons, List.nodup_cons, List.forall_mem_cons]
    by_cases hSeen : seen mapping.fromKey
    · rw [if_pos hSeen]
      exact iff_of_false (by rintro ⟨_, ⟨⟩⟩) fun h => h.2.1 hSeen
    · have hRest : (∀ m ∈ mappings, ¬ Function.update seen mapping.fromKey true m.fromKey) ↔
          mapping.fromKey ∉ mappings.map KeyMapping.fromKey ∧ ∀ m ∈ mappings, ¬ seen m.fromKey := by
        simp only [Function.update_apply, List.mem_map, not_exists, not_and, ← forall_and]
        refine forall_congr' fun m => forall_congr' fun _ => ?_
        by_cases hKey : m.fromKey = mapping.fromKey <;> simp [hKey]
      rw [if_neg hSeen, ih, hRest]
      tauto

theorem compile_isOk_iff (profile : Profile φ) :
    (∃ compiled, CompiledProfile.compile profile = .ok compiled) ↔
      (profile.keyMappings.map KeyMapping.fromKey).Nodup := by
  have hLoop := compileMappings_isOk_iff (fun _ => false) id profile.keyMappings
  simp only [Bool.false_eq_true, not_false_eq_true, implies_true, and_true] at hLoop
  rw [← hLoop, CompiledProfile.compile]
  cases compileMappings (fun _ => false) id profile.keyMappings with
  | ok keyMap => exact iff_of_true ⟨_, rfl⟩ ⟨_, rfl⟩
  | error e => exact iff_of_false (by rintro ⟨_, ⟨⟩⟩) (by rintro ⟨_, ⟨⟩⟩)

/-- What a compiled profile keeps of its source. -/
structure Compiles (profile : Profile φ) (compiled : CompiledProfile φ) : Prop where
  sourceOs : compiled.sourceOs = profile.sourceOs
  targetOs : compiled.targetOs = profile.targetOs
  functionKeyMode : compiled.functionKeyMode = profile.functionKeyMode
  keyboardMode : compiled.keyboardMode = profile.keyboardMode
  keyMap : ∀ key, compiled.keyMap key = profile.mappedKey key

theorem compiles_of_compile {profile : Profile φ} {compiled : CompiledProfile φ}
    (h : CompiledProfile.compile profile = .ok compiled) : Compiles profile compiled := by
  rw [CompiledProfile.compile] at h
  cases hMap : compileMappings (fun _ => false) id profile.keyMappings with
  | error e =>
    rw [hMap] at h
    cases h
  | ok keyMap =>
    rw [hMap] at h
    cases h
    exact ⟨rfl, rfl, rfl, rfl, compileMappings_eq_ok hMap⟩

end Compile

section Shortcuts

/-- The keys that are part of a shortcut on every system. -/
def shortcutKeys : List Key := [.tab, .c, .v, .x, .z, .a, .f]

/-- The shortcut that an event is translated as. -/
def Profile.shortcut (profile : Profile φ) (event : KeyEvent) : Option ShortcutAction :=
  if profile.keyboardMode = .text then ShortcutAction.fromKeyEvent profile.sourceOs event else none

/-- The keys of the shortcuts are where their translations have them: the map leaves them in place
and takes the redo key of the source system to that of the target system. -/
def Profile.KeepsShortcutKeys (profile : Profile φ) : Prop :=
  profile.keyboardMode = .text →
    profile.mappedKey (redoShortcut profile.sourceOs).1 = (redoShortcut profile.targetOs).1 ∧
      ∀ key ∈ shortcutKeys, profile.mappedKey key = key

/-- A primary shortcut keeps its key on every system. -/
theorem chordForOs_of_primary {key : Key} {action : ShortcutAction}
    (h : ShortcutAction.fromPrimaryShortcutKey key = some action) (targetOs : OsKind) :
    key ∈ shortcutKeys ∧ (action.chordForOs targetOs).1 = key := by
  unfold ShortcutAction.fromPrimaryShortcutKey at h
  split at h <;> cases h <;> exact ⟨by decide, rfl⟩

theorem switchAppShortcut_fst (targetOs : OsKind) : (switchAppShortcut targetOs).1 = .tab := by
  cases targetOs <;> rfl

/-- A shortcut is the redo chord of its system, or its translation has its key. -/
theorem chordForOs_of_shortcut {sourceOs : OsKind} {event : KeyEvent} {action : ShortcutAction}
    (h : ShortcutAction.fromKeyEvent sourceOs event = some action) (targetOs : OsKind) :
    action = .redo ∧ event.key = (redoShortcut sourceOs).1 ∨
      event.key ∈ shortcutKeys ∧ (action.chordForOs targetOs).1 = event.key := by
  have hChord : (event.key = .tab ∧ action = .switchApp) ∨
      (event.key = (redoShortcut sourceOs).1 ∧ action = .redo) ∨
      ShortcutAction.fromPrimaryShortcutKey event.key = some action := by
    cases sourceOs <;>
      simp only [ShortcutAction.fromKeyEvent, ShortcutAction.fromMacosKeyEvent,
        ShortcutAction.fromWindowsLikeKeyEvent] at h <;>
      split_ifs at h with hTab hRedo hPlain
    all_goals first
      | exact .inl ⟨hTab.1, (Option.some.inj h).symm⟩
      | exact .inr (.inl ⟨hRedo.1, (Option.some.inj h).symm⟩)
      | exact .inr (.inr h)
  obtain ⟨hKey, rfl⟩ | ⟨hKey, rfl⟩ | hPrimary := hChord
  · rw [hKey]
    exact .inr ⟨by decide, switchAppShortcut_fst targetOs⟩
  · exact .inl ⟨rfl, hKey⟩
  · exact .inr (chordForOs_of_primary hPrimary targetOs)

theorem fromKeyEvent_redo (sourceOs : OsKind) (state : KeyState) :
    ShortcutAction.fromKeyEvent sourceOs
      ⟨(redoShortcut sourceOs).1, state, (redoShortcut sourceOs).2⟩ = some .redo := by
  cases sourceOs <;> rfl

/-- Each of the shortcut keys has a shortcut. -/
theorem exists_shortcut (sourceOs : OsKind) (state : KeyState) {key : Key}
    (h : key ∈ shortcutKeys) :
    ∃ modifiers action, ShortcutAction.fromKeyEvent sourceOs ⟨key, state, modifiers⟩ = some action ∧
      ∀ targetOs, (action.chordForOs targetOs).1 = key := by
  by_cases hTab : key = .tab
  · subst hTab
    exact ⟨(switchAppShortcut sourceOs).2, .switchApp, by cases sourceOs <;> rfl,
      switchAppShortcut_fst⟩
  · have hPrimary : ∃ action, ShortcutAction.fromPrimaryShortcutKey key = some action ∧
        ShortcutAction.fromKeyEvent sourceOs
          ⟨key, state, primaryShortcutModifier sourceOs⟩ = some action := by
      simp only [shortcutKeys, List.mem_cons, List.not_mem_nil, or_false] at h
      obtain rfl | rfl | rfl | rfl | rfl | rfl | rfl := h
      · exact absurd rfl hTab
      all_goals cases sourceOs <;> exact ⟨_, rfl, rfl⟩
    obtain ⟨action, hAction, hEvent⟩ := hPrimary
    exact ⟨_, action, hEvent, fun targetOs => (chordForOs_of_primary hAction targetOs).2⟩

/-- A profile keeps the shortcut keys when each shortcut is translated to the key that the map has
for its own. -/
theorem keepsShortcutKeys_iff (profile : Profile φ) :
    profile.KeepsShortcutKeys ↔ ∀ event action, profile.shortcut event = some action →
      (action.chordForOs profile.targetOs).1 = profile.mappedKey event.key := by
  by_cases hText : profile.keyboardMode = .text
  · simp only [Profile.KeepsShortcutKeys, Profile.shortcut, hText, forall_const, if_true]
    constructor
    · rintro ⟨hRedo, hKeys⟩ event action hAction
      obtain ⟨rfl, hKey⟩ | ⟨hMem, hChord⟩ := chordForOs_of_shortcut hAction profile.targetOs
      · rw [hKey, hRedo]
        rfl
      · rw [hChord, hKeys event.key hMem]
    · intro h
      refine ⟨(h _ _ (fromKeyEvent_redo profile.sourceOs .pressed)).symm, fun key hMem => ?_⟩
      obtain ⟨modifiers, action, hAction, hChord⟩ := exists_shortcut profile.sourceOs .pressed hMem
      rw [← h _ _ hAction, hChord]
  · simp only [Profile.KeepsShortcutKeys, Profile.shortcut, hText, if_false, false_imp_iff,
      reduceCtorEq, implies_true]

end Shortcuts

section Strokes

/-- Each press of a key has a release of that key behind it. -/
def PressesReleased : List KeyEvent → Prop :=
  Answered (·.state = .pressed) fun press release =>
    release.key = press.key ∧ release.state = .released

instance (events : List KeyEvent) : Decidable (PressesReleased events) :=
  inferInstanceAs (Decidable (Answered _ _ events))

/-- Each press of a key has a release of that key behind it that is the same shortcut, or none if
the press is none. -/
def ShortcutsReleased (profile : Profile φ) : List KeyEvent → Prop :=
  Answered (·.state = .pressed) fun press release =>
    (release.key = press.key ∧ release.state = .released) ∧
      profile.shortcut release = profile.shortcut press

theorem functionRowMediaKey_of_mem {key : Key} (h : key ∈ shortcutKeys) :
    functionRowMediaKey key = none := by
  simp only [shortcutKeys, List.mem_cons, List.not_mem_nil, or_false] at h
  obtain rfl | rfl | rfl | rfl | rfl | rfl | rfl := h <;> rfl

variable {profile : Profile φ} {compiled : CompiledProfile φ}

@[simp] theorem transformKeyEvent_state (compiled : CompiledProfile φ) (event : KeyEvent) :
    (compiled.transformKeyEvent event).state = event.state := by
  unfold CompiledProfile.transformKeyEvent
  split
  next => rfl
  next => split <;> rfl

/-- The media row is the same with and without modifiers. -/
theorem transformKeyEvent_key_of_none (compiled : CompiledProfile φ) {event : KeyEvent}
    (h : (if compiled.keyboardMode = .text then
      ShortcutAction.fromKeyEvent compiled.sourceOs event else none) = none) :
    (compiled.transformKeyEvent event).key = compiled.transformKey event.key := by
  rw [CompiledProfile.transformKeyEvent, h]
  dsimp only
  split
  next key hMedia =>
    split at hMedia
    next hMode => rw [CompiledProfile.transformKey, if_pos hMode.2, hMedia]
    next => cases hMedia
  next => rfl

/-- The key that an event comes out under. -/
theorem transformKeyEvent_key (h : Compiles profile compiled) (event : KeyEvent) :
    (compiled.transformKeyEvent event).key =
      (profile.shortcut event).elim (compiled.transformKey event.key)
        fun action => (action.chordForOs profile.targetOs).1 := by
  have hShortcut : (if compiled.keyboardMode = .text then
      ShortcutAction.fromKeyEvent compiled.sourceOs event else none) = profile.shortcut event := by
    rw [h.keyboardMode, h.sourceOs, Profile.shortcut]
  cases hAction : profile.shortcut event with
  | some action =>
    rw [CompiledProfile.transformKeyEvent, hShortcut, hAction, h.targetOs]
    rfl
  | none => exact transformKeyEvent_key_of_none compiled (hShortcut.trans hAction)

/-- The key of a shortcut goes through the map alone. -/
theorem transformKey_of_shortcut (h : Compiles profile compiled) {event : KeyEvent}
    {action : ShortcutAction} (hAction : profile.shortcut event = some action) :
    compiled.transformKey event.key = profile.mappedKey event.key := by
  have hRow : functionRowMediaKey event.key = none := by
    unfold Profile.shortcut at hAction
    split at hAction
    next =>
      obtain ⟨-, hKey⟩ | ⟨hMem, -⟩ := chordForOs_of_shortcut hAction profile.targetOs
      · rw [hKey]
        cases profile.sourceOs <;> rfl
      · exact functionRowMediaKey_of_mem hMem
    next => cases hAction
  rw [CompiledProfile.transformKey, hRow, ite_self, h.keyMap]

/-- Without modifiers no event is a shortcut. -/
theorem shortcut_none (profile : Profile φ) (key : Key) (state : KeyState) :
    profile.shortcut ⟨key, state, .none⟩ = none := by
  have hMeta : Modifiers.none ≠ .metaModifier := by decide
  have hRedo : Modifiers.none ≠ .withModifier .metaModifier .shift := by decide
  have hAlt : Modifiers.none ≠ .alt := by decide
  have hControl : Modifiers.none ≠ .control := by decide
  unfold Profile.shortcut
  split
  · cases profile.sourceOs <;>
      simp only [ShortcutAction.fromKeyEvent, ShortcutAction.fromMacosKeyEvent,
        ShortcutAction.fromWindowsLikeKeyEvent, hMeta, hRedo, hAlt, hControl, and_false, if_false,
        ne_eq, not_false_eq_true, if_true]
  · rfl

/-- Where no shortcut moves a key, the modifiers do not matter to it. -/
theorem transformKeyEvent_key_of_keeps (h : Compiles profile compiled)
    (hKeeps : profile.KeepsShortcutKeys) (event : KeyEvent) :
    (compiled.transformKeyEvent event).key = compiled.transformKey event.key := by
  rw [transformKeyEvent_key h]
  cases hAction : profile.shortcut event with
  | none => rfl
  | some action =>
    rw [transformKey_of_shortcut h hAction]
    exact (keepsShortcutKeys_iff profile).mp hKeeps event action hAction

theorem pressesReleased_map_iff (compiled : CompiledProfile φ) (events : List KeyEvent) :
    PressesReleased (events.map compiled.transformKeyEvent) ↔
      Answered (·.state = .pressed) (fun press release =>
        (compiled.transformKeyEvent release).key = (compiled.transformKeyEvent press).key ∧
          release.state = .released) events := by
  rw [PressesReleased, Answered.map_iff]
  simp only [transformKeyEvent_state]

/-- A profile keeps presses and releases of the same key together, whatever the modifiers do in
between, exactly when no shortcut moves a key away from where the map has it.  With any profile a
press stays with a release that is the same shortcut. -/
theorem pressesReleased_iff (h : CompiledProfile.compile profile = .ok compiled) :
    ((∀ events, PressesReleased events →
        PressesReleased (events.map compiled.transformKeyEvent)) ↔ profile.KeepsShortcutKeys) ∧
      ∀ events, ShortcutsReleased profile events →
        PressesReleased (events.map compiled.transformKeyEvent) := by
  have hCompiled := compiles_of_compile h
  simp only [pressesReleased_map_iff]
  refine ⟨⟨fun hAll => ?_, fun hKeeps events hEvents => ?_⟩, fun events hEvents => ?_⟩
  · rw [keepsShortcutKeys_iff]
    rintro ⟨key, state, modifiers⟩ action hAction
    have hPress : profile.shortcut ⟨key, .pressed, modifiers⟩ = some action := hAction
    -- The key is pressed as the shortcut and released when all modifiers are up.
    have hStroke := hAll [⟨key, .pressed, modifiers⟩, ⟨key, .released, .none⟩]
      ⟨fun _ => ⟨_, List.mem_singleton_self _, rfl, rfl⟩, nofun, trivial⟩
    obtain ⟨release, hRelease, hKey, -⟩ := hStroke.1 rfl
    obtain rfl := List.mem_singleton.mp hRelease
    rw [transformKeyEvent_key hCompiled, transformKeyEvent_key hCompiled, shortcut_none, hPress,
      Option.elim_none, Option.elim_some] at hKey
    rw [← hKey, ← transformKey_of_shortcut hCompiled hAction]
  · refine hEvents.imp fun press release _ hRelease => ?_
    rw [transformKeyEvent_key_of_keeps hCompiled hKeeps,
      transformKeyEvent_key_of_keeps hCompiled hKeeps, hRelease.1]
    exact ⟨rfl, hRelease.2⟩
  · refine hEvents.imp fun press release _ hRelease => ?_
    rw [transformKeyEvent_key hCompiled, transformKeyEvent_key hCompiled, hRelease.2,
      hRelease.1.1]
    exact ⟨rfl, hRelease.1.2⟩

/-- A redo on a keyboard of macOS, in which the shift key is let go before the letter. -/
def redoStroke : List KeyEvent :=
  [⟨.leftMeta, .pressed, .metaModifier⟩,
    ⟨.leftShift, .pressed, .withModifier .metaModifier .shift⟩,
    ⟨.z, .pressed, .withModifier .metaModifier .shift⟩,
    ⟨.leftShift, .released, .metaModifier⟩,
    ⟨.z, .released, .metaModifier⟩,
    ⟨.leftMeta, .released, .none⟩]

/-- The default profile from macOS to Windows, in physical mode. -/
def physicalDefault : Profile Int := { Profile.macToWindowsDefault with keyboardMode := .physical }

theorem pressesReleased_physicalDefault :
    ∃ compiled, CompiledProfile.compile physicalDefault = .ok compiled ∧
      PressesReleased (redoStroke.map compiled.transformKeyEvent) := by
  obtain ⟨compiled, hCompiled⟩ := (compile_isOk_iff physicalDefault).mpr (by decide)
  exact ⟨compiled, hCompiled, (pressesReleased_iff hCompiled).1.mpr nofun redoStroke (by decide)⟩

/-- With the default profile from macOS to Windows the redo presses Y and releases Z. -/
theorem not_pressesReleased_redo :
    PressesReleased redoStroke ∧
      ∃ compiled : CompiledProfile Int,
        CompiledProfile.compile Profile.macToWindowsDefault = .ok compiled ∧
        redoStroke.map compiled.transformKeyEvent =
          [⟨.leftControl, .pressed, .control⟩,
            ⟨.leftShift, .pressed, .withModifier .shift .control⟩,
            ⟨.y, .pressed, .control⟩,
            ⟨.leftShift, .released, .control⟩,
            ⟨.z, .released, .control⟩,
            ⟨.leftControl, .released, .none⟩] ∧
        ¬ PressesReleased (redoStroke.map compiled.transformKeyEvent) := by
  refine ⟨by decide, _, rfl, ?_, ?_⟩ <;> decide

end Strokes

end Kmsync
