import Kmsync.Capture.Geometry
import Kmsync.Core.Protocol

/-! The desktop router decides for each captured input whether it stays on this machine or goes to
the one behind an edge of the screen, and it takes new plans while it runs. -/

namespace Kmsync

section Shortcuts

def Modifiers.with (modifiers modifier : Modifiers) : Modifiers :=
  .fromBits (modifiers.bits ||| modifier.bits)

structure Hotkey where
  key : Key
  modifiers : Modifiers
  deriving DecidableEq

namespace Hotkey

/-- Ctrl+Alt+Esc -/
def defaultRelease : Hotkey := ⟨.escape, Modifiers.control.with .alt⟩

def matchesEvent (hotkey : Hotkey) (event : KeyEvent) : Bool :=
  event.key = hotkey.key ∧ event.state = .pressed ∧
    event.modifiers.bits &&& hotkey.modifiers.bits = hotkey.modifiers.bits

end Hotkey

/-- Ctrl+Alt+Del, and L or Space with the Meta key, in either direction. -/
def isSystemReservedShortcut {φ : Type} : InputEvent φ → Bool
  | .key event =>
    (event.key = .delete ∧ event.modifiers.contains .control ∧ event.modifiers.contains .alt) ∨
      (event.key = .l ∧ event.modifiers.contains .metaModifier) ∨
      (event.key = .space ∧ event.modifiers.contains .metaModifier)
  | _ => false

/-- `u8::to_ascii_lowercase` -/
def toAsciiLowercase (byte : UInt8) : UInt8 :=
  if 0x41 ≤ byte ∧ byte ≤ 0x5a then byte + 0x20 else byte

def containsCaseInsensitive (haystack needle : String) : Bool :=
  let haystack := (asBytes haystack).map toAsciiLowercase
  let needle := (asBytes needle).map toAsciiLowercase
  !needle.isEmpty && haystack.tails.any needle.isPrefixOf

/-- The default has no patterns. -/
structure ApplicationExceptionRules where
  patterns : List String := []

def ApplicationExceptionRules.matchesApplication (rules : ApplicationExceptionRules)
    (applicationId : Option String) : Bool :=
  match applicationId with
  | none => false
  | some applicationId => rules.patterns.any (containsCaseInsensitive applicationId)

theorem matches_default (applicationId : Option String) :
    ({} : ApplicationExceptionRules).matchesApplication applicationId = false := by
  cases applicationId <;> rfl

end Shortcuts

section Plan

inductive ProfileName where
  | macToWindows | windowsToMac
  deriving DecidableEq

structure DesktopDisplayState where
  widthPx : UInt32
  heightPx : UInt32
  deriving DecidableEq

structure DesktopCaptureTarget where
  edge : Edge
  targetDeviceId : String
  profileName : ProfileName
  display : Option DesktopDisplayState
  deriving DecidableEq

structure DesktopCapturePlan where
  targets : List DesktopCaptureTarget
  deriving DecidableEq

end Plan

section Results

inductive CaptureDecision where
  | continueInput | suppress
  deriving DecidableEq

inductive LocalPointerAction (ψ : Type) where
  | hide
  | restore (position : Option (PointerPosition ψ))
  deriving DecidableEq

structure RouteResult (φ ψ : Type) where
  sendRemote : Bool
  decision : CaptureDecision
  entryPosition : Option (PointerEntryPosition φ)
  localPointerAction : Option (LocalPointerAction ψ)

structure DesktopCaptureRouteResult (φ ψ : Type) where
  edge : Option Edge
  targetDeviceId : Option String
  profileName : Option ProfileName
  route : RouteResult φ ψ
  remoteEvent : Option (InputEvent φ)

namespace DesktopCaptureRouteResult

variable {φ ψ : Type}

/-- `DesktopCaptureRouteResult::local` -/
def stayLocal (decision : CaptureDecision) : DesktopCaptureRouteResult φ ψ :=
  ⟨none, none, none, ⟨false, decision, none, none⟩, none⟩

/-- `DesktopCaptureRouteResult::remote` -/
def toRemote (target : DesktopCaptureTarget) (decision : CaptureDecision)
    (entryPosition : Option (PointerEntryPosition φ))
    (localPointerAction : Option (LocalPointerAction ψ)) (remoteEvent : Option (InputEvent φ)) :
    DesktopCaptureRouteResult φ ψ :=
  ⟨some target.edge, some target.targetDeviceId, some target.profileName,
    ⟨true, decision, entryPosition, localPointerAction⟩, remoteEvent⟩

def withPointerAction (result : DesktopCaptureRouteResult φ ψ)
    (action : Option (LocalPointerAction ψ)) : DesktopCaptureRouteResult φ ψ :=
  { result with route := { result.route with localPointerAction := action } }

end DesktopCaptureRouteResult

end Results

/-- What is queued for the sending thread, with the target and the profile to send it with. -/
structure TargetedQueuedInputEvent (φ : Type) where
  targetDeviceId : String
  profileName : ProfileName
  event : InputEvent φ
  deriving DecidableEq

/-- `enqueue_desktop_capture`: the position comes first, then the event. -/
def enqueueDesktopCapture {φ ψ : Type} (route : DesktopCaptureRouteResult φ ψ) :
    List (TargetedQueuedInputEvent φ) :=
  if route.route.sendRemote then
    match route.targetDeviceId, route.profileName with
    | some targetDeviceId, some profileName =>
      let position := route.route.entryPosition.map fun entry =>
        InputEvent.mouse (.position entry.xRatio entry.yRatio)
      (position.toList ++ route.remoteEvent.toList).map fun event =>
        ⟨targetDeviceId, profileName, event⟩
    | _, _ => []
  else
    []

structure CapturedInput (φ ψ : Type) where
  event : InputEvent φ
  pointer : Option (PointerPosition ψ)
  deriving DecidableEq

/-- `default_edge_cooldown`: 250 ms -/
def defaultEdgeCooldown : ℕ := 250_000_000

def cooldownDeadline (now : Instant) (cooldown : ℕ) : Option Instant :=
  if cooldown = 0 then none else some (now + cooldown)

inductive DesktopRemotePointerAction (φ : Type) where
  | event (event : InputEvent φ)
  | release
  | none

structure DesktopCaptureRouter (φ ψ : Type) where
  plan : DesktopCapturePlan
  displayLayout : DisplayLayout ψ
  active : Option DesktopCaptureTarget
  remotePointer : Option (PointerEntryPosition φ)
  cooldownUntil : Option Instant
  localRestorePosition : Option (PointerPosition ψ)

namespace DesktopCaptureRouter

variable {φ ψ : Type}

def withDisplayLayout (plan : DesktopCapturePlan) (displayLayout : DisplayLayout ψ) :
    DesktopCaptureRouter φ ψ :=
  ⟨plan, displayLayout, none, none, none, none⟩

def replacePlan (router : DesktopCaptureRouter φ ψ) (plan : DesktopCapturePlan) :
    DesktopCaptureRouter φ ψ :=
  if router.plan = plan then
    router
  else
    { router with
      plan, active := none, remotePointer := none, cooldownUntil := none
      localRestorePosition := none }

def isReleaseHotkey (captured : CapturedInput φ ψ) (releaseHotkey : Hotkey) : Bool :=
  match captured.event with
  | .key event => releaseHotkey.matchesEvent event
  | _ => false

/-- Control goes back to this machine: what the release hotkey and the return edge do alike. -/
def giveBack (router : DesktopCaptureRouter φ ψ) (now : Instant) : DesktopCaptureRouter φ ψ :=
  { router with
    active := none, remotePointer := none, localRestorePosition := none
    cooldownUntil := cooldownDeadline now defaultEdgeCooldown }

/-- A cooldown that is over is forgotten. -/
def cooldownActive (router : DesktopCaptureRouter φ ψ) (now : Instant) :
    Bool × DesktopCaptureRouter φ ψ :=
  match router.cooldownUntil with
  | none => (false, router)
  | some deadline =>
    if now < deadline then (true, router) else (false, { router with cooldownUntil := none })

variable [FloatLike φ] [FloatLike ψ] [FloatPair φ ψ]

def shouldActivateAtEdge (router : DesktopCaptureRouter φ ψ) (captured : CapturedInput φ ψ)
    (edge : Edge) : Bool :=
  atEdge router.displayLayout captured.pointer edge && edgeActivationMotionMatches captured.event edge

/-- A move over the edge of a target makes it active. -/
def activateAtEdge (router : DesktopCaptureRouter φ ψ) (captured : CapturedInput φ ψ) :
    Option (PointerEntryPosition φ) × Option (LocalPointerAction ψ) × DesktopCaptureRouter φ ψ :=
  match router.plan.targets.find? fun target => router.shouldActivateAtEdge captured target.edge with
  | none => (none, none, router)
  | some target =>
    let entry := entryPosition router.displayLayout captured.pointer target.edge
    (entry, some .hide,
      { router with
        localRestorePosition := captured.pointer, remotePointer := entry, active := some target })

/-- The first half of `route_at_with_application`, which may make a target active. -/
def activate (router : DesktopCaptureRouter φ ψ) (captured : CapturedInput φ ψ) (now : Instant) :
    Option (PointerEntryPosition φ) × Option (LocalPointerAction ψ) × DesktopCaptureRouter φ ψ :=
  if router.active.isSome then
    (none, none, router)
  else
    match router.cooldownActive now with
    | (true, router) => (none, none, router)
    | (false, router) => router.activateAtEdge captured

def remotePointerReferenceSize (router : DesktopCaptureRouter φ ψ)
    (display : Option DesktopDisplayState) : Option (ψ × ψ) :=
  let ofLayout :=
    match router.displayLayout.virtualBounds with
    | none => none
    | some bounds =>
      if bounds.width ≤ 0 ∨ bounds.height ≤ 0 then none else some (bounds.width, bounds.height)
  match display with
  | some display =>
    if display.widthPx > 0 ∧ display.heightPx > 0 then
      some ((display.widthPx.toNat : ψ), (display.heightPx.toNat : ψ))
    else
      ofLayout
  | none => ofLayout

def remotePointerActionForMove (router : DesktopCaptureRouter φ ψ) (dx dy : φ) (activeEdge : Edge)
    (activeDisplay : Option DesktopDisplayState) :
    DesktopRemotePointerAction φ × DesktopCaptureRouter φ ψ :=
  if dx == 0 && dy == 0 then
    (.none, router)
  else
    match router.remotePointerReferenceSize activeDisplay with
    | none => (.none, router)
    | some (width, height) =>
      let position := router.remotePointer.getD ⟨FloatLike.half, FloatLike.half⟩
      let nextX := position.xRatio + FloatPair.narrow (FloatPair.widen dx / width)
      let nextY := position.yRatio + FloatPair.narrow (FloatPair.widen dy / height)
      if remotePointerCrossedReturnEdge activeEdge nextX nextY dx dy then
        (.release, router)
      else
        (.event (.mouse (.move dx dy)),
          { router with remotePointer := some ⟨clamp nextX 0 1, clamp nextY 0 1⟩ })

def remoteEventForActiveCapture (router : DesktopCaptureRouter φ ψ) (event : InputEvent φ)
    (activeEdge : Edge) (activeDisplay : Option DesktopDisplayState) :
    DesktopRemotePointerAction φ × DesktopCaptureRouter φ ψ :=
  match event with
  | .mouse (.move dx dy) => router.remotePointerActionForMove dx dy activeEdge activeDisplay
  | event => (.event event, router)

/-- Only a button needs the pointer to be where it is on this side. -/
def desktopRemoteEventNeedsPointerSync (event : Option (InputEvent φ)) : Bool :=
  match event with
  | some (.mouse (.button _ _)) => true
  | _ => false

/-- The result for an event that goes to the active target. -/
def remoteResult (router : DesktopCaptureRouter φ ψ) (active : DesktopCaptureTarget)
    (entry : Option (PointerEntryPosition φ)) (localPointerAction : Option (LocalPointerAction ψ))
    (remoteEvent : Option (InputEvent φ)) : DesktopCaptureRouteResult φ ψ :=
  let entry :=
    entry.or (if desktopRemoteEventNeedsPointerSync remoteEvent then router.remotePointer else none)
  .toRemote active .suppress entry localPointerAction remoteEvent

/-- The second half of `route_at_with_application`, with an active target.  The move that has made
it active moves the remote pointer on from the place where it enters. -/
def routeActive (router : DesktopCaptureRouter φ ψ) (active : DesktopCaptureTarget)
    (captured : CapturedInput φ ψ) (now : Instant) (entry : Option (PointerEntryPosition φ))
    (localPointerAction : Option (LocalPointerAction ψ)) :
    DesktopCaptureRouteResult φ ψ × DesktopCaptureRouter φ ψ :=
  if entry.isSome then
    match captured.event with
    | .mouse (.move _ _) =>
      match router.remoteEventForActiveCapture captured.event active.edge active.display with
      | (.event event, router) =>
        (router.remoteResult active entry localPointerAction (some event), router)
      | (.release, router) | (.none, router) =>
        (router.remoteResult active entry localPointerAction none, router)
    | _ => (router.remoteResult active entry localPointerAction none, router)
  else
    match router.remoteEventForActiveCapture captured.event active.edge active.display with
    | (.event event, router) =>
      (router.remoteResult active entry localPointerAction (some event), router)
    | (.release, router) =>
      ((DesktopCaptureRouteResult.stayLocal .continueInput).withPointerAction
        (some (.restore router.localRestorePosition)), router.giveBack now)
    | (.none, router) => (router.remoteResult active entry localPointerAction none, router)

def routeAtWithApplication (router : DesktopCaptureRouter φ ψ) (captured : CapturedInput φ ψ)
    (applicationId : Option String) (now : Instant) :
    DesktopCaptureRouteResult φ ψ × DesktopCaptureRouter φ ψ :=
  if isSystemReservedShortcut captured.event ||
      ({} : ApplicationExceptionRules).matchesApplication applicationId then
    (.stayLocal .continueInput, router)
  else if isReleaseHotkey captured .defaultRelease then
    let localPointerAction :=
      if router.active.isSome then some (.restore router.localRestorePosition) else none
    ((DesktopCaptureRouteResult.stayLocal .continueInput).withPointerAction localPointerAction,
      router.giveBack now)
  else
    let (entry, localPointerAction, router) := router.activate captured now
    match router.active with
    | some active => router.routeActive active captured now entry localPointerAction
    | none => (.stayLocal .continueInput, router)

end DesktopCaptureRouter

/-- `apply_pending_desktop_capture_plan_updates`, with the plans that are waiting; the first result
tells whether one of them was new. -/
def applyPendingDesktopCapturePlanUpdates {φ ψ : Type} :
    List DesktopCapturePlan → DesktopCaptureRouter φ ψ → DesktopCapturePlan →
      Bool × DesktopCaptureRouter φ ψ × DesktopCapturePlan
  | [], router, runtimePlan => (false, router, runtimePlan)
  | latestPlan :: pending, router, runtimePlan =>
    if latestPlan ≠ runtimePlan then
      let (_, router, runtimePlan) := applyPendingDesktopCapturePlanUpdates pending
        (router.replacePlan latestPlan) latestPlan
      (true, router, runtimePlan)
    else
      applyPendingDesktopCapturePlanUpdates pending router runtimePlan

end Kmsync
