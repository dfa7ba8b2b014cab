import Kmsync.Capture.Session

/-! The capture for one fixed target.  At an edge of the screen control goes over to the target, and
a hotkey brings it back; for a while after that the edge does nothing. -/

namespace Kmsync

section Router

inductive CaptureMode (ψ : Type) where
  | always
  | locked
  | edge (edge : Edge) (threshold : ψ) (releaseHotkey : Hotkey) (cooldown : ℕ)

structure CaptureRouter (ψ : Type) where
  mode : CaptureMode ψ
  displayLayout : DisplayLayout ψ
  applicationExceptions : ApplicationExceptionRules
  active : Bool
  cooldownUntil : Option Instant
  localRestorePosition : Option (PointerPosition ψ)

namespace RouteResult

variable {φ ψ : Type}

/-- `RouteResult::local` -/
def stayLocal (decision : CaptureDecision) : RouteResult φ ψ := ⟨false, decision, none, none⟩

/-- `RouteResult::remote` -/
def toRemote (decision : CaptureDecision) : RouteResult φ ψ := ⟨true, decision, none, none⟩

def withPointerAction (result : RouteResult φ ψ) (action : Option (LocalPointerAction ψ)) :
    RouteResult φ ψ :=
  { result with localPointerAction := action }

end RouteResult

namespace CaptureRouter

variable {φ ψ : Type}

/-- `with_display_layout_and_exceptions` -/
def withDisplayLayout (mode : CaptureMode ψ) (displayLayout : DisplayLayout ψ)
    (applicationExceptions : ApplicationExceptionRules) : CaptureRouter ψ :=
  ⟨mode, displayLayout, applicationExceptions, false, none, none⟩

def hasApplicationExceptions (router : CaptureRouter ψ) : Bool :=
  !router.applicationExceptions.patterns.isEmpty

/-- A cooldown that is over is forgotten. -/
def cooldownActive (router : CaptureRouter ψ) (now : Instant) : Bool × CaptureRouter ψ :=
  match router.cooldownUntil with
  | none => (false, router)
  | some deadline =>
    if now < deadline then (true, router) else (false, { router with cooldownUntil := none })

variable [FloatLike φ] [FloatLike ψ] [FloatPair φ ψ]

def atEdge (displayLayout : DisplayLayout ψ) (pointer : Option (PointerPosition ψ)) (edge : Edge)
    (threshold : ψ) : Bool :=
  match pointer, displayLayout.virtualBounds with
  | some pointer, some bounds =>
    let left := decide (pointer.x ≤ bounds.x + threshold)
    let right := decide (pointer.x ≥ bounds.x + bounds.width - threshold)
    let top := decide (pointer.y ≤ bounds.y + threshold)
    let bottom := decide (pointer.y ≥ bounds.y + bounds.height - threshold)
    match edge with
    | .left => left
    | .right => right
    | .top => top
    | .bottom => bottom
    | .topLeft => left && top
    | .topRight => right && top
    | .bottomLeft => left && bottom
    | .bottomRight => right && bottom
  | _, _ => false

/-- The middle of `route_at_with_application`: with the pointer at the edge control goes over. -/
def activate (router : CaptureRouter ψ) (pointer : Option (PointerPosition ψ)) (edge : Edge)
    (threshold : ψ) (now : Instant) :
    Option (PointerEntryPosition φ) × Option (LocalPointerAction ψ) × CaptureRouter ψ :=
  if router.active then
    (none, none, router)
  else
    match router.cooldownActive now with
    | (true, router) => (none, none, router)
    | (false, router) =>
      if atEdge router.displayLayout pointer edge threshold then
        (entryPosition router.displayLayout pointer edge, some .hide,
          { router with active := true, localRestorePosition := pointer })
      else
        (none, none, router)

/-- What the release hotkey does, also where nothing was active. -/
def giveBack (router : CaptureRouter ψ) (now : Instant) (cooldown : ℕ) : CaptureRouter ψ :=
  { router with
    active := false, localRestorePosition := none
    cooldownUntil := cooldownDeadline now cooldown }

def routeAtWithApplication (router : CaptureRouter ψ) (captured : CapturedInput φ ψ)
    (applicationId : Option String) (now : Instant) : RouteResult φ ψ × CaptureRouter ψ :=
  if isSystemReservedShortcut captured.event ||
      router.applicationExceptions.matchesApplication applicationId then
    (.stayLocal .continueInput, router)
  else
    match router.mode with
    | .always => (.toRemote .continueInput, router)
    | .locked => (.stayLocal .continueInput, router)
    | .edge edge threshold releaseHotkey cooldown =>
      if DesktopCaptureRouter.isReleaseHotkey captured releaseHotkey then
        let localPointerAction :=
          if router.active then some (.restore router.localRestorePosition) else none
        ((RouteResult.stayLocal .continueInput).withPointerAction localPointerAction,
          router.giveBack now cooldown)
      else
        let (entry, localPointerAction, router) :=
          router.activate captured.pointer edge threshold now
        if router.active then (⟨true, .suppress, entry, localPointerAction⟩, router)
        else (.stayLocal .continueInput, router)

end CaptureRouter

end Router

section Callback

/-- `enqueue_routed_capture_with_application`: the events with which `enqueue_input_event` is
called.  The queue behind it is bounded, and may refuse them. -/
def enqueueRoutedCapture {φ ψ : Type} (route : RouteResult φ ψ) (event : InputEvent φ) :
    List (InputEvent φ) :=
  if route.sendRemote then
    let position := route.entryPosition.map fun entry =>
      InputEvent.mouse (.position entry.xRatio entry.yRatio)
    position.toList ++ [event]
  else
    []

/-- One call of the callback. -/
structure CaptureCall (φ ψ : Type) where
  captured : CapturedInput φ ψ
  activeApplicationId : Option String
  now : Instant

/-- What the callback of `run_capture_send` keeps between its calls, with its answers and its calls
of the platform and of `enqueue_input_event` so far. -/
structure CaptureSend (φ ψ : Type) where
  router : CaptureRouter ψ
  localPointerHidden : Bool
  pointerCalls : List (PointerCall ψ)
  enqueued : List (InputEvent φ)
  decisions : List CaptureDecision

namespace CaptureSend

variable {φ ψ : Type}

def start (mode : CaptureMode ψ) (displayLayout : DisplayLayout ψ)
    (applicationExceptions : ApplicationExceptionRules) : CaptureSend φ ψ :=
  ⟨.withDisplayLayout mode displayLayout applicationExceptions, false, [], [], []⟩

/-- What `run_capture_send` does when the capture loop is over. -/
def finish (s : CaptureSend φ ψ) : CaptureSend φ ψ :=
  let (call, hidden) := restoreLocalPointerIfHidden s.localPointerHidden none
  { s with localPointerHidden := hidden, pointerCalls := s.pointerCalls ++ call.toList }

/-- What the callback does with the result of the router. -/
def answered (s : CaptureSend φ ψ) (event : InputEvent φ) (route : RouteResult φ ψ)
    (router : CaptureRouter ψ) : CaptureSend φ ψ :=
  let (pointerCall, hidden) := applyLocalPointerAction route.localPointerAction s.localPointerHidden
  { router
    localPointerHidden := hidden
    pointerCalls := s.pointerCalls ++ pointerCall.toList
    enqueued := s.enqueued ++ enqueueRoutedCapture route event
    decisions := s.decisions ++ [route.decision] }

variable [FloatLike φ] [FloatLike ψ] [FloatPair φ ψ]

def next (s : CaptureSend φ ψ) (call : CaptureCall φ ψ) : CaptureSend φ ψ :=
  let applicationId := if s.router.hasApplicationExceptions then call.activeApplicationId else none
  let (route, router) := s.router.routeAtWithApplication call.captured applicationId call.now
  s.answered call.captured.event route router

/-- The capture after some calls. -/
def after (s : CaptureSend φ ψ) (calls : List (CaptureCall φ ψ)) : CaptureSend φ ψ :=
  calls.foldl next s

theorem after_snoc (s : CaptureSend φ ψ) (calls : List (CaptureCall φ ψ))
    (call : CaptureCall φ ψ) : s.after (calls ++ [call]) = (s.after calls).next call :=
  List.foldl_append

end CaptureSend

end Callback

end Kmsync
