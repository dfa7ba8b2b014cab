import Kmsync.Transmit.Profiles
import Kmsync.Transmit.Queue

/-! From the capture of an event to the connection of its target: the capturing thread puts events
on the bounded queue, the sending thread takes them off, and a failure on the way costs an event
without a second try. -/

namespace Kmsync

open ProofKit

/-- An event with the number of its capture, which no program looks at. -/
structure NumberedCapture (φ : Type) extends QueuedCapture φ where
  number : ℕ
  deriving DecidableEq

/-- Merged moves stand in the place of the first, merged positions in that of the last. -/
def NumberedCapture.coalesce {φ : Type} [Add φ] (previous next : NumberedCapture φ) :
    NumberedCapture φ where
  toQueuedCapture :=
    coalesceTargetedPointerMotion previous.toQueuedCapture next.toQueuedCapture
  number := if isMove previous.toQueuedCapture then previous.number else next.number

/-- `DESKTOP_RELIABLE_QUEUE_SEND_GRACE`: 25 ms -/
def desktopReliableQueueSendGrace : ℕ := 25_000_000

/-- `DESKTOP_TRANSMIT_FAILURE_BACKOFF`: 500 ms -/
def desktopTransmitFailureBackoff : ℕ := 500_000_000

/-- `input_event_waits_for_queue_slot` -/
def inputEventWaitsForQueueSlot {φ : Type} (event : InputEvent φ) : Bool :=
  InputChannel.forEvent event = .inputReliable

/-- Where the sending thread is: in front of the queue, in the loop that merges motion, or about to
send. -/
inductive TransmitPhase (φ : Type) where
  | idle
  | merging (latest : NumberedCapture φ)
  | ready (event : NumberedCapture φ)

def TransmitPhase.toList {φ : Type} : TransmitPhase φ → List (NumberedCapture φ)
  | .idle => []
  | .merging event | .ready event => [event]

/-- The two threads, with the history of the events. -/
structure TransmitState (φ τ : Type) where
  captured : List (QueuedCapture φ)
  /-- what the capturing thread waits to put on the queue, and until when -/
  offering : Option (NumberedCapture φ × Instant)
  queue : List (NumberedCapture φ)
  pending : Option (NumberedCapture φ)
  phase : TransmitPhase φ
  untilByTarget : String → Option Instant
  senders : DesktopSenders φ τ
  /-- the queue was full -/
  refused : List (NumberedCapture φ)
  /-- `transmit_desktop_capture_event` ended in an error -/
  failed : List (NumberedCapture φ)
  sent : List (NumberedCapture φ)

/-- One thread goes on by one step. -/
inductive TransmitLabel (φ τ : Type) where
  /-- `enqueue_targeted_input_event` is called, with its two readings of the clock -/
  | capture (event : TargetedQueuedInputEvent φ) (capturedAt start : Instant)
  /-- a round of the loop of `send_targeted_queued_input_event_with_grace` -/
  | trySend (now : Instant)
  /-- `next_targeted_transmit_event` has an event, and looks at the clock -/
  | take (now : Instant)
  /-- a round of the loop that merges motion -/
  | look
  /-- the rest of the loop of `transmit_desktop_capture_events` -/
  | transmit (now : Instant) (answers : DesktopAnswers τ)

theorem idle_ne_merging {φ : Type} {latest : NumberedCapture φ} :
    TransmitPhase.idle ≠ .merging latest := nofun

theorem ready_ne_merging {φ : Type} {event latest : NumberedCapture φ} :
    TransmitPhase.ready event ≠ .merging latest := nofun

namespace TransmitState

variable {φ τ : Type}

def start : TransmitState φ τ where
  captured := []
  offering := none
  queue := []
  pending := none
  phase := .idle
  untilByTarget := fun _ => none
  senders := .start
  refused := []
  failed := []
  sent := []

/-- `DesktopTransmitBackoff::should_drop` -/
def shouldDrop (s : TransmitState φ τ) (event : NumberedCapture φ) (now : Instant) :
    Bool × TransmitState φ τ :=
  if isMove event.toQueuedCapture then
    match s.untilByTarget event.targetDeviceId with
    | none => (false, s)
    | some deadline =>
      if now < deadline then (true, s)
      else (false,
        { s with untilByTarget := Function.update s.untilByTarget event.targetDeviceId none })
  else
    (false, s)

/-- The event that was taken is dropped, merged with what follows, or sent. -/
def taken (s : TransmitState φ τ) (event : NumberedCapture φ) (now : Instant) :
    TransmitState φ τ :=
  if staleDesktopMouseMove event.toQueuedCapture now then s
  else if isTargetedPointerMotion event.toQueuedCapture then { s with phase := .merging event }
  else { s with phase := .ready event }

/-- What is on the way, in the order in which it will be sent. -/
def line (s : TransmitState φ τ) : List (NumberedCapture φ) :=
  s.phase.toList ++ s.pending.toList ++ s.queue ++ (s.offering.map (·.1)).toList

/-- What was sent or is on the way. -/
def track (s : TransmitState φ τ) : List (NumberedCapture φ) := s.sent ++ s.line

def lost (s : TransmitState φ τ) : List (NumberedCapture φ) := s.failed ++ s.refused

variable [One φ] [Neg φ] [Mul φ] [Add φ]

def step (capacity : ℕ) (s : TransmitState φ τ) :
    TransmitLabel φ τ → Option (TransmitState φ τ)
  | .capture event capturedAt start =>
    if s.offering.isSome then
      none
    else
      let item : NumberedCapture φ := ⟨⟨event, capturedAt⟩, s.captured.length⟩
      let s := { s with captured := s.captured ++ [item.toQueuedCapture] }
      if inputEventWaitsForQueueSlot event.event then
        some { s with offering := some (item, start + desktopReliableQueueSendGrace) }
      else if s.queue.length < capacity then
        some { s with queue := s.queue ++ [item] }
      else
        some { s with refused := s.refused ++ [item] }
  | .trySend now =>
    match s.offering with
    | none => none
    | some (item, deadline) =>
      if s.queue.length < capacity then
        some { s with queue := s.queue ++ [item], offering := none }
      else if deadline ≤ now then
        some { s with refused := s.refused ++ [item], offering := none }
      else
        some s
  | .take now =>
    match s.phase, s.pending, s.queue with
    | .idle, some item, _ => some (taken { s with pending := none } item now)
    | .idle, none, item :: queue => some (taken { s with queue } item now)
    | _, _, _ => none
  | .look =>
    match s.phase, s.queue with
    | .merging latest, [] => some { s with phase := .ready latest }
    | .merging latest, next :: queue =>
      if canCoalesceTargetedPointerMotion latest.toQueuedCapture next.toQueuedCapture then
        some { s with queue, phase := .merging (latest.coalesce next) }
      else
        some { s with queue, pending := some next, phase := .ready latest }
    | _, _ => none
  | .transmit now answers =>
    match s.phase with
    | .ready item =>
      let (drop, s) := s.shouldDrop item now
      if drop then
        some { s with phase := .idle }
      else
        match DesktopSenders.transmitDesktopCaptureEvent answers item.toTargetedQueuedInputEvent
          s.senders with
        | .ok _ senders =>
          some { s with
            senders, phase := .idle, sent := s.sent ++ [item]
            untilByTarget := Function.update s.untilByTarget item.targetDeviceId none }
        | .error _ senders =>
          some { s with
            senders, phase := .idle, failed := s.failed ++ [item]
            untilByTarget := Function.update s.untilByTarget item.targetDeviceId
              (some (now + desktopTransmitFailureBackoff)) }
    | _ => none

/-- What a step may do: nothing is reordered, only a move or what is lost leaves the line, and what
is captured goes to its end. -/
inductive Rearranged (s s' : TransmitState φ τ) : Prop where
  | stay (hCaptured : s'.captured = s.captured) (hTrack : s'.track = s.track)
  | leave (before : List (NumberedCapture φ)) (x : NumberedCapture φ)
    (after : List (NumberedCapture φ)) (hCaptured : s'.captured = s.captured)
    (hTrack : s.track = before ++ x :: after) (hTrack' : s'.track = before ++ after)
    (hGone : isMove x.toQueuedCapture = true ∨ x ∈ s'.lost)
  | merge (before : List (NumberedCapture φ)) (a b : NumberedCapture φ)
    (after : List (NumberedCapture φ)) (hCaptured : s'.captured = s.captured)
    (hTrack : s.track = before ++ a :: b :: after)
    (hTrack' : s'.track = before ++ a.coalesce b :: after)
    (hRel : canCoalesceTargetedPointerMotion a.toQueuedCapture b.toQueuedCapture = true)
  | capture (x : NumberedCapture φ) (hNumber : x.number = s.captured.length)
    (hCaptured : s'.captured = s.captured ++ [x.toQueuedCapture])
    (hTrack : s'.track = s.track ++ [x])
  | refuse (x : QueuedCapture φ) (hMove : isMove x = true)
    (hCaptured : s'.captured = s.captured ++ [x]) (hTrack : s'.track = s.track)

/-- Only a failure of the surroundings makes an event fail and only a full queue refuses one, and
the loop that merges motion runs with no event pending. -/
structure StepEffect (capacity : ℕ) (label : TransmitLabel φ τ) (s s' : TransmitState φ τ) : Prop where
  failed : s'.failed = s.failed ∨ ∃ x now answers, s'.failed = s.failed ++ [x] ∧
    label = .transmit now answers ∧ s.phase = .ready x ∧ answers.Fails
  refused : s'.refused = s.refused ∨ ∃ x, s'.refused = s.refused ++ [x] ∧
    capacity ≤ s.queue.length ∧ (isMove x.toQueuedCapture = true ∨ ∃ now deadline,
      label = .trySend now ∧ s.offering = some (x, deadline) ∧ deadline ≤ now)
  merging : ∀ latest, s'.phase = .merging latest → s'.pending = none
  events : Rearranged s s'

section Steps

variable {capacity : ℕ} {s s' : TransmitState φ τ}

omit [One φ] [Neg φ] [Mul φ] [Add φ] in
theorem isMove_of_not_waits {event : TargetedQueuedInputEvent φ} {capturedAt : Instant}
    (h : ¬ inputEventWaitsForQueueSlot event.event) : isMove ⟨event, capturedAt⟩ = true := by
  rw [inputEventWaitsForQueueSlot, decide_eq_true_eq] at h
  rw [isMove]
  split
  next => rfl
  next hNot =>
    refine absurd ?_ h
    rcases hEvent : event.event with _ | ⟨_ | _ | _⟩ | _
    · rfl
    · exact absurd hEvent (hNot _ _)
    · rfl
    · rfl
    · rfl

section Effects

variable (hMerging : ∀ latest, s.phase = .merging latest → s.pending = none)
include hMerging

theorem effect_capture {event : TargetedQueuedInputEvent φ} {capturedAt start : Instant}
    (h : step capacity s (.capture event capturedAt start) = some s') :
    StepEffect capacity (.capture event capturedAt start) s s' := by
  simp only [step] at h
  split at h
  next => cases h
  next hOffering =>
    have hNone : s.offering = none := by simpa using hOffering
    split at h
    next =>
      obtain rfl := Option.some.inj h
      exact ⟨Or.inl rfl, Or.inl rfl, hMerging, .capture
        ⟨⟨event, capturedAt⟩, s.captured.length⟩ rfl rfl (by simp [track, line, hNone])⟩
    next hWaits =>
      split at h
      next =>
        obtain rfl := Option.some.inj h
        exact ⟨Or.inl rfl, Or.inl rfl, hMerging, .capture
          ⟨⟨event, capturedAt⟩, s.captured.length⟩ rfl rfl (by simp [track, line, hNone])⟩
      next hFull =>
        obtain rfl := Option.some.inj h
        have hMove : isMove ⟨event, capturedAt⟩ = true := isMove_of_not_waits hWaits
        exact ⟨Or.inl rfl, Or.inr ⟨_, rfl, Nat.not_lt.mp hFull, Or.inl hMove⟩, hMerging,
          .refuse _ hMove rfl rfl⟩

theorem effect_trySend {now : Instant} (h : step capacity s (.trySend now) = some s') :
    StepEffect capacity (.trySend now) s s' := by
  simp only [step] at h
  split at h
  next => cases h
  next item deadline hOffering =>
    split at h
    next =>
      obtain rfl := Option.some.inj h
      exact ⟨Or.inl rfl, Or.inl rfl, hMerging,
        .stay rfl (by simp [track, line, hOffering])⟩
    next hFull =>
      split at h
      next hLate =>
        obtain rfl := Option.some.inj h
        exact ⟨Or.inl rfl, Or.inr ⟨_, rfl, Nat.not_lt.mp hFull,
            Or.inr ⟨now, deadline, rfl, hOffering, hLate⟩⟩, hMerging,
          .leave (s.sent ++ (s.phase.toList ++ s.pending.toList ++ s.queue)) item [] rfl
            (by simp [track, line, hOffering]) (by simp [track, line]) (Or.inr (by simp [lost]))⟩
      next =>
        obtain rfl := Option.some.inj h
        exact ⟨Or.inl rfl, Or.inl rfl, hMerging, .stay rfl rfl⟩

theorem effect_look (h : step capacity s .look = some s') : StepEffect capacity .look s s' := by
  simp only [step] at h
  split at h
  next latest hPhase hQueue =>
    obtain rfl := Option.some.inj h
    exact ⟨Or.inl rfl, Or.inl rfl, fun _ h => (ready_ne_merging h).elim,
      .stay rfl (by simp [track, line, hPhase, TransmitPhase.toList])⟩
  next latest next queue hPhase hQueue =>
    have hNone := hMerging latest hPhase
    split at h
    next hRel =>
      obtain rfl := Option.some.inj h
      exact ⟨Or.inl rfl, Or.inl rfl, fun _ _ => hNone,
        .merge s.sent latest next (queue ++ (s.offering.map (·.1)).toList) rfl
          (by simp [track, line, hPhase, hQueue, hNone, TransmitPhase.toList])
          (by simp [track, line, hNone, TransmitPhase.toList]) hRel⟩
    next =>
      obtain rfl := Option.some.inj h
      exact ⟨Or.inl rfl, Or.inl rfl, fun _ h => (ready_ne_merging h).elim,
        .stay rfl (by simp [track, line, hPhase, hQueue, hNone, TransmitPhase.toList])⟩
  next => cases h

end Effects

omit [One φ] [Neg φ] [Mul φ] in
/-- What is taken stands in front of a state that is otherwise the one before. -/
theorem effect_taken {item : NumberedCapture φ} {label : TransmitLabel φ τ} {now : Instant}
    (hIdle : s'.phase = .idle)
    (hPending : s'.pending = none) (hFailed : s'.failed = s.failed) (hRefused : s'.refused = s.refused)
    (hSent : s'.sent = s.sent) (hCaptured : s'.captured = s.captured)
    (hLine : s.line = item :: s'.line) : StepEffect capacity label s (taken s' item now) := by
  have hTrack : s.track = s.sent ++ item :: s'.line := by rw [track, hLine]
  have hRest : s'.line = s'.queue ++ (s'.offering.map (·.1)).toList := by
    rw [line, hIdle, hPending]
    rfl
  rw [taken]
  split
  next hStale =>
    refine ⟨Or.inl hFailed, Or.inl hRefused, fun _ _ => hPending,
      .leave s.sent item s'.line hCaptured hTrack (by rw [track, hSent]) (Or.inl ?_)⟩
    rw [staleDesktopMouseMove] at hStale
    rw [isMove]
    split at hStale
    next => rfl
    next => cases hStale
  next =>
    split
    all_goals
      refine ⟨Or.inl hFailed, Or.inl hRefused, fun _ _ => hPending, .stay hCaptured ?_⟩
      rw [hTrack, hRest]
      simp [track, line, hSent, hPending, TransmitPhase.toList]

theorem effect_take {now : Instant} (h : step capacity s (.take now) = some s') :
    StepEffect capacity (.take now) s s' := by
  simp only [step] at h
  split at h
  next item _ hIdle hPending =>
    obtain rfl := Option.some.inj h
    exact effect_taken hIdle rfl rfl rfl rfl rfl
      (by simp [line, hIdle, hPending, TransmitPhase.toList])
  next item queue hIdle hPending hQueue =>
    obtain rfl := Option.some.inj h
    exact effect_taken hIdle hPending rfl rfl rfl rfl
      (by simp [line, hIdle, hPending, hQueue, TransmitPhase.toList])
  next => cases h

omit [One φ] [Neg φ] [Mul φ] [Add φ] in
/-- Only a move is dropped, and looking at the backoff changes nothing of the events. -/
theorem shouldDrop_meets (s : TransmitState φ τ) (item : NumberedCapture φ) (now : Instant) :
    ((s.shouldDrop item now).1 = true → isMove item.toQueuedCapture = true) ∧
      ∃ untilByTarget, (s.shouldDrop item now).2 = { s with untilByTarget } := by
  rw [shouldDrop]
  split
  next hMove =>
    split
    · exact ⟨fun _ => hMove, _, rfl⟩
    · split
      · exact ⟨fun _ => hMove, _, rfl⟩
      · exact ⟨fun _ => hMove, _, rfl⟩
  next => exact ⟨nofun, _, rfl⟩

theorem effect_transmit {now : Instant} {answers : DesktopAnswers τ}
    (h : step capacity s (.transmit now answers) = some s') :
    StepEffect capacity (.transmit now answers) s s' := by
  simp only [step] at h
  split at h
  next item hPhase =>
    obtain ⟨hDrop, untilByTarget, hState⟩ := shouldDrop_meets s item now
    have hTrack : s.track = s.sent ++ item :: (s.pending.toList ++ s.queue ++
        (s.offering.map (·.1)).toList) := by
      simp [track, line, hPhase, TransmitPhase.toList]
    rw [hState] at h
    split at h
    next hDropped =>
      obtain rfl := Option.some.inj h
      exact ⟨Or.inl rfl, Or.inl rfl, fun _ h => (idle_ne_merging h).elim, .leave _ _ _ rfl hTrack
        (by simp [track, line, TransmitPhase.toList]) (Or.inl (hDrop hDropped))⟩
    next =>
      split at h
      next =>
        obtain rfl := Option.some.inj h
        exact ⟨Or.inl rfl, Or.inl rfl, fun _ h => (idle_ne_merging h).elim,
          .stay rfl (by rw [hTrack]; simp [track, line, TransmitPhase.toList])⟩
      next hError =>
        obtain rfl := Option.some.inj h
        have hFails := DesktopSenders.transmitDesktopCaptureEvent_fails hError
        exact ⟨Or.inr ⟨_, _, _, rfl, rfl, hPhase, hFails⟩, Or.inl rfl,
          fun _ h => (idle_ne_merging h).elim, .leave _ _ _ rfl hTrack
            (by simp [track, line, TransmitPhase.toList]) (Or.inr (by simp [lost]))⟩
  next => cases h

theorem effect_of_step (hMerging : ∀ latest, s.phase = .merging latest → s.pending = none)
    {label : TransmitLabel φ τ} (h : step capacity s label = some s') :
    StepEffect capacity label s s' := by
  cases label with
  | capture => exact effect_capture hMerging h
  | trySend => exact effect_trySend hMerging h
  | take => exact effect_take h
  | look => exact effect_look hMerging h
  | transmit => exact effect_transmit h

end Steps

/-- The events that were sent or are on the way are in the order of their capture, each is a move or
just as it was captured, and what is neither motion nor among them is lost. -/
structure Sound (s : TransmitState φ τ) : Prop where
  merging : ∀ latest, s.phase = .merging latest → s.pending = none
  ordered : (s.track.map (·.number)).Pairwise (· < ·)
  bounded : ∀ x ∈ s.track, x.number < s.captured.length
  own : ∀ x ∈ s.track, isMove x.toQueuedCapture = true ∨
    s.captured[x.number]? = some x.toQueuedCapture
  fates : ∀ n x, s.captured[n]? = some x → isTargetedPointerMotion x = false →
    ⟨x, n⟩ ∈ s.track ∨ ⟨x, n⟩ ∈ s.lost

section Soundness

omit [One φ] [Neg φ] [Mul φ] in
theorem StepEffect.lost {capacity : ℕ} {label : TransmitLabel φ τ} {s s' : TransmitState φ τ}
    (h : StepEffect capacity label s s') : ∀ x ∈ s.lost, x ∈ s'.lost := by
  intro x hx
  rcases List.mem_append.mp hx with hFailed | hRefused
  · refine List.mem_append_left _ ?_
    rcases h.failed with hSame | ⟨_, _, _, hMore, -⟩
    · rwa [hSame]
    · rw [hMore]
      exact List.mem_append_left _ hFailed
  · refine List.mem_append_right _ ?_
    rcases h.refused with hSame | ⟨_, hMore, -⟩
    · rwa [hSame]
    · rw [hMore]
      exact List.mem_append_left _ hRefused

omit [One φ] [Neg φ] [Mul φ] [Add φ] in
theorem isMotion_of_isMove {event : QueuedCapture φ} (h : isMove event = true) :
    isTargetedPointerMotion event = true := by
  rw [isMove] at h
  rw [isTargetedPointerMotion]
  split at h
  next hEvent => rw [hEvent]
  next => cases h

omit [One φ] [Neg φ] [Mul φ] in
theorem coalesce_cases {a b : NumberedCapture φ}
    (h : canCoalesceTargetedPointerMotion a.toQueuedCapture b.toQueuedCapture = true) :
    (isMove (a.coalesce b).toQueuedCapture = true ∧ (a.coalesce b).number = a.number) ∨
      a.coalesce b = b := by
  obtain ⟨-, -, ⟨_, _, _, _, ha, hb⟩ | ⟨_, _, _, _, ha, hb⟩⟩ := canCoalesce_iff.mp h
  · left
    constructor
    · show isMove (coalesceTargetedPointerMotion a.toQueuedCapture b.toQueuedCapture) = true
      rw [coalesce_move ha hb, isMove]
    · simp [NumberedCapture.coalesce, isMove, ha]
  · right
    simp [NumberedCapture.coalesce, coalesce_position ha hb, isMove, ha]

omit [One φ] [Neg φ] [Mul φ] [Add φ] in
theorem isMotion_of_canCoalesce {a b : QueuedCapture φ}
    (h : canCoalesceTargetedPointerMotion a b = true) :
    isTargetedPointerMotion a = true ∧ isTargetedPointerMotion b = true := by
  obtain ⟨-, -, ⟨_, _, _, _, ha, hb⟩ | ⟨_, _, _, _, ha, hb⟩⟩ := canCoalesce_iff.mp h
  all_goals
    rw [isTargetedPointerMotion, isTargetedPointerMotion, ha, hb]
    exact ⟨rfl, rfl⟩

theorem getElem?_snoc {α : Type} {l : List α} {x y : α} {n : ℕ} (h : (l ++ [x])[n]? = some y) :
    l[n]? = some y ∨ (n = l.length ∧ y = x) := by
  rw [List.getElem?_append] at h
  split at h
  next => exact Or.inl h
  next hGe =>
    right
    have hIndex : n - l.length = 0 := by
      have := (List.getElem?_eq_some_iff.mp h).1
      simpa using this
    rw [hIndex] at h
    exact ⟨by omega, (Option.some.inj h).symm⟩

variable {capacity : ℕ} {s s' : TransmitState φ τ}

omit [One φ] [Neg φ] [Mul φ] in
theorem Sound.step {label : TransmitLabel φ τ} (h : Sound s)
    (hStep : StepEffect capacity label s s') : Sound s' := by
  have hMerging := hStep.merging
  have hLost := hStep.lost
  cases hStep.events with
  | stay hCaptured hTrack =>
    refine ⟨hMerging, by rw [hTrack]; exact h.ordered, ?_, ?_, ?_⟩
    all_goals rw [hCaptured, hTrack]
    · exact h.bounded
    · exact h.own
    · exact fun n x hx hMotion => (h.fates n x hx hMotion).imp_right (hLost _)
  | leave before x after hCaptured hTrack hTrack' hGone =>
    have hSub : s'.track.Sublist s.track := by
      rw [hTrack, hTrack']
      exact (List.sublist_cons_self x after).append_left before
    refine ⟨hMerging, h.ordered.sublist (hSub.map _), ?_, ?_, ?_⟩
    all_goals rw [hCaptured]
    · exact fun y hy => h.bounded y (hSub.subset hy)
    · exact fun y hy => h.own y (hSub.subset hy)
    · intro n y hy hMotion
      rcases h.fates n y hy hMotion with hMem | hMem
      · rw [hTrack] at hMem
        rcases List.mem_append.mp hMem with hBefore | hMem
        · exact Or.inl (hTrack' ▸ List.mem_append_left _ hBefore)
        · rcases List.mem_cons.mp hMem with rfl | hAfter
          · refine Or.inr (hGone.resolve_left fun hMove => ?_)
            rw [isMotion_of_isMove hMove] at hMotion
            cases hMotion
          · exact Or.inl (hTrack' ▸ List.mem_append_right _ hAfter)
      · exact Or.inr (hLost _ hMem)
  | merge before a b after hCaptured hTrack hTrack' hRel =>
    have hMem : ∀ y ∈ s'.track, y = a.coalesce b ∨ y ∈ s.track := by
      intro y hy
      rw [hTrack'] at hy
      rw [hTrack]
      rcases List.mem_append.mp hy with hBefore | hy
      · exact Or.inr (List.mem_append_left _ hBefore)
      · rcases List.mem_cons.mp hy with rfl | hAfter
        · exact Or.inl rfl
        · exact Or.inr (by simp [hAfter])
    have ha : a ∈ s.track := by simp [hTrack]
    have hb : b ∈ s.track := by simp [hTrack]
    refine ⟨hMerging, ?_, ?_, ?_, ?_⟩
    · have hSub : (s'.track.map (·.number)).Sublist (s.track.map (·.number)) := by
        rw [hTrack, hTrack', List.map_append, List.map_append, List.map_cons, List.map_cons,
          List.map_cons]
        refine List.Sublist.append_left ?_ _
        rcases coalesce_cases hRel with ⟨-, hNumber⟩ | hNumber
        · rw [hNumber]
          exact (List.sublist_cons_self _ _).cons_cons _
        · rw [hNumber]
          exact List.sublist_cons_self _ _
      exact h.ordered.sublist hSub
    · intro y hy
      rw [hCaptured]
      rcases hMem y hy with rfl | hOld
      · rcases coalesce_cases hRel with ⟨-, hNumber⟩ | hNumber
        · rw [hNumber]
          exact h.bounded a ha
        · rw [hNumber]
          exact h.bounded b hb
      · exact h.bounded y hOld
    · intro y hy
      rw [hCaptured]
      rcases hMem y hy with rfl | hOld
      · rcases coalesce_cases hRel with ⟨hMove, -⟩ | hSame
        · exact Or.inl hMove
        · rw [hSame]
          exact h.own b hb
      · exact h.own y hOld
    · intro n y hy hMotion
      rw [hCaptured] at hy
      refine (h.fates n y hy hMotion).imp (fun hOld => ?_) (hLost _)
      obtain ⟨hMotionA, hMotionB⟩ := isMotion_of_canCoalesce hRel
      rw [hTrack] at hOld
      rw [hTrack']
      simp only [List.mem_append, List.mem_cons] at hOld ⊢
      rcases hOld with hBefore | rfl | rfl | hAfter
      · exact Or.inl hBefore
      · exact absurd (hMotionA.symm.trans hMotion) (by decide)
      · exact absurd (hMotionB.symm.trans hMotion) (by decide)
      · exact Or.inr (Or.inr hAfter)
  | capture x hNumber hCaptured hTrack =>
    have hMem : ∀ y ∈ s'.track, y ∈ s.track ∨ y = x := by
      intro y hy
      rw [hTrack] at hy
      simpa using hy
    refine ⟨hMerging, ?_, ?_, ?_, ?_⟩
    · rw [hTrack, List.map_append, List.pairwise_append]
      refine ⟨h.ordered, List.pairwise_singleton _ _, ?_⟩
      intro m hm m' hm'
      obtain ⟨y, hy, rfl⟩ := List.mem_map.mp hm
      obtain rfl := List.mem_singleton.mp hm'
      show y.number < x.number
      rw [hNumber]
      exact h.bounded y hy
    · intro y hy
      rw [hCaptured, List.length_append, List.length_singleton]
      rcases hMem y hy with hOld | rfl
      · exact Nat.lt_succ_of_lt (h.bounded y hOld)
      · rw [hNumber]
        exact Nat.lt_succ_self _
    · intro y hy
      rw [hCaptured]
      rcases hMem y hy with hOld | rfl
      · refine (h.own y hOld).imp_right fun hOwn => ?_
        rw [List.getElem?_append_left (h.bounded y hOld)]
        exact hOwn
      · right
        rw [hNumber, List.getElem?_concat_length]
    · intro n y hy hMotion
      rw [hCaptured] at hy
      rw [hTrack]
      rcases getElem?_snoc hy with hOld | ⟨rfl, rfl⟩
      · exact (h.fates n y hOld hMotion).imp (List.mem_append_left _) (hLost _)
      · left
        rw [← hNumber]
        simp
  | refuse x hMove hCaptured hTrack =>
    refine ⟨hMerging, by rw [hTrack]; exact h.ordered, ?_, ?_, ?_⟩
    all_goals rw [hTrack, hCaptured]
    · intro y hy
      rw [List.length_append, List.length_singleton]
      exact Nat.lt_succ_of_lt (h.bounded y hy)
    · intro y hy
      refine (h.own y hy).imp_right fun hOwn => ?_
      rw [List.getElem?_append_left (h.bounded y hy)]
      exact hOwn
    · intro n y hy hMotion
      rcases getElem?_snoc hy with hOld | ⟨rfl, rfl⟩
      · exact (h.fates n y hOld hMotion).imp_right (hLost _)
      · rw [isMotion_of_isMove hMove] at hMotion
        cases hMotion

omit [One φ] [Neg φ] [Mul φ] [Add φ] in
theorem sound_start : Sound (start : TransmitState φ τ) where
  merging _ h := (idle_ne_merging h).elim
  ordered := List.Pairwise.nil
  bounded := List.forall_mem_nil _
  own := List.forall_mem_nil _
  fates n x h := by simp [start] at h

theorem sound_of_run {labels : List (TransmitLabel φ τ)}
    (hRun : run (TransmitState.step capacity) start labels = some s) : Sound s :=
  run_induction (fun _ _ _ h hStep => h.step (effect_of_step h.merging hStep)) sound_start hRun

end Soundness

section Losses

variable {capacity : ℕ} {s : TransmitState φ τ} {labels : List (TransmitLabel φ τ)}
  {x : NumberedCapture φ}

/-- When the event was to be sent, the connect step, the clock or the send ended in an error. -/
def FailsAt (capacity : ℕ) (labels : List (TransmitLabel φ τ)) (x : NumberedCapture φ) : Prop :=
  ∃ before now answers after s, labels = before ++ .transmit now answers :: after ∧
    run (step capacity) start before = some s ∧ s.phase = .ready x ∧ answers.Fails

/-- The queue was full when the time to wait for a place was over. -/
def RefusedAt (capacity : ℕ) (labels : List (TransmitLabel φ τ)) (x : NumberedCapture φ) : Prop :=
  ∃ before now deadline after s, labels = before ++ .trySend now :: after ∧
    run (step capacity) start before = some s ∧ s.offering = some (x, deadline) ∧
    deadline ≤ now ∧ capacity ≤ s.queue.length

theorem lost_of_run (hRun : run (step capacity) start labels = some s) (hLost : x ∈ s.lost)
    (hReliable : isMove x.toQueuedCapture = false) :
    FailsAt capacity labels x ∨ RefusedAt capacity labels x := by
  obtain ⟨before, label, after, s₁, hSplit, hBefore, hCause⟩ :=
    exists_step_of_run (I := Sound) (M := fun s => x ∈ s.lost)
      (P := fun s label =>
        (∃ now answers, label = .transmit now answers ∧ s.phase = .ready x ∧ answers.Fails) ∨
        ∃ now deadline, label = .trySend now ∧ s.offering = some (x, deadline) ∧ deadline ≤ now ∧
          capacity ≤ s.queue.length)
      (fun _ _ _ h hStep => h.step (effect_of_step h.merging hStep))
      (fun s label s' h hStep hMem => by
        have hEffect := effect_of_step h.merging hStep
        rcases List.mem_append.mp hMem with hMem | hMem
        · rcases hEffect.failed with hSame | ⟨y, now, answers, hMore, hLabel, hPhase, hFails⟩
          · exact Or.inl (List.mem_append_left _ (hSame ▸ hMem))
          · rw [hMore] at hMem
            rcases List.mem_append.mp hMem with hOld | hNew
            · exact Or.inl (List.mem_append_left _ hOld)
            · obtain rfl := List.mem_singleton.mp hNew
              exact Or.inr (Or.inl ⟨now, answers, hLabel, hPhase, hFails⟩)
        · rcases hEffect.refused with hSame | ⟨y, hMore, hFull, hCause⟩
          · exact Or.inl (List.mem_append_right _ (hSame ▸ hMem))
          · rw [hMore] at hMem
            rcases List.mem_append.mp hMem with hOld | hNew
            · exact Or.inl (List.mem_append_right _ hOld)
            · obtain rfl := List.mem_singleton.mp hNew
              rcases hCause with hMove | ⟨now, deadline, hLabel, hOffering, hLate⟩
              · exact absurd (hMove.symm.trans hReliable) (by decide)
              · exact Or.inr (Or.inr ⟨now, deadline, hLabel, hOffering, hLate, hFull⟩))
      sound_start hRun hLost (List.not_mem_nil)
  subst hSplit
  rcases hCause with ⟨now, answers, rfl, hPhase, hFails⟩ |
    ⟨now, deadline, rfl, hOffering, hLate, hFull⟩
  · exact Or.inl ⟨before, now, answers, after, s₁, rfl, hBefore, hPhase, hFails⟩
  · exact Or.inr ⟨before, now, deadline, after, s₁, rfl, hBefore, hOffering, hLate, hFull⟩

end Losses

section Releases

variable {capacity : ℕ} {s : TransmitState φ τ} {labels : List (TransmitLabel φ τ)}

/-- The release of the key or the button that was pressed. -/
def IsReleaseOf (release press : InputEvent φ) : Prop :=
  (∃ key before after, press = .key ⟨key, .pressed, before⟩ ∧
    release = .key ⟨key, .released, after⟩) ∨
  ∃ button, press = .mouse (.button button .pressed) ∧ release = .mouse (.button button .released)

omit [One φ] [Neg φ] [Mul φ] [Add φ] in
theorem not_motion_of_release {press : InputEvent φ} {release : QueuedCapture φ}
    (h : IsReleaseOf release.event press) : isTargetedPointerMotion release = false := by
  rw [isTargetedPointerMotion]
  rcases h with ⟨_, _, _, -, hEvent⟩ | ⟨_, -, hEvent⟩
  all_goals rw [hEvent]

omit [One φ] [Neg φ] [Mul φ] [Add φ] in
/-- Of two elements of an ordered list the smaller stands in front. -/
theorem exists_between {l : List (NumberedCapture φ)} {x y : NumberedCapture φ}
    (h : (l.map (·.number)).Pairwise (· < ·)) (hx : x ∈ l) (hy : y ∈ l)
    (hLt : x.number < y.number) :
    ∃ before between after, l = before ++ x :: between ++ y :: after := by
  obtain ⟨before, rest, rfl⟩ := List.append_of_mem hx
  rw [List.map_append, List.map_cons] at h
  obtain ⟨-, -, hBefore⟩ := List.pairwise_append.mp h
  have hy : y ∈ rest := by
    rcases List.mem_append.mp hy with hFront | hy
    · have := hBefore y.number (List.mem_map_of_mem hFront) x.number List.mem_cons_self
      omega
    · rcases List.mem_cons.mp hy with rfl | hRest
      · exact absurd hLt (lt_irrefl _)
      · exact hRest
  obtain ⟨between, after, rfl⟩ := List.append_of_mem hy
  exact ⟨before, between, after, by simp⟩

/-- Reliable events are sent in the order of their capture.  The release of a press that was sent is
sent after it, once it is no longer on the way, unless it is refused by the full queue or its own
transmission fails: neither is tried again. -/
theorem release_sent (hRun : run (step capacity) start labels = some s) :
    (s.sent.map (·.number)).Pairwise (· < ·) ∧
      (∀ x ∈ s.sent, isMove x.toQueuedCapture = false →
        s.captured[x.number]? = some x.toQueuedCapture) ∧
      ∀ press ∈ s.sent, ∀ n release, press.number < n → s.captured[n]? = some release →
        release.targetDeviceId = press.targetDeviceId → IsReleaseOf release.event press.event →
        (∃ before between after, s.sent = before ++ press :: between ++ ⟨release, n⟩ :: after) ∨
          ⟨release, n⟩ ∈ s.line ∨ FailsAt capacity labels ⟨release, n⟩ ∨
          RefusedAt capacity labels ⟨release, n⟩ := by
  have hSound := sound_of_run hRun
  have hOrdered : (s.sent.map (·.number)).Pairwise (· < ·) :=
    hSound.ordered.sublist ((List.sublist_append_left _ _).map _)
  refine ⟨hOrdered, fun x hx hReliable => ?_, ?_⟩
  · refine (hSound.own x (List.mem_append_left _ hx)).resolve_left fun hMove => ?_
    exact absurd (hMove.symm.trans hReliable) (by decide)
  · intro press hPress n release hLater hCaptured hTarget hRelease
    have hMotion := not_motion_of_release hRelease
    rcases hSound.fates n release hCaptured hMotion with hTrack | hLost
    · rcases List.mem_append.mp hTrack with hSent | hLine
      · exact Or.inl (exists_between hOrdered hPress hSent hLater)
      · exact Or.inr (Or.inl hLine)
    · right
      right
      refine lost_of_run hRun hLost (Bool.eq_false_iff.mpr fun hMove => ?_)
      exact absurd ((isMotion_of_isMove hMove).symm.trans hMotion) (by decide)

end Releases

section Examples

def keyEvent (key : Key) (state : KeyState) : TargetedQueuedInputEvent ℤ :=
  ⟨"b", .macToWindows, .key ⟨key, state, .none⟩⟩

/-- An event is captured, put on the queue, taken off and handed to its target. -/
def handled (event : TargetedQueuedInputEvent ℤ) (answers : DesktopAnswers Unit) :
    List (TransmitLabel ℤ Unit) :=
  [.capture event 0 0, .trySend 0, .take 0, .transmit 0 answers]

def sendFails : DesktopAnswers Unit :=
  { DesktopSenders.allWell with sendEvent := .error "connection lost" }

/-- A key is pressed and released, and the other key is pressed. -/
def pressRelease (answers : DesktopAnswers Unit) : List (TransmitLabel ℤ Unit) :=
  handled (keyEvent .a .pressed) DesktopSenders.allWell ++ handled (keyEvent .a .released) answers ++
    handled (keyEvent .b .pressed) DesktopSenders.allWell

def numbered (key : Key) (state : KeyState) (number : ℕ) : NumberedCapture ℤ :=
  ⟨⟨keyEvent key state, 0⟩, number⟩

theorem isReleaseOf_a : IsReleaseOf (keyEvent .a .released).event (keyEvent .a .pressed).event :=
  Or.inl ⟨.a, .none, .none, rfl, rfl⟩

/-- The send of the release fails, and it is not sent again when the connection is back. -/
theorem release_lost :
    ¬ ∀ (capacity : ℕ) (labels : List (TransmitLabel ℤ Unit)) s,
      run (step capacity) start labels = some s → s.line = [] → ∀ press ∈ s.sent, ∀ n release,
      press.number < n → s.captured[n]? = some release →
      release.targetDeviceId = press.targetDeviceId → IsReleaseOf release.event press.event →
      ∃ release' ∈ s.sent, press.number < release'.number ∧
        release'.targetDeviceId = press.targetDeviceId ∧
        IsReleaseOf release'.event press.event := by
  intro hAll
  have hRun : (run (step 4) start (pressRelease sendFails)).map
      (fun s => (s.sent, s.captured, s.line)) =
      some ([numbered .a .pressed 0, numbered .b .pressed 2],
        [(numbered .a .pressed 0).toQueuedCapture, (numbered .a .released 1).toQueuedCapture,
          (numbered .b .pressed 2).toQueuedCapture], []) := by
    decide
  obtain ⟨s, hRun, hState⟩ := Option.map_eq_some_iff.mp hRun
  simp only [Prod.mk.injEq] at hState
  obtain ⟨hSent, hCaptured, hLine⟩ := hState
  obtain ⟨release, hRelease, -, -, hIs⟩ := hAll 4 _ s hRun hLine (numbered .a .pressed 0)
    (by rw [hSent]; exact List.mem_cons_self) 1 (numbered .a .released 1).toQueuedCapture
    Nat.zero_lt_one (by rw [hCaptured]; rfl) rfl isReleaseOf_a
  rw [hSent] at hRelease
  have hPressed : ∀ key, ¬ IsReleaseOf (keyEvent key .pressed).event
      (numbered .a .pressed 0).event := by
    rintro key (⟨_, _, _, -, hEvent⟩ | ⟨_, -, hEvent⟩)
    · cases hEvent
    · cases hEvent
  rcases List.mem_cons.mp hRelease with rfl | hRelease
  · exact hPressed .a hIs
  · obtain rfl := List.mem_singleton.mp hRelease
    exact hPressed .b hIs

theorem pressRelease_ordered :
    ∃ s, run (step 4) start (pressRelease DesktopSenders.allWell) = some s ∧
      s.sent = [numbered .a .pressed 0, numbered .a .released 1, numbered .b .pressed 2] ∧
      (s.sent.map (·.number)).Pairwise (· < ·) := by
  have hRun : (run (step 4) start (pressRelease DesktopSenders.allWell)).map (·.sent) =
      some [numbered .a .pressed 0, numbered .a .released 1, numbered .b .pressed 2] := by
    decide
  obtain ⟨s, hRun, hSent⟩ := Option.map_eq_some_iff.mp hRun
  exact ⟨s, hRun, hSent, (release_sent hRun).1⟩

end Examples

end TransmitState

end Kmsync
