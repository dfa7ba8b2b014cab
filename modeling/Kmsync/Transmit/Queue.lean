import Kmsync.Capture.Router
import Kmsync.ProofKit.Blocks
import Mathlib.Algebra.Group.Prod

/-! The queue between the capture and the sending thread.  Motion that has piled up is merged before
it is sent, but never across anything else, and all of it is sent. -/

namespace Kmsync

open ProofKit

/-- An event on the queue, with the time of its capture. -/
structure QueuedCapture (φ : Type) extends TargetedQueuedInputEvent φ where
  capturedAt : Instant
  deriving DecidableEq

section Coalescing

variable {φ : Type}

def staleDesktopMouseMove (event : QueuedCapture φ) (now : Instant) : Bool :=
  match event.event with
  | .mouse (.move _ _) => desktopStaleMouseMoveDropAfter ≤ now - event.capturedAt
  | _ => false

def isTargetedPointerMotion (event : QueuedCapture φ) : Bool :=
  match event.event with
  | .mouse (.move _ _) | .mouse (.position _ _) => true
  | _ => false

def canCoalesceTargetedPointerMotion (previous next : QueuedCapture φ) : Bool :=
  previous.targetDeviceId = next.targetDeviceId && previous.profileName = next.profileName &&
    match previous.event, next.event with
    | .mouse (.position _ _), .mouse (.position _ _) | .mouse (.move _ _), .mouse (.move _ _) => true
    | _, _ => false

variable [Add φ]

def coalesceTargetedPointerMotion (previous next : QueuedCapture φ) : QueuedCapture φ :=
  match previous.event, next.event with
  | .mouse (.move dx dy), .mouse (.move nextDx nextDy) =>
    { previous with event := .mouse (.move (dx + nextDx) (dy + nextDy)) }
  | .mouse (.position _ _), .mouse (.position _ _) => next
  | _, _ => previous

end Coalescing

/-- The receiving end of the channel, with what is still to arrive: before each further look at the
channel the next batch arrives.  After the last batch the senders are gone. -/
structure CaptureQueue (φ : Type) where
  queue : List (QueuedCapture φ)
  later : List (List (QueuedCapture φ))
  pending : Option (QueuedCapture φ)

namespace CaptureQueue

variable {φ : Type}

/-- Nothing has arrived yet. -/
def start (later : List (List (QueuedCapture φ))) : CaptureQueue φ := ⟨[], later, none⟩

/-- All that the channel holds or will hold. -/
def channel (s : CaptureQueue φ) : List (QueuedCapture φ) := s.queue ++ s.later.flatten

/-- All that is not yet returned, in the order of the queue. -/
def waiting (s : CaptureQueue φ) : List (QueuedCapture φ) := s.pending.toList ++ s.channel

/-- `rx.recv()`, which waits until something arrives. -/
def recv (queue : List (QueuedCapture φ)) (later : List (List (QueuedCapture φ))) :
    Option (QueuedCapture φ) × CaptureQueue φ :=
  match queue, later with
  | event :: queue, later => (some event, ⟨queue ++ later.headD [], later.tail, none⟩)
  | [], batch :: later => recv batch later
  | [], [] => (none, ⟨[], [], none⟩)

/-- `rx.try_recv()` -/
def tryRecv (s : CaptureQueue φ) : Option (QueuedCapture φ) × CaptureQueue φ :=
  match s.queue ++ s.later.headD [] with
  | event :: queue => (some event, { s with queue, later := s.later.tail })
  | [] => (none, { s with queue := [], later := s.later.tail })

/-- `pending.take().or_else(|| recv_targeted_counted(rx, stats))` -/
def take (s : CaptureQueue φ) : Option (QueuedCapture φ) × CaptureQueue φ :=
  match s.pending with
  | some event => (some event, { s with pending := none })
  | none => recv s.queue s.later

theorem flatten_headD_tail {α : Type} (later : List (List α)) :
    later.headD [] ++ later.tail.flatten = later.flatten := by
  cases later <;> rfl

theorem recv_meets (queue : List (QueuedCapture φ)) (later : List (List (QueuedCapture φ))) :
    queue ++ later.flatten = (recv queue later).1.toList ++ (recv queue later).2.waiting ∧
      (recv queue later).2.pending = none ∧
      ((recv queue later).1 = none → (recv queue later).2.waiting = []) := by
  induction later generalizing queue with
  | nil =>
    cases queue with
    | nil => exact ⟨rfl, rfl, fun _ => rfl⟩
    | cons event queue => exact ⟨by simp [recv, waiting, channel], rfl, nofun⟩
  | cons batch later ih =>
    cases queue with
    | nil => exact ih batch
    | cons event queue => exact ⟨by simp [recv, waiting, channel], rfl, nofun⟩

/-- What is taken was the first to wait; only when nothing waits is there nothing to take. -/
theorem take_meets (s : CaptureQueue φ) :
    s.waiting = s.take.1.toList ++ s.take.2.waiting ∧ s.take.2.pending = none ∧
      (s.take.1 = none → s.take.2.waiting = []) := by
  rw [take, waiting]
  split
  next event hPending => exact ⟨by simp [hPending, waiting, channel], rfl, nofun⟩
  next hPending =>
    rw [hPending]
    exact recv_meets s.queue s.later

theorem tryRecv_meets (s : CaptureQueue φ) :
    s.channel = s.tryRecv.1.toList ++ s.tryRecv.2.channel ∧ s.tryRecv.2.pending = s.pending := by
  have hSplit := flatten_headD_tail s.later
  rw [tryRecv]
  split
  next event queue hQueue =>
    refine ⟨?_, rfl⟩
    rw [channel, ← hSplit, ← List.append_assoc, hQueue]
    rfl
  next hQueue =>
    refine ⟨?_, rfl⟩
    rw [channel, ← hSplit, ← List.append_assoc, hQueue]
    rfl

variable [Add φ]

/-- The loop of `coalesce_targeted_pointer_motion_burst` -/
def coalesceLoop (latest : QueuedCapture φ) (s : CaptureQueue φ) :
    QueuedCapture φ × CaptureQueue φ :=
  match _h : s.tryRecv with
  | (some next, s') =>
    if canCoalesceTargetedPointerMotion latest next then
      coalesceLoop (coalesceTargetedPointerMotion latest next) s'
    else
      (latest, { s' with pending := some next })
  | (none, s') => (latest, s')
termination_by s.channel.length
decreasing_by
  have hChannel := (tryRecv_meets s).1
  rw [_h] at hChannel
  simp [hChannel]

def coalesceTargetedPointerMotionBurst (event : QueuedCapture φ) (s : CaptureQueue φ) :
    QueuedCapture φ × CaptureQueue φ :=
  if isTargetedPointerMotion event then coalesceLoop event s else (event, s)

/-- The loop looks at the clock for each event that it takes; `now` has the times. -/
def nextTargetedTransmitEvent (now : ℕ → Instant) (s : CaptureQueue φ) :
    Option (QueuedCapture φ) × CaptureQueue φ :=
  match _h : s.take with
  | (none, s') => (none, s')
  | (some event, s') =>
    if staleDesktopMouseMove event (now 0) then
      nextTargetedTransmitEvent (fun k => now (k + 1)) s'
    else
      let (event, s'') := coalesceTargetedPointerMotionBurst event s'
      (some event, s'')
termination_by s.waiting.length
decreasing_by
  have hWaiting := (take_meets s).1
  rw [_h] at hWaiting
  simp [hWaiting]

/-- The events that some calls return, one call after the other until there is no more event. -/
def transmitted : List (ℕ → Instant) → CaptureQueue φ → List (QueuedCapture φ) × CaptureQueue φ
  | [], s => ([], s)
  | now :: calls, s =>
    match s.nextTargetedTransmitEvent now with
    | (none, s') => ([], s')
    | (some event, s') =>
      let (events, s'') := transmitted calls s'
      (event :: events, s'')

/-- No call finds the event that it takes to be stale. -/
def NoneStale : List (ℕ → Instant) → CaptureQueue φ → Prop
  | [], _ => True
  | now :: calls, s =>
    (∀ event, s.take.1 = some event → staleDesktopMouseMove event (now 0) = false) ∧
      NoneStale calls (s.nextTargetedTransmitEvent now).2

end CaptureQueue

section Blocks

variable {φ : Type}

def isMove (event : QueuedCapture φ) : Bool :=
  match event.event with
  | .mouse (.move _ _) => true
  | _ => false

/-- How far an event moves the pointer. -/
def moveDelta [Zero φ] (event : QueuedCapture φ) : φ × φ :=
  match event.event with
  | .mouse (.move dx dy) => (dx, dy)
  | _ => (0, 0)

/-- What a block of events comes to: where it goes, how far its moves go in all, and its last event
unless that is a move. -/
structure BlockEffect (φ : Type) where
  target : Option (String × ProfileName)
  total : φ × φ
  last : Option (QueuedCapture φ)
  deriving DecidableEq

def blockEffect [AddMonoid φ] (block : List (QueuedCapture φ)) : BlockEffect φ where
  target := block.head?.map fun event => (event.targetDeviceId, event.profileName)
  total := (block.map moveDelta).sum
  last := block.getLast?.filter fun event => !isMove event

/-- Neighbours in a block: two moves or two positions, for one target and profile. -/
theorem canCoalesce_iff {previous next : QueuedCapture φ} :
    canCoalesceTargetedPointerMotion previous next = true ↔
      previous.targetDeviceId = next.targetDeviceId ∧ previous.profileName = next.profileName ∧
        ((∃ dx dy nextDx nextDy, previous.event = .mouse (.move dx dy) ∧
          next.event = .mouse (.move nextDx nextDy)) ∨
        ∃ x y nextX nextY, previous.event = .mouse (.position x y) ∧
          next.event = .mouse (.position nextX nextY)) := by
  simp only [canCoalesceTargetedPointerMotion, Bool.and_eq_true, decide_eq_true_eq, and_assoc]
  refine and_congr_right fun _ => and_congr_right fun _ => ⟨fun hMotion => ?_, ?_⟩
  · split at hMotion
    next hPrevious hNext => exact Or.inr ⟨_, _, _, _, hPrevious, hNext⟩
    next hPrevious hNext => exact Or.inl ⟨_, _, _, _, hPrevious, hNext⟩
    next => cases hMotion
  · rintro (⟨_, _, _, _, hPrevious, hNext⟩ | ⟨_, _, _, _, hPrevious, hNext⟩)
    · rw [hPrevious, hNext]
    · rw [hPrevious, hNext]

/-- Of two events only the target, the profile and the kind of motion decide. -/
theorem canCoalesce_congr {a b : QueuedCapture φ} (hTarget : a.targetDeviceId = b.targetDeviceId)
    (hProfile : a.profileName = b.profileName)
    (hMotion : (∃ dx dy dx' dy', a.event = .mouse (.move dx dy) ∧ b.event = .mouse (.move dx' dy')) ∨
      ∃ x y x' y', a.event = .mouse (.position x y) ∧ b.event = .mouse (.position x' y'))
    (x : QueuedCapture φ) :
    canCoalesceTargetedPointerMotion x a = canCoalesceTargetedPointerMotion x b ∧
      canCoalesceTargetedPointerMotion a x = canCoalesceTargetedPointerMotion b x := by
  obtain ⟨⟨_, _, event⟩, _⟩ := x
  rcases hMotion with ⟨_, _, _, _, ha, hb⟩ | ⟨_, _, _, _, ha, hb⟩
  all_goals
    simp only [canCoalesceTargetedPointerMotion, ha, hb, hTarget, hProfile]
    rcases event with _ | ⟨_ | _ | _⟩ | _ <;> exact ⟨rfl, rfl⟩

theorem coalesce_move [Add φ] {a b : QueuedCapture φ} {dx dy nextDx nextDy : φ}
    (ha : a.event = .mouse (.move dx dy)) (hb : b.event = .mouse (.move nextDx nextDy)) :
    coalesceTargetedPointerMotion a b =
      { a with event := .mouse (.move (dx + nextDx) (dy + nextDy)) } := by
  rw [coalesceTargetedPointerMotion, ha, hb]

theorem coalesce_position [Add φ] {a b : QueuedCapture φ} {x y nextX nextY : φ}
    (ha : a.event = .mouse (.position x y)) (hb : b.event = .mouse (.position nextX nextY)) :
    coalesceTargetedPointerMotion a b = b := by
  rw [coalesceTargetedPointerMotion, ha, hb]

variable [AddMonoid φ]

theorem merging_blockEffect :
    Merging canCoalesceTargetedPointerMotion coalesceTargetedPointerMotion
      (blockEffect (φ := φ)) where
  left x hRel := by
    obtain ⟨hTarget, hProfile, ⟨_, _, _, _, ha, hb⟩ | ⟨_, _, _, _, ha, hb⟩⟩ := canCoalesce_iff.mp hRel
    · rw [coalesce_move ha hb]
      refine (canCoalesce_congr ?_ ?_ ?_ x).1
      · rfl
      · rfl
      · exact Or.inl ⟨_, _, _, _, rfl, ha⟩
    · rw [coalesce_position ha hb]
      exact (canCoalesce_congr hTarget.symm hProfile.symm (Or.inr ⟨_, _, _, _, hb, ha⟩) x).1
  right x hRel := by
    obtain ⟨hTarget, hProfile, ⟨_, _, _, _, ha, hb⟩ | ⟨_, _, _, _, ha, hb⟩⟩ := canCoalesce_iff.mp hRel
    · rw [coalesce_move ha hb]
      refine (canCoalesce_congr ?_ ?_ ?_ x).2
      · exact hTarget
      · exact hProfile
      · exact Or.inl ⟨_, _, _, _, rfl, hb⟩
    · rw [coalesce_position ha hb]
  merged {a b} g hRel := by
    obtain ⟨hTarget, hProfile, ⟨dx, dy, dx', dy', ha, hb⟩ | ⟨_, _, _, _, ha, hb⟩⟩ :=
      canCoalesce_iff.mp hRel
    · rw [coalesce_move ha hb]
      have hTotal : moveDelta { a with event := .mouse (.move (dx + dx') (dy + dy')) } =
          moveDelta a + moveDelta b := by
        simp only [moveDelta, ha, hb]
        rfl
      simp only [blockEffect, List.map_cons, List.sum_cons, hTotal, List.head?_cons,
        Option.map_some, add_assoc]
      cases g with
      | nil => simp [isMove, hb, Option.filter]
      | cons x g => rfl
    · rw [coalesce_position ha hb]
      have hZero : moveDelta a = 0 := by rw [moveDelta, ha]; rfl
      simp only [blockEffect, List.map_cons, List.sum_cons, hZero, zero_add, List.head?_cons,
        Option.map_some, hTarget, hProfile, List.getLast?_cons_cons]
  cons x h := by
    obtain ⟨-, hTotal, hLast⟩ := BlockEffect.mk.inj h
    simp only [List.map_cons, List.sum_cons] at hTotal
    simp only [blockEffect, List.map_cons, List.sum_cons, List.getLast?_cons_cons, List.head?_cons,
      hTotal, hLast]

/-- The second list has the same blocks and the same events that are no motion, in no more
places. -/
structure SameEvents (l l' : List (QueuedCapture φ)) : Prop where
  shorter : l'.length ≤ l.length
  alike : SameBlocks canCoalesceTargetedPointerMotion blockEffect l l'
  others : (l.filter fun event => !isTargetedPointerMotion event) =
    l'.filter fun event => !isTargetedPointerMotion event

variable {l l' l'' : List (QueuedCapture φ)}

theorem SameEvents.refl (l : List (QueuedCapture φ)) : SameEvents l l := ⟨le_rfl, .refl l, rfl⟩

theorem SameEvents.trans (h : SameEvents l l') (h' : SameEvents l' l'') : SameEvents l l'' :=
  ⟨h'.shorter.trans h.shorter, h.alike.trans h'.alike, h.others.trans h'.others⟩

theorem SameEvents.cons (h : SameEvents l l') (x : QueuedCapture φ) :
    SameEvents (x :: l) (x :: l') where
  shorter := Nat.succ_le_succ h.shorter
  alike := h.alike.cons merging_blockEffect.cons x
  others := by rw [List.filter_cons, List.filter_cons, h.others]

theorem sameEvents_coalesce {a b : QueuedCapture φ}
    (hRel : canCoalesceTargetedPointerMotion a b = true) (l : List (QueuedCapture φ)) :
    SameEvents (a :: b :: l) (coalesceTargetedPointerMotion a b :: l) := by
  refine ⟨Nat.le_succ _, merging_blockEffect.alike hRel l, ?_⟩
  obtain ⟨-, -, ⟨_, _, _, _, ha, hb⟩ | ⟨_, _, _, _, ha, hb⟩⟩ := canCoalesce_iff.mp hRel
  · rw [coalesce_move ha hb]
    simp [isTargetedPointerMotion, ha, hb]
  · rw [coalesce_position ha hb]
    simp [isTargetedPointerMotion, ha, hb]

end Blocks

namespace CaptureQueue

variable {φ : Type} [AddMonoid φ]

omit [AddMonoid φ] in
theorem waiting_of_none {s : CaptureQueue φ} (h : s.pending = none) : s.waiting = s.channel := by
  rw [waiting, h]
  rfl

theorem coalesceLoop_meets (latest : QueuedCapture φ) (s : CaptureQueue φ)
    (h : s.pending = none) :
    SameEvents (latest :: s.waiting)
      ((coalesceLoop latest s).1 :: (coalesceLoop latest s).2.waiting) := by
  have hTryRecv := tryRecv_meets s
  rw [waiting_of_none h]
  fun_induction coalesceLoop latest s with
  | case1 latest s next s' hTry hRel ih =>
    rw [hTry] at hTryRecv
    have hPending : s'.pending = none := hTryRecv.2.trans h
    rw [hTryRecv.1]
    exact (sameEvents_coalesce hRel s'.channel).trans (ih hPending (tryRecv_meets s'))
  | case2 latest s next s' hTry hRel =>
    rw [hTry] at hTryRecv
    rw [hTryRecv.1]
    exact .refl _
  | case3 latest s s' hTry =>
    rw [hTry] at hTryRecv
    rw [hTryRecv.1, waiting_of_none (hTryRecv.2.trans h)]
    exact .refl _

theorem burst_meets (event : QueuedCapture φ) (s : CaptureQueue φ) (h : s.pending = none) :
    SameEvents (event :: s.waiting) ((coalesceTargetedPointerMotionBurst event s).1 ::
      (coalesceTargetedPointerMotionBurst event s).2.waiting) := by
  rw [coalesceTargetedPointerMotionBurst]
  split
  · exact coalesceLoop_meets event s h
  · exact .refl _

/-- One call -/
theorem nextTargetedTransmitEvent_meets (now : ℕ → Instant) (s : CaptureQueue φ)
    (h : ∀ event, s.take.1 = some event → staleDesktopMouseMove event (now 0) = false) :
    SameEvents s.waiting ((s.nextTargetedTransmitEvent now).1.toList ++
      (s.nextTargetedTransmitEvent now).2.waiting) ∧
      ((s.nextTargetedTransmitEvent now).1 = none →
        (s.nextTargetedTransmitEvent now).2.waiting = []) := by
  obtain ⟨hWaiting, hPending, hNone⟩ := take_meets s
  rw [hWaiting]
  unfold nextTargetedTransmitEvent
  split
  next s' hTake =>
    rw [hTake] at hNone ⊢
    exact ⟨.refl _, hNone⟩
  next event s' hTake =>
    rw [hTake] at hPending h ⊢
    rw [if_neg (by rw [h event rfl]; exact Bool.false_ne_true)]
    exact ⟨burst_meets event s' hPending, nofun⟩

/-- Any number of calls -/
theorem transmitted_meets {calls : List (ℕ → Instant)} {s : CaptureQueue φ}
    (h : NoneStale calls s) :
    SameEvents s.waiting ((transmitted calls s).1 ++ (transmitted calls s).2.waiting) ∧
      (s.waiting.length < calls.length → (transmitted calls s).2.waiting = []) := by
  induction calls generalizing s with
  | nil => exact ⟨.refl _, nofun⟩
  | cons now calls ih =>
    obtain ⟨hSame, hNone⟩ := nextTargetedTransmitEvent_meets now s h.1
    rw [transmitted]
    split
    next s' hNext =>
      rw [hNext] at hSame hNone
      exact ⟨hSame, fun _ => hNone rfl⟩
    next event s' hNext =>
      have hRest := h.2
      rw [hNext] at hSame hRest
      obtain ⟨hSame', hEnd⟩ := ih hRest
      refine ⟨hSame.trans (hSame'.cons event), fun hLength => hEnd ?_⟩
      have hShorter := hSame.shorter
      simp only [Option.toList_some, List.singleton_append, List.length_cons] at hShorter hLength
      show s'.waiting.length < calls.length
      omega

/-- However the arrivals fall between the looks at the channel, the calls return the events of the
queue with motion merged inside of its blocks; what is not yet returned waits behind. -/
theorem captureQueue_lossless (later : List (List (QueuedCapture φ))) (calls : List (ℕ → Instant))
    (hFresh : NoneStale calls (start later)) :
    let (returned, s) := transmitted calls (start later)
    ((returned ++ s.waiting).splitBy canCoalesceTargetedPointerMotion).map blockEffect =
        (later.flatten.splitBy canCoalesceTargetedPointerMotion).map blockEffect ∧
      ((returned ++ s.waiting).filter fun event => !isTargetedPointerMotion event) =
        (later.flatten.filter fun event => !isTargetedPointerMotion event) ∧
      (later.flatten.length < calls.length → s.waiting = []) := by
  obtain ⟨hSame, hEnd⟩ := transmitted_meets hFresh
  exact ⟨hSame.alike.effects.symm, hSame.others.symm, hEnd⟩

omit [AddMonoid φ] in
theorem not_stale_of_lt {event : QueuedCapture φ} {now : Instant}
    (h : now < desktopStaleMouseMoveDropAfter) : staleDesktopMouseMove event now = false := by
  rw [staleDesktopMouseMove]
  split
  · rw [decide_eq_false_iff_not, not_le]
    exact (Nat.sub_le _ _).trans_lt h
  · rfl

theorem noneStale_of_lt {calls : List (ℕ → Instant)} (s : CaptureQueue φ)
    (h : ∀ now ∈ calls, now 0 < desktopStaleMouseMoveDropAfter) : NoneStale calls s := by
  induction calls generalizing s with
  | nil => trivial
  | cons now calls ih =>
    exact ⟨fun event _ => not_stale_of_lt (h now List.mem_cons_self),
      ih _ fun now' hNow => h now' (List.mem_cons_of_mem now hNow)⟩

/-- Two moves and a scroll arrive together, then another move. -/
def fourArrivals : List (List (QueuedCapture ℤ)) :=
  let queued (event : InputEvent ℤ) : QueuedCapture ℤ := ⟨⟨"b", .macToWindows, event⟩, 0⟩
  [[queued (.mouse (.move 1 2)), queued (.mouse (.move 3 4)), queued (.scroll ⟨0, 1⟩)],
    [queued (.mouse (.move 5 6))]]

theorem fourArrivals_lossless :
    let (returned, s) := transmitted (List.replicate 5 fun _ => 0) (start fourArrivals)
    ((returned ++ s.waiting).splitBy canCoalesceTargetedPointerMotion).map blockEffect =
        (fourArrivals.flatten.splitBy canCoalesceTargetedPointerMotion).map blockEffect ∧
      s.waiting = [] := by
  obtain ⟨hBlocks, -, hEnd⟩ := captureQueue_lossless fourArrivals (List.replicate 5 fun _ => 0)
    (noneStale_of_lt _ fun now hNow => by rw [List.eq_of_mem_replicate hNow]; decide)
  exact ⟨hBlocks, hEnd (by decide)⟩

end CaptureQueue

end Kmsync
