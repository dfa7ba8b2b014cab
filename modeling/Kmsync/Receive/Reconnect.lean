import Kmsync.Receive.SingleSender

/-! Many connections and one receiver.  Any number of machines send to it, each over a connection
that is replaced when a send fails, while the receiver has one loop with one sequencer for all of
them. -/

namespace Kmsync

open ProofKit

structure System where
  senders : ℕ → String → Option (DesktopTargetSender Connection)
  sent : Connection → List ProtocolFrame
  opened : ℕ
  delivered : Connection → List ReceivedInputFrame
  loop : LoopState

inductive SystemStep where
  | transmit (source : ℕ) (queued : TargetedQueuedInputEvent F32) (answers : TransmitAnswers Unit)
  | deliver (connection : Connection) (now : Instant) (received : ReceivedInputFrame)
  | timeout (now : Instant)
  | recover (now : Instant)

namespace System

def start : System where
  senders _ _ := none
  sent _ := []
  opened := 0
  delivered _ := []
  loop := .start

def senderState (s : System) (source : ℕ) : SenderState Connection := ⟨s.senders source, s.sent⟩

/-- One event is sent by a machine; if it opens a connection, that is a new one. -/
def transmit (s : System) (source : ℕ) (queued : TargetedQueuedInputEvent F32)
    (answers : TransmitAnswers Unit) : SenderState Connection :=
  let connection : Connection := ⟨source, queued.targetDeviceId, s.opened⟩
  let answers : TransmitAnswers Connection :=
    { answers with connect := answers.connect.map fun _ => connection }
  match transmitDesktopCaptureEvent answers queued (s.senderState source) with
  | .ok () state | .error _ state => state

/-- What a connection may deliver next: the reliable lane goes on in order, the other one delivers
any frame of its own. -/
def mayDeliver (s : System) (connection : Connection) (received : ReceivedInputFrame) : Bool :=
  if received.isReliable then
    ((s.delivered connection ++ [received]).filter (·.isReliable)).map (·.frame) <+:
      reliableFrames (s.sent connection)
  else received.frame ∈ s.sent connection

variable (w : World) (receiver : String)

def step (s : System) : SystemStep → Option System
  | .transmit source queued answers =>
    let state := s.transmit source queued answers
    some { s with
      senders := Function.update s.senders source state.senders
      sent := state.sent
      opened := s.opened + 1 }
  | .deliver connection now received =>
    if connection.target = receiver ∧ s.mayDeliver connection received then
      (turnOk w s.loop (.receive now received)).map fun loop =>
        { s with
          delivered := Function.update s.delivered connection (s.delivered connection ++ [received])
          loop := loop }
    else none
  | .timeout now => (turnOk w s.loop (.timeout now)).map fun loop => { s with loop := loop }
  | .recover now => (turnOk w s.loop (.recover now)).map fun loop => { s with loop := loop }

end System

namespace SystemStep

/-- The turn of the receiver that a step is. -/
def turn? : SystemStep → Option Turn
  | .transmit _ _ _ => none
  | .deliver _ now received => some (.receive now received)
  | .timeout now => some (.timeout now)
  | .recover now => some (.recover now)

end SystemStep

/-- A step that does no harm: a frame of the reliable lane has a number that has not come over
another connection, no frame is lost to a gap, and no counter is at its end. -/
def Undisturbed (s : System) (step : SystemStep) (rest : List SystemStep) : Prop :=
  match step with
  | .transmit source queued _ =>
    ∀ sender, s.senders source queued.targetDeviceId = some sender → sender.sequence.toNat < u64Max
  | .deliver connection now received =>
    (received.isReliable = true → ∀ other, other ≠ connection →
      ∀ earlier ∈ s.delivered other, earlier.sequence ≠ received.sequence) ∧
    Lossless s.loop (.receive now received) (rest.filterMap SystemStep.turn?)
  | .timeout now => Lossless s.loop (.timeout now) (rest.filterMap SystemStep.turn?)
  | .recover now => Lossless s.loop (.recover now) (rest.filterMap SystemStep.turn?)

/-- What a run has led to, after some turns of the receiver: every connection has delivered its
reliable lane up to some point, and no number came there that had come before. -/
structure System.Sound (w : World) (s : System) (turns : List Turn) : Prop where
  counting : ∀ source, Counting source s.opened (s.senderState source)
  lane : ∀ connection, ((s.delivered connection).filter (·.isReliable)).map (·.frame) <+:
    reliableFrames (s.sent connection)
  sent : ∀ connection, ∀ received ∈ s.delivered connection, received.frame ∈ s.sent connection
  origin : ∀ received, received ∈ receivedFrames turns ↔
    ∃ connection, received ∈ s.delivered connection
  fresh : Fresh turns
  reaches : Reaches w turns s.loop

section Steps

variable {w : World} {receiver : String} {s s' : System} {turns : List Turn}
  {rest : List SystemStep} {source : ℕ} {queued : TargetedQueuedInputEvent F32}
  {answers : TransmitAnswers Unit} {connection : Connection} {now : Instant}
  {received earlier : ReceivedInputFrame} {loop : LoopState} {t : Turn}

theorem System.transmit_spec (answers : TransmitAnswers Unit)
    (h : Counting source s.opened (s.senderState source))
    (hCounter : ∀ sender, s.senders source queued.targetDeviceId = some sender →
      sender.sequence.toNat < u64Max) :
    Counting source (s.opened + 1) (s.transmit source queued answers) ∧
      Extends source (s.senderState source) (s.transmit source queued answers) := by
  let connected : TransmitAnswers Connection :=
    { answers with
      connect := answers.connect.map fun _ => ⟨source, queued.targetDeviceId, s.opened⟩ }
  have hConnect : ∀ connection, connected.connect = .ok connection →
      connection = ⟨source, queued.targetDeviceId, s.opened⟩ := by
    intro connection hConnect
    cases hAnswer : answers.connect with
    | error error =>
      simp only [connected, hAnswer] at hConnect
      cases hConnect
    | ok _ =>
      simp only [connected, hAnswer] at hConnect
      cases hConnect
      rfl
  have hMeets := transmitDesktopCaptureEvent_meets h hConnect hCounter
  unfold System.transmit
  rcases hMeets.ok_or_error with ⟨_, _, hEq, hPost⟩ | ⟨_, _, hEq, hPost⟩
  · simpa only [connected, hEq] using hPost
  · simpa only [connected, hEq] using hPost

/-- One more frame. -/
theorem Fresh.append (h : Fresh turns) (hPositive : 1 ≤ received.sequence)
    (hDistinct : received.isReliable = true → ∀ earlier ∈ receivedFrames turns,
      earlier.sequence ≠ received.sequence) :
    Fresh (turns ++ [.receive now received]) := by
  constructor
  · rw [receivedFrames_append, List.pairwise_append]
    refine ⟨h.distinct, List.pairwise_singleton _ _, fun earlier hEarlier later hLater => ?_⟩
    obtain rfl := List.mem_singleton.mp hLater
    exact fun hReliable => hDistinct hReliable earlier hEarlier
  · intro n hn
    rcases (mem_reliableNumbers_append turns _).mp hn with hn | ⟨passed, hPassed, -, rfl⟩
    · exact h.positive n hn
    · obtain rfl := List.mem_singleton.mp hPassed
      exact hPositive

/-- A turn without a frame changes nothing. -/
theorem Fresh.of_frames_eq {turns' : List Turn} (h : Fresh turns)
    (hFrames : receivedFrames turns' = receivedFrames turns) : Fresh turns' where
  distinct := hFrames ▸ h.distinct
  positive n hn := h.positive n (by rwa [reliableNumbers, hFrames] at hn)

theorem reaches_append (h : Reaches w turns s.loop) (hTurn : turnOk w s.loop t = some loop) :
    Reaches w (turns ++ [t]) loop := by
  rw [Reaches, run_append, h]
  exact run_cons_eq_some.mpr ⟨loop, hTurn, rfl⟩

namespace System.Sound

theorem transmit (h : s.Sound w turns)
    (hCounter : ∀ sender, s.senders source queued.targetDeviceId = some sender →
      sender.sequence.toNat < u64Max) :
    System.Sound w
      { s with
        senders := Function.update s.senders source (s.transmit source queued answers).senders
        sent := (s.transmit source queued answers).sent
        opened := s.opened + 1 } turns := by
  obtain ⟨hCounting, hExtends⟩ := System.transmit_spec answers (h.counting source) hCounter
  constructor
  · intro other
    by_cases hOther : other = source
    · subst hOther
      dsimp only [System.senderState]
      rw [Function.update_self]
      exact hCounting
    · -- Another machine keeps its senders, and its connections took nothing.
      refine ⟨hCounting.numbered, hCounting.fresh, fun target sender hSender => ?_⟩
      dsimp only [System.senderState] at hSender ⊢
      rw [Function.update_of_ne hOther] at hSender
      obtain ⟨hSource, hTarget, hNumber, hSequence⟩ := (h.counting other).counts target sender hSender
      refine ⟨hSource, hTarget, Nat.lt_succ_of_lt hNumber, ?_⟩
      rw [hExtends.others sender.transport (hSource ▸ hOther)]
      exact hSequence
  · exact fun connection => (h.lane connection).trans ((hExtends.prefixes connection).filter _)
  · intro connection received hMem
    exact (hExtends.prefixes connection).mem (h.sent connection received hMem)
  · exact h.origin
  · exact h.fresh
  · exact h.reaches

/-- A delivered frame goes on with its lane. -/
theorem lane_deliver (h : s.Sound w turns) (hMay : s.mayDeliver connection received = true) :
    ((s.delivered connection ++ [received]).filter (·.isReliable)).map (·.frame) <+:
      reliableFrames (s.sent connection) := by
  unfold System.mayDeliver at hMay
  cases hReliable : received.isReliable with
  | true =>
    rw [if_pos hReliable] at hMay
    exact of_decide_eq_true hMay
  | false =>
    rw [List.filter_append, List.filter_singleton, hReliable, cond_false, List.append_nil]
    exact h.lane connection

theorem sent_deliver (hMay : s.mayDeliver connection received = true) :
    received.frame ∈ s.sent connection := by
  unfold System.mayDeliver at hMay
  split at hMay
  next hReliable =>
    refine (List.mem_filter.mp ((of_decide_eq_true hMay).mem ?_)).1
    refine List.mem_map_of_mem (f := ReceivedInputFrame.frame) (List.mem_filter.mpr ⟨?_, hReliable⟩)
    exact List.mem_append_right _ (List.mem_singleton_self _)
  next => exact of_decide_eq_true hMay

/-- On one connection the numbers of the reliable lane increase. -/
theorem lt_of_delivered (h : s.Sound w turns) (hMay : s.mayDeliver connection received = true)
    (hEarlier : earlier ∈ s.delivered connection) (hEarlierReliable : earlier.isReliable = true)
    (hReliable : received.isReliable = true) : earlier.sequence < received.sequence := by
  have hNumbered := (h.counting connection.source).numbered connection
  have hPairwise := hNumbered.pairwise.sublist
    ((h.lane_deliver hMay).sublist.trans (List.filter_sublist (l := s.sent connection)))
  rw [List.pairwise_map, List.filter_append, List.pairwise_append] at hPairwise
  refine hPairwise.2.2 earlier (List.mem_filter.mpr ⟨hEarlier, hEarlierReliable⟩) received ?_
  exact List.mem_filter.mpr ⟨List.mem_singleton_self _, hReliable⟩

/-- On one connection the lanes share no number. -/
theorem ne_of_delivered (h : s.Sound w turns) (hMay : s.mayDeliver connection received = true)
    (hEarlier : earlier ∈ s.delivered connection)
    (hLanes : earlier.isReliable ≠ received.isReliable) : earlier.sequence ≠ received.sequence := by
  intro hEq
  have hNumbered := (h.counting connection.source).numbered connection
  have hSame := hNumbered.eq_of_sequence_eq (h.sent connection earlier hEarlier)
    (sent_deliver hMay) hEq
  rw [ReceivedInputFrame.isReliable, hSame] at hLanes
  exact hLanes rfl

theorem mem_delivered_update {other : Connection} {passed : ReceivedInputFrame} :
    passed ∈ Function.update s.delivered connection (s.delivered connection ++ [received]) other ↔
      passed ∈ s.delivered other ∨ other = connection ∧ passed = received := by
  by_cases hOther : other = connection
  · subst hOther
    simp
  · rw [Function.update_of_ne hOther]
    simp [hOther]

/-- A reliable frame has a number that has not been delivered, if no other connection has had it. -/
theorem ne_of_not_others (h : s.Sound w turns) (hMay : s.mayDeliver connection received = true)
    (hReliable : received.isReliable = true)
    (hOthers : ∀ other, other ≠ connection →
      ∀ earlier ∈ s.delivered other, earlier.sequence ≠ received.sequence)
    {other : Connection} (hMem : earlier ∈ s.delivered other) :
    earlier.sequence ≠ received.sequence := by
  by_cases hOther : other = connection
  · subst hOther
    cases hLane : earlier.isReliable with
    | true => exact (h.lt_of_delivered hMay hMem hLane hReliable).ne
    | false =>
      refine h.ne_of_delivered hMay hMem ?_
      rw [hLane, hReliable]
      exact Bool.false_ne_true
  · exact hOthers other hOther earlier hMem

theorem deliver (h : s.Sound w turns) (hMay : s.mayDeliver connection received = true)
    (hOthers : received.isReliable = true → ∀ other, other ≠ connection →
      ∀ earlier ∈ s.delivered other, earlier.sequence ≠ received.sequence)
    (hTurn : turnOk w s.loop (.receive now received) = some loop) :
    System.Sound w
      { s with
        delivered := Function.update s.delivered connection (s.delivered connection ++ [received])
        loop := loop } (turns ++ [.receive now received]) := by
  constructor
  · exact h.counting
  · intro other
    dsimp only
    by_cases hOther : other = connection
    · rw [hOther, Function.update_self]
      exact h.lane_deliver hMay
    · rw [Function.update_of_ne hOther]
      exact h.lane other
  · intro other passed hMem
    rcases mem_delivered_update.mp hMem with hMem | ⟨rfl, rfl⟩
    · exact h.sent other passed hMem
    · exact sent_deliver (s := s) hMay
  · intro passed
    rw [receivedFrames_append, List.mem_append, h.origin]
    constructor
    · rintro (⟨other, hMem⟩ | hMem)
      · exact ⟨other, mem_delivered_update.mpr (Or.inl hMem)⟩
      · exact ⟨connection, mem_delivered_update.mpr (Or.inr ⟨rfl, List.mem_singleton.mp hMem⟩)⟩
    · rintro ⟨other, hMem⟩
      rcases mem_delivered_update.mp hMem with hMem | ⟨-, rfl⟩
      · exact Or.inl ⟨other, hMem⟩
      · exact Or.inr (List.mem_singleton_self _)
  · have hNumbered := (h.counting connection.source).numbered connection
    refine h.fresh.append (hNumbered.one_le (sent_deliver hMay)) fun hReliable earlier hEarlier => ?_
    obtain ⟨other, hMem⟩ := (h.origin earlier).mp hEarlier
    exact h.ne_of_not_others hMay hReliable (hOthers hReliable) hMem
  · exact reaches_append h.reaches hTurn

theorem turn (h : s.Sound w turns) (hFrame : receivedFrames [t] = [])
    (hTurn : turnOk w s.loop t = some loop) :
    System.Sound w { s with loop := loop } (turns ++ [t]) := by
  have hFrames : receivedFrames (turns ++ [t]) = receivedFrames turns := by
    rw [receivedFrames_append, hFrame, List.append_nil]
  exact ⟨h.counting, h.lane, h.sent, hFrames ▸ h.origin, h.fresh.of_frames_eq hFrames,
    reaches_append h.reaches hTurn⟩

end System.Sound

end Steps

section Runs

variable {w : World} {receiver : String} {s s' : System} {turns : List Turn}
  {steps rest : List SystemStep} {st : SystemStep}

theorem System.Sound.step (h : s.Sound w turns) (hUndisturbed : Undisturbed s st rest)
    (hStep : s.step w receiver st = some s') : s'.Sound w (turns ++ st.turn?.toList) := by
  cases st with
  | transmit source queued answers =>
    obtain rfl := Option.some.inj hStep
    rw [SystemStep.turn?, Option.toList_none, List.append_nil]
    exact h.transmit hUndisturbed
  | deliver connection now received =>
    rw [System.step] at hStep
    split at hStep
    next hMay =>
      obtain ⟨loop, hTurn, rfl⟩ := Option.map_eq_some_iff.mp hStep
      exact h.deliver hMay.2 hUndisturbed.1 hTurn
    next => cases hStep
  | timeout now =>
    obtain ⟨loop, hTurn, rfl⟩ := Option.map_eq_some_iff.mp hStep
    exact h.turn rfl hTurn
  | recover now =>
    obtain ⟨loop, hTurn, rfl⟩ := Option.map_eq_some_iff.mp hStep
    exact h.turn rfl hTurn

theorem System.sound_start : System.Sound w .start [] where
  counting _ := ⟨fun _ i hi => absurd hi (Nat.not_lt_zero i), fun _ _ => rfl,
    fun _ _ hSender => absurd hSender (Option.some_ne_none _).symm⟩
  lane _ := List.prefix_rfl
  sent _ _ hMem := absurd hMem List.not_mem_nil
  origin _ := ⟨fun hMem => absurd hMem List.not_mem_nil,
    fun ⟨_, hMem⟩ => absurd hMem List.not_mem_nil⟩
  fresh := ⟨List.Pairwise.nil, fun _ ⟨_, hMem, _⟩ => absurd hMem List.not_mem_nil⟩
  reaches := rfl

/-- The turns that the receiver takes along a run lose nothing. -/
theorem lossless_of_undisturbed (hRun : run (System.step w receiver) s steps = some s')
    (hAlong : Along Undisturbed (System.step w receiver) s steps) :
    Along Lossless (turnOk w) s.loop (steps.filterMap SystemStep.turn?) := by
  induction steps generalizing s with
  | nil => trivial
  | cons st rest ih =>
    obtain ⟨s₁, hStep, hRest⟩ := run_cons_eq_some.mp hRun
    have hTail := ih hRest (hAlong.2 s₁ hStep)
    -- The receiver's part of the step is one of its turns.
    have hTurn : ∀ t, Lossless s.loop t (rest.filterMap SystemStep.turn?) →
        turnOk w s.loop t = some s₁.loop →
        Along Lossless (turnOk w) s.loop (t :: rest.filterMap SystemStep.turn?) := by
      intro t hLossless hTurn
      refine ⟨hLossless, fun loop hLoop => ?_⟩
      obtain rfl := Option.some.inj (hTurn.symm.trans hLoop)
      exact hTail
    cases st with
    | transmit source queued answers =>
      obtain rfl := Option.some.inj hStep
      exact hTail
    | deliver connection now received =>
      rw [System.step] at hStep
      split at hStep
      next =>
        obtain ⟨loop, hLoop, rfl⟩ := Option.map_eq_some_iff.mp hStep
        exact hTurn _ hAlong.1.2 hLoop
      next => cases hStep
    | timeout now =>
      obtain ⟨loop, hLoop, rfl⟩ := Option.map_eq_some_iff.mp hStep
      exact hTurn _ hAlong.1 hLoop
    | recover now =>
      obtain ⟨loop, hLoop, rfl⟩ := Option.map_eq_some_iff.mp hStep
      exact hTurn _ hAlong.1 hLoop

end Runs

/-- In an undisturbed run every frame that a reliable lane delivers is injected by the end of the
drain, over however many connections. -/
theorem connections_heard {w : World} (hw : w.Succeeds) (receiver : String)
    (steps : List SystemStep) {s : System}
    (hRun : run (System.step w receiver) .start steps = some s)
    (hUndisturbed : Along Undisturbed (System.step w receiver) .start steps) :
    ∃ fuel s', finish w fuel s.loop = some (.ok () s') ∧
      ∀ connection, ∀ received ∈ s.delivered connection, received.isReliable = true →
        Injected s'.trace received := by
  have hSound : ∃ done, steps = done ++ [] ∧ s.Sound w (done.filterMap SystemStep.turn?) := by
    refine run_induction_along (I := fun s rest => ∃ done, steps = done ++ rest ∧
      s.Sound w (done.filterMap SystemStep.turn?)) ?_ ⟨[], rfl, System.sound_start⟩
      hUndisturbed hRun
    rintro s st rest s' ⟨done, rfl, hDone⟩ hStepUndisturbed hStep
    refine ⟨done ++ [st], List.append_cons done st rest, ?_⟩
    have hLast : [st].filterMap SystemStep.turn? = st.turn?.toList := by
      cases st <;> rfl
    rw [List.filterMap_append, hLast]
    exact hDone.step hStepUndisturbed hStep
  obtain ⟨done, rfl, hDone⟩ := hSound
  rw [List.append_nil] at hRun hUndisturbed
  obtain ⟨fuel, s', hFinish, hInjected⟩ := exists_finish_injected hw hDone.fresh hDone.reaches
    (lossless_of_undisturbed hRun hUndisturbed)
  refine ⟨fuel, s', hFinish, fun connection received hMem hReliable => ?_⟩
  exact hInjected received ((hDone.origin received).mpr ⟨connection, hMem⟩) hReliable

/-- One event of machine 0 for device b, when everything but perhaps the send succeeds. -/
def transmitKey (state : KeyState) (sendEvent : Except String Unit) : SystemStep :=
  .transmit 0 ⟨"b", .macToWindows, keyC state⟩ ⟨.ok id, .ok (10, 20), .ok (), .ok 0, sendEvent⟩

/-- The first connection breaks before it delivers anything; the second one is heard. -/
theorem connections_heard_second :
    ∃ fuel s', ((run (System.step .calm "b") .start [transmitKey .pressed (.ok ()),
        transmitKey .released (.error "broken"), transmitKey .released (.ok ()),
        .deliver ⟨0, "b", 2⟩ 0 (inputFrame 1 (keyC .released))]).bind fun s =>
          finish .calm fuel s.loop) = some (.ok () s') ∧
      Injected s'.trace (inputFrame 1 (keyC .released)) := by
  have hRun : (run (System.step .calm "b") .start [transmitKey .pressed (.ok ()),
      transmitKey .released (.error "broken"), transmitKey .released (.ok ()),
      .deliver ⟨0, "b", 2⟩ 0 (inputFrame 1 (keyC .released))]).any (fun s =>
        inputFrame 1 (keyC .released) ∈ s.delivered ⟨0, "b", 2⟩) = true := by
    decide +kernel
  obtain ⟨s, hRun, hMem⟩ := (Option.any_eq_true _ _).mp hRun
  obtain ⟨fuel, s', hFinish, hInjected⟩ := connections_heard World.calm_succeeds "b" _ hRun (by
    refine ⟨fun _ h => ?_, fun s₁ hs₁ => ⟨fun sender h => ?_, fun s₂ hs₂ => ⟨fun _ h => ?_,
      fun s₃ hs₃ => ⟨⟨fun _ _ _ _ h => ?_, fun _ hFar => ?_, fun h => absurd h (by decide)⟩,
        fun _ _ => trivial⟩⟩⟩⟩
    · cases h
    · obtain rfl := Option.some.inj hs₁
      obtain rfl := Option.some.inj h
      decide
    · obtain rfl := Option.some.inj hs₁
      obtain rfl := Option.some.inj hs₂
      cases h
    · obtain rfl := Option.some.inj hs₁
      obtain rfl := Option.some.inj hs₂
      obtain rfl := Option.some.inj hs₃
      cases h
    · obtain rfl := Option.some.inj hs₁
      obtain rfl := Option.some.inj hs₂
      obtain rfl := Option.some.inj hs₃
      exact absurd hFar (by decide))
  exact ⟨fuel, s', by rw [hRun]; exact hFinish, hInjected _ _ (of_decide_eq_true hMem) (by decide)⟩

/-- The first connection delivers a press and breaks.  The release goes over a second one, again as
its first frame, and is dropped as an old one. -/
theorem release_unheard :
    ∃ steps s s', run (System.step .calm "b") .start steps = some s ∧
      finish .calm 1 s.loop = some (.ok () s') ∧
      inputFrame 1 (keyC .released) ∈ s.delivered ⟨0, "b", 2⟩ ∧
      ¬ Injected s'.trace (inputFrame 1 (keyC .released)) := by
  have hRun : (run (System.step .calm "b") .start [transmitKey .pressed (.ok ()),
      .deliver ⟨0, "b", 0⟩ 0 (inputFrame 1 (keyC .pressed)),
      transmitKey .released (.error "broken"), transmitKey .released (.ok ()),
      .deliver ⟨0, "b", 2⟩ 0 (inputFrame 1 (keyC .released))]).any (fun s =>
        inputFrame 1 (keyC .released) ∈ s.delivered ⟨0, "b", 2⟩ &&
        endsWithout 1 (keyC .released) s.loop) = true := by
    decide +kernel
  obtain ⟨s, hRun, hEnd⟩ := (Option.any_eq_true _ _).mp hRun
  obtain ⟨hMem, hEnd⟩ := Bool.and_eq_true_iff.mp hEnd
  obtain ⟨s', hFinish, hMissed⟩ := not_injected_of_endsWithout hEnd
  exact ⟨_, s, s', hRun, hFinish, of_decide_eq_true hMem, hMissed⟩

end Kmsync
