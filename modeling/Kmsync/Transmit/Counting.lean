import Kmsync.Receive.Sequencer
import Kmsync.Transmit.Sender

/-! Every connection of a machine has its frames numbered from 1 on. -/

namespace Kmsync

open ProofKit

/-- The frames are numbered 1, 2, 3, … in the order of sending. -/
def Numbered (sent : List ProtocolFrame) : Prop :=
  ∀ i (h : i < sent.length), sent[i].sequence.toNat = i + 1

instance (sent : List ProtocolFrame) : Decidable (Numbered sent) :=
  inferInstanceAs (Decidable (∀ i (h : i < sent.length), sent[i].sequence.toNat = i + 1))

section Numbers

variable {sent : List ProtocolFrame} {frame frame' : ProtocolFrame}

theorem Numbered.pairwise (h : Numbered sent) :
    sent.Pairwise fun earlier later => earlier.sequence.toNat < later.sequence.toNat := by
  refine List.pairwise_iff_getElem.mpr fun i j hi hj hLt => ?_
  rw [h i hi, h j hj]
  omega

theorem Numbered.eq_of_sequence_eq (h : Numbered sent) (hMem : frame ∈ sent) (hMem' : frame' ∈ sent)
    (hEq : frame.sequence.toNat = frame'.sequence.toNat) : frame = frame' := by
  obtain ⟨i, hi, rfl⟩ := List.getElem_of_mem hMem
  obtain ⟨j, hj, rfl⟩ := List.getElem_of_mem hMem'
  rw [h i hi, h j hj] at hEq
  obtain rfl : i = j := Nat.succ.inj hEq
  rfl

theorem Numbered.one_le (h : Numbered sent) (hMem : frame ∈ sent) : 1 ≤ frame.sequence.toNat := by
  obtain ⟨i, hi, rfl⟩ := List.getElem_of_mem hMem
  rw [h i hi]
  exact Nat.le_add_left 1 i

theorem Numbered.append (h : Numbered sent)
    (hFrame : frame.sequence.toNat = sent.length + 1) : Numbered (sent ++ [frame]) := by
  intro i hi
  rw [List.getElem_append]
  split
  next hLt => exact h i hLt
  next hGe =>
    have hEq : i = sent.length := by
      rw [List.length_append, List.length_singleton] at hi
      omega
    simp only [hEq, List.getElem_singleton, hFrame]

end Numbers

/-- A connection of a machine to one of its targets, the `number`-th to be opened. -/
structure Connection where
  source : ℕ
  target : String
  number : ℕ
  deriving DecidableEq

/-- The senders of one machine agree with what their connections took; connections from `opened` on
are new. -/
structure Counting (source opened : ℕ) (state : SenderState Connection) : Prop where
  numbered : ∀ connection, Numbered (state.sent connection)
  fresh : ∀ connection, opened ≤ connection.number → state.sent connection = []
  counts : ∀ target sender, state.senders target = some sender →
    sender.transport.source = source ∧ sender.transport.target = target ∧
      sender.transport.number < opened ∧
      sender.sequence.toNat = (state.sent sender.transport).length + 1

/-- Connections of other machines are left alone, and no frame is taken back. -/
structure Extends (source : ℕ) (state state' : SenderState Connection) : Prop where
  others : ∀ connection, connection.source ≠ source →
    state'.sent connection = state.sent connection
  prefixes : ∀ connection, state.sent connection <+: state'.sent connection

section Transmission

variable {source opened : ℕ} {state : SenderState Connection} {answers : TransmitAnswers Connection}
  {queued : TargetedQueuedInputEvent F32} {target : String}

theorem Counting.mono (h : Counting source opened state) : Counting source (opened + 1) state where
  numbered := h.numbered
  fresh connection hNumber := h.fresh connection (Nat.le_of_succ_le hNumber)
  counts target sender hSender := by
    obtain ⟨hSource, hTarget, hNumber, hSequence⟩ := h.counts target sender hSender
    exact ⟨hSource, hTarget, Nat.lt_succ_of_lt hNumber, hSequence⟩

theorem connectDesktopTarget_meets (h : Counting source opened state)
    (hConnect : ∀ connection, answers.connect = .ok connection →
      connection = ⟨source, target, opened⟩) :
    Meets (connectDesktopTarget answers target)
      (fun _ state' => Counting source (opened + 1) state' ∧ state'.sent = state.sent ∧
        ∀ sender, state'.senders target = some sender →
          state.senders target = some sender ∨ sender.sequence = 1)
      (fun _ state' => state' = state) state := by
  simp only [connectDesktopTarget, meets_bind, meets_get]
  split
  next hNone =>
    split
    · rfl
    · rfl
    · rfl
    next transform sourceDeviceId targetId transport _ _ hTransport =>
      obtain rfl := hConnect transport hTransport
      refine ⟨⟨h.numbered, h.mono.fresh, fun other sender hSender => ?_⟩, rfl, fun sender hSender => ?_⟩
      · dsimp only at hSender
        by_cases hOther : other = target
        · subst hOther
          rw [Function.update_self] at hSender
          obtain rfl := Option.some.inj hSender
          refine ⟨rfl, rfl, Nat.lt_succ_self opened, ?_⟩
          rw [h.fresh _ le_rfl]
          rfl
        · rw [Function.update_of_ne hOther] at hSender
          exact h.mono.counts other sender hSender
      · dsimp only at hSender
        rw [Function.update_self] at hSender
        obtain rfl := Option.some.inj hSender
        exact Or.inr rfl
  next => exact ⟨h.mono, rfl, fun sender hSender => Or.inl hSender⟩

/-- A frame that was sent. -/
theorem Counting.send (h : Counting source opened state) {sender : DesktopTargetSender Connection}
    (hSender : state.senders target = some sender) (hCounter : sender.sequence.toNat < u64Max)
    {frame : ProtocolFrame} (hFrame : frame.sequence = sender.sequence) :
    Counting source opened
      { senders := Function.update state.senders target
          (some { sender with sequence := saturatingNext sender.sequence })
        sent := Function.update state.sent sender.transport
          (state.sent sender.transport ++ [frame]) } := by
  obtain ⟨hSource, hTarget, hNumber, hSequence⟩ := h.counts target sender hSender
  constructor
  · intro connection
    dsimp only
    by_cases hConnection : connection = sender.transport
    · rw [hConnection, Function.update_self]
      exact (h.numbered _).append (hFrame ▸ hSequence)
    · rw [Function.update_of_ne hConnection]
      exact h.numbered connection
  · intro connection hFresh
    dsimp only
    rw [Function.update_of_ne]
    · exact h.fresh connection hFresh
    · rintro rfl
      omega
  · intro other kept hKept
    dsimp only at hKept ⊢
    by_cases hOther : other = target
    · rw [hOther, Function.update_self] at hKept
      obtain rfl := Option.some.inj hKept
      refine ⟨hSource, hOther ▸ hTarget, hNumber, ?_⟩
      rw [Function.update_self, List.length_append, List.length_singleton,
        toNat_saturatingNext hCounter, hSequence]
    · rw [Function.update_of_ne hOther] at hKept
      obtain ⟨hKeptSource, hKeptTarget, hKeptNumber, hKeptSequence⟩ := h.counts other kept hKept
      refine ⟨hKeptSource, hKeptTarget, hKeptNumber, ?_⟩
      -- Two targets never share a connection.
      rw [Function.update_of_ne, hKeptSequence]
      intro hShared
      exact hOther (hKeptTarget.symm.trans ((congrArg Connection.target hShared).trans hTarget))

theorem Extends.trans {state' state'' : SenderState Connection} (h : Extends source state state')
    (h' : Extends source state' state'') : Extends source state state'' where
  others connection hOther := (h'.others connection hOther).trans (h.others connection hOther)
  prefixes connection := (h.prefixes connection).trans (h'.prefixes connection)

theorem Extends.send {connection : Connection} (hSource : connection.source = source)
    {senders : String → Option (DesktopTargetSender Connection)} {frame : ProtocolFrame} :
    Extends source state
      ⟨senders, Function.update state.sent connection (state.sent connection ++ [frame])⟩ := by
  constructor
  · intro other hOther
    refine Function.update_of_ne ?_ _ _
    rintro rfl
    exact hOther hSource
  · intro other
    dsimp only
    by_cases hOther : other = connection
    · rw [hOther, Function.update_self]
      exact List.prefix_append _ _
    · rw [Function.update_of_ne hOther]

theorem transmitDesktopCaptureEvent_meets (h : Counting source opened state)
    (hConnect : ∀ connection, answers.connect = .ok connection →
      connection = ⟨source, queued.targetDeviceId, opened⟩)
    (hCounter : ∀ sender, state.senders queued.targetDeviceId = some sender →
      sender.sequence.toNat < u64Max) :
    Meets (transmitDesktopCaptureEvent answers queued)
      (fun _ state' => Counting source (opened + 1) state' ∧ Extends source state state')
      (fun _ state' => Counting source (opened + 1) state' ∧ Extends source state state') state := by
  have hSame : ∀ {state' : SenderState Connection}, state'.sent = state.sent →
      Extends source state state' :=
    fun hSent => ⟨fun _ _ => by rw [hSent], fun _ => by rw [hSent]⟩
  rw [transmitDesktopCaptureEvent, meets_bind]
  refine (connectDesktopTarget_meets h hConnect).mono ?_ ?_
  · rintro _ state₁ ⟨h₁, hSent, hSender⟩
    simp only [meets_bind, meets_get]
    split
    next => exact ⟨h₁, hSame hSent⟩
    next sender hGet =>
      obtain ⟨hSource, hTarget, hNumber, hSequence⟩ := h₁.counts _ sender hGet
      have hCounter' : sender.sequence.toNat < u64Max := by
        rcases hSender sender hGet with hOld | hNew
        · exact hCounter sender hOld
        · rw [hNew]
          decide
      split
      next => exact ⟨h₁, hSame hSent⟩
      next timestamp _ =>
        split
        next =>
          exact ⟨h₁.send hGet hCounter' rfl, (hSame hSent).trans (.send hSource)⟩
        next =>
          -- The sender is gone, and its connection is never used again.
          refine ⟨⟨h₁.numbered, h₁.fresh, fun other kept hKept => ?_⟩, hSame hSent⟩
          dsimp only at hKept
          by_cases hOther : other = queued.targetDeviceId
          · rw [hOther, Function.update_self] at hKept
            cases hKept
          · rw [Function.update_of_ne hOther] at hKept
            exact h₁.counts other kept hKept
  · rintro error _ rfl
    exact ⟨h.mono, hSame rfl⟩

end Transmission

end Kmsync
