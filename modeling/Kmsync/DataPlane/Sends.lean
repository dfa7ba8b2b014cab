import Kmsync.DataPlane.Connection

/-! What the sender of a connection puts on its streams.  Whatever the network answers, the stream
of each lane carries the lane's envelopes in the order of their numbers, or a first part of their
bytes once it has failed. -/

namespace Kmsync

open ProofKit

variable {κ : Type} {crypto : FrameCrypto κ} {config : DataPlaneSecurityConfig}
  {sent : List SealedFrame} {envelope : SealedFrame} {lane : QuicLane}

/-- The envelopes of a connection so far, under the numbers that the sealer has counted. -/
structure SealedInOrder (crypto : FrameCrypto κ) (config : DataPlaneSecurityConfig)
    (sealer : DataPlaneSealer) (sent : List SealedFrame) : Prop where
  counts : sealer.Counts
  config_eq : sealer.config = config
  ordered : sent.Pairwise (Precedes crypto config)
  numbered : ∀ envelope ∈ sent, ∃ header, SealedUnder crypto config header envelope ∧
    header.sequence.toNat < sealer.nextSequence.toNat

theorem SealedInOrder.later {sealer sealer' : DataPlaneSealer}
    (h : SealedInOrder crypto config sealer sent) (hCounts : sealer'.Counts)
    (hConfig : sealer'.config = sealer.config)
    (hNext : sealer.nextSequence.toNat ≤ sealer'.nextSequence.toNat) :
    SealedInOrder crypto config sealer' sent where
  counts := hCounts
  config_eq := hConfig.trans h.config_eq
  ordered := h.ordered
  numbered e hMem := by
    obtain ⟨header, hUnder, hLt⟩ := h.numbered e hMem
    exact ⟨header, hUnder, hLt.trans_le hNext⟩

/-- Sealing a frame adds its envelope, or nothing. -/
theorem SealedInOrder.seal {sealer : DataPlaneSealer} (h : SealedInOrder crypto config sealer sent)
    (frame : ProtocolFrame) :
    Meets (DataPlaneSealer.sealFrame crypto (quicDeliveryModeForFrame frame).lane frame)
      (fun bytes sealer' => SealedInOrder crypto config sealer'
        (sent ++ [⟨(quicDeliveryModeForFrame frame).lane, frame, bytes⟩]))
      (fun _ sealer' => SealedInOrder crypto config sealer' sent) sealer := by
  refine (DataPlaneSealer.sealFrame_meets h.counts crypto _ frame).mono ?_ ?_
  · rintro bytes sealer' ⟨hCounts, hConfig, hNext, epoch, hSealed⟩
    rw [h.config_eq] at hSealed
    have hUnder : SealedUnder crypto config
        ⟨(quicDeliveryModeForFrame frame).lane, epoch, sealer.nextSequence⟩
        ⟨(quicDeliveryModeForFrame frame).lane, frame, bytes⟩ := ⟨rfl, rfl, hSealed⟩
    have hLater := h.later hCounts hConfig hNext.le
    refine ⟨hCounts, hLater.config_eq, ?_, ?_⟩
    · refine List.pairwise_append.mpr ⟨h.ordered, List.pairwise_singleton _ _, ?_⟩
      intro e hMem last hLast
      obtain rfl := List.mem_singleton.mp hLast
      obtain ⟨header, hEarlier, hLt⟩ := h.numbered e hMem
      exact ⟨header, _, hEarlier, hUnder, hLt⟩
    · intro e hMem
      rcases List.mem_append.mp hMem with hMem | hLast
      · exact hLater.numbered e hMem
      · obtain rfl := List.mem_singleton.mp hLast
        exact ⟨_, hUnder, hNext⟩
  · rintro - sealer' ⟨hCounts, hConfig, hNext⟩
    exact h.later hCounts hConfig hNext

/-- The bytes of a lane's stream that carries these envelopes. -/
def laneBytes (lane : QuicLane) (envelopes : List SealedFrame) : List UInt8 :=
  encodeQuicLane lane :: (envelopes.map (·.bytes)).flatMap delimited

theorem laneBytes_snoc (lane : QuicLane) (envelopes : List SealedFrame) (envelope : SealedFrame) :
    laneBytes lane (envelopes ++ [envelope]) =
      laneBytes lane envelopes ++ delimited envelope.bytes := by
  simp [laneBytes]

/-- The stream carries the envelopes; once it has failed, only a first part of their bytes. -/
structure StreamHolds (lane : QuicLane) (envelopes : List SealedFrame) (stream : SendStream) :
    Prop where
  isPrefix : stream.written <+: laneBytes lane envelopes
  whole : stream.broken = none → stream.written = laneBytes lane envelopes

/-- Whatever becomes of the two writes, the stream carries the envelope after them. -/
theorem StreamHolds.write {envelopes : List SealedFrame} {stream : SendStream}
    (h : StreamHolds lane envelopes stream) (envelope : SealedFrame) (answers : NetworkAnswers)
    {len : List UInt8}
    (hLen : delimited envelope.bytes = len ++ envelope.bytes) :
    Meets (do
        SendStream.writeAll "failed to write QUIC stream frame length" len answers.length
        SendStream.writeAll "failed to write QUIC stream frame" envelope.bytes answers.body)
      (fun _ stream' => StreamHolds lane (envelopes ++ [envelope]) stream')
      (fun _ stream' => StreamHolds lane (envelopes ++ [envelope]) stream') stream := by
  obtain ⟨written, broken⟩ := stream
  have hLonger : laneBytes lane envelopes <+: laneBytes lane (envelopes ++ [envelope]) := by
    rw [laneBytes_snoc]
    exact List.prefix_append _ _
  rw [meets_bind]
  cases broken with
  | some error => exact ⟨h.isPrefix.trans hLonger, fun hNone => absurd hNone (by simp)⟩
  | none =>
    obtain rfl : written = laneBytes lane envelopes := h.whole rfl
    cases hLength : answers.length with
    | fails taken error =>
      refine ⟨?_, fun hNone => absurd hNone (by simp)⟩
      rw [laneBytes_snoc, hLen]
      exact List.prefix_append_right_inj _ |>.mpr
        ((List.take_prefix taken len).trans (List.prefix_append _ _))
    | done =>
      cases hBody : answers.body with
      | fails taken error =>
        refine ⟨?_, fun hNone => absurd hNone (by simp)⟩
        rw [laneBytes_snoc, hLen]
        change laneBytes lane envelopes ++ len ++ envelope.bytes.take taken <+: _
        rw [List.append_assoc]
        exact List.prefix_append_right_inj _ |>.mpr
          (List.prefix_append_right_inj _ |>.mpr (List.take_prefix taken _))
      | done =>
        have hAll : laneBytes lane envelopes ++ len ++ envelope.bytes =
            laneBytes lane (envelopes ++ [envelope]) := by
          rw [laneBytes_snoc, hLen, List.append_assoc]
        exact ⟨hAll ▸ List.prefix_rfl, fun _ => hAll⟩

/-- What the sender has done about the envelopes: its datagrams are among them, and the stream of
each lane carries those of the lane. -/
structure Sends (crypto : FrameCrypto κ) (config : DataPlaneSecurityConfig)
    (sender : QuicEventSender) (sent : List SealedFrame) : Prop where
  sealer : SealedInOrder crypto config sender.sealer sent
  fits : ∀ envelope ∈ sent, envelope.lane ≠ .inputUnreliable → envelope.bytes.length < 2 ^ 32
  datagrams : ∀ bytes ∈ sender.datagrams,
    ∃ envelope ∈ sent, envelope.lane = .inputUnreliable ∧ envelope.bytes = bytes
  streams : ∀ lane stream, sender.stream lane = some stream →
    StreamHolds lane (sent.filter (·.lane = lane)) stream
  unopened : ∀ lane ≠ .inputUnreliable, sender.stream lane = none →
    sent.filter (·.lane = lane) = []

namespace QuicEventSender

variable {sender : QuicEventSender} {frame : ProtocolFrame}

theorem stream_setStream {stream : SendStream} (hLane : lane ≠ .inputUnreliable)
    (other : QuicLane) :
    (sender.setStream lane stream).stream other =
      if other = lane then some stream else sender.stream other := by
  cases lane <;> cases other <;> first | rfl | exact absurd rfl hLane

@[simp] theorem stream_setSealer (sealer : DataPlaneSealer) (other : QuicLane) :
    (sender.setSealer sealer).stream other = sender.stream other := by
  cases other <;> rfl

@[simp] theorem sealer_setSealer (sealer : DataPlaneSealer) :
    (sender.setSealer sealer).sealer = sealer := rfl

@[simp] theorem datagrams_setSealer (sealer : DataPlaneSealer) :
    (sender.setSealer sealer).datagrams = sender.datagrams := rfl

@[simp] theorem sealer_setStream (stream : SendStream) :
    (sender.setStream lane stream).sealer = sender.sealer := by
  cases lane <;> rfl

@[simp] theorem datagrams_setStream (stream : SendStream) :
    (sender.setStream lane stream).datagrams = sender.datagrams := by
  cases lane <;> rfl

/-- A new stream carries no envelope. -/
theorem streamHolds_openLaneStream {answers : NetworkAnswers} {stream : SendStream}
    (h : openLaneStream answers lane = .ok stream) : StreamHolds lane [] stream := by
  unfold openLaneStream at h
  split at h
  · cases h
  · cases hHeader : answers.header with
    | done =>
      rw [hHeader] at h
      cases h
      exact ⟨List.prefix_rfl, fun _ => rfl⟩
    | fails taken error =>
      rw [hHeader] at h
      cases h

end QuicEventSender

theorem SealedInOrder.sublist {sealer : DataPlaneSealer} {sent' : List SealedFrame}
    (h : SealedInOrder crypto config sealer sent) (hSub : sent'.Sublist sent) :
    SealedInOrder crypto config sealer sent' where
  counts := h.counts
  config_eq := h.config_eq
  ordered := h.ordered.sublist hSub
  numbered e hMem := h.numbered e (hSub.mem hMem)

theorem filter_lane_snoc (other : QuicLane) :
    (sent ++ [envelope]).filter (·.lane = other) =
      if envelope.lane = other then sent.filter (·.lane = other) ++ [envelope]
      else sent.filter (·.lane = other) := by
  rw [List.filter_append]
  split
  next hLane => rw [List.filter_cons_of_pos (by simpa using hLane), List.filter_nil]
  next hLane => rw [List.filter_cons_of_neg (by simpa using hLane), List.filter_nil, List.append_nil]

namespace Sends

variable {sender sender' : QuicEventSender} {frame : ProtocolFrame}

/-- Only the sealer has gone on. -/
theorem setSealer (h : Sends crypto config sender sent) {sealer : DataPlaneSealer}
    (hSealer : SealedInOrder crypto config sealer sent) :
    Sends crypto config (sender.setSealer sealer) sent where
  sealer := hSealer
  fits := h.fits
  datagrams := h.datagrams
  streams other stream hStream := h.streams other stream (by simpa using hStream)
  unopened other hOther hNone := h.unopened other hOther (by simpa using hNone)

/-- A stream is opened for a lane that has none. -/
theorem setStream (h : Sends crypto config sender sent) (hLane : lane ≠ .inputUnreliable)
    {stream : SendStream} (hHolds : StreamHolds lane (sent.filter (·.lane = lane)) stream) :
    Sends crypto config (sender.setStream lane stream) sent where
  sealer := by simpa using h.sealer
  fits := h.fits
  datagrams := by simpa using h.datagrams
  streams other stream' hStream := by
    rw [QuicEventSender.stream_setStream hLane] at hStream
    split at hStream
    next hOther =>
      cases hStream
      rwa [hOther]
    next => exact h.streams other stream' hStream
  unopened other hOther hNone := by
    rw [QuicEventSender.stream_setStream hLane] at hNone
    split at hNone
    · cases hNone
    · exact h.unopened other hOther hNone

/-- An envelope is written to the stream of its lane. -/
theorem write (h : Sends crypto config sender sent) {sealer : DataPlaneSealer}
    (hSealer : SealedInOrder crypto config sealer (sent ++ [envelope]))
    (hLane : envelope.lane ≠ .inputUnreliable) (hFits : envelope.bytes.length < 2 ^ 32)
    {stream : SendStream}
    (hHolds : StreamHolds envelope.lane (sent.filter (·.lane = envelope.lane) ++ [envelope])
      stream) :
    Sends crypto config ((sender.setSealer sealer).setStream envelope.lane stream)
      (sent ++ [envelope]) where
  sealer := by simpa using hSealer
  fits e hMem hReliable := by
    rcases List.mem_append.mp hMem with hMem | hLast
    · exact h.fits e hMem hReliable
    · obtain rfl := List.mem_singleton.mp hLast
      exact hFits
  datagrams bytes hMem := by
    obtain ⟨e, he, hBytes⟩ := h.datagrams bytes (by simpa using hMem)
    exact ⟨e, List.mem_append_left _ he, hBytes⟩
  streams other stream' hStream := by
    rw [QuicEventSender.stream_setStream hLane] at hStream
    rw [filter_lane_snoc]
    split at hStream
    next hOther =>
      cases hStream
      subst hOther
      rwa [if_pos rfl]
    next hOther =>
      rw [if_neg (Ne.symm hOther)]
      exact h.streams other stream' (by simpa using hStream)
  unopened other hOther hNone := by
    rw [QuicEventSender.stream_setStream hLane] at hNone
    rw [filter_lane_snoc]
    split at hNone
    · cases hNone
    next hNe =>
      rw [if_neg (Ne.symm hNe)]
      exact h.unopened other hOther (by simpa using hNone)

/-- A datagram is given to the connection, or not. -/
theorem sendDatagram (h : Sends crypto config sender sent) {sealer : DataPlaneSealer}
    (hSealer : SealedInOrder crypto config sealer (sent ++ [envelope]))
    (hLane : envelope.lane = .inputUnreliable) {datagrams : List (List UInt8)}
    (hDatagrams : ∀ bytes ∈ datagrams, bytes ∈ sender.datagrams ∨ bytes = envelope.bytes) :
    Sends crypto config { sender.setSealer sealer with datagrams } (sent ++ [envelope]) where
  sealer := hSealer
  fits e hMem hReliable := by
    rcases List.mem_append.mp hMem with hMem | hLast
    · exact h.fits e hMem hReliable
    · obtain rfl := List.mem_singleton.mp hLast
      exact absurd hLane hReliable
  datagrams bytes hMem := by
    rcases hDatagrams bytes hMem with hOld | rfl
    · obtain ⟨e, he, hBytes⟩ := h.datagrams bytes hOld
      exact ⟨e, List.mem_append_left _ he, hBytes⟩
    · exact ⟨envelope, List.mem_append_right _ (List.mem_singleton_self _), hLane, rfl⟩
  streams other stream hStream := by
    have hOld : sender.stream other = some stream := by
      cases other <;> exact hStream
    rw [filter_lane_snoc]
    split
    next hOther =>
      subst hOther
      rw [hLane] at hOld
      cases hOld
    next => exact h.streams other stream hOld
  unopened other hOther hNone := by
    have hOld : sender.stream other = none := by
      cases other <;> exact hNone
    rw [filter_lane_snoc, if_neg fun hLane' => hOther (hLane'.symm.trans hLane)]
    exact h.unopened other hOther hOld

/-- After a call of `send_frame`: the frame has become an envelope, or nothing has. -/
def After (crypto : FrameCrypto κ) (config : DataPlaneSecurityConfig) (sent : List SealedFrame)
    (frame : ProtocolFrame) (sender' : QuicEventSender) : Prop :=
  ∃ envelopes : List SealedFrame, Sends crypto config sender' (sent ++ envelopes) ∧
    (envelopes.map (·.frame)).Sublist [frame]

theorem after_none (h : Sends crypto config sender' sent) :
    After crypto config sent frame sender' :=
  ⟨[], by rwa [List.append_nil], List.nil_sublist _⟩

theorem after_some (h : Sends crypto config sender' (sent ++ [envelope])) :
    After crypto config sent envelope.frame sender' :=
  ⟨[envelope], h, List.Sublist.refl _⟩

theorem ensureLaneStream_meets (h : Sends crypto config sender sent) (answers : NetworkAnswers)
    (lane : QuicLane) :
    Meets (QuicEventSender.ensureLaneStream answers lane)
      (fun _ sender' => Sends crypto config sender' sent ∧ lane ≠ .inputUnreliable)
      (fun _ sender' => Sends crypto config sender' sent) sender := by
  rw [QuicEventSender.ensureLaneStream]
  split
  · rwa [meets_throw]
  next hLane =>
    rw [meets_bind, meets_get]
    split
    next hNone =>
      rw [Option.isNone_iff_eq_none] at hNone
      rw [meets_bind, meets_ofExcept]
      refine ⟨fun stream hOpen => ?_, fun e _ => h⟩
      rw [meets_modify]
      refine ⟨h.setStream hLane ?_, hLane⟩
      rw [h.unopened lane hLane hNone]
      exact QuicEventSender.streamHolds_openLaneStream hOpen
    next => exact ⟨h, hLane⟩

theorem sendStreamFrame_meets (h : Sends crypto config sender sent) (answers : NetworkAnswers)
    (frame : ProtocolFrame) :
    Meets
      (QuicEventSender.sendStreamFrame crypto answers (quicDeliveryModeForFrame frame).lane frame)
      (fun _ => After crypto config sent frame) (fun _ => After crypto config sent frame)
      sender := by
  rw [QuicEventSender.sendStreamFrame, meets_bind]
  refine (h.ensureLaneStream_meets answers _).mono ?_ fun _ _ => after_none
  rintro - opened ⟨hOpened, hLane⟩
  rw [meets_bind, meets_onPart]
  refine (hOpened.sealer.seal frame).mono ?_ fun _ _ hSealer =>
    after_none (hOpened.setSealer hSealer)
  intro bytes sealer hSealer
  have hUnsent := hOpened.setSealer (hSealer.sublist (List.sublist_append_left sent _))
  rw [meets_bind, meets_ofExcept]
  refine ⟨fun len hLen => ?_, fun _ _ => after_none hUnsent⟩
  have hFrame : bytes.length < 2 ^ 32 ∧ delimited bytes = len ++ bytes := by
    unfold QuicEventSender.frameLength at hLen
    split at hLen <;> cases hLen
    next hFits => exact ⟨hFits, rfl⟩
  rw [meets_bind, meets_get]
  cases hStream : (opened.setSealer sealer).stream (quicDeliveryModeForFrame frame).lane with
  | none => exact after_none hUnsent
  | some stream =>
    dsimp only
    rw [meets_onPart]
    have hHolds := hUnsent.streams _ stream hStream
    have hWrite :=
      hHolds.write ⟨(quicDeliveryModeForFrame frame).lane, frame, bytes⟩ answers hFrame.2
    refine hWrite.mono ?_ ?_
    · exact fun _ stream' hHolds' => after_some (hOpened.write hSealer hLane hFrame.1 hHolds')
    · exact fun _ stream' hHolds' => after_some (hOpened.write hSealer hLane hFrame.1 hHolds')

theorem sendDatagramFrame_meets (h : Sends crypto config sender sent) (answers : NetworkAnswers)
    (frame : ProtocolFrame) :
    Meets
      (QuicEventSender.sendDatagramFrame crypto answers (quicDeliveryModeForFrame frame).lane frame)
      (fun _ => After crypto config sent frame) (fun _ => After crypto config sent frame)
      sender := by
  rw [QuicEventSender.sendDatagramFrame]
  split
  · exact after_none h
  next hLane =>
    rw [meets_bind, meets_onPart]
    refine (h.sealer.seal frame).mono ?_ fun _ _ hSealer => after_none (h.setSealer hSealer)
    intro bytes sealer hSealer
    have hUnsent := h.setSealer (hSealer.sublist (List.sublist_append_left sent _))
    split
    · exact after_none hUnsent
    · split
      · exact after_none hUnsent
      · rw [meets_modify]
        refine after_some (h.sendDatagram hSealer (not_not.mp hLane) fun bytes' hMem => ?_)
        rcases List.mem_append.mp hMem with hOld | hLast
        · exact Or.inl hOld
        · exact Or.inr (List.mem_singleton.mp hLast)

theorem sendFrame_meets (h : Sends crypto config sender sent) (answers : NetworkAnswers)
    (frame : ProtocolFrame) :
    Meets (QuicEventSender.sendFrame crypto answers frame)
      (fun _ => After crypto config sent frame) (fun _ => After crypto config sent frame)
      sender := by
  have hStream := h.sendStreamFrame_meets answers frame
  have hDatagram := h.sendDatagramFrame_meets answers frame
  rw [QuicEventSender.sendFrame]
  cases hMode : quicDeliveryModeForFrame frame with
  | datagram lane =>
    rw [hMode] at hDatagram
    exact hDatagram
  | reliableStream lane =>
    rw [hMode] at hStream
    exact hStream

end Sends

end Kmsync
