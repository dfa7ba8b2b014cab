import Kmsync.DataPlane.Sends

/-! What gets over a connection.  In every run the frames that the receiver hands on are frames that
were sent, none of them twice; each reliable lane keeps its order, and lacks only what the
unreliable lane or another one has overtaken by a whole replay window. -/

namespace Kmsync

open ProofKit

variable {κ : Type} {crypto : FrameCrypto κ} {config : DataPlaneSecurityConfig}
  {sent delivered accepted : List SealedFrame} {envelope : SealedFrame} {lane : QuicLane}

section Opening

variable {opener : DataPlaneOpener} {header : DataPlaneHeader}

/-- The opener has taken exactly these envelopes. -/
structure Took (config : DataPlaneSecurityConfig) (opener : DataPlaneOpener)
    (accepted : List SealedFrame) : Prop where
  config_eq : opener.config = config
  revoked_eq : opener.revokedDevices = []
  window_eq : opener.replayGuard.window.toNat = 64
  shows : opener.replayGuard.Shows (arrived accepted)

theorem took_new (secret : List UInt8) :
    Took (.fromSecret secret) (.new (.fromSecret secret)) [] where
  config_eq := rfl
  revoked_eq := rfl
  window_eq := (follows_new secret).window_eq
  shows := by
    have hNone : arrived [] = fun _ => ∅ := by
      funext epoch
      refine Set.eq_empty_of_forall_notMem ?_
      rintro n ⟨e, hMem, -⟩
      cases hMem
    rw [hNone]
    exact DataPlaneReplayGuard.new_shows _

theorem update_arrived (hHeader : dataPlaneParseHeader envelope.bytes = .ok header) :
    Function.update (arrived accepted) header.epoch
        (insert header.sequence.toNat (arrived accepted header.epoch)) =
      arrived (accepted ++ [envelope]) := by
  funext epoch
  ext n
  rw [mem_arrived_snoc hHeader]
  by_cases hEpoch : epoch = header.epoch
  · subst hEpoch
    rw [Function.update_self, Set.mem_insert_iff]
    constructor
    · rintro (rfl | hn)
      · exact Or.inr ⟨rfl, rfl⟩
      · exact Or.inl hn
    · rintro (hn | ⟨-, rfl⟩)
      · exact Or.inr hn
      · exact Or.inl rfl
  · rw [Function.update_of_ne hEpoch]
    exact ⟨Or.inl, fun hn => hn.resolve_right fun hLast => hEpoch hLast.1.symm⟩

/-- An envelope is taken exactly if the window of its epoch admits its number. -/
theorem Took.openFrame (h : Took config opener accepted) (hInverts : crypto.Inverts)
    (hUnder : SealedUnder crypto config header envelope)
    (hDecode : ProtocolFrame.decode envelope.frame.encodeVec = .ok envelope.frame) :
    Meets (DataPlaneOpener.openFrame crypto envelope.lane envelope.bytes)
      (fun frame opener' => frame = envelope.frame ∧
        Admits 64 (arrived accepted header.epoch) header.sequence.toNat ∧
        Took config opener' (accepted ++ [envelope]))
      (fun _ opener' => ¬ Admits 64 (arrived accepted header.epoch) header.sequence.toNat ∧
        Took config opener' accepted) opener := by
  obtain ⟨lane, epoch, sequence⟩ := header
  obtain rfl : lane = envelope.lane := hUnder.lane_eq
  have hTransport : envelope.lane.transportLane = envelope.frame.payload.transportLane := by
    rw [hUnder.own_lane, transportLane_delivery]
  have hCheck := checkFrame_of_sealEnvelope hInverts hDecode hTransport hUnder.sealed h.config_eq
    h.revoked_eq
  have hAccept := DataPlaneReplayGuard.accept_meets h.shows epoch sequence
  rw [h.window_eq] at hAccept
  rw [DataPlaneOpener.openFrame, meets_bind, meets_get, meets_bind, hCheck, meets_ofExcept_ok]
  dsimp only
  rw [meets_bind, meets_onPart]
  refine hAccept.mono ?_ ?_
  · rintro - replayGuard ⟨hAdmits, hWindow, hShows⟩
    have hWindow' := (congrArg UInt64.toNat hWindow).trans h.window_eq
    rw [update_arrived hUnder.parse] at hShows
    exact ⟨rfl, hAdmits, h.config_eq, h.revoked_eq, hWindow', hShows⟩
  · rintro - replayGuard ⟨hRefused, hWindow, hShows⟩
    have hWindow' := (congrArg UInt64.toNat hWindow).trans h.window_eq
    exact ⟨hRefused, h.config_eq, h.revoked_eq, hWindow', hShows⟩

end Opening

section Receiving

/-- The frames of a lane among the answers. -/
def framesOn (lane : QuicLane) (answers : List (Checked String ProtocolFrame)) :
    List ProtocolFrame :=
  answers.filterMap fun
    | .ok frame => if (quicDeliveryModeForFrame frame).lane = lane then some frame else none
    | .error _ => none

@[simp] theorem framesOn_nil : framesOn lane [] = [] := rfl

@[simp] theorem framesOn_append (answers more : List (Checked String ProtocolFrame)) :
    framesOn lane (answers ++ more) = framesOn lane answers ++ framesOn lane more :=
  List.filterMap_append

@[simp] theorem framesOn_error (e : Fault String) : framesOn lane [.error e] = [] := rfl

theorem framesOn_ok (frame : ProtocolFrame) :
    framesOn lane [.ok frame] =
      if (quicDeliveryModeForFrame frame).lane = lane then [frame] else [] := by
  rw [framesOn, List.filterMap_cons]
  split <;> split <;> simp_all

/-- The frames of a lane that its task has handed on or is about to. -/
def QuicConnection.answered (c : QuicConnection) (lane : QuicLane) : List ProtocolFrame :=
  framesOn lane (c.received ++ (c.tasks lane).pending.toList)

/-- The task of a lane has read the lane's stream up to the end of these envelopes. -/
def ReadTask.At (lane : QuicLane) (envelopes : List SealedFrame) (task : ReadTask) : Prop :=
  match task.lane with
  | none => task.read = 0 ∧ envelopes = []
  | some lane' => lane' = lane ∧ task.read = (laneBytes lane envelopes).length

/-- What a run has come to, with the frames that it was to send: the envelopes that the sender has
made of them, those that the receiver has opened so far, and those that it took. -/
structure Transfers (crypto : FrameCrypto κ) (config : DataPlaneSecurityConfig)
    (frames : List ProtocolFrame) (c : QuicConnection) (sent delivered accepted : List SealedFrame) :
    Prop where
  sends : Sends crypto config c.sender sent
  frames_sublist : (sent.map (·.frame)).Sublist frames
  arrives : Delivered sent delivered
  took : Took config c.opener accepted
  sublist : accepted.Sublist delivered
  nodup : accepted.Nodup
  overtaken : ∀ envelope ∈ delivered, envelope.lane ≠ .inputUnreliable → envelope ∉ accepted →
    ∃ earlier ∈ accepted, earlier.overtakes envelope = true
  tasks : ∀ lane ≠ .inputUnreliable, (c.tasks lane).At lane (delivered.filter (·.lane = lane))
  answers : ∀ lane, c.answered lane = (accepted.filter (·.lane = lane)).map (·.frame)
  own_lane : ∀ lane frame, (c.tasks lane).pending = some (.ok frame) →
    (quicDeliveryModeForFrame frame).lane = lane

namespace Transfers

variable {frames : List ProtocolFrame} {c : QuicConnection}

theorem start (secret : List UInt8) :
    Transfers crypto (.fromSecret secret) [] (.start (.fromSecret secret)) [] [] [] where
  sends := {
    sealer := ⟨DataPlaneSealer.counts_new secret, rfl, List.Pairwise.nil, by simp⟩
    fits := by simp
    datagrams := by simp [QuicConnection.start, QuicEventSender.new]
    streams := by
      intro lane stream hStream
      cases lane <;> cases hStream
    unopened := by simp }
  frames_sublist := List.Sublist.refl _
  arrives := ⟨fun _ _ => List.prefix_rfl, by simp⟩
  took := took_new secret
  sublist := List.Sublist.refl _
  nodup := List.nodup_nil
  overtaken := by simp
  tasks _ _ := ⟨rfl, rfl⟩
  answers _ := rfl
  own_lane := by simp [QuicConnection.start]

theorem numbered (h : Transfers crypto config frames c sent delivered accepted)
    (hMem : envelope ∈ sent) : ∃ header, SealedUnder crypto config header envelope := by
  obtain ⟨header, hUnder, -⟩ := h.sends.sealer.numbered envelope hMem
  exact ⟨header, hUnder⟩

/-- A frame is sent. -/
theorem send (h : Transfers crypto config frames c sent delivered accepted)
    {sender : QuicEventSender} {frame : ProtocolFrame}
    (hSender : Sends.After crypto config sent frame sender) :
    ∃ sent', Transfers crypto config (frames ++ [frame]) { c with sender } sent' delivered
      accepted := by
  obtain ⟨envelopes, hSends, hFrames⟩ := hSender
  refine ⟨sent ++ envelopes, { h with
    sends := hSends, frames_sublist := ?_, arrives := ⟨?_, ?_⟩ }⟩
  · rw [List.map_append]
    exact h.frames_sublist.append hFrames
  · intro lane hLane
    rw [List.filter_append]
    exact (h.arrives.reliable lane hLane).trans (List.prefix_append _ _)
  · exact fun e hMem hLane => List.mem_append_left _ (h.arrives.unreliable e hMem hLane)

/-- A task goes on without an envelope. -/
theorem setTask (h : Transfers crypto config frames c sent delivered accepted) {task : ReadTask}
    (hAt : lane ≠ .inputUnreliable → task.At lane (delivered.filter (·.lane = lane)))
    (hSame : ∀ other, framesOn other task.pending.toList = [])
    (hPending : (c.tasks lane).pending = none) :
    Transfers crypto config frames (c.setTask lane task) sent delivered accepted :=
  { h with
    tasks := by
      intro other hOther
      by_cases hEq : other = lane
      · subst hEq
        simpa using hAt hOther
      · rw [QuicConnection.tasks_setTask_ne hEq]
        exact h.tasks other hOther
    answers := by
      intro other
      rw [← h.answers other, QuicConnection.answered, QuicConnection.answered]
      by_cases hEq : other = lane
      · subst hEq
        simp [hSame, hPending]
      · rw [QuicConnection.tasks_setTask_ne hEq, QuicConnection.received_setTask]
    own_lane := by
      intro other frame hFrame
      by_cases hEq : other = lane
      · subst hEq
        have hNone := hSame (quicDeliveryModeForFrame frame).lane
        rw [QuicConnection.tasks_setTask_self] at hFrame
        rw [hFrame, Option.toList_some, framesOn_ok, if_pos rfl] at hNone
        cases hNone
      · rw [QuicConnection.tasks_setTask_ne hEq] at hFrame
        exact h.own_lane other frame hFrame }

/-- An answer is handed on. -/
theorem handOn (h : Transfers crypto config frames c sent delivered accepted)
    {answer : Checked String ProtocolFrame} (hAnswer : (c.tasks lane).pending = some answer) :
    Transfers crypto config frames
      ({ c with received := c.received ++ [answer] }.setTask lane
        { c.tasks lane with pending := none }) sent delivered accepted :=
  { h with
    tasks := by
      intro other hOther
      by_cases hEq : other = lane
      · subst hEq
        rw [QuicConnection.tasks_setTask_self]
        exact h.tasks other hOther
      · rw [QuicConnection.tasks_setTask_ne hEq]
        exact h.tasks other hOther
    answers := by
      intro other
      rw [← h.answers other, QuicConnection.answered, QuicConnection.answered,
        QuicConnection.received_setTask]
      by_cases hEq : other = lane
      · subst hEq
        simp [hAnswer]
      · have hOther : framesOn other [answer] = [] := by
          cases answer with
          | error e => rfl
          | ok frame => rw [framesOn_ok, h.own_lane lane frame hAnswer, if_neg (Ne.symm hEq)]
        rw [QuicConnection.tasks_setTask_ne hEq, framesOn_append, framesOn_append, framesOn_append,
          hOther, List.append_nil]
    own_lane := by
      intro other frame hFrame
      by_cases hEq : other = lane
      · subst hEq
        rw [QuicConnection.tasks_setTask_self] at hFrame
        cases hFrame
      · rw [QuicConnection.tasks_setTask_ne hEq] at hFrame
        exact h.own_lane other frame hFrame }

/-- An envelope on a reliable lane that the window refuses has been overtaken. -/
theorem exists_overtakes (h : Transfers crypto config frames c sent delivered accepted)
    (hArrives : Delivered sent (delivered ++ [envelope])) (hLane : envelope.lane ≠ .inputUnreliable)
    {header : DataPlaneHeader} (hHeader : dataPlaneParseHeader envelope.bytes = .ok header)
    (hRefused : ¬ Admits 64 (arrived accepted header.epoch) header.sequence.toNat) :
    ∃ earlier ∈ accepted, earlier.overtakes envelope = true := by
  have hNew : header.sequence.toNat ∉ arrived accepted header.epoch := by
    rintro ⟨earlier, hMem, header', hHeader', -, hEq⟩
    exact hArrives.sequence_ne h.sends.sealer.ordered hLane (h.sublist.mem hMem) hHeader' hHeader hEq
  rw [Admits, not_and] at hRefused
  obtain ⟨n, hFar⟩ := not_forall.mp (hRefused hNew)
  obtain ⟨⟨earlier, hMem, header', hHeader', hEpoch, rfl⟩, hFar⟩ := Classical.not_imp.mp hFar
  exact ⟨earlier, hMem,
    (SealedFrame.overtakes_iff hHeader' hHeader).mpr ⟨hEpoch, not_lt.mp hFar⟩⟩

/-- The receiver opens one more envelope. -/
theorem openEnvelope (h : Transfers crypto config frames c sent delivered accepted)
    (hInverts : crypto.Inverts)
    (hDecode : ∀ frame ∈ frames, ProtocolFrame.decode frame.encodeVec = .ok frame)
    (hMem : envelope ∈ sent) (hArrives : Delivered sent (delivered ++ [envelope])) {read : Nat}
    (hAt : envelope.lane ≠ .inputUnreliable →
      { c.tasks envelope.lane with read }.At envelope.lane
        ((delivered ++ [envelope]).filter (·.lane = envelope.lane)))
    (hPending : (c.tasks envelope.lane).pending = none) :
    ∃ accepted', Transfers crypto config frames
      (c.openEnvelope crypto envelope.lane envelope.lane envelope.bytes read) sent
      (delivered ++ [envelope]) accepted' := by
  obtain ⟨header, hUnder⟩ := h.numbered hMem
  have hFrame : envelope.frame ∈ frames :=
    h.frames_sublist.mem (List.mem_map_of_mem hMem)
  have hTasks : ∀ answer, ∀ lane ≠ .inputUnreliable,
      ((c.setTask envelope.lane { c.tasks envelope.lane with pending := answer, read }).tasks
        lane).At lane ((delivered ++ [envelope]).filter (·.lane = lane)) := by
    intro answer lane hLane
    by_cases hEq : lane = envelope.lane
    · subst hEq
      rw [QuicConnection.tasks_setTask_self]
      exact hAt hLane
    · rw [QuicConnection.tasks_setTask_ne hEq, filter_lane_snoc, if_neg (Ne.symm hEq)]
      exact h.tasks lane hLane
  have hLonger : accepted.Sublist (delivered ++ [envelope]) :=
    h.sublist.trans (List.sublist_append_left _ _)
  unfold QuicConnection.openEnvelope
  rcases (h.took.openFrame hInverts hUnder (hDecode _ hFrame)).ok_or_error with
    ⟨frame, opener, hOk, rfl, hAdmits, hTook⟩ | ⟨e, opener, hError, hRefused, hTook⟩
  · rw [hOk]
    refine ⟨accepted ++ [envelope], {
      sends := h.sends
      frames_sublist := h.frames_sublist
      arrives := hArrives
      took := hTook
      sublist := h.sublist.append (List.Sublist.refl _)
      nodup := ?_
      overtaken := ?_
      tasks := hTasks _
      answers := ?_
      own_lane := ?_ }⟩
    · refine List.nodup_append.mpr ⟨h.nodup, List.nodup_singleton _, ?_⟩
      rintro earlier hEarlier last hLast rfl
      obtain rfl := List.mem_singleton.mp hLast
      exact hAdmits.1 ⟨earlier, hEarlier, header, hUnder.parse, rfl, rfl⟩
    · intro e hDelivered hLane hNot
      rw [List.mem_append, List.mem_singleton, not_or] at hNot
      have hOld := (List.mem_append.mp hDelivered).resolve_right fun hLast =>
        hNot.2 (List.mem_singleton.mp hLast)
      obtain ⟨earlier, hEarlier, hOvertakes⟩ := h.overtaken e hOld hLane hNot.1
      exact ⟨earlier, List.mem_append_left _ hEarlier, hOvertakes⟩
    · intro other
      rw [filter_lane_snoc, QuicConnection.answered]
      by_cases hEq : other = envelope.lane
      · subst hEq
        have hOld := h.answers envelope.lane
        rw [QuicConnection.answered, hPending, Option.toList_none, List.append_nil] at hOld
        rw [QuicConnection.tasks_setTask_self, QuicConnection.received_setTask, framesOn_append,
          Option.toList_some, framesOn_ok, if_pos hUnder.own_lane.symm, if_pos rfl, List.map_append,
          ← hOld]
        rfl
      · rw [QuicConnection.tasks_setTask_ne hEq, if_neg (Ne.symm hEq)]
        exact h.answers other
    · intro other frame hPending'
      by_cases hEq : other = envelope.lane
      · subst hEq
        rw [QuicConnection.tasks_setTask_self] at hPending'
        cases hPending'
        exact hUnder.own_lane.symm
      · rw [QuicConnection.tasks_setTask_ne hEq] at hPending'
        exact h.own_lane other frame hPending'
  · rw [hError]
    refine ⟨accepted, {
      sends := h.sends
      frames_sublist := h.frames_sublist
      arrives := hArrives
      took := hTook
      sublist := hLonger
      nodup := h.nodup
      overtaken := ?_
      tasks := hTasks _
      answers := ?_
      own_lane := ?_ }⟩
    · intro e' hDelivered hLane hNot
      rcases List.mem_append.mp hDelivered with hOld | hLast
      · exact h.overtaken e' hOld hLane hNot
      · obtain rfl := List.mem_singleton.mp hLast
        exact h.exists_overtakes hArrives hLane hUnder.parse hRefused
    · intro other
      rw [← h.answers other, QuicConnection.answered, QuicConnection.answered]
      by_cases hEq : other = envelope.lane
      · subst hEq
        simp [hPending]
      · rw [QuicConnection.tasks_setTask_ne hEq, QuicConnection.received_setTask]
    · intro other frame hPending'
      by_cases hEq : other = envelope.lane
      · subst hEq
        rw [QuicConnection.tasks_setTask_self] at hPending'
        cases hPending'
      · rw [QuicConnection.tasks_setTask_ne hEq] at hPending'
        exact h.own_lane other frame hPending'

theorem laneBytes_append (lane : QuicLane) (envelopes more : List SealedFrame) :
    laneBytes lane (envelopes ++ more) =
      laneBytes lane envelopes ++ (more.map (·.bytes)).flatMap delimited := by
  simp [laneBytes]

theorem drop_prefix {α : Type} {xs ys zs : List α} (h : xs <+: ys ++ zs) :
    xs.drop ys.length <+: zs := by
  have hDrop := h.drop ys.length
  rwa [List.drop_left] at hDrop

/-- One more envelope arrives on a reliable lane, the first that has not. -/
theorem delivered_snoc (h : Delivered sent delivered) {more : List SealedFrame}
    (hLane : envelope.lane ≠ .inputUnreliable)
    (hNext : delivered.filter (·.lane = envelope.lane) ++ envelope :: more =
      sent.filter (·.lane = envelope.lane)) : Delivered sent (delivered ++ [envelope]) where
  reliable other hOther := by
    rw [filter_lane_snoc]
    split
    next hEq =>
      subst hEq
      exact ⟨more, by rw [← hNext, List.append_assoc, List.singleton_append]⟩
    next => exact h.reliable other hOther
  unreliable e hMem hUnreliable := by
    rcases List.mem_append.mp hMem with hOld | hLast
    · exact h.unreliable e hOld hUnreliable
    · obtain rfl := List.mem_singleton.mp hLast
      exact absurd hUnreliable hLane

/-- What a task reads from its stream is the next envelope of the lane. -/
theorem exists_next (h : Transfers crypto config frames c sent delivered accepted)
    (hLane : lane ≠ .inputUnreliable) {stream : SendStream}
    (hStream : c.sender.stream lane = some stream)
    (hRead : (c.tasks lane).read = (laneBytes lane (delivered.filter (·.lane = lane))).length)
    {arrived : Nat} {ending : StreamEnding} {sealed : List UInt8} {behind : RecvStream}
    {earlyText : Nat → String}
    (hTurn : readStreamTurn earlyText (c.unread lane stream arrived ending) =
      .envelope sealed behind) :
    ∃ envelope ∈ sent, envelope.lane = lane ∧ envelope.bytes = sealed ∧
      Delivered sent (delivered ++ [envelope]) ∧
      (c.unread lane stream arrived ending).bytes.length - behind.bytes.length =
        4 + sealed.length := by
  obtain ⟨more, hMore⟩ := h.arrives.reliable lane hLane
  have hWritten := (h.sends.streams lane stream hStream).isPrefix
  rw [← hMore, laneBytes_append] at hWritten
  have hRest : (c.unread lane stream arrived ending).bytes <+:
      (more.map (·.bytes)).flatMap delimited := by
    rw [QuicConnection.unread, hRead]
    exact drop_prefix ((List.take_prefix arrived _).trans hWritten)
  have hSub : ∀ e ∈ more, e ∈ sent ∧ e.lane = lane := by
    intro e hMem
    have hFiltered : e ∈ sent.filter (·.lane = lane) :=
      hMore ▸ List.mem_append_right _ hMem
    simpa using List.mem_filter.mp hFiltered
  have hFits : ∀ message ∈ more.map (·.bytes), message.length < 2 ^ 32 := by
    intro message hMem
    obtain ⟨e, he, rfl⟩ := List.mem_map.mp hMem
    obtain ⟨hSent, rfl⟩ := hSub e he
    exact h.sends.fits e hSent hLane
  rw [readStreamTurn_eq] at hTurn
  cases hFront : front quicStreamFrameLimitBytes (c.unread lane stream arrived ending).bytes with
  | error stop =>
    rw [hFront] at hTurn
    exact absurd hTurn (stopTurn_ne_envelope _ _ _ _)
  | ok part =>
    obtain ⟨message, bytes⟩ := part
    rw [hFront] at hTurn
    cases hTurn
    rw [List.prefix_iff_eq_take.mp hRest] at hFront
    obtain ⟨rest, hMessages, hLe, rfl⟩ := front_take_eq_ok hFits hFront
    obtain ⟨e, more, rfl, rfl, rfl⟩ := List.map_eq_cons_iff.mp hMessages
    obtain ⟨hSent, rfl⟩ := hSub e List.mem_cons_self
    refine ⟨e, hSent, rfl, rfl, delivered_snoc h.arrives hLane hMore, ?_⟩
    have hLength := hRest.length_le
    simp only [List.map_cons, List.flatMap_cons, List.length_append, delimited_length] at hLength
    rw [List.length_take]
    omega

theorem framesOn_refuse (text : String) : framesOn lane [refuse text] = [] := rfl

/-- The task of a stream goes on. -/
theorem readStream (h : Transfers crypto config frames c sent delivered accepted)
    (hInverts : crypto.Inverts)
    (hDecode : ∀ frame ∈ frames, ProtocolFrame.decode frame.encodeVec = .ok frame)
    {stream : SendStream} (hStream : c.sender.stream lane = some stream)
    (hPending : (c.tasks lane).pending = none) {arrived : Nat} {ending : StreamEnding}
    {earlyText : Nat → String} {c' : QuicConnection}
    (hStep : c.readStream crypto earlyText lane (c.unread lane stream arrived ending) = some c') :
    ∃ delivered' accepted', Transfers crypto config frames c' sent delivered' accepted' := by
  have hLane : lane ≠ .inputUnreliable := by
    rintro rfl
    cases hStream
  have hTask := h.tasks lane hLane
  unfold QuicConnection.readStream at hStep
  dsimp only at hStep
  split at hStep
  next hHeader =>
    rw [ReadTask.At, hHeader] at hTask
    obtain ⟨hRead, hNone⟩ := hTask
    have hStart : (c.unread lane stream arrived ending).bytes <+:
        laneBytes lane (sent.filter (·.lane = lane)) := by
      rw [QuicConnection.unread, hRead, List.drop_zero]
      exact (List.take_prefix arrived _).trans (h.sends.streams lane stream hStream).isPrefix
    split at hStep
    next laneByte bytes hBytes =>
      rw [hBytes] at hStart
      obtain ⟨rfl, -⟩ := List.cons_prefix_cons.mp hStart
      rw [decodeQuicLane_encode] at hStep
      cases hStep
      refine ⟨delivered, accepted, h.setTask (fun _ => ?_) (by simp [hPending]) hPending⟩
      exact ⟨rfl, by rw [hNone]; rfl⟩
    next =>
      have hAt : ∀ task : ReadTask, task.lane = (c.tasks lane).lane → task.read = 0 →
          task.At lane (delivered.filter (·.lane = lane)) := by
        intro task hSame hZero
        rw [ReadTask.At, hSame, hHeader]
        exact ⟨hZero, hNone⟩
      split at hStep <;> cases hStep
      · exact ⟨delivered, accepted,
          h.setTask (fun _ => hAt _ rfl hRead) (by simp [hPending]) hPending⟩
      · exact ⟨delivered, accepted,
          h.setTask (fun _ => hAt _ rfl hRead) (fun other => framesOn_refuse _) hPending⟩
  next lane' hHeader =>
    have hAt : ∀ task : ReadTask, task.lane = (c.tasks lane).lane →
        task.read = (c.tasks lane).read → task.At lane (delivered.filter (·.lane = lane)) := by
      intro task hSame hRead
      rw [ReadTask.At, hSame, hRead]
      exact hTask
    have hAtEnd := hTask
    rw [ReadTask.At, hHeader] at hAtEnd
    obtain ⟨rfl, hRead⟩ := hAtEnd
    split at hStep
    next => cases hStep
    next =>
      cases hStep
      exact ⟨delivered, accepted,
        h.setTask (fun _ => hAt _ rfl rfl) (by simp [hPending]) hPending⟩
    next =>
      cases hStep
      exact ⟨delivered, accepted,
        h.setTask (fun _ => hAt _ rfl rfl) (fun other => framesOn_refuse _) hPending⟩
    next hTurn =>
      cases hStep
      obtain ⟨e, hMem, rfl, rfl, hArrives, hLength⟩ := h.exists_next hLane hStream hRead hTurn
      refine ⟨delivered ++ [e], h.openEnvelope hInverts hDecode hMem hArrives (fun _ => ?_) hPending⟩
      rw [ReadTask.At, filter_lane_snoc, if_pos rfl]
      dsimp only
      rw [hHeader]
      refine ⟨rfl, ?_⟩
      rw [hRead, hLength, laneBytes_snoc, List.length_append, delimited_length]

/-- The task of the datagrams takes one of them. -/
theorem readDatagram (h : Transfers crypto config frames c sent delivered accepted)
    (hInverts : crypto.Inverts)
    (hDecode : ∀ frame ∈ frames, ProtocolFrame.decode frame.encodeVec = .ok frame)
    {sealed : List UInt8} (hMem : sealed ∈ c.sender.datagrams)
    (hPending : (c.tasks .inputUnreliable).pending = none) (read : Nat) :
    ∃ delivered' accepted', Transfers crypto config frames
      (c.openEnvelope crypto .inputUnreliable .inputUnreliable sealed read) sent delivered'
      accepted' := by
  obtain ⟨e, hSent, hLane, rfl⟩ := h.sends.datagrams sealed hMem
  have hArrives : Delivered sent (delivered ++ [e]) := by
    constructor
    · intro other hOther
      rw [filter_lane_snoc, if_neg fun hEq => hOther (hEq.symm.trans hLane)]
      exact h.arrives.reliable other hOther
    · intro e' hMem' hUnreliable
      rcases List.mem_append.mp hMem' with hOld | hLast
      · exact h.arrives.unreliable e' hOld hUnreliable
      · exact List.mem_singleton.mp hLast ▸ hSent
  rw [← hLane] at hPending ⊢
  exact ⟨delivered ++ [e], h.openEnvelope hInverts hDecode hSent hArrives
    (fun hReliable => absurd hLane hReliable) hPending⟩

end Transfers

/-- The frames that a run is to send. -/
def framesSent (events : List QuicEvent) : List ProtocolFrame :=
  events.filterMap fun
    | .send frame _ => some frame
    | _ => none

namespace Transfers

variable {frames : List ProtocolFrame} {c c' : QuicConnection} {earlyText : Nat → String}

/-- One step of the connection. -/
theorem step (h : Transfers crypto config frames c sent delivered accepted)
    (hInverts : crypto.Inverts)
    (hDecode : ∀ frame ∈ frames, ProtocolFrame.decode frame.encodeVec = .ok frame)
    {event : QuicEvent} (hStep : c.step crypto earlyText event = some c') :
    ∃ sent' delivered' accepted',
      Transfers crypto config (frames ++ framesSent [event]) c' sent' delivered' accepted' := by
  cases event with
  | send frame answers =>
    obtain ⟨sender', rfl, hAfter⟩ : ∃ sender', c' = { c with sender := sender' } ∧
        Sends.After crypto config sent frame sender' := by
      rcases (h.sends.sendFrame_meets answers frame).ok_or_error with
        ⟨_, sender', hEq, hAfter⟩ | ⟨_, sender', hEq, hAfter⟩
      all_goals
        rw [QuicConnection.step, hEq] at hStep
        cases hStep
        exact ⟨sender', rfl, hAfter⟩
    obtain ⟨sent', hNext⟩ := h.send hAfter
    exact ⟨sent', delivered, accepted, hNext⟩
  | readStream lane arrived ending =>
    simp only [QuicConnection.step, Option.ite_none_left_eq_some] at hStep
    obtain ⟨-, hStep⟩ := hStep
    split at hStep
    next stream hStream hPending =>
      obtain ⟨delivered', accepted', hNext⟩ :=
        h.readStream hInverts hDecode hStream hPending hStep
      exact ⟨sent, delivered', accepted', by simpa [framesSent] using hNext⟩
    next => cases hStep
  | readDatagram index =>
    simp only [QuicConnection.step, Option.ite_none_left_eq_some] at hStep
    obtain ⟨-, hStep⟩ := hStep
    split at hStep
    next sealed hSealed hPending =>
      cases hStep
      obtain ⟨delivered', accepted', hNext⟩ :=
        h.readDatagram hInverts hDecode (List.mem_of_getElem? hSealed) hPending _
      exact ⟨sent, delivered', accepted', by simpa [framesSent] using hNext⟩
    next => cases hStep
  | failDatagrams error =>
    simp only [QuicConnection.step, Option.ite_none_left_eq_some] at hStep
    obtain ⟨-, hStep⟩ := hStep
    split at hStep
    next hPending =>
      cases hStep
      have hNext : Transfers crypto config frames (c.setTask .inputUnreliable
          { c.tasks .inputUnreliable with
            pending := some (refuse s!"failed to read QUIC datagram: {error}"), ended := true })
          sent delivered accepted :=
        h.setTask (fun hReliable => absurd rfl hReliable) (fun other => framesOn_refuse _) hPending
      exact ⟨sent, delivered, accepted, by simpa [framesSent] using hNext⟩
    next => cases hStep
  | handOn lane =>
    rw [QuicConnection.step] at hStep
    split at hStep
    next => cases hStep
    next answer hAnswer =>
      cases hStep
      exact ⟨sent, delivered, accepted, by simpa [framesSent] using h.handOn hAnswer⟩

theorem framesSent_append (events more : List QuicEvent) :
    framesSent (events ++ more) = framesSent events ++ framesSent more :=
  List.filterMap_append

theorem run (hInverts : crypto.Inverts) (secret : List UInt8) {events : List QuicEvent}
    (hRun : run (QuicConnection.step crypto earlyText) (.start (.fromSecret secret)) events = some c)
    (hDecode : ∀ frame ∈ framesSent events, ProtocolFrame.decode frame.encodeVec = .ok frame) :
    ∃ sent delivered accepted,
      Transfers crypto (.fromSecret secret) (framesSent events) c sent delivered accepted := by
  induction events using List.reverseRecOn generalizing c with
  | nil =>
    cases hRun
    exact ⟨[], [], [], start secret⟩
  | append_singleton events event ih =>
    rw [framesSent_append] at hDecode ⊢
    rw [run_append] at hRun
    obtain ⟨c₁, hBefore, hLast⟩ := Option.bind_eq_some_iff.mp hRun
    obtain ⟨c₂, hStep, hEnd⟩ := run_cons_eq_some.mp hLast
    cases hEnd
    have hEarlier := fun frame hMem => hDecode frame (List.mem_append_left _ hMem)
    obtain ⟨sent, delivered, accepted, h⟩ := ih hBefore hEarlier
    exact h.step hInverts hEarlier hStep

end Transfers

/-- The frames among the answers. -/
def okFrames (answers : List (Checked String ProtocolFrame)) : List ProtocolFrame :=
  answers.filterMap fun
    | .ok frame => some frame
    | .error _ => none

/-- The frames that are sent on a lane. -/
def onLane (lane : QuicLane) (frames : List ProtocolFrame) : List ProtocolFrame :=
  frames.filter fun frame => (quicDeliveryModeForFrame frame).lane = lane

theorem okFrames_append (answers more : List (Checked String ProtocolFrame)) :
    okFrames (answers ++ more) = okFrames answers ++ okFrames more :=
  List.filterMap_append

theorem onLane_append (frames more : List ProtocolFrame) :
    onLane lane (frames ++ more) = onLane lane frames ++ onLane lane more :=
  List.filter_append ..

theorem framesOn_eq (answers : List (Checked String ProtocolFrame)) :
    framesOn lane answers = onLane lane (okFrames answers) := by
  induction answers with
  | nil => rfl
  | cons answer answers ih =>
    rw [← List.singleton_append, framesOn_append, okFrames_append, onLane_append, ih]
    congr 1
    cases answer with
    | error e => rfl
    | ok frame =>
      rw [framesOn_ok]
      by_cases hLane : (quicDeliveryModeForFrame frame).lane = lane
      · simp [hLane, okFrames, onLane]
      · simp [hLane, okFrames, onLane]

theorem count_onLane (frames : List ProtocolFrame) (frame : ProtocolFrame) :
    (onLane (quicDeliveryModeForFrame frame).lane frames).count frame = frames.count frame :=
  List.count_filter (by simp)

namespace Transfers

variable {frames : List ProtocolFrame} {c : QuicConnection}

theorem map_filter_lane (h : Transfers crypto config frames c sent delivered accepted)
    {envelopes : List SealedFrame} (hSub : ∀ e ∈ envelopes, e ∈ sent) (lane : QuicLane) :
    (envelopes.filter (·.lane = lane)).map (·.frame) = onLane lane (envelopes.map (·.frame)) := by
  rw [onLane, List.filter_map]
  congr 1
  refine List.filter_congr fun e hMem => ?_
  obtain ⟨header, hUnder⟩ := h.numbered (hSub e hMem)
  simp [hUnder.own_lane]

theorem handed_sublist (h : Transfers crypto config frames c sent delivered accepted)
    (lane : QuicLane) :
    (framesOn lane c.received).Sublist ((accepted.filter (·.lane = lane)).map (·.frame)) := by
  rw [← h.answers lane, QuicConnection.answered, framesOn_append]
  exact List.sublist_append_left _ _

/-- A reliable lane keeps its order. -/
theorem framesOn_sublist (h : Transfers crypto config frames c sent delivered accepted)
    (hLane : lane ≠ .inputUnreliable) :
    (framesOn lane c.received).Sublist (onLane lane frames) := by
  have hTaken : (accepted.filter (·.lane = lane)).Sublist (sent.filter (·.lane = lane)) :=
    (h.sublist.filter _).trans (h.arrives.reliable lane hLane).sublist
  have hSent := hTaken.map (·.frame)
  rw [h.map_filter_lane (fun _ => id)] at hSent
  exact ((h.handed_sublist lane).trans hSent).trans (h.frames_sublist.filter _)

/-- No frame is handed on more often than it was sent. -/
theorem subperm (h : Transfers crypto config frames c sent delivered accepted) :
    (okFrames c.received).Subperm frames := by
  have hSub : ∀ e ∈ accepted, e ∈ sent := fun e hMem => h.arrives.mem (h.sublist.mem hMem)
  obtain ⟨envelopes, hPerm, hSublist⟩ := List.subperm_of_subset h.nodup hSub
  have hTaken : (accepted.map (·.frame)).Subperm frames :=
    ⟨envelopes.map (·.frame), hPerm.map _, (hSublist.map _).trans h.frames_sublist⟩
  refine List.subperm_ext_iff.mpr fun frame _ => ?_
  have hLane := (h.handed_sublist (quicDeliveryModeForFrame frame).lane).count_le frame
  rw [h.map_filter_lane hSub, framesOn_eq, count_onLane, count_onLane] at hLane
  exact hLane.trans (hTaken.count_le frame)

end Transfers

/-- In every run of a connection, whatever the network does, no frame is handed on more often than
it was sent, and each reliable lane hands its frames on in the order in which they were sent. -/
theorem received_of_sent (crypto : FrameCrypto κ) (hInverts : crypto.Inverts)
    (earlyText : Nat → String) (secret : List UInt8) {events : List QuicEvent} {c : QuicConnection}
    (hRun : run (QuicConnection.step crypto earlyText) (.start (.fromSecret secret)) events = some c)
    (hDecode : ∀ frame ∈ framesSent events, ProtocolFrame.decode frame.encodeVec = .ok frame) :
    (okFrames c.received).Subperm (framesSent events) ∧
      ∀ lane ≠ .inputUnreliable,
        (framesOn lane c.received).Sublist (onLane lane (framesSent events)) := by
  obtain ⟨sent, delivered, accepted, h⟩ := Transfers.run hInverts secret hRun hDecode
  exact ⟨h.subperm, fun lane hLane => h.framesOn_sublist hLane⟩

/-- What has become of the frames of a run: the envelopes that the sender has sealed for them and
given to its streams and datagrams, those whose bytes the receiver has read, and those that it has
taken. -/
structure LanesKept (crypto : FrameCrypto κ) (config : DataPlaneSecurityConfig)
    (frames : List ProtocolFrame) (c : QuicConnection) (sent read taken : List SealedFrame) :
    Prop where
  sends : Sends crypto config c.sender sent
  sealed : (sent.map (·.frame)).Sublist frames
  arrives : Delivered sent read
  position : ∀ lane ≠ .inputUnreliable, (c.tasks lane).At lane (read.filter (·.lane = lane))
  sublist : taken.Sublist read
  answers : ∀ lane, c.answered lane = (taken.filter (·.lane = lane)).map (·.frame)
  overtaken : ∀ envelope ∈ read, envelope.lane ≠ .inputUnreliable → envelope ∉ taken →
    ∃ earlier ∈ taken, earlier.overtakes envelope = true

/-- In every run, the frames of each reliable lane come out up to where its stream has been read,
and only those are missing that an envelope of the same key epoch has overtaken by 64 numbers. -/
theorem reliable_lanes_kept (crypto : FrameCrypto κ) (hInverts : crypto.Inverts)
    (earlyText : Nat → String) (secret : List UInt8) {events : List QuicEvent} {c : QuicConnection}
    (hRun : run (QuicConnection.step crypto earlyText) (.start (.fromSecret secret)) events = some c)
    (hDecode : ∀ frame ∈ framesSent events, ProtocolFrame.decode frame.encodeVec = .ok frame) :
    ∃ sent read taken,
      LanesKept crypto (.fromSecret secret) (framesSent events) c sent read taken := by
  obtain ⟨sent, delivered, accepted, h⟩ := Transfers.run hInverts secret hRun hDecode
  exact ⟨sent, delivered, accepted, h.sends, h.frames_sublist, h.arrives, h.tasks, h.sublist,
    h.answers, h.overtaken⟩

end Receiving

section Sample

/-- A key is released and the mouse moves behind it; the move arrives first. -/
def crossedEvents : List QuicEvent :=
  [.send releaseKey {}, .send moveMouse {}, .readDatagram 0, .readStream .inputReliable 1 .more,
    .handOn .inputUnreliable, .readStream .inputReliable 200 .more, .handOn .inputReliable]

def crossedConnection : Option QuicConnection :=
  run (QuicConnection.step tagCrypto fun _ => "") (.start (.fromSecret (List.replicate 32 0)))
    crossedEvents

theorem decode_crossedEvents :
    ∀ frame ∈ framesSent crossedEvents, ProtocolFrame.decode frame.encodeVec = .ok frame := by
  decide

theorem received_of_sent_crossed : ∃ c, crossedConnection = some c ∧
    (okFrames c.received).Subperm [releaseKey, moveMouse] ∧
    ∀ lane ≠ .inputUnreliable,
      (framesOn lane c.received).Sublist (onLane lane [releaseKey, moveMouse]) := by
  obtain ⟨c, hRun⟩ := Option.isSome_iff_exists.mp (by decide +kernel : crossedConnection.isSome)
  exact ⟨c, hRun,
    received_of_sent tagCrypto tagCrypto_inverts _ _ hRun decode_crossedEvents⟩

theorem reliable_lanes_kept_crossed : ∃ c, crossedConnection = some c ∧
    ∃ sent read taken, LanesKept tagCrypto (.fromSecret (List.replicate 32 0))
      [releaseKey, moveMouse] c sent read taken := by
  obtain ⟨c, hRun⟩ := Option.isSome_iff_exists.mp (by decide +kernel : crossedConnection.isSome)
  exact ⟨c, hRun,
    reliable_lanes_kept tagCrypto tagCrypto_inverts _ _ hRun decode_crossedEvents⟩

example : crossedConnection.map (fun c => okFrames c.received) = some [moveMouse, releaseKey] := by
  decide +kernel

end Sample

end Kmsync
