import Kmsync.Core.Protocol
import Kmsync.ProofKit.Transition

/-! Clipboard synchronisation.  What a remote machine put on the clipboard must not be sent back to
it, so the state remembers the last remote content that was applied; of local copies it remembers
nothing but their number. -/

namespace Kmsync

open ProofKit

structure ClipboardSignature where
  sourceId : DeviceId
  version : UInt64
  contentHash : UInt64
  deriving DecidableEq

/-- `ClipboardSignature::new` -/
def ClipboardText.signature (clipboard : ClipboardText) : ClipboardSignature :=
  ⟨clipboard.sourceId, clipboard.version, clipboard.contentHash⟩

structure ClipboardSyncState where
  localSourceId : DeviceId
  nextVersion : UInt64
  lastAppliedRemote : Option ClipboardSignature
  deriving DecidableEq

namespace ClipboardSyncState

def new (localSourceId : DeviceId) : ClipboardSyncState := ⟨localSourceId, 1, none⟩

variable (state : ClipboardSyncState) (clipboard : ClipboardText)

def nextLocalContent : ClipboardText × ClipboardSyncState :=
  (clipboard.withSourceVersion state.localSourceId state.nextVersion,
    { state with nextVersion := saturatingNext state.nextVersion })

def shouldSendLocalContent : Bool :=
  match state.lastAppliedRemote with
  | some signature => signature.contentHash ≠ clipboard.contentHash
  | none => true

def shouldApplyRemote : Bool :=
  clipboard.sourceId ≠ state.localSourceId ∧
    state.lastAppliedRemote ≠ some clipboard.signature

def markAppliedRemote : ClipboardSyncState :=
  { state with lastAppliedRemote := some clipboard.signature }

end ClipboardSyncState

section History

/-- A clipboard with its synchronisation state. -/
structure SyncedClipboard where
  state : ClipboardSyncState
  content : ClipboardText
  deriving DecidableEq

inductive ClipboardEvent where
  | remote (clipboard : ClipboardText)
  | copy (content : ClipboardText)
  deriving DecidableEq

/-- A remote content is put on the clipboard if it should be applied.  A copy changes the clipboard
to a content with another hash, and is sent if it should be. -/
def SyncedClipboard.step (clip : SyncedClipboard) : ClipboardEvent → Option SyncedClipboard
  | .remote clipboard =>
    if clip.state.shouldApplyRemote clipboard then
      some ⟨clip.state.markAppliedRemote clipboard, clipboard⟩
    else some clip
  | .copy content =>
    if content.contentHash = clip.content.contentHash then none
    else if clip.state.shouldSendLocalContent content then
      some ⟨(clip.state.nextLocalContent content).2, content⟩
    else some { clip with content }

/-- A local copy is sent. -/
def SendsCopy (clip : SyncedClipboard) : ClipboardEvent → Prop
  | .remote _ => True
  | .copy content => clip.state.shouldSendLocalContent content

instance (clip : SyncedClipboard) (event : ClipboardEvent) : Decidable (SendsCopy clip event) :=
  match event with
  | .remote _ => .isTrue trivial
  | .copy _ => inferInstanceAs (Decidable (_ = true))

/-- The last content in a history that came from another machine. -/
def lastRemote (localSourceId : DeviceId) (history : List ClipboardEvent) : Option ClipboardText :=
  history.reverse.findSome? fun event =>
    match event with
    | .remote clipboard => if clipboard.sourceId = localSourceId then none else some clipboard
    | .copy _ => none

theorem lastRemote_snoc_remote (localSourceId : DeviceId) (history : List ClipboardEvent)
    (clipboard : ClipboardText) :
    lastRemote localSourceId (history ++ [.remote clipboard]) =
      if clipboard.sourceId = localSourceId then lastRemote localSourceId history
      else some clipboard := by
  rw [lastRemote, List.reverse_append, List.reverse_singleton, List.singleton_append,
    List.findSome?_cons]
  by_cases h : clipboard.sourceId = localSourceId
  · simp only [if_pos h]
    rfl
  · simp only [if_neg h]

theorem lastRemote_snoc_copy (localSourceId : DeviceId) (history : List ClipboardEvent)
    (content : ClipboardText) :
    lastRemote localSourceId (history ++ [.copy content]) = lastRemote localSourceId history := by
  rw [lastRemote, List.reverse_append, List.reverse_singleton, List.singleton_append,
    List.findSome?_cons]
  rfl

/-- What the state remembers of a history. -/
structure Remembers (localSourceId : DeviceId) (history : List ClipboardEvent)
    (state : ClipboardSyncState) : Prop where
  source : state.localSourceId = localSourceId
  last : state.lastAppliedRemote = (lastRemote localSourceId history).map ClipboardText.signature

variable {localSourceId : DeviceId} {content : ClipboardText} {history : List ClipboardEvent}
  {clip clip' : SyncedClipboard}

/-- A remote content that is not applied is an own one or the last one again. -/
theorem Remembers.step (h : Remembers localSourceId history clip.state) {event : ClipboardEvent}
    (hStep : clip.step event = some clip') :
    Remembers localSourceId (history ++ [event]) clip'.state := by
  cases event with
  | remote clipboard =>
    rw [SyncedClipboard.step] at hStep
    split at hStep
    next hApply =>
      obtain rfl := Option.some.inj hStep
      have hForeign : clipboard.sourceId ≠ localSourceId := by
        rw [← h.source]
        exact (of_decide_eq_true hApply).1
      refine ⟨h.source, ?_⟩
      rw [lastRemote_snoc_remote, if_neg hForeign]
      rfl
    next hSkip =>
      obtain rfl := Option.some.inj hStep
      refine ⟨h.source, ?_⟩
      rw [lastRemote_snoc_remote]
      by_cases hOwn : clipboard.sourceId = localSourceId
      · rw [if_pos hOwn, h.last]
      · have hLast : clip.state.lastAppliedRemote = some clipboard.signature := by
          by_contra hNew
          exact hSkip (decide_eq_true ⟨by rwa [h.source], hNew⟩)
        rw [if_neg hOwn, hLast]
        rfl
  | copy copied =>
    rw [SyncedClipboard.step] at hStep
    split at hStep
    next => cases hStep
    next =>
      refine ⟨?_, ?_⟩ <;> split at hStep <;> obtain rfl := Option.some.inj hStep
      · exact h.source
      · exact h.source
      · rw [lastRemote_snoc_copy]
        exact h.last
      · rw [lastRemote_snoc_copy]
        exact h.last

theorem remembers_of_run
    (h : run SyncedClipboard.step ⟨.new localSourceId, content⟩ history = some clip) :
    Remembers localSourceId history clip.state := by
  induction history using List.reverseRecOn generalizing clip with
  | nil =>
    obtain rfl := Option.some.inj h
    exact ⟨rfl, rfl⟩
  | append_singleton history event ih =>
    rw [run_append] at h
    obtain ⟨before, hBefore, hLast⟩ := Option.bind_eq_some_iff.mp h
    obtain ⟨after, hStep, hEnd⟩ := run_cons_eq_some.mp hLast
    obtain rfl := Option.some.inj hEnd
    exact (ih hBefore).step hStep

theorem shouldSendLocalContent_iff (h : Remembers localSourceId history clip.state)
    (copied : ClipboardText) :
    clip.state.shouldSendLocalContent copied ↔
      ∀ remote, lastRemote localSourceId history = some remote →
        copied.contentHash ≠ remote.contentHash := by
  rw [ClipboardSyncState.shouldSendLocalContent, h.last]
  cases lastRemote localSourceId history with
  | none => exact iff_of_true rfl nofun
  | some remote =>
    refine ⟨fun hSend other hOther => ?_, fun h => decide_eq_true (h remote rfl).symm⟩
    obtain rfl := Option.some.inj hOther
    exact (of_decide_eq_true hSend).symm

/-- Every copy of a history is sent exactly when none brings back the last remote content before
it. -/
theorem sendsCopies_iff
    (hRun : run SyncedClipboard.step ⟨.new localSourceId, content⟩ history = some clip) :
    Along (fun clip event _ => SendsCopy clip event) SyncedClipboard.step
        ⟨.new localSourceId, content⟩ history ↔
      ∀ before copied after, history = before ++ .copy copied :: after →
        ∀ remote, lastRemote localSourceId before = some remote →
          copied.contentHash ≠ remote.contentHash := by
  rw [along_iff hRun]
  constructor
  · intro h before copied after hSplit
    obtain ⟨clip', hBefore, -⟩ : ∃ clip',
        run SyncedClipboard.step ⟨.new localSourceId, content⟩ before = some clip' ∧
        run SyncedClipboard.step clip' (.copy copied :: after) = some clip := by
      rw [hSplit, run_append] at hRun
      exact Option.bind_eq_some_iff.mp hRun
    exact (shouldSendLocalContent_iff (remembers_of_run hBefore) copied).mp
      (h before _ after clip' hSplit hBefore)
  · intro h before event after clip' hSplit hBefore
    cases event with
    | remote clipboard => trivial
    | copy copied =>
      exact (shouldSendLocalContent_iff (remembers_of_run hBefore) copied).mpr
        (h before copied after hSplit)

/-- The remote text "r" is applied, and "x" is copied over it. -/
theorem sendsCopies_other :
    Along (fun clip event _ => SendsCopy clip event) SyncedClipboard.step
      ⟨.new 10, .legacy ""⟩ [.remote (.new 20 1 "r"), .copy (.legacy "x")] := by
  have hRun : run SyncedClipboard.step ⟨.new 10, .legacy ""⟩
      [.remote (.new 20 1 "r"), .copy (.legacy "x")] =
        some ⟨⟨10, 2, some (ClipboardText.signature (.new 20 1 "r"))⟩, .legacy "x"⟩ := by
    decide
  refine (sendsCopies_iff hRun).mpr fun before copied after hSplit remote hRemote => ?_
  obtain _ | ⟨first, _ | ⟨second, before⟩⟩ := before
  · cases hSplit
  · cases hSplit
    obtain rfl : ClipboardText.new 20 1 "r" = remote := Option.some.inj hRemote
    decide
  · exact absurd (congrArg List.length hSplit) (by simp)

/-- The remote text "r" is applied, "x" is copied over it, and then "r" again.  The other machine
still has "x", but the last copy is taken for an echo. -/
theorem not_sendsCopies_again :
    run SyncedClipboard.step ⟨.new 10, .legacy ""⟩
        [.remote (.new 20 1 "r"), .copy (.legacy "x"), .copy (.legacy "r")] =
        some ⟨⟨10, 2, some (ClipboardText.signature (.new 20 1 "r"))⟩, .legacy "r"⟩ ∧
      ¬ Along (fun clip event _ => SendsCopy clip event) SyncedClipboard.step ⟨.new 10, .legacy ""⟩
        [.remote (.new 20 1 "r"), .copy (.legacy "x"), .copy (.legacy "r")] := by
  decide

end History

end Kmsync
