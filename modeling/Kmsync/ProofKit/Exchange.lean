import Mathlib.Data.List.Basic
import Mathlib.Logic.Relation

/-! Requests and replies over two queues.  One side sends requests, and waits for the reply to some
of them before it goes on; the other side handles the requests in order, and replies to those for
which the first one waits. -/

namespace ProofKit

variable {α β : Type}

/-- Where the side is that sends the requests. -/
inductive Asker (α : Type) where
  | idle
  | waiting (a : α)
  | gone
  deriving DecidableEq

/-- What comes of a request for the side that sends it. -/
inductive Fate (β : Type) where
  /-- it was sent, and no reply is expected -/
  | told
  | replied (b : β)
  /-- it was given up, sent or not -/
  | lost
  deriving DecidableEq

/-- The two sides, with what has happened. -/
structure Exchange (α β : Type) where
  asker : Asker α
  sent : List α
  /-- what the requests came to on the other side, as far as they are handled -/
  handled : List β
  replies : List β
  /-- the replies that have not been read -/
  inFlight : List β
  returned : List (α × Fate β)

namespace Exchange

variable (waits : α → Bool)

def start : Exchange α β := ⟨.idle, [], [], [], [], []⟩

/-- The replies to the requests that are handled. -/
def repliesTo (sent : List α) (handled : List β) : List β :=
  ((sent.zip handled).filter fun request => waits request.1).map (·.2)

/-- A side that has gone sends and reads nothing more. -/
inductive Step (e : Exchange α β) : Exchange α β → Prop where
  | tell (a : α) (hIdle : e.asker = .idle) (hWaits : waits a = false) :
    Step e { e with
      asker := .idle, sent := e.sent ++ [a], returned := e.returned ++ [(a, .told)] }
  | ask (a : α) (hIdle : e.asker = .idle) (hWaits : waits a = true) :
    Step e { e with sent := e.sent ++ [a], asker := .waiting a }
  | handle (a : α) (b : β) (hNext : e.sent[e.handled.length]? = some a) :
    Step e { e with
      handled := e.handled ++ [b]
      replies := e.replies ++ if waits a then [b] else []
      inFlight := e.inFlight ++ if waits a then [b] else [] }
  | receive (a : α) (b : β) (rest : List β) (asker : Asker α) (hWaiting : e.asker = .waiting a)
    (hReply : e.inFlight = b :: rest) (hAsker : asker = .idle ∨ asker = .gone) :
    Step e { e with asker, inFlight := rest, returned := e.returned ++ [(a, .replied b)] }
  | lose (a : α) (h : e.asker = .idle ∨ e.asker = .waiting a) :
    Step e { e with asker := .gone, returned := e.returned ++ [(a, .lost)] }

/-- Nothing is between the two sides but requests for whose reply nobody waits, and, while the first
side waits, its last request or the reply to it. -/
structure Aligned (e : Exchange α β) : Prop where
  replies : e.replies = repliesTo waits e.sent e.handled
  handledLe : e.handled.length ≤ e.sent.length
  replied : ∀ (i : ℕ) (a : α) (b : β), e.returned[i]? = some (a, .replied b) →
    e.sent[i]? = some a ∧ e.handled[i]? = some b
  told : ∀ a, (a, .told) ∈ e.returned → waits a = false
  idle : e.asker = .idle → e.returned.length = e.sent.length ∧ e.inFlight = [] ∧
    ∀ c ∈ e.sent.drop e.handled.length, waits c = false
  waiting : ∀ a, e.asker = .waiting a → ∃ before, e.sent = before ++ [a] ∧
    e.returned.length = before.length ∧ waits a = true ∧
    e.inFlight = e.handled.drop before.length ∧
    ∀ c ∈ before.drop e.handled.length, waits c = false

variable {waits} {e e' : Exchange α β} {sent : List α} {handled : List β} {a : α} {b : β}

theorem aligned_start : Aligned waits (start : Exchange α β) where
  replies := rfl
  handledLe := Nat.le_refl 0
  replied := nofun
  told := nofun
  idle _ := ⟨rfl, rfl, nofun⟩
  waiting := nofun

theorem getElem?_snoc {γ : Type} {xs : List γ} {x y : γ} {i : ℕ}
    (h : (xs ++ [x])[i]? = some y) : xs[i]? = some y ∨ i = xs.length ∧ y = x := by
  rw [List.getElem?_append] at h
  split at h
  next => exact .inl h
  next hLe =>
    rw [List.getElem?_singleton, Option.ite_none_right_eq_some] at h
    exact .inr ⟨by omega, (Option.some.inj h.2).symm⟩

theorem getElem?_append_some {γ : Type} {xs : List γ} {x : γ} {i : ℕ} (h : xs[i]? = some x)
    (ys : List γ) : (xs ++ ys)[i]? = some x := by
  rw [List.getElem?_append_left (List.getElem?_eq_some_iff.mp h).1]
  exact h

theorem mem_drop_of_getElem? {γ : Type} {xs : List γ} {x : γ} {n : ℕ} (h : xs[n]? = some x) :
    x ∈ xs.drop n := by
  obtain ⟨hLt, rfl⟩ := List.getElem?_eq_some_iff.mp h
  rw [List.drop_eq_getElem_cons hLt]
  exact List.mem_cons_self

/-- Only as many requests matter as are handled. -/
theorem zip_take (h : handled.length ≤ sent.length) :
    sent.zip handled = (sent.take handled.length).zip handled := by
  rw [List.zip_eq_zip_take_min, Nat.min_eq_right h, List.take_length]

theorem repliesTo_sent (h : handled.length ≤ sent.length) :
    repliesTo waits (sent ++ [a]) handled = repliesTo waits sent handled := by
  have hLe : handled.length ≤ (sent ++ [a]).length := by
    rw [List.length_append]
    exact Nat.le_add_right_of_le h
  rw [repliesTo, zip_take hLe, List.take_append_of_le_length h, ← zip_take h, repliesTo]

theorem repliesTo_handled (h : sent[handled.length]? = some a) :
    repliesTo waits sent (handled ++ [b]) =
      repliesTo waits sent handled ++ if waits a then [b] else [] := by
  obtain ⟨hLt, hGet⟩ := List.getElem?_eq_some_iff.mp h
  have hSent : sent = sent.take handled.length ++ a :: sent.drop (handled.length + 1) := by
    rw [← hGet, List.getElem_cons_drop, List.take_append_drop]
  have hLength : (sent.take handled.length).length = handled.length :=
    List.length_take_of_le (Nat.le_of_lt hLt)
  have hZip : sent.zip (handled ++ [b]) = sent.zip handled ++ [(a, b)] := by
    rw [zip_take (Nat.le_of_lt hLt)]
    conv_lhs => rw [hSent]
    rw [List.zip_append hLength, List.zip_cons_cons, List.zip_nil_right]
  rw [repliesTo, hZip, List.filter_append, List.map_append, ← repliesTo, List.filter_singleton]
  cases waits a with
  | true => rfl
  | false => rfl

theorem Aligned.tell (h : Aligned waits e) (hIdle : e.asker = .idle) (hWaits : waits a = false) :
    Aligned waits { e with
      asker := .idle, sent := e.sent ++ [a], returned := e.returned ++ [(a, .told)] } := by
  obtain ⟨hLength, hFlight, hQuiet⟩ := h.idle hIdle
  constructor
  · exact h.replies.trans (repliesTo_sent h.handledLe).symm
  · rw [List.length_append]
    exact Nat.le_add_right_of_le h.handledLe
  · intro i c b hGet
    rcases getElem?_snoc hGet with hOld | ⟨-, hNew⟩
    · obtain ⟨hSent, hHandled⟩ := h.replied i c b hOld
      exact ⟨getElem?_append_some hSent _, hHandled⟩
    · exact nomatch (Prod.mk.inj hNew).2
  · intro c hMem
    rcases List.mem_append.mp hMem with hOld | hNew
    · exact h.told c hOld
    · obtain ⟨rfl, -⟩ := Prod.mk.inj (List.mem_singleton.mp hNew)
      exact hWaits
  · refine fun _ => ⟨?_, hFlight, fun c hMem => ?_⟩
    · rw [List.length_append, List.length_append, hLength]
      rfl
    · rw [List.drop_append_of_le_length h.handledLe] at hMem
      rcases List.mem_append.mp hMem with hOld | hNew
      · exact hQuiet c hOld
      · exact List.mem_singleton.mp hNew ▸ hWaits
  · exact nofun

theorem Aligned.ask (h : Aligned waits e) (hIdle : e.asker = .idle) (hWaits : waits a = true) :
    Aligned waits { e with sent := e.sent ++ [a], asker := .waiting a } := by
  obtain ⟨hLength, hFlight, hQuiet⟩ := h.idle hIdle
  constructor
  · exact h.replies.trans (repliesTo_sent h.handledLe).symm
  · rw [List.length_append]
    exact Nat.le_add_right_of_le h.handledLe
  · intro i c b hGet
    obtain ⟨hSent, hHandled⟩ := h.replied i c b hGet
    exact ⟨getElem?_append_some hSent _, hHandled⟩
  · exact h.told
  · exact nofun
  · rintro c ⟨⟩
    refine ⟨e.sent, rfl, hLength, hWaits, ?_, hQuiet⟩
    rw [hFlight, List.drop_eq_nil_of_le h.handledLe]

/-- A request is handled: the one that the first side waits for, or one that it does not. -/
theorem Aligned.handle (h : Aligned waits e) (hNext : e.sent[e.handled.length]? = some a) :
    Aligned waits { e with
      handled := e.handled ++ [b]
      replies := e.replies ++ if waits a then [b] else []
      inFlight := e.inFlight ++ if waits a then [b] else [] } := by
  have hLt := (List.getElem?_eq_some_iff.mp hNext).1
  have hMore : e.handled.length ≤ (e.handled ++ [b]).length := by
    rw [List.length_append]
    exact Nat.le_add_right _ _
  constructor
  · rw [h.replies]
    exact (repliesTo_handled hNext).symm
  · rw [List.length_append]
    exact hLt
  · intro i c d hReturned
    obtain ⟨hSent, hHandled⟩ := h.replied i c d hReturned
    exact ⟨hSent, getElem?_append_some hHandled _⟩
  · exact h.told
  · intro hIdle
    obtain ⟨hLength, hFlight, hQuiet⟩ := h.idle hIdle
    have hWaits : waits a = false := hQuiet a (mem_drop_of_getElem? hNext)
    refine ⟨hLength, ?_, fun c hMem => hQuiet c (List.drop_subset_drop_left _ hMore hMem)⟩
    rw [hFlight, hWaits]
    rfl
  · intro c hWaiting
    obtain ⟨before, hSent, hLength, hWaits, hFlight, hQuiet⟩ := h.waiting c hWaiting
    refine ⟨before, hSent, hLength, hWaits, ?_,
      fun d hMem => hQuiet d (List.drop_subset_drop_left _ hMore hMem)⟩
    show e.inFlight ++ (if waits a then [b] else []) = (e.handled ++ [b]).drop before.length
    rw [hSent] at hNext
    rcases getElem?_snoc hNext with hEarlier | ⟨hLast, rfl⟩
    · have hLt := (List.getElem?_eq_some_iff.mp hEarlier).1
      rw [hFlight, hQuiet a (mem_drop_of_getElem? hEarlier),
        List.drop_eq_nil_of_le (Nat.le_of_lt hLt),
        List.drop_eq_nil_of_le (by rw [List.length_append]; exact hLt)]
      rfl
    · rw [hFlight, hWaits, ← hLast, List.drop_append_of_le_length (Nat.le_refl _)]
      rfl

theorem Aligned.receive (h : Aligned waits e) {rest : List β} {asker : Asker α}
    (hWaiting : e.asker = .waiting a) (hReply : e.inFlight = b :: rest)
    (hAsker : asker = .idle ∨ asker = .gone) :
    Aligned waits { e with
      asker, inFlight := rest, returned := e.returned ++ [(a, .replied b)] } := by
  obtain ⟨before, hSent, hLength, hWaits, hFlight, hQuiet⟩ := h.waiting a hWaiting
  have hLe : e.handled.length ≤ before.length + 1 := by
    have hHandledLe := h.handledLe
    rwa [hSent, List.length_append] at hHandledLe
  have hLt : before.length < e.handled.length := by
    refine Nat.lt_of_not_le fun hShort => ?_
    rw [hFlight, List.drop_eq_nil_of_le hShort] at hReply
    contradiction
  rw [hFlight, List.drop_eq_getElem_cons hLt, List.drop_eq_nil_of_le hLe] at hReply
  obtain ⟨hLast, rfl⟩ := List.cons.inj hReply
  constructor
  · exact h.replies
  · exact h.handledLe
  · intro i c d hGet
    rcases getElem?_snoc hGet with hOld | ⟨rfl, hNew⟩
    · exact h.replied i c d hOld
    · obtain ⟨rfl, hFate⟩ := Prod.mk.inj hNew
      obtain rfl := Fate.replied.inj hFate
      rw [hLength]
      refine ⟨?_, List.getElem?_eq_some_iff.mpr ⟨hLt, hLast⟩⟩
      show e.sent[before.length]? = some c
      rw [hSent, List.getElem?_concat_length]
  · intro c hMem
    rcases List.mem_append.mp hMem with hOld | hNew
    · exact h.told c hOld
    · exact nomatch (Prod.mk.inj (List.mem_singleton.mp hNew)).2
  · refine fun _ => ⟨?_, rfl, fun c hMem => ?_⟩
    · rw [List.length_append, hLength, hSent, List.length_append]
      rfl
    · rw [List.drop_eq_nil_of_le (by rw [hSent, List.length_append]; exact hLt)] at hMem
      contradiction
  · rintro c rfl
    rcases hAsker with hEq | hEq
    · contradiction
    · contradiction

theorem Aligned.lose (h : Aligned waits e) :
    Aligned waits { e with asker := .gone, returned := e.returned ++ [(a, .lost)] } := by
  constructor
  · exact h.replies
  · exact h.handledLe
  · intro i c b hGet
    rcases getElem?_snoc hGet with hOld | ⟨-, hNew⟩
    · exact h.replied i c b hOld
    · exact nomatch (Prod.mk.inj hNew).2
  · intro c hMem
    rcases List.mem_append.mp hMem with hOld | hNew
    · exact h.told c hOld
    · exact nomatch (Prod.mk.inj (List.mem_singleton.mp hNew)).2
  · exact nofun
  · exact nofun

theorem Aligned.step (h : Aligned waits e) (hStep : Step waits e e') : Aligned waits e' := by
  cases hStep with
  | tell a hIdle hWaits => exact h.tell hIdle hWaits
  | ask a hIdle hWaits => exact h.ask hIdle hWaits
  | handle a b hNext => exact h.handle hNext
  | receive a b rest asker hWaiting hReply hAsker => exact h.receive hWaiting hReply hAsker
  | lose a => exact h.lose

theorem Aligned.steps (h : Aligned waits e)
    (hSteps : Relation.ReflTransGen (Step waits) e e') : Aligned waits e' := by
  induction hSteps with
  | refl => exact h
  | tail _ hStep ih => exact ih.step hStep

end Exchange

end ProofKit
