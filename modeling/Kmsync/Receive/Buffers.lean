import Kmsync.Receive.Sequencer

/-! The order of the frames, without their injection.  `Buffers` is what of the loop's variables the
order depends on, and the relations say which frames leave the buffers, and in which order, when a
frame arrives or a gap is given up. -/

namespace Kmsync

open ProofKit

/-- The frames that wait, on either lane, and the number that is waited for. -/
structure Buffers where
  next : ℕ
  reliable : PendingFrames
  unreliable : PendingFrames

theorem ReceivedInputFrame.sequence_le (received : ReceivedInputFrame) :
    received.sequence ≤ u64Max :=
  Nat.le_sub_one_of_lt received.frame.sequence.toNat_lt

theorem PendingFrames.le_u64Max {pending : PendingFrames} {k : ℕ} (h : k ∈ pending) :
    k ≤ u64Max := by
  obtain ⟨received, hReceived⟩ := KeyedMap.mem_iff.mp h
  rw [← KeyedMap.key_of_get? hReceived]
  exact received.sequence_le

theorem le_saturatingSucc {n : ℕ} (h : n ≤ u64Max) : n ≤ saturatingSucc n :=
  le_min (Nat.le_succ n) h

theorem saturatingSucc_le_of_lt {n k : ℕ} (h : n < k) : saturatingSucc n ≤ k :=
  (min_le_left _ _).trans h

theorem saturatingSucc_of_lt {n : ℕ} (h : n < u64Max) : saturatingSucc n = n + 1 :=
  min_eq_left h

theorem lt_saturatingSucc {n : ℕ} (h : n < u64Max) : n < saturatingSucc n := by
  rw [saturatingSucc_of_lt h]
  exact Nat.lt_succ_self n

namespace Buffers

variable {b b' b'' : Buffers} {received : ReceivedInputFrame} {frames : List ReceivedInputFrame}

def start : Buffers := ⟨1, .empty, .empty⟩

def size (b : Buffers) : ℕ := b.unreliable.size + b.reliable.size

/-- A number that a buffered frame carries. -/
def Holds (b : Buffers) (k : ℕ) : Prop := k ∈ b.unreliable ∨ k ∈ b.reliable

/-- The frame that is waited for is taken out, from the unreliable lane first. -/
inductive Pops : Buffers → ReceivedInputFrame → Buffers → Prop where
  | unreliable {b : Buffers} {received : ReceivedInputFrame} :
      b.unreliable.get? b.next = some received →
      Pops b received ⟨saturatingSucc b.next, b.reliable, b.unreliable.erase b.next⟩
  | reliable {b : Buffers} {received : ReceivedInputFrame} :
      b.next ∉ b.unreliable → b.reliable.get? b.next = some received →
      Pops b received ⟨saturatingSucc b.next, b.reliable.erase b.next, b.unreliable⟩

/-- Frames are taken out as long as the next one is there. -/
inductive Drains : Buffers → List ReceivedInputFrame → Buffers → Prop where
  | settled {b : Buffers} : ¬ b.Holds b.next → Drains b [] b
  | pop {b b' b'' : Buffers} {received : ReceivedInputFrame} {frames : List ReceivedInputFrame} :
      Pops b received b' → Drains b' frames b'' → Drains b (received :: frames) b''

/-- What happens to a frame that arrives, and to those that waited for it. -/
inductive Receives (b : Buffers) (received : ReceivedInputFrame) :
    List ReceivedInputFrame → Buffers → Prop where
  | drop : received.sequence < b.next → Receives b received [] b
  | pass {b' : Buffers} {frames : List ReceivedInputFrame} : received.sequence = b.next →
      Drains { b with next := saturatingSucc b.next } frames b' →
      Receives b received (received :: frames) b'
  | bufferUnreliable : received.isReliable = false → b.next < received.sequence →
      Receives b received [] { b with unreliable := b.unreliable.insertNew received }
  | bufferReliable : received.isReliable = true → b.next < received.sequence →
      received.sequence ≤ b.next + reliableInputReorderWindow →
      Receives b received [] { b with reliable := b.reliable.insertNew received }
  | recover {b' : Buffers} {frames : List ReceivedInputFrame} : received.isReliable = true →
      b.next + reliableInputReorderWindow < received.sequence →
      Drains ⟨saturatingSucc received.sequence, .empty, b.unreliable⟩ frames b' →
      Receives b received (received :: frames) b'

/-- The gap in front of the least number is given up. -/
inductive Recovers (b : Buffers) : List ReceivedInputFrame → Buffers → Prop where
  | skip {k : ℕ} {b' : Buffers} {frames : List ReceivedInputFrame} :
      IsLeast {k | b.Holds k} k → Drains { b with next := max b.next k } frames b' →
      Recovers b frames b'
  | empty : (∀ k, ¬ b.Holds k) → Recovers b [] b

theorem Holds.le_u64Max {k : ℕ} (h : b.Holds k) : k ≤ u64Max :=
  h.elim PendingFrames.le_u64Max PendingFrames.le_u64Max

theorem size_pos_of_holds {k : ℕ} (h : b.Holds k) : 0 < b.size := by
  unfold size
  rcases h with h | h
  · have := KeyedMap.size_erase h
    omega
  · have := KeyedMap.size_erase h
    omega

theorem holds_insertUnreliable {k : ℕ} :
    Holds { b with unreliable := b.unreliable.insertNew received } k ↔
      k = received.sequence ∨ b.Holds k := by
  rw [Holds, Holds, KeyedMap.mem_insertNew, or_assoc]

theorem holds_insertReliable {k : ℕ} :
    Holds { b with reliable := b.reliable.insertNew received } k ↔
      k = received.sequence ∨ b.Holds k := by
  rw [Holds, Holds, KeyedMap.mem_insertNew, or_left_comm]

namespace Pops

theorem holds (h : Pops b received b') : b.Holds b.next := by
  cases h with
  | unreliable h => exact Or.inl (KeyedMap.mem_of_get? h)
  | reliable _ h => exact Or.inr (KeyedMap.mem_of_get? h)

theorem sequence_eq (h : Pops b received b') : received.sequence = b.next := by
  cases h with
  | unreliable h => exact KeyedMap.key_of_get? h
  | reliable _ h => exact KeyedMap.key_of_get? h

theorem next_eq (h : Pops b received b') : b'.next = saturatingSucc b.next := by
  cases h <;> rfl

theorem next_le (h : Pops b received b') : b.next ≤ b'.next := by
  rw [h.next_eq]
  exact le_saturatingSucc h.holds.le_u64Max

theorem size_lt (h : Pops b received b') : b'.size < b.size := by
  cases h with
  | unreliable h =>
    have := KeyedMap.size_erase (KeyedMap.mem_of_get? h)
    simp only [size]
    omega
  | reliable _ h =>
    have := KeyedMap.size_erase (KeyedMap.mem_of_get? h)
    simp only [size]
    omega

/-- A pop leaves every other number in its buffer. -/
theorem mem_unreliable {k : ℕ} (h : Pops b received b') (hk : k ∈ b.unreliable)
    (hNext : k ≠ b.next) : k ∈ b'.unreliable := by
  cases h with
  | unreliable => exact KeyedMap.mem_erase.mpr ⟨hNext, hk⟩
  | reliable => exact hk

theorem mem_reliable {k : ℕ} (h : Pops b received b') (hk : k ∈ b.reliable)
    (hNext : k ≠ b.next ∨ k ∈ b.unreliable) : k ∈ b'.reliable := by
  cases h with
  | unreliable => exact hk
  | reliable hFree =>
    refine KeyedMap.mem_erase.mpr ⟨?_, hk⟩
    rintro rfl
    exact hNext.elim (· rfl) hFree

/-- Nothing is put into a buffer by a pop. -/
theorem unreliable_of_mem {k : ℕ} (h : Pops b received b') (hk : k ∈ b'.unreliable) :
    k ∈ b.unreliable := by
  cases h with
  | unreliable => exact (KeyedMap.mem_erase.mp hk).2
  | reliable => exact hk

theorem reliable_of_mem {k : ℕ} (h : Pops b received b') (hk : k ∈ b'.reliable) :
    k ∈ b.reliable := by
  cases h with
  | unreliable => exact hk
  | reliable => exact (KeyedMap.mem_erase.mp hk).2

theorem holds_of_holds {k : ℕ} (h : Pops b received b') (hk : b'.Holds k) : b.Holds k :=
  hk.imp h.unreliable_of_mem h.reliable_of_mem

/-- Besides the number that it takes, a pop changes nothing. -/
theorem holds_iff {k : ℕ} (h : Pops b received b') (hNext : k ≠ b.next) :
    b'.Holds k ↔ b.Holds k :=
  ⟨h.holds_of_holds,
    fun hk => hk.imp (h.mem_unreliable · hNext) fun hR => h.mem_reliable hR (Or.inl hNext)⟩

end Pops

namespace Drains

/-- A fact that every pop preserves is preserved by taking out all that is ready. -/
theorem induct {I : Buffers → Prop} (hPop : ∀ b r b', Pops b r b' → I b → I b')
    (h : Drains b frames b') (hb : I b) : I b' := by
  induction h with
  | settled => exact hb
  | pop hFirst _ ih => exact ih (hPop _ _ _ hFirst hb)

theorem holds_of_holds {k : ℕ} (h : Drains b frames b') : b'.Holds k → b.Holds k :=
  h.induct (I := fun c => c.Holds k → b.Holds k)
    (fun _ _ _ hPop hc hk => hc (hPop.holds_of_holds hk)) id

theorem not_holds_next (h : Drains b frames b') : ¬ b'.Holds b'.next := by
  induction h with
  | settled h => exact h
  | pop _ _ ih => exact ih

theorem size_le (h : Drains b frames b') : b'.size ≤ b.size :=
  h.induct (I := fun c => c.size ≤ b.size) (fun _ _ _ hPop hc => hPop.size_lt.le.trans hc) le_rfl

/-- If the next number is there, something is taken out. -/
theorem size_lt (h : Drains b frames b') (hNext : b.Holds b.next) : b'.size < b.size := by
  cases h with
  | settled hFree => exact absurd hNext hFree
  | pop hFirst hRest => exact hRest.size_le.trans_lt hFirst.size_lt

end Drains

end Buffers

end Kmsync
