import Mathlib.Data.List.Nodup
import Mathlib.Order.Lattice

/-! A selection of one element for each class of a list: the one of the highest rank.  It does not
depend on the order of the list, if no two elements of a class have one rank. -/

namespace ProofKit

section BestOfClass

variable {α κ ρ : Type} [LinearOrder ρ] {key : α → κ} {rank : α → ρ} {l l' bests bests' : List α}
  {a b : α}

/-- No other element of its class has a higher rank. -/
structure IsBest (key : α → κ) (rank : α → ρ) (l : List α) (a : α) : Prop where
  mem : a ∈ l
  le : ∀ b ∈ l, key b = key a → rank b ≤ rank a

/-- Class and rank tell elements apart. -/
def Distinguishes (key : α → κ) (rank : α → ρ) (l : List α) : Prop :=
  ∀ a ∈ l, ∀ b ∈ l, key a = key b → rank a = rank b → a = b

theorem IsBest.unique (hRank : Distinguishes key rank l)
    (ha : IsBest key rank l a) (hb : IsBest key rank l b) (hKey : key a = key b) : a = b :=
  hRank a ha.mem b hb.mem hKey (le_antisymm (hb.le a ha.mem hKey) (ha.le b hb.mem hKey.symm))

theorem isBest_congr (hMem : ∀ a, a ∈ l ↔ a ∈ l') : IsBest key rank l a ↔ IsBest key rank l' a :=
  ⟨fun h => ⟨(hMem a).mp h.mem, fun b hb => h.le b ((hMem b).mpr hb)⟩,
    fun h => ⟨(hMem a).mpr h.mem, fun b hb => h.le b ((hMem b).mp hb)⟩⟩

/-- One element is selected for each class, and it is the best of the class. -/
structure Selects (key : α → κ) (rank : α → ρ) (l bests : List α) : Prop where
  nodup : (bests.map key).Nodup
  best : ∀ a ∈ bests, IsBest key rank l a
  covers : ∀ a ∈ l, ∃ b ∈ bests, key b = key a

theorem Selects.congr (h : Selects key rank l bests) (hMem : ∀ a, a ∈ l ↔ a ∈ l') :
    Selects key rank l' bests :=
  ⟨h.nodup, fun a ha => (isBest_congr hMem).mp (h.best a ha), fun a ha =>
    h.covers a ((hMem a).mpr ha)⟩

/-- Each element has one selected element of its class. -/
theorem Selects.existsUnique (h : Selects key rank l bests) (ha : a ∈ l) :
    ∃! b, b ∈ bests ∧ key b = key a := by
  obtain ⟨b, hb, hKey⟩ := h.covers a ha
  refine ⟨b, ⟨hb, hKey⟩, fun c ⟨hc, hKey'⟩ => ?_⟩
  exact List.inj_on_of_nodup_map h.nodup hc hb (hKey'.trans hKey.symm)

theorem Selects.mem_iff (h : Selects key rank l bests) (hRank : Distinguishes key rank l) :
    a ∈ bests ↔ IsBest key rank l a := by
  refine ⟨h.best a, fun ha => ?_⟩
  obtain ⟨b, hb, hKey⟩ := h.covers a ha.mem
  rwa [ha.unique hRank (h.best b hb) hKey.symm]

/-- What is selected depends on the members alone. -/
theorem Selects.mem_congr (h : Selects key rank l bests) (h' : Selects key rank l' bests')
    (hRank : Distinguishes key rank l) (hMem : ∀ a, a ∈ l ↔ a ∈ l') : a ∈ bests ↔ a ∈ bests' := by
  have hRank' : Distinguishes key rank l' := fun a ha b hb =>
    hRank a ((hMem a).mpr ha) b ((hMem b).mpr hb)
  rw [h.mem_iff hRank, h'.mem_iff hRank', isBest_congr hMem]

theorem Selects.perm (h : Selects key rank l bests) (h' : Selects key rank l' bests')
    (hRank : Distinguishes key rank l) (hPerm : l.Perm l') : bests.Perm bests' :=
  (List.perm_ext_iff_of_nodup (List.Nodup.of_map key h.nodup)
    (List.Nodup.of_map key h'.nodup)).mpr fun _ =>
      h.mem_congr h' hRank fun _ => hPerm.mem_iff

end BestOfClass

end ProofKit
