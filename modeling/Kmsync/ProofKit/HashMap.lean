import Mathlib.Data.List.AList
import Mathlib.Data.List.Induction
import Mathlib.Data.List.Sort

/-! Hash maps and hash sets.  A map is iterated in the order that a hash of its keys gives, which
may be any order at all. -/

namespace ProofKit

abbrev HashMap (K V : Type) := AList fun _ : K => V

namespace HashMap

variable {K V W : Type} [DecidableEq K] {m : HashMap K V} {j k : K} {v w : V}

def get? (m : HashMap K V) (k : K) : Option V := AList.lookup k m

def insert (m : HashMap K V) (k : K) (v : V) : HashMap K V := AList.insert k v m

def erase (m : HashMap K V) (k : K) : HashMap K V := AList.erase k m

/-- The entries for which `keep` holds. -/
def retain (m : HashMap K V) (keep : K → V → Bool) : HashMap K V where
  entries := m.entries.filter fun entry => keep entry.1 entry.2
  nodupKeys := m.nodupKeys.sublist List.filter_sublist

def mapValues (m : HashMap K V) (f : V → W) : HashMap K W where
  entries := m.entries.map fun entry => ⟨entry.1, f entry.2⟩
  nodupKeys := by
    rw [List.NodupKeys, List.keys, List.map_map]
    exact m.nodupKeys

/-- The values in the order in which the map is iterated. -/
def values (m : HashMap K V) (hash : K → ℕ) : List V :=
  (m.entries.insertionSort fun a b => hash a.1 ≤ hash b.1).map (·.2)

theorem get?_eq_some_iff : m.get? k = some v ↔ ⟨k, v⟩ ∈ m.entries := AList.mem_lookup_iff

@[simp] theorem get?_empty : (∅ : HashMap K V).get? k = none := AList.lookup_empty k

theorem get?_insert : (m.insert k v).get? j = if j = k then some v else m.get? j := by
  split
  next h =>
    subst h
    exact AList.lookup_insert m
  next h => exact AList.lookup_insert_ne h

@[simp] theorem get?_insert_self : (m.insert k v).get? k = some v := AList.lookup_insert m

theorem get?_insert_ne (h : j ≠ k) : (m.insert k v).get? j = m.get? j := AList.lookup_insert_ne h

/-- What is found after an insertion is new or was there before. -/
theorem get?_insert_cases (h : (m.insert k w).get? j = some v) :
    j = k ∧ v = w ∨ m.get? j = some v := by
  rw [get?_insert] at h
  split at h
  next hEq => exact .inl ⟨hEq, (Option.some.inj h).symm⟩
  next => exact .inr h

theorem get?_erase : (m.erase k).get? j = if j = k then none else m.get? j := by
  split
  next h =>
    subst h
    exact AList.lookup_erase j m
  next h => exact AList.lookup_erase_ne h

theorem get?_retain_eq_some_iff {keep : K → V → Bool} :
    (m.retain keep).get? k = some v ↔ m.get? k = some v ∧ keep k v := by
  simp only [get?_eq_some_iff, retain, List.mem_filter]

theorem get?_mapValues_eq_some_iff {f : V → W} {x : W} :
    (m.mapValues f).get? k = some x ↔ ∃ v, m.get? k = some v ∧ f v = x := by
  simp only [get?_eq_some_iff, mapValues, List.mem_map]
  constructor
  · rintro ⟨⟨k, v⟩, hMem, hEq⟩
    cases hEq
    exact ⟨v, hMem, rfl⟩
  · rintro ⟨v, hMem, rfl⟩
    exact ⟨⟨k, v⟩, hMem, rfl⟩

theorem mem_values {hash : K → ℕ} : v ∈ m.values hash ↔ ∃ k, m.get? k = some v := by
  simp only [values, List.mem_map, List.mem_insertionSort, get?_eq_some_iff]
  constructor
  · rintro ⟨⟨k, v⟩, hMem, rfl⟩
    exact ⟨k, hMem⟩
  · rintro ⟨k, hMem⟩
    exact ⟨⟨k, v⟩, hMem, rfl⟩

/-- The values are put under their keys, one after the other. -/
def putAll (m : HashMap K V) (key : V → K) (vs : List V) : HashMap K V :=
  vs.foldl (fun m v => m.insert (key v) v) m

theorem get?_putAll_cases {key : V → K} {vs : List V} (h : (m.putAll key vs).get? k = some v) :
    v ∈ vs ∧ key v = k ∨ m.get? k = some v := by
  induction vs generalizing m with
  | nil => exact .inr h
  | cons w vs ih =>
    rw [putAll, List.foldl_cons, ← putAll] at h
    rcases ih h with ⟨hMem, hKey⟩ | hGet
    · exact .inl ⟨List.mem_cons_of_mem w hMem, hKey⟩
    · rcases get?_insert_cases hGet with ⟨rfl, rfl⟩ | hOld
      · exact .inl ⟨List.mem_cons_self, rfl⟩
      · exact .inr hOld

/-- A value that is alone under its key is there afterwards. -/
theorem get?_putAll {key : V → K} {vs : List V} (hAlone : ∀ w ∈ vs, key w = k → w = v)
    (h : v ∈ vs ∧ key v = k ∨ m.get? k = some v) : (m.putAll key vs).get? k = some v := by
  induction vs generalizing m with
  | nil => exact h.resolve_left fun hMem => absurd hMem.1 List.not_mem_nil
  | cons w vs ih =>
    rw [putAll, List.foldl_cons, ← putAll]
    refine ih (fun x hMem => hAlone x (List.mem_cons_of_mem w hMem)) ?_
    rw [get?_insert]
    by_cases hKey : k = key w
    · rw [if_pos hKey, hAlone w List.mem_cons_self hKey.symm]
      exact .inr rfl
    · rw [if_neg hKey]
      refine h.imp_left fun ⟨hMem, hV⟩ => ⟨?_, hV⟩
      rcases List.mem_cons.mp hMem with rfl | hLater
      · exact absurd hV.symm hKey
      · exact hLater

section Filling

variable {β : Type} (key : β → K) (value : β → Option V) (bs : List β)

/-- A map is filled by those of a list that have a value; the last of them under a key counts. -/
theorem get?_foldl_insert :
    (bs.foldl (fun m b => (value b).elim m (m.insert (key b))) m).get? k =
      (bs.reverse.findSome? fun b => if key b = k then value b else none).or (m.get? k) := by
  induction bs using List.reverseRecOn with
  | nil => rfl
  | append_singleton bs b ih =>
    rw [List.foldl_append, List.reverse_append, List.reverse_singleton, List.singleton_append,
      List.findSome?_cons, List.foldl_cons, List.foldl_nil]
    cases hValue : value b with
    | none => simpa using ih
    | some v =>
      rw [Option.elim_some, get?_insert]
      by_cases hKey : key b = k
      · rw [if_pos hKey.symm, if_pos hKey]
        rfl
      · rw [if_neg (Ne.symm hKey), if_neg hKey]
        exact ih

/-- The same with lists, to the ends of which the values are put. -/
theorem getD_foldl_push {m : HashMap K (List V)} :
    ((bs.foldl (fun m b => (value b).elim m fun v =>
        m.insert (key b) ((m.get? (key b)).getD [] ++ [v])) m).get? k).getD [] =
      (m.get? k).getD [] ++ bs.filterMap fun b => if key b = k then value b else none := by
  induction bs using List.reverseRecOn with
  | nil => exact (List.append_nil _).symm
  | append_singleton bs b ih =>
    rw [List.foldl_append, List.filterMap_append, ← List.append_assoc, ← ih, List.foldl_cons,
      List.foldl_nil]
    cases hValue : value b with
    | none => simp [hValue]
    | some v =>
      rw [Option.elim_some, get?_insert]
      by_cases hKey : key b = k
      · subst hKey
        simp [hValue]
      · simp [hKey, Ne.symm hKey]

end Filling

section Agreement

/-- Two maps have the same entries of a kind. -/
def AgreesOn (P : K → V → Prop) (m m' : HashMap K V) : Prop :=
  ∀ k v, P k v → (m'.get? k = some v ↔ m.get? k = some v)

variable {P : K → V → Prop} {m₁ m₂ : HashMap K V}

theorem AgreesOn.rfl : AgreesOn P m m := fun _ _ _ => Iff.rfl

theorem AgreesOn.trans (h : AgreesOn P m m₁) (h' : AgreesOn P m₁ m₂) : AgreesOn P m m₂ :=
  fun k v hP => (h' k v hP).trans (h k v hP)

/-- Neither the new entry nor the one before it is of the kind. -/
theorem agreesOn_insert (hOld : ∀ v, m.get? k = some v → ¬ P k v) (hNew : ¬ P k w) :
    AgreesOn P m (m.insert k w) := by
  intro j v hP
  rw [get?_insert]
  split
  next hEq =>
    subst hEq
    refine iff_of_false (fun hSome => ?_) fun hGet => hOld v hGet hP
    exact hNew (Option.some.inj hSome ▸ hP)
  next => exact Iff.rfl

theorem agreesOn_erase (hOld : ∀ v, m.get? k = some v → ¬ P k v) : AgreesOn P m (m.erase k) := by
  intro j v hP
  rw [get?_erase, Option.ite_none_left_eq_some]
  refine and_iff_right_of_imp fun hGet hEq => ?_
  subst hEq
  exact hOld v hGet hP

theorem agreesOn_retain {keep : K → V → Bool}
    (hKept : ∀ k v, m.get? k = some v → P k v → keep k v = true) : AgreesOn P m (m.retain keep) := by
  intro k v hP
  rw [get?_retain_eq_some_iff]
  exact and_iff_left_of_imp fun hGet => hKept k v hGet hP

/-- The function leaves the values at some keys as they are. -/
theorem agreesOn_mapValues {p : K → Prop} {f : V → V}
    (hSame : ∀ k v, m.get? k = some v → p k → f v = v) :
    AgreesOn (fun k _ => p k) m (m.mapValues f) := by
  intro k v hP
  rw [get?_mapValues_eq_some_iff]
  constructor
  · rintro ⟨before, hGet, hEq⟩
    rw [hSame k before hGet hP] at hEq
    exact hEq ▸ hGet
  · intro hGet
    exact ⟨v, hGet, hSame k v hGet hP⟩

end Agreement

end HashMap

/-- A hash set is a hash map without values. -/
abbrev HashSet (α : Type) := HashMap α Unit

namespace HashSet

variable {α : Type} [DecidableEq α] {s : HashSet α} {a b : α}

def insert (s : HashSet α) (a : α) : HashSet α := HashMap.insert s a ()

def insertAll (s : HashSet α) (as : List α) : HashSet α := as.foldl insert s

def retain (s : HashSet α) (keep : α → Bool) : HashSet α := HashMap.retain s fun a _ => keep a

/-- The elements in the order in which the set is iterated. -/
def elements (s : HashSet α) (hash : α → ℕ) : List α :=
  s.keys.insertionSort fun a b => hash a ≤ hash b

theorem mem_iff_get? : a ∈ s ↔ HashMap.get? s a = some () := by
  rw [← AList.lookup_isSome, Option.isSome_iff_exists]
  exact ⟨fun ⟨_, h⟩ => h, fun h => ⟨(), h⟩⟩

@[simp] theorem mem_insert : a ∈ s.insert b ↔ a = b ∨ a ∈ s := AList.mem_insert s

@[simp] theorem mem_insertAll {as : List α} : a ∈ s.insertAll as ↔ a ∈ as ∨ a ∈ s := by
  induction as generalizing s with
  | nil => simp [insertAll]
  | cons b as ih =>
    rw [insertAll, List.foldl_cons, ← insertAll, ih, mem_insert, List.mem_cons]
    tauto

/-- A set is filled by those of a list that have an element for it. -/
theorem mem_foldl_insert {β : Type} (element : β → Option α) (bs : List β) :
    a ∈ bs.foldl (fun s b => (element b).elim s s.insert) s ↔
      a ∈ s ∨ ∃ b ∈ bs, element b = some a := by
  induction bs generalizing s with
  | nil => simp
  | cons b bs ih =>
    rw [List.foldl_cons, ih, List.exists_mem_cons_iff]
    cases hElement : element b with
    | none => simp
    | some c =>
      rw [Option.elim_some, mem_insert, Option.some_inj, eq_comm (a := c)]
      tauto

@[simp] theorem mem_retain {keep : α → Bool} : a ∈ s.retain keep ↔ a ∈ s ∧ keep a := by
  rw [mem_iff_get?, mem_iff_get?]
  exact HashMap.get?_retain_eq_some_iff

omit [DecidableEq α] in
@[simp] theorem mem_elements {hash : α → ℕ} : a ∈ s.elements hash ↔ a ∈ s := by
  rw [elements, List.mem_insertionSort, AList.mem_keys]

omit [DecidableEq α] in
theorem nodup_elements {hash : α → ℕ} : (s.elements hash).Nodup :=
  (List.perm_insertionSort _ _).nodup_iff.mpr s.keys_nodup

theorem agreesOn_insertAll {p : α → Prop} {as : List α} (hNew : ∀ a ∈ as, ¬ p a) :
    HashMap.AgreesOn (fun a _ => p a) s (s.insertAll as) := by
  rintro a ⟨⟩ hP
  rw [← mem_iff_get?, ← mem_iff_get?, mem_insertAll]
  exact or_iff_right fun hMem => hNew a hMem hP

end HashSet

end ProofKit
