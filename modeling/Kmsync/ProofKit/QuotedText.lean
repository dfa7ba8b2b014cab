import Mathlib.Data.List.Basic

/-! Quoted texts, as JSON has them.  A reader finds the end of a quoted text whatever comes behind
it, and what leads up to the next one tells it how to go on. -/

namespace ProofKit

section Hex

def hex : Vector Char 16 :=
  #v['0', '1', '2', '3', '4', '5', '6', '7', '8', '9', 'a', 'b', 'c', 'd', 'e', 'f']

def hexValue (c : Char) : ℕ := hex.toList.idxOf c

theorem hexValue_hex_fin : ∀ i : Fin 16, hexValue hex[i] = i := by
  decide

theorem hexValue_hex {i : ℕ} (hi : i < 16) : hexValue hex[i] = i := hexValue_hex_fin ⟨i, hi⟩

theorem hex_inj {i j : ℕ} {hi : i < 16} {hj : j < 16} (h : hex[i] = hex[j]) : i = j := by
  rw [← hexValue_hex hi, h, hexValue_hex hj]

end Hex

section Quoted

/-- A character in a quoted text. -/
def escape (c : Char) : List Char :=
  if c = '"' ∨ c = '\\' then ['\\', c]
  else if c = '\n' then ['\\', 'n']
  else if c = '\r' then ['\\', 'r']
  else if c = '\t' then ['\\', 't']
  else if c = '\x08' then ['\\', 'b']
  else if c = '\x0c' then ['\\', 'f']
  else if h : c.toNat < 32 then ['\\', 'u', '0', '0', hex[c.toNat / 16], hex[c.toNat % 16]]
  else [c]

/-- What a letter behind a backslash stands for. -/
def unescape (c : Char) : Char :=
  if c = 'n' then '\n'
  else if c = 'r' then '\r'
  else if c = 't' then '\t'
  else if c = 'b' then '\x08'
  else if c = 'f' then '\x0c'
  else c

/-- The text up to the closing quote, and what comes after it. -/
def readQuoted : List Char → Option (List Char × List Char)
  | [] => none
  | '"' :: text => some ([], text)
  | '\\' :: 'u' :: _ :: _ :: high :: low :: text =>
    (readQuoted text).map fun read =>
      (Char.ofNat (16 * hexValue high + hexValue low) :: read.1, read.2)
  | '\\' :: c :: text => (readQuoted text).map fun read => (unescape c :: read.1, read.2)
  | c :: text => (readQuoted text).map fun read => (c :: read.1, read.2)

theorem readQuoted_escape (c : Char) (text : List Char) :
    readQuoted (escape c ++ text) = (readQuoted text).map fun read => (c :: read.1, read.2) := by
  unfold escape
  by_cases hQuote : c = '"' ∨ c = '\\'
  · rw [if_pos hQuote]
    rcases hQuote with rfl | rfl <;> rfl
  by_cases hNamed : c ∈ ['\n', '\r', '\t', '\x08', '\x0c']
  · simp only [List.mem_cons, List.not_mem_nil, or_false] at hNamed
    rcases hNamed with rfl | rfl | rfl | rfl | rfl <;> rfl
  simp only [List.mem_cons, List.not_mem_nil, or_false, not_or] at hNamed
  obtain ⟨hN, hR, hT, hB, hF⟩ := hNamed
  rw [if_neg hQuote, if_neg hN, if_neg hR, if_neg hT, if_neg hB, if_neg hF]
  split
  · have hCode : 16 * (c.toNat / 16) + c.toNat % 16 = c.toNat := Nat.div_add_mod c.toNat 16
    simp only [List.cons_append, List.nil_append]
    rw [readQuoted, hexValue_hex, hexValue_hex, hCode, Char.ofNat_toNat]
  · rw [List.singleton_append, readQuoted.eq_def]
    split <;> simp_all

theorem readQuoted_escaped (value rest : List Char) :
    readQuoted (value.flatMap escape ++ '"' :: rest) = some (value, rest) := by
  induction value with
  | nil => rfl
  | cons c value ih =>
    rw [List.flatMap_cons, List.append_assoc, readQuoted_escape, ih]
    rfl

end Quoted

section Leads

/-- A quoted text and what leads up to it, before the rest. -/
def quote (lead value : String) (rest : List Char) : List Char :=
  lead.toList ++ (value.toList.flatMap escape ++ '"' :: rest)

def readQuote (lead : String) (text : List Char) : Option (String × List Char) := do
  let (value, rest) ← readQuoted (← text.dropPrefix? lead.toList)
  return (String.ofList value, rest)

/-- Two texts that are told apart before one of them ends. -/
def differ (left right : List Char) : Bool := (left.zip right).any fun pair => pair.1 != pair.2

theorem dropPrefix?_of_differ {left right : List Char} (h : differ left right = true)
    (rest : List Char) : (left ++ rest).dropPrefix? right = none := by
  induction left generalizing right with
  | nil => cases h
  | cons c left ih =>
    cases right with
    | nil => cases h
    | cons d right =>
      rw [List.cons_append, List.dropPrefix?]
      by_cases hHead : c = d
      · rw [if_pos (beq_iff_eq.mpr hHead), ih]
        simpa [differ, hHead] using h
      · rw [if_neg (by simpa using hHead)]

@[simp] theorem readQuote_quote (lead value : String) (rest : List Char) :
    readQuote lead (quote lead value rest) = some (value, rest) := by
  rw [readQuote, quote, List.dropPrefix?_append_of_beq _ BEq.rfl]
  simp [readQuoted_escaped]

theorem readQuote_of_differ {lead lead' : String} (h : differ lead'.toList lead.toList = true)
    (value : String) (rest : List Char) : readQuote lead (quote lead' value rest) = none := by
  rw [readQuote, quote, dropPrefix?_of_differ h]
  rfl

theorem quote_append (lead value : String) (rest after : List Char) :
    quote lead value rest ++ after = quote lead value (rest ++ after) := by
  simp only [quote, List.append_assoc, List.cons_append]

theorem length_lt_quote (lead value : String) (rest : List Char) :
    rest.length < (quote lead value rest).length := by
  simp only [quote, List.length_append, List.length_cons]
  omega

theorem lead_of_readQuote {lead value : String} {text rest : List Char}
    (h : readQuote lead text = some (value, rest)) : lead.toList <+: text := by
  obtain ⟨after, hDrop, -⟩ := Option.bind_eq_some_iff.mp h
  obtain ⟨front, rfl, hFront⟩ := List.dropPrefix?_eq_some_iff.mp hDrop
  rw [← beq_iff_eq.mp hFront]
  exact List.prefix_append front after

end Leads

end ProofKit
