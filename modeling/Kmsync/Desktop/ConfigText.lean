import Kmsync.Desktop.ServerEndpoint
import Kmsync.ProofKit.QuotedText

/-! The text of a config whose values are texts, as `to_string_pretty` lays it out, and a reader of
that layout. -/

namespace Kmsync.Desktop

open ProofKit

section Layout

def objectLead : String := "\x7b\n  \""
def memberLead : String := ",\n  \""
def valueLead : String := ": \""

/-- The members behind the first, the end of the object, and what comes after it. -/
def membersText (after : List Char) : List (String × String) → List Char
  | [] => "\n\x7d".toList ++ after
  | (key, value) :: members =>
    quote memberLead key (quote valueLead value (membersText after members))

def configText (after : List Char) : List (String × String) → List Char
  | [] => "\x7b\x7d".toList ++ after
  | (key, value) :: members =>
    quote objectLead key (quote valueLead value (membersText after members))

/-- The end of an object, with or without a line feed behind it. -/
def isEnd (last text : List Char) : Bool := text = last || text = last ++ ['\n']

/-- There are no more members than `fuel`. -/
def readMembers : ℕ → List Char → Option (List (String × String))
  | 0, text => if isEnd "\n\x7d".toList text then some [] else none
  | fuel + 1, text =>
    match readQuote memberLead text with
    | some (key, text) => do
      let (value, text) ← readQuote valueLead text
      return (key, value) :: (← readMembers fuel text)
    | none => if isEnd "\n\x7d".toList text then some [] else none

def readConfig (text : List Char) : Option (List (String × String)) :=
  match readQuote objectLead text with
  | some (key, text) => do
    let (value, text) ← readQuote valueLead text
    return (key, value) :: (← readMembers text.length text)
  | none => if isEnd "\x7b\x7d".toList text then some [] else none

variable (members : List (String × String)) (after : List Char)

theorem membersText_append : membersText [] members ++ after = membersText after members := by
  induction members with
  | nil => rfl
  | cons member members ih => rw [membersText, membersText, ← ih, quote_append, quote_append]

theorem configText_append : configText [] members ++ after = configText after members := by
  cases members with
  | nil => rfl
  | cons member members =>
    rw [configText, configText, ← membersText_append members after, quote_append, quote_append]

theorem readMembers_membersText {fuel : ℕ} (h : members.length ≤ fuel) :
    readMembers fuel (membersText ['\n'] members) = some members := by
  induction members generalizing fuel with
  | nil => cases fuel <;> rfl
  | cons member members ih =>
    cases fuel with
    | zero => cases h
    | succ fuel => simp [readMembers, membersText, ih (Nat.le_of_succ_le_succ h)]

theorem length_le_membersText : members.length ≤ (membersText after members).length := by
  induction members with
  | nil => exact Nat.zero_le _
  | cons member members ih =>
    have hKey := length_lt_quote memberLead member.1
      (quote valueLead member.2 (membersText after members))
    have hValue := length_lt_quote valueLead member.2 (membersText after members)
    rw [List.length_cons, membersText]
    omega

/-- The layout is read back, with a line feed behind it. -/
theorem readConfig_configText : readConfig (configText ['\n'] members) = some members := by
  cases members with
  | nil => rfl
  | cons member members =>
    simp [readConfig, configText, readMembers_membersText _ (length_le_membersText members _)]

end Layout

section Instances

/-- The members of an object that are texts; the others are not written. -/
def textMembers (entries : List (Σ _ : String, JsonValue)) : List (String × String) :=
  entries.filterMap fun entry => entry.2.asStr.map fun value => (entry.1, value)

def textEntries (members : List (String × String)) : List (Σ _ : String, JsonValue) :=
  members.map fun member => ⟨member.1, .string member.2⟩

theorem textEntries_sublist (entries : List (Σ _ : String, JsonValue)) :
    (textEntries (textMembers entries)).Sublist entries := by
  induction entries with
  | nil => exact .slnil
  | cons entry entries ih =>
    obtain ⟨key, value⟩ := entry
    cases value with
    | string text => exact ih.cons_cons _
    | other json => exact ih.cons _

theorem mem_textEntries {entries : List (Σ _ : String, JsonValue)} {key value : String}
    (h : ⟨key, .string value⟩ ∈ entries) : ⟨key, .string value⟩ ∈ textEntries (textMembers entries) :=
  List.mem_map.mpr ⟨(key, value), List.mem_filterMap.mpr ⟨_, h, rfl⟩, rfl⟩

instance : ConfigJson where
  fromStr text :=
    match readConfig text.toList with
    | some members => .ok (.object (textEntries members).toAList)
    | none => .error "not a config of texts"
  toStringPretty object := .ok (String.ofList (configText [] (textMembers object.entries)))

instance : LawfulConfigJson where
  fromStr_toStringPretty object := by
    refine ⟨_, (textEntries (textMembers object.entries)).toAList, rfl, ?_, fun key value h => ?_⟩
    · change (match readConfig (String.ofList _ ++ "\n").toList with
        | some members => Except.ok (JsonDocument.object (textEntries members).toAList)
        | none => .error "not a config of texts") = _
      have hText : (String.ofList (configText [] (textMembers object.entries)) ++ "\n").toList =
          configText ['\n'] (textMembers object.entries) := by
        rw [String.toList_append, String.toList_ofList, ← configText_append _ ['\n']]
        rfl
      rw [hText, readConfig_configText]
    · have hEntry := mem_textEntries (HashMap.get?_eq_some_iff.mp h)
      have hKeys := object.nodupKeys.sublist (textEntries_sublist object.entries)
      rw [HashMap.get?, AList.lookup_to_alist]
      exact List.mem_dlookup hKeys hEntry

end Instances

end Kmsync.Desktop
