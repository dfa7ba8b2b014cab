import Kmsync.Server.Login
import Kmsync.Server.Profiles

/-! UUIDs as text.  They are written with hyphens in groups of 8, 4, 4, 4 and 12 digits, which the
id of a profile relies on. -/

namespace Kmsync.Server

/-- What the id of a profile needs of written UUIDs. -/
class LawfulUuidText [UuidText] : Prop where
  display_injective : Function.Injective UuidText.display
  colon_notMem : ∀ id : Uuid, ':' ∉ (UuidText.display id).toList

section ProfileIds

variable [UuidText] [LawfulUuidText]

omit [UuidText] [LawfulUuidText] in
/-- Texts are told apart by a separator that neither of the first ones contains. -/
theorem append_sep_inj {sep : Char} {left left' right right' : List Char} (h : sep ∉ left)
    (h' : sep ∉ left') (hEq : left ++ sep :: right = left' ++ sep :: right') :
    left = left' ∧ right = right' := by
  induction left generalizing left' with
  | nil =>
    cases left' with
    | nil => exact ⟨rfl, List.tail_eq_of_cons_eq hEq⟩
    | cons c left' => exact absurd (List.head_eq_of_cons_eq hEq ▸ List.mem_cons_self) h'
  | cons c left ih =>
    cases left' with
    | nil => exact absurd (List.head_eq_of_cons_eq hEq ▸ List.mem_cons_self) h
    | cons d left' =>
      obtain rfl := List.head_eq_of_cons_eq hEq
      obtain ⟨rfl, rfl⟩ := ih (fun hMem => h (List.mem_cons_of_mem _ hMem))
        (fun hMem => h' (List.mem_cons_of_mem _ hMem)) (List.tail_eq_of_cons_eq hEq)
      exact ⟨rfl, rfl⟩

/-- The id of a profile tells its user and its devices. -/
theorem profileId_inj {userId sourceId targetId userId' sourceId' targetId' : Uuid} :
    profileId userId sourceId targetId = profileId userId' sourceId' targetId' ↔
      userId = userId' ∧ sourceId = sourceId' ∧ targetId = targetId' := by
  constructor
  · intro h
    have hText := congrArg String.toList h
    simp only [profileId, String.toList_append, List.append_assoc] at hText
    obtain ⟨hUser, hRest⟩ := append_sep_inj (LawfulUuidText.colon_notMem userId)
      (LawfulUuidText.colon_notMem userId') hText
    obtain ⟨hSource, hTarget⟩ := append_sep_inj (LawfulUuidText.colon_notMem sourceId)
      (LawfulUuidText.colon_notMem sourceId') hRest
    exact ⟨LawfulUuidText.display_injective (String.toList_injective hUser),
      LawfulUuidText.display_injective (String.toList_injective hSource),
      LawfulUuidText.display_injective (String.toList_injective hTarget)⟩
  · rintro ⟨rfl, rfl, rfl⟩
    rfl

end ProfileIds

section Hyphenated

/-- The last digits of a number in hexadecimal. -/
def hexDigits : ℕ → ℕ → List Char
  | 0, _ => []
  | n + 1, value => hexDigits n (value / 16) ++ [Nat.digitChar (value % 16)]

def hyphenated (id : Uuid) : List Char :=
  let digits := hexDigits 32 id.toNat
  digits.take 8 ++ '-' :: (digits.drop 8).take 4 ++ '-' :: (digits.drop 12).take 4 ++
    '-' :: (digits.drop 16).take 4 ++ '-' :: digits.drop 20

def hexValue (c : Char) : Option ℕ :=
  if '0' ≤ c ∧ c ≤ '9' then some (c.toNat - '0'.toNat)
  else if 'a' ≤ c ∧ c ≤ 'f' then some (c.toNat - 'a'.toNat + 10)
  else if 'A' ≤ c ∧ c ≤ 'F' then some (c.toNat - 'A'.toNat + 10)
  else none

def parseHex (digits : List Char) : Option Uuid :=
  (digits.foldlM (fun value c => (hexValue c).map (16 * value + ·)) 0).map (BitVec.ofNat 128)

/-- Text of 32 digits, or of 36 characters with hyphens between the groups of digits. -/
def parseUuid (text : List Char) : Option Uuid :=
  let digits := text.filter (· ≠ '-')
  if digits.length ≠ 32 then none
  else if text.length = 32 ∨ text.length = 36 ∧ [8, 13, 18, 23].all (text[·]? = some '-') then
    parseHex digits
  else none

/-- UUIDs as the library writes them. -/
@[reducible]
def UuidText.hyphenated : UuidText where
  display id := String.ofList (Server.hyphenated id)
  simple id := String.ofList (hexDigits 32 id.toNat)
  parseStr text := (parseUuid text.toList).elim (.error "invalid UUID") .ok

theorem digitChar_ne : ∀ d : Fin 16, Nat.digitChar d ≠ '-' ∧ Nat.digitChar d ≠ ':' := by
  decide

theorem digitChar_inj : ∀ c d : Fin 16, Nat.digitChar c = Nat.digitChar d → c = d := by
  decide

theorem mem_hexDigits {c : Char} {n value : ℕ} (h : c ∈ hexDigits n value) : c ≠ '-' ∧ c ≠ ':' := by
  induction n generalizing value with
  | zero => contradiction
  | succ n ih =>
    rw [hexDigits, List.mem_append, List.mem_singleton] at h
    rcases h with h | rfl
    · exact ih h
    · exact digitChar_ne ⟨value % 16, Nat.mod_lt value (by omega)⟩

theorem hexDigits_inj {n a b : ℕ} (hA : a < 16 ^ n) (hB : b < 16 ^ n)
    (h : hexDigits n a = hexDigits n b) : a = b := by
  induction n generalizing a b with
  | zero => omega
  | succ n ih =>
    obtain ⟨hInit, hLast⟩ := List.append_inj' h rfl
    have hDiv : a / 16 = b / 16 := ih (by omega) (by omega) hInit
    have hMod := digitChar_inj ⟨a % 16, Nat.mod_lt a (by omega)⟩ ⟨b % 16, Nat.mod_lt b (by omega)⟩
      (List.head_eq_of_cons_eq hLast)
    rw [Fin.mk.injEq] at hMod
    omega

theorem filter_hyphenated (id : Uuid) :
    (hyphenated id).filter (· ≠ '-') = hexDigits 32 id.toNat := by
  have hDigits : ∀ c ∈ hexDigits 32 id.toNat, c ≠ '-' := fun c hMem => (mem_hexDigits hMem).1
  rw [hyphenated]
  generalize hexDigits 32 id.toNat = digits at hDigits ⊢
  have hKept {part : List Char} (hPart : part ⊆ digits) : part.filter (· ≠ '-') = part :=
    List.filter_eq_self.mpr fun c hMem => decide_eq_true (hDigits c (hPart hMem))
  have hTake (n m : ℕ) : (digits.drop n).take m ⊆ digits :=
    fun c hMem => List.mem_of_mem_drop (List.mem_of_mem_take hMem)
  have hJoin (n m : ℕ) : (digits.drop n).take m ++ digits.drop (n + m) = digits.drop n := by
    rw [← List.drop_drop, List.take_append_drop]
  simp only [List.filter_append, List.filter_cons, ne_eq, not_true_eq_false, decide_false,
    Bool.false_eq_true, if_false, hKept (hTake _ _), hKept (List.take_subset 8 digits),
    hKept (List.drop_subset 20 digits), List.append_assoc]
  rw [hJoin 16 4, hJoin 12 4, hJoin 8 4, List.take_append_drop]

theorem lawful_hyphenated : @LawfulUuidText .hyphenated := by
  let text := UuidText.hyphenated
  refine ⟨fun a b h => ?_, fun id => ?_⟩
  · have hText : hyphenated a = hyphenated b := String.ofList_injective h
    have hDigits := congrArg (List.filter (· ≠ '-')) hText
    rw [filter_hyphenated, filter_hyphenated] at hDigits
    exact BitVec.eq_of_toNat_eq (hexDigits_inj a.isLt b.isLt hDigits)
  · intro hMem
    change ':' ∈ (String.ofList (hyphenated id)).toList at hMem
    rw [String.toList_ofList] at hMem
    have hDigit : ':' ∈ (hyphenated id).filter (· ≠ '-') := List.mem_filter.mpr ⟨hMem, by decide⟩
    rw [filter_hyphenated] at hDigit
    exact (mem_hexDigits hDigit).2 rfl

/-- The headers of a guest, a user who logs in besides the default one. -/
def guestHeaders : Headers := ⟨some (some ("Bearer " ++ @newAccessToken .hyphenated 100 101))⟩

end Hyphenated

end Kmsync.Server
