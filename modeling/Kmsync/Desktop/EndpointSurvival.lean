import Kmsync.Core.FileNames
import Kmsync.Desktop.ConfigText
import Kmsync.ProofKit.Chunks

/-! A host and a port that are set in a config, and what is shown of them.  The address is read
apart at its last colon, so a host may have colons of its own; an `@` or brackets in it are not told
from those of an address. -/

namespace Kmsync.Desktop

open ProofKit
open Server (trimmed)

section Ports

theorem toDigits_notMem {c : Char} (h : c.isDigit = false) (n : ℕ) : c ∉ Nat.toDigits 10 n := by
  intro hMem
  have hDigit := Nat.isDigit_of_mem_toDigits (by decide) le_rfl hMem
  rw [h] at hDigit
  cases hDigit

theorem not_isWhitespace_of_isDigit {c : Char} (h : c.isDigit = true) : ¬ isWhitespace c := by
  have hRange : 48 ≤ c.toNat ∧ c.toNat ≤ 57 := by
    simpa [Char.isDigit, UInt32.le_iff_toNat_le] using h
  simp only [isWhitespace, Bool.or_eq_true, Bool.and_eq_true, decide_eq_true_eq, beq_iff_eq]
  omega

theorem parsePort_toDigits {port : UInt16} (h : port ≠ 0) :
    parsePort (Nat.toDigits 10 port.toNat) = some port := by
  have hPlus : (Nat.toDigits 10 port.toNat).head? ≠ some '+' := fun hHead =>
    toDigits_notMem (by decide) _ (List.mem_of_head? hHead)
  have hDigits : (Nat.toDigits 10 port.toNat).all Char.isDigit = true :=
    List.all_eq_true.mpr fun c hMem => Nat.isDigit_of_mem_toDigits (by decide) le_rfl hMem
  have hValue : Nat.ofDigitChars 10 (Nat.toDigits 10 port.toNat) 0 = port.toNat :=
    Nat.ofDigitChars_ten_toDigits
  have hParse : parseU16 (Nat.toDigits 10 port.toNat) = some port := by
    unfold parseU16
    simp only [if_neg hPlus, hValue]
    rw [if_pos ⟨Nat.toDigits_ne_nil, hDigits, port.toNat_lt⟩, UInt16.ofNat_toNat]
  rw [parsePort, hParse, Option.filter_some, if_pos]
  exact decide_eq_true (UInt16.pos_iff_ne_zero.mpr h)

end Ports

section Authorities

variable {scheme host : List Char} {c : Char} {n : ℕ}

/-- The text that is written for a host and a port. -/
def urlText (scheme host : List Char) (port : ℕ) : List Char :=
  scheme ++ ("://".toList ++ (host ++ ':' :: Nat.toDigits 10 port))

theorem splitOnce_urlText (h : scheme.all isSchemeChar = true) (host : List Char) (port : ℕ) :
    splitOnce "://".toList (urlText scheme host port) =
      some (scheme, host ++ ':' :: Nat.toDigits 10 port) := by
  have hColon : ':' ∉ scheme := fun hMem => absurd (List.all_eq_true.mp h _ hMem) (by decide)
  exact splitOnce_append hColon _

/-- A host that begins with a bracket, with a closing one behind it. -/
def Bracketed (host : List Char) : Prop := host.head? = some '[' ∧ ']' ∈ host

instance : Decidable (Bracketed host) := inferInstanceAs (Decidable (_ ∧ _))

theorem bracketedParts_eq_none (h : ¬ Bracketed host) (port : ℕ) :
    bracketedParts (host ++ ':' :: Nat.toDigits 10 port) = none := by
  cases host with
  | nil => rfl
  | cons d host =>
    by_cases hOpen : d = '['
    · subst hOpen
      have hClose : ']' ∉ host ++ ':' :: Nat.toDigits 10 port := by
        rw [List.mem_append, List.mem_cons]
        rintro (hMem | hMem | hMem)
        · exact h ⟨rfl, List.mem_cons_of_mem _ hMem⟩
        · exact absurd hMem (by decide)
        · exact toDigits_notMem (by decide) port hMem
      simp [bracketedParts, List.dropPrefix?, splitOnce_eq_none List.mem_cons_self hClose]
    · simp [bracketedParts, List.dropPrefix?, hOpen]

/-- What is read between brackets is not a host with brackets. -/
theorem bracketedParts_of_bracketed (h : Bracketed host) (rest : List Char) :
    ∃ host' port, bracketedParts (host ++ rest) = some (host', port) ∧ host' ≠ host := by
  obtain ⟨hOpen, hClose⟩ := h
  obtain ⟨inner, rfl⟩ := List.head?_eq_some_iff.mp hOpen
  obtain ⟨before, behind, rfl, hBefore⟩ :=
    List.eq_append_cons_of_mem ((List.mem_cons.mp hClose).resolve_left (by decide))
  have hSplit : splitOnce [']'] (before ++ ']' :: (behind ++ rest)) =
      some (before, behind ++ rest) := splitOnce_append hBefore _
  refine ⟨before, ((behind ++ rest).dropPrefix? [':']).bind parsePort,
    by simp [bracketedParts, List.dropPrefix?, hSplit], fun hHost => hBefore ?_⟩
  rw [hHost]
  exact hClose

/-- A host and a port are read back, but for a host in brackets. -/
theorem authorityParts_eq_iff {port : UInt16} (hHost : host ≠ []) (hPort : port ≠ 0) :
    authorityParts (host ++ ':' :: Nat.toDigits 10 port.toNat) = (some host, some port) ↔
      ¬ Bracketed host := by
  have hNe : host ++ ':' :: Nat.toDigits 10 port.toNat ≠ [] := by simp
  rw [authorityParts, if_neg hNe]
  constructor
  · intro h hBracketed
    obtain ⟨host', port', hParts, hHost'⟩ := bracketedParts_of_bracketed hBracketed _
    rw [hParts] at h
    exact hHost' (Option.some.inj (Prod.mk.inj h).1)
  · intro hBracketed
    have hSplit : rsplitOnce ':' (host ++ ':' :: Nat.toDigits 10 port.toNat) =
        some (host, Nat.toDigits 10 port.toNat) :=
      rsplitOnce_eq_some.mpr ⟨rfl, toDigits_notMem (by decide) _⟩
    obtain ⟨d, host, rfl⟩ := List.exists_cons_of_ne_nil hHost
    rw [bracketedParts_eq_none hBracketed, hSplit]
    exact congrArg _ (parsePort_toDigits hPort)

/-- A host that is read is a part of the authority. -/
theorem mem_of_authorityParts {authority : List Char} {port : Option UInt16}
    (h : authorityParts authority = (some host, port)) (hMem : c ∈ host) : c ∈ authority := by
  rw [authorityParts] at h
  split at h
  next => cases h
  next =>
    split at h
    next inner port' hParts =>
      obtain rfl := Option.some.inj (Prod.mk.inj h).1
      obtain ⟨afterBracket, hDrop, hRest⟩ := Option.bind_eq_some_iff.mp hParts
      obtain ⟨⟨inner', rest⟩, hSplit, hInner⟩ := Option.bind_eq_some_iff.mp hRest
      obtain ⟨rfl, -⟩ := Prod.mk.inj (Option.some.inj hInner)
      obtain ⟨front, rfl, -⟩ := List.dropPrefix?_eq_some_iff.mp hDrop
      rw [(splitOnce_eq_some.mp hSplit).1]
      exact List.mem_append_right _ (List.mem_append_left _ hMem)
    next d before behind _ hSplit =>
      obtain rfl := Option.some.inj (Prod.mk.inj h).1
      rw [(rsplitOnce_eq_some.mp hSplit).1]
      exact List.mem_append_left _ hMem
    next =>
      obtain rfl := Option.some.inj (Prod.mk.inj h).1
      exact hMem

theorem authorityOf_urlText (hScheme : scheme.all isSchemeChar = true) (hSlash : '/' ∉ host)
    (port : ℕ) :
    authorityOf (urlText scheme host port) =
      trim ((host ++ ':' :: Nat.toDigits 10 port).rtakeWhile (· ≠ '@')) := by
  have hTake : (host ++ ':' :: Nat.toDigits 10 port).takeWhile (· ≠ '/') =
      host ++ ':' :: Nat.toDigits 10 port := by
    refine List.takeWhile_eq_self_iff.mpr fun d hMem => decide_eq_true ?_
    rintro rfl
    rw [List.mem_append, List.mem_cons] at hMem
    rcases hMem with hMem | hMem | hMem
    · exact hSlash hMem
    · exact absurd hMem (by decide)
    · exact toDigits_notMem (by decide) port hMem
  rw [authorityOf, splitOnce_urlText hScheme]
  exact congrArg (fun text => trim (text.rtakeWhile (· ≠ '@'))) hTake

/-- A trimmed host and a port have no blank at the ends. -/
theorem trim_authority {name : List Char} (hHost : trim name ≠ []) (port : ℕ) :
    trim (trim name ++ ':' :: Nat.toDigits 10 port) = trim name ++ ':' :: Nat.toDigits 10 port := by
  obtain ⟨d, rest, hName⟩ := List.exists_cons_of_ne_nil hHost
  have hHead : ¬ isWhitespace d := trim_ne_blank_cons hName
  have hLast : ∀ hNe : d :: rest ++ ':' :: Nat.toDigits 10 port ≠ [],
      ¬ isWhitespace ((d :: rest ++ ':' :: Nat.toDigits 10 port).getLast hNe) := by
    intro hNe
    rw [List.getLast_append_of_ne_nil _ (List.cons_ne_nil _ _),
      List.getLast_cons Nat.toDigits_ne_nil]
    exact not_isWhitespace_of_isDigit (Nat.isDigit_of_mem_toDigits (by decide) le_rfl
      (List.getLast_mem Nat.toDigits_ne_nil))
  rw [hName, trim_eq_dropWhile hLast, List.cons_append, List.dropWhile_cons_of_neg hHead]

theorem mem_of_mem_trim {text : List Char} (h : c ∈ trim text) : c ∈ text :=
  (List.dropWhile_suffix _).subset ((List.rdropWhile_prefix _ _).subset h)

theorem at_notMem_authorityOf (serverUrl : List Char) : '@' ∉ authorityOf serverUrl := by
  intro hMem
  have hNe := List.mem_rtakeWhile_imp (mem_of_mem_trim hMem)
  exact absurd hNe (by decide)

end Authorities

section Building

theorem trim_trim (name : List Char) : trim (trim name) = trim name := by
  cases hName : trim name with
  | nil => rfl
  | cons c rest =>
    have hHead : ¬ isWhitespace c := trim_ne_blank_cons hName
    rw [trim, List.dropWhile_cons_of_neg hHead, ← hName]
    exact List.rdropWhile_idempotent isWhitespace _

theorem toList_trimmed (value : String) : (trimmed value).toList = trim value.toList :=
  String.toList_ofList

theorem trimmed_trimmed (value : String) : trimmed (trimmed value) = trimmed value := by
  rw [trimmed, toList_trimmed, trim_trim]
  rfl

/-- The scheme of a config, or `http`. -/
def schemeOf (existing : Option JsonValue) : String :=
  ((existing.bind JsonValue.asStr).bind serverUrlScheme).getD "http"

structure IsScheme (scheme : String) : Prop where
  nonempty : scheme.toList ≠ []
  chars : scheme.toList.all isSchemeChar = true

theorem isScheme_schemeOf (existing : Option JsonValue) : IsScheme (schemeOf existing) := by
  unfold schemeOf
  cases hScheme : (existing.bind JsonValue.asStr).bind serverUrlScheme with
  | none => exact ⟨by decide, by decide⟩
  | some scheme =>
    obtain ⟨url, -, hUrl⟩ := Option.bind_eq_some_iff.mp hScheme
    unfold serverUrlScheme at hUrl
    split at hUrl
    next scheme' _ _ =>
      split at hUrl
      next hChars =>
        obtain rfl := Option.some.inj hUrl
        exact ⟨by simpa using hChars.1, by simpa using hChars.2⟩
      next => cases hUrl
    next => cases hUrl

/-- What is built, and for which hosts and ports. -/
structure Builds (scheme host : String) (port : UInt16) (url : String) : Prop where
  nonempty : trimmed host ≠ ""
  noSlash : '/' ∉ trim host.toList
  nonzero : port ≠ 0
  eq : url = scheme ++ "://" ++ trimmed host ++ ":" ++ toString port.toNat

theorem buildServerUrl_eq_ok {existing : Option JsonValue} {host url : String} {port : UInt16} :
    buildServerUrl existing host port = .ok url ↔ Builds (schemeOf existing) host port url := by
  unfold buildServerUrl
  simp only [toList_trimmed]
  constructor
  · intro h
    split at h
    next => cases h
    next hNonempty =>
      split at h
      next => cases h
      next hSlash =>
        split at h
        next => cases h
        next hPort => exact ⟨hNonempty, fun hMem => hSlash (.inr hMem), hPort, (Except.ok.inj h).symm⟩
  · rintro ⟨hNonempty, hSlash, hPort, rfl⟩
    have hScheme : splitOnce "://".toList (trim host.toList) = none :=
      splitOnce_eq_none (by decide) hSlash
    rw [if_neg hNonempty, hScheme, if_neg (by simpa using hSlash), if_neg hPort]
    rfl

namespace Builds

variable {scheme host url : String} {port : UInt16}

theorem toList_url (h : Builds scheme host port url) :
    url.toList = urlText scheme.toList (trim host.toList) port.toNat := by
  rw [h.eq, urlText]
  simp [toList_trimmed]

theorem again (h : Builds scheme host port url) : Builds scheme (trimmed host) port url where
  nonempty := by rw [trimmed_trimmed]; exact h.nonempty
  noSlash := by rw [toList_trimmed, trim_trim]; exact h.noSlash
  nonzero := h.nonzero
  eq := by rw [trimmed_trimmed]; exact h.eq

/-- The scheme is found again. -/
theorem schemeOf_url (h : Builds scheme host port url) (hScheme : IsScheme scheme) :
    schemeOf (some (.string url)) = scheme := by
  have hUrl : serverUrlScheme url = some scheme := by
    rw [serverUrlScheme, h.toList_url, splitOnce_urlText hScheme.chars]
    simp only [if_pos (And.intro hScheme.nonempty hScheme.chars), String.ofList_toList]
  simp only [schemeOf, Option.bind_some, JsonValue.asStr, hUrl, Option.getD_some]

/-- The host and the port are read off the address, but for an `@` or brackets in the host. -/
theorem serverEndpointParts_iff (h : Builds scheme host port url) (hScheme : IsScheme scheme) :
    serverEndpointParts url = (some (trimmed host), some port) ↔
      '@' ∉ trim host.toList ∧ ¬ Bracketed (trim host.toList) := by
  have hHost : trim host.toList ≠ [] := fun hNil => h.nonempty (by rw [trimmed, hNil])
  have hParts : serverEndpointParts url = (some (trimmed host), some port) ↔
      authorityParts (authorityOf url.toList) = (some (trim host.toList), some port) := by
    rw [serverEndpointParts, Prod.ext_iff, Prod.ext_iff]
    refine and_congr_left fun _ => ?_
    rw [trimmed, Option.map_eq_some_iff]
    constructor
    · rintro ⟨host', hHost', hText⟩
      rw [hHost', String.ofList_injective hText]
    · exact fun hHost' => ⟨_, hHost', rfl⟩
  rw [hParts]
  by_cases hAt : '@' ∈ trim host.toList
  · refine iff_of_false (fun hRead => ?_) fun hBoth => hBoth.1 hAt
    exact at_notMem_authorityOf _ (mem_of_authorityParts hRead hAt)
  · have hTake : (trim host.toList ++ ':' :: Nat.toDigits 10 port.toNat).rtakeWhile (· ≠ '@') =
        trim host.toList ++ ':' :: Nat.toDigits 10 port.toNat := by
      refine List.rtakeWhile_eq_self_iff.mpr fun d hMem => decide_eq_true ?_
      rintro rfl
      rw [List.mem_append, List.mem_cons] at hMem
      rcases hMem with hMem | hMem | hMem
      · exact hAt hMem
      · exact absurd hMem (by decide)
      · exact toDigits_notMem (by decide) _ hMem
    rw [h.toList_url, authorityOf_urlText hScheme.chars h.noSlash, hTake, trim_authority hHost,
      authorityParts_eq_iff hHost h.nonzero]
    exact (and_iff_right hAt).symm

end Builds

end Building

section Surviving

variable [ConfigJson] {text updated host url : String} {port : UInt16}

/-- The address in a config is shown as the host and the port that were set, and setting what is
shown stores it again. -/
structure Survives (updated host : String) (port : UInt16) : Prop where
  url : ∃ url, storedServerUrl updated = some url ∧
    serverEndpointParts url = (some (trimmed host), some port) ∧
    ∃ again, setServerEndpointInConfigText updated (trimmed host) port = .ok again ∧
      storedServerUrl again = some url

/-- A config that has the address. -/
def Has (updated url : String) : Prop :=
  ∃ object, parseConfigObject updated = .ok object ∧
    object.get? "server_url" = some (.string url)

theorem Has.stored (h : Has updated url) : storedServerUrl updated = some url := by
  obtain ⟨object, hRead, hUrl⟩ := h
  simp only [storedServerUrl, hRead, hUrl, Option.bind_some, JsonValue.asStr]

variable [LawfulConfigJson]

/-- A config object that was written is read with the address in it. -/
theorem serializeConfigObject_ok (object : HashMap String JsonValue) (url : String) :
    ∃ updated object',
      serializeConfigObject (object.insert "server_url" (.string url)) = .ok updated ∧
      parseConfigObject updated = .ok object' ∧ object'.get? "server_url" = some (.string url) := by
  obtain ⟨text, object', hPretty, hRead, hTexts⟩ :=
    LawfulConfigJson.fromStr_toStringPretty (object.insert "server_url" (.string url))
  refine ⟨text ++ "\n", object', ?_, ?_, hTexts _ _ (by rw [HashMap.get?_insert, if_pos rfl])⟩
  · rw [serializeConfigObject, hPretty]
  · rw [parseConfigObject, hRead]

/-- What a config is that an address was set in. -/
theorem setServerEndpoint_ok (h : setServerEndpointInConfigText text host port = .ok updated) :
    ∃ existing url, Builds (schemeOf existing) host port url ∧ Has updated url := by
  obtain ⟨object, -, h⟩ := except_bind_eq_ok.mp h
  obtain ⟨url, hBuild, hWrite⟩ := except_bind_eq_ok.mp h
  obtain ⟨updated', object', hWritten, hHas⟩ := serializeConfigObject_ok object url
  obtain rfl := Except.ok.inj (hWritten.symm.trans hWrite)
  exact ⟨object.get? "server_url", url, buildServerUrl_eq_ok.mp hBuild, object', hHas⟩

/-- Setting the host and the port of an address that is in the config keeps it. -/
theorem setServerEndpoint_again {scheme : String} (hScheme : IsScheme scheme)
    (hBuilds : Builds scheme host port url) (hHas : Has updated url) :
    ∃ again, setServerEndpointInConfigText updated (trimmed host) port = .ok again ∧
      Has again url := by
  obtain ⟨object, hRead, hUrl⟩ := hHas
  obtain ⟨again, object', hWrite, hAgain⟩ := serializeConfigObject_ok object url
  have hBuild : buildServerUrl (object.get? "server_url") (trimmed host) port = .ok url := by
    rw [buildServerUrl_eq_ok, hUrl, hBuilds.schemeOf_url hScheme]
    exact hBuilds.again
  refine ⟨again, ?_, object', hAgain⟩
  exact except_bind_eq_ok.mpr ⟨object, hRead, except_bind_eq_ok.mpr ⟨url, hBuild, hWrite⟩⟩

/-- An address that was set is shown as it was set, and stays what it is when it is set as it is
shown, exactly if no part of the host is read as something else: what is before an `@` is dropped,
and so are the brackets around a host. -/
theorem setServerEndpoint_survives_iff
    (h : setServerEndpointInConfigText text host port = .ok updated) :
    Survives updated host port ↔ '@' ∉ trim host.toList ∧ ¬ Bracketed (trim host.toList) := by
  obtain ⟨existing, url, hBuilds, hHas⟩ := setServerEndpoint_ok h
  have hScheme := isScheme_schemeOf existing
  rw [← hBuilds.serverEndpointParts_iff hScheme]
  constructor
  · rintro ⟨url', hStored, hParts, -⟩
    obtain rfl := Option.some.inj (hHas.stored.symm.trans hStored)
    exact hParts
  · intro hParts
    obtain ⟨again, hSet, hAgain⟩ := setServerEndpoint_again hScheme hBuilds hHas
    exact ⟨url, hHas.stored, hParts, again, hSet, hAgain.stored⟩

end Surviving

section Homes

/-- The config of a server on the machine itself. -/
def homeConfig : String := "\x7b\n  \"server_url\": \"http://127.0.0.1:24888\"\n\x7d"

def bracketedConfig : String := "\x7b\n  \"server_url\": \"http://[::1]:24888\"\n\x7d\n"

/-- The brackets of a host are gone when it is shown, and then when it is set again. -/
theorem setServerEndpoint_bracketed :
    setServerEndpointInConfigText homeConfig "[::1]" 24888 = .ok bracketedConfig ∧
      storedServerUrl bracketedConfig = some "http://[::1]:24888" ∧
      serverEndpointParts "http://[::1]:24888" = (some "::1", some 24888) ∧
      ¬ Survives bracketedConfig "[::1]" 24888 := by
  have hStored : storedServerUrl bracketedConfig = some "http://[::1]:24888" := by decide +kernel
  have hParts : serverEndpointParts "http://[::1]:24888" = (some "::1", some 24888) := by
    decide +kernel
  refine ⟨by decide +kernel, hStored, hParts, fun hSurvives => ?_⟩
  obtain ⟨url, hUrl, hRead, -⟩ := hSurvives.url
  obtain rfl := Option.some.inj (hStored.symm.trans hUrl)
  rw [hParts] at hRead
  revert hRead
  decide +kernel

def colonsConfig : String := "\x7b\n  \"server_url\": \"http://fe80::1:24889\"\n\x7d\n"

/-- The colons of a host are kept apart from that of the port. -/
theorem setServerEndpoint_survives_colons : Survives colonsConfig " fe80::1 " 24889 := by
  have hSet : setServerEndpointInConfigText homeConfig " fe80::1 " 24889 = .ok colonsConfig := by
    decide +kernel
  exact (setServerEndpoint_survives_iff hSet).mpr (by decide +kernel)

end Homes

end Kmsync.Desktop
