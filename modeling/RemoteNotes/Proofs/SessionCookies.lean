import RemoteNotes.Proofs.Splitting
import RemoteNotes.Session.Grant

/-!
# Session cookies

Of the headers that set the cookie of a session, the first one decides, and if its value is empty
there is no session: the headers behind it are not asked (`session_cookie_iff`). Headers that are
not plain, and cookies of other names, are passed over.
-/

namespace RemoteNotes.Session

open Text.Utf8 (Octets)

/-- The text of a plain header, an octet a character. -/
def plainText (header : Octets) : List Char := header.map fun b => Char.ofNat b.toNat

/-- The pair at the front of a cookie, as it is written. Attributes follow a semicolon. -/
structure Front (cookie name value : List Char) : Prop where
  written : ∃ attributes, cookie = (name ++ '=' :: value) ++ attributes ∧
    ∀ c ∈ attributes.head?, c = ';'
  name : '=' ∉ name ∧ ';' ∉ name
  value : ';' ∉ value

/-- A header sets the cookie of a session to some value. -/
def Sets (header : Octets) (s : String) : Prop :=
  Http.isPlainValue header = true ∧ ∃ name value, Front (plainText header) name value ∧
    Text.trim name = cookieName.toList ∧ s = String.ofList (Text.trim value)

/-- A header sets the cookie of a session, and does not clear it. -/
def Bears (header : Octets) (s : String) : Prop := Sets header s ∧ s ≠ ""

/-- What the first of the headers that say something says. -/
def FirstOf (Says : Octets → String → Prop) (headers : List Octets) (s : String) : Prop :=
  ∃ before header after, headers = before ++ header :: after ∧ Says header s ∧
    ∀ h ∈ before, ∀ t, ¬Says h t

-- ---------------------------------------------------------------------------
-- One header
-- ---------------------------------------------------------------------------

theorem front_iff {cookie name value : List Char} :
    Front cookie name value ↔
      Text.cut? '=' (cookie.takeWhile (· != ';')) = some (name, value) := by
  have hfront : Front cookie name value ↔ '=' ∉ name ∧ ';' ∉ name ++ '=' :: value ∧
      ∃ attributes, cookie = (name ++ '=' :: value) ++ attributes ∧
        ∀ c ∈ attributes.head?, c = ';' := by
    constructor
    · rintro ⟨hwritten, ⟨hmark, hname⟩, hvalue⟩
      exact ⟨hmark, by simp [hname, hvalue], hwritten⟩
    · rintro ⟨hmark, hpair, hwritten⟩
      simp only [List.mem_append, List.mem_cons, not_or] at hpair
      exact ⟨hwritten, ⟨hmark, hpair.1⟩, hpair.2.2⟩
  rw [hfront, Text.cut?_eq_some, Text.takeWhile_ne_eq_iff, and_comm]

/-- It makes no difference whether the pair is trimmed before its halves are. -/
theorem cookiePair?_eq (cookie : List Char) :
    cookiePair? cookie = (Text.cut? '=' (cookie.takeWhile (· != ';'))).map
      fun (name, value) => (Text.trim name, Text.trim value) := by
  have hmark : Text.isBlank '=' = false := by decide
  simp [cookiePair?, Text.cut?_trim hmark, Function.comp_def, Text.trim_trimStart,
    Text.trim_trimEnd]

theorem sessionValue?_eq_some {cookie : List Char} {s : String} :
    sessionValue? cookie = some s ↔ ∃ name value, Front cookie name value ∧
      Text.trim name = cookieName.toList ∧ s = String.ofList (Text.trim value) := by
  simp only [front_iff, sessionValue?, cookiePair?_eq]
  cases Text.cut? '=' (cookie.takeWhile (· != ';')) with
  | none => simp
  | some pair =>
    obtain ⟨name, value⟩ := pair
    simp [and_assoc, eq_comm]

def set? (header : Octets) : Option String :=
  if Http.isPlainValue header then sessionValue? (plainText header) else none

theorem set?_eq_some (header : Octets) (s : String) : set? header = some s ↔ Sets header s := by
  simp [set?, Sets, sessionValue?_eq_some]

theorem filter_set?_eq_some (header : Octets) (s : String) :
    (set? header).filter (· != "") = some s ↔ Bears header s := by
  simp [Option.filter_eq_some_iff, set?_eq_some, Bears]

-- ---------------------------------------------------------------------------
-- All headers
-- ---------------------------------------------------------------------------

section

variable {Says : Octets → String → Prop} {said? : Octets → Option String}
  {headers : List Octets} {s t : String}

theorem FirstOf.said (h : FirstOf Says headers s) : ∃ header ∈ headers, Says header s := by
  obtain ⟨before, header, after, rfl, htold, -⟩ := h
  exact ⟨header, by simp, htold⟩

variable (hsaid : ∀ h s, said? h = some s ↔ Says h s)
include hsaid

theorem firstOf_iff : FirstOf Says headers s ↔ headers.findSome? said? = some s := by
  simp only [FirstOf, List.findSome?_eq_some_iff, hsaid, Option.eq_none_iff_forall_ne_some, ne_eq]

theorem FirstOf.unique (hs : FirstOf Says headers s) (ht : FirstOf Says headers t) : s = t :=
  Option.some.inj (((firstOf_iff hsaid).mp hs).symm.trans ((firstOf_iff hsaid).mp ht))

theorem exists_firstOf {header : Octets} (hmem : header ∈ headers) (htold : Says header s) :
    ∃ t, FirstOf Says headers t := by
  have hsome : (headers.findSome? said?).isSome = true :=
    List.findSome?_isSome_iff.mpr ⟨header, hmem, by simp [(hsaid header s).mpr htold]⟩
  obtain ⟨t, ht⟩ := Option.isSome_iff_exists.mp hsome
  exact ⟨t, (firstOf_iff hsaid).mpr ht⟩

end

theorem cookie?_eq (headers : List Octets) :
    cookie? headers = (headers.findSome? set?).filter (· != "") := by
  -- A header that is not plain says nothing, whether it is left out or asked.
  have hsearch : ((headers.filter Http.isPlainValue).map plainText).findSome? sessionValue? =
      headers.findSome? set? := by
    induction headers with
    | nil => rfl
    | cons header headers ih =>
      cases hplain : Http.isPlainValue header with
      | true => simp [hplain, set?, List.findSome?_cons, ih]
      | false => simp [hplain, set?, ih]
  rw [← hsearch]
  rfl

variable {headers : List Octets} {s : String}

theorem FirstOf.bears (h : FirstOf Sets headers s) (hs : s ≠ "") : FirstOf Bears headers s := by
  obtain ⟨before, header, after, hsplit, hsets, hbefore⟩ := h
  exact ⟨before, header, after, hsplit, ⟨hsets, hs⟩, fun h hmem t hbears => hbefore h hmem t hbears.1⟩

/-- A header that bears a session and is not the first to set its cookie is behind a cleared one. -/
theorem FirstOf.sets_or_cleared (h : FirstOf Bears headers s) :
    FirstOf Sets headers s ∨ FirstOf Sets headers "" := by
  obtain ⟨header, hmem, hsets, -⟩ := h.said
  obtain ⟨t, ht⟩ := exists_firstOf set?_eq_some hmem hsets
  by_cases hempty : t = ""
  · exact .inr (hempty ▸ ht)
  · cases FirstOf.unique filter_set?_eq_some h (ht.bears hempty)
    exact .inl ht

/-- The first header that sets the cookie of a session gives the session, unless it clears it. The
first one that does not clear it gives the session just if it is not behind one that does. -/
theorem session_cookie_iff (headers : List Octets) :
    (∀ s, cookie? headers = some s ↔ FirstOf Sets headers s ∧ s ≠ "") ∧
    ((∀ s, cookie? headers = some s ↔ FirstOf Bears headers s) ↔
      ¬(FirstOf Sets headers "" ∧ ∃ header ∈ headers, ∃ s, Bears header s)) := by
  have hcookie (s : String) : cookie? headers = some s ↔ FirstOf Sets headers s ∧ s ≠ "" := by
    simp [cookie?_eq, Option.filter_eq_some_iff, firstOf_iff set?_eq_some]
  refine ⟨hcookie, fun hall => ?_, fun hnone s => ?_⟩
  · rintro ⟨hcleared, header, hmem, s, hbears⟩
    obtain ⟨t, ht⟩ := exists_firstOf filter_set?_eq_some hmem hbears
    obtain ⟨hfirst, hne⟩ := (hcookie t).mp ((hall t).mpr ht)
    exact hne (FirstOf.unique set?_eq_some hfirst hcleared)
  · rw [hcookie]
    constructor
    · rintro ⟨hfirst, hne⟩
      exact hfirst.bears hne
    · intro hbears
      obtain ⟨header, hmem, hbear⟩ := hbears.said
      rcases hbears.sets_or_cleared with hfirst | hcleared
      · exact ⟨hfirst, hbear.2⟩
      · exact absurd ⟨hcleared, header, hmem, s, hbear⟩ hnone

/-- The cookie that is cleared hides the session behind it. -/
theorem session_behind_cleared_cookie :
    let headers := ["memos.access-token=; Path=/", "memos.access-token=abc; Path=/"].map
      Text.Utf8.ofString
    headers.all Http.isPlainValue = true ∧ cookie? headers = none ∧ FirstOf Bears headers "abc" := by
  intro headers
  refine ⟨by decide +kernel, by decide +kernel, ?_⟩
  rw [firstOf_iff filter_set?_eq_some]
  decide +kernel

end RemoteNotes.Session
