import Mathlib.Data.String.Basic
import RemoteNotes.Config.BaseUrl
import RemoteNotes.Proofs.Trimming

/-!
# Addresses of servers

An address of a server is a scheme with a host behind it, and its normal form has no blanks around
it and no slashes at its end. The judgement goes by the number of octets: it refuses hosts of one
octet behind the shorter scheme and accepts long texts without a host, and a blank in front of the
slashes at the end stays. Everything else is judged as it should be (`normalized_iff_noSlip`).
-/

namespace RemoteNotes.BaseUrl

open Text

def schemes : List (List Char) := ["http://".toList, "https://".toList]

/-- The characters that begin a path, a query or a fragment. -/
def endsHost (c : Char) : Bool := c == '/' || c == '?' || c == '#'

def HasHost (cs : List Char) : Prop :=
  ∃ scheme ∈ schemes, ∃ rest, cs = scheme ++ rest ∧ rest.takeWhile (!endsHost ·) ≠ []

def isEnding (c : Char) : Bool := isBlank c || c == '/'

/-- The text without the blanks around it and the slashes at its end, however they are mixed. -/
def bare (raw : String) : List Char := dropEndWhile isEnding (trimStart raw.toList)

/-- The text that is judged: the blanks are taken away first, and then the slashes. -/
def judged (raw : String) : List Char := dropEndWhile (· == '/') (trim raw.toList)

/-- An address is accepted just if it has a host, and what it comes to is in normal form. -/
structure IsNormalized (raw : String) : Prop where
  accepted : (∃ url, normalize raw = .ok url) ↔ HasHost (bare raw)
  head : ∀ url, normalize raw = .ok url → ∀ c ∈ url.toList.head?, isBlank c = false
  last : ∀ url, normalize raw = .ok url → ∀ c ∈ url.toList.getLast?, isBlank c = false ∧ c ≠ '/'
  again : ∀ url, normalize raw = .ok url → normalize url = .ok url

/-- What the judgement gets wrong. -/
inductive Slip (raw : String) : Prop
  /-- The host is a single octet, and the address is taken for a mere scheme. -/
  | shortHost (c : Char) : judged raw = "http://".toList ++ [c] → c.utf8Size = 1 →
    endsHost c = false → isBlank c = false → Slip raw
  /-- There is no host, but enough octets. -/
  | noHost (scheme : List Char) (c : Char) (rest : List Char) : scheme ∈ schemes →
    judged raw = scheme ++ c :: rest → endsHost c = true → 8 < String.utf8Len (judged raw) →
    Slip raw
  /-- Behind the slashes at the end there was a blank. -/
  | blankEnd (scheme rest : List Char) (c : Char) : scheme ∈ schemes →
    judged raw = scheme ++ (rest ++ [c]) → isBlank c = true → 8 < String.utf8Len (judged raw) →
    Slip raw

variable {raw url : String} {cs scheme rest : List Char}

-- ---------------------------------------------------------------------------
-- What is judged
-- ---------------------------------------------------------------------------

/-- To strip more of a text comes to the same if less has been stripped of it before. -/
theorem dropEndWhile_dropEndWhile {p q : Char → Bool} (h : ∀ c, p c = true → q c = true)
    (cs : List Char) : dropEndWhile q (dropEndWhile p cs) = dropEndWhile q cs := by
  obtain ⟨tail, hcs, htail⟩ := exists_eq_dropEndWhile_append p cs
  conv => rhs; rw [hcs]
  rw [dropEndWhile_append_of_pos _ fun c hc => h c (htail c hc)]

theorem bare_eq (raw : String) : bare raw = dropEndWhile isEnding (judged raw) := by
  have hslash (c : Char) (hc : (c == '/') = true) : isEnding c = true := by simp [isEnding, hc]
  have hblank (c : Char) (hc : isBlank c = true) : isEnding c = true := by simp [isEnding, hc]
  rw [judged, dropEndWhile_dropEndWhile hslash, trim, trimEnd, dropEndWhile_dropEndWhile hblank,
    bare]

theorem last_judged (raw : String) : ∀ c ∈ (judged raw).getLast?, c ≠ '/' := by
  intro c hc
  simpa using getLast_dropEndWhile c hc

theorem last_bare (raw : String) : ∀ c ∈ (bare raw).getLast?, isBlank c = false := by
  intro c hc
  have hending := getLast_dropEndWhile c hc
  simp only [isEnding, Bool.or_eq_false_iff] at hending
  exact hending.1

/-- What is judged is bare unless a blank is left at its end. -/
theorem bare_eq_judged (h : ∀ c ∈ (judged raw).getLast?, isBlank c = false) :
    bare raw = judged raw := by
  rw [bare_eq]
  refine dropEndWhile_eq_self fun c hc => ?_
  have hslash : (c == '/') = false := by simpa using last_judged raw c hc
  rw [isEnding, h c hc, hslash]
  rfl

-- ---------------------------------------------------------------------------
-- Schemes and hosts
-- ---------------------------------------------------------------------------

theorem isHttpUrl_iff : isHttpUrl (String.ofList cs) = true ↔
    ∃ scheme ∈ schemes, ∃ rest, cs = scheme ++ rest := by
  have hprefix (lead : String) : Text.startsWith lead (String.ofList cs) = true ↔
      ∃ rest, cs = lead.toList ++ rest := by
    rw [Text.startsWith, List.isPrefixOf_iff_prefix, String.toList_ofList]
    exact exists_congr fun _ => eq_comm
  simp [isHttpUrl, hprefix, schemes]

theorem takeWhile_host_ne_nil :
    rest.takeWhile (!endsHost ·) ≠ [] ↔ ∃ c more, rest = c :: more ∧ endsHost c = false := by
  cases rest with
  | nil => simp
  | cons c more => cases hc : endsHost c <;> simp [hc]

/-- Neither of the schemes is the start of the other. -/
theorem scheme_unique {scheme' rest' : List Char} (hs : scheme ∈ schemes) (hs' : scheme' ∈ schemes)
    (h : scheme ++ rest = scheme' ++ rest') : scheme = scheme' ∧ rest = rest' := by
  simp only [schemes, List.mem_cons, List.not_mem_nil, or_false] at hs hs'
  rcases hs with rfl | rfl <;> rcases hs' with rfl | rfl <;> simp at h <;> exact ⟨rfl, h⟩

theorem utf8Len_scheme (hs : scheme ∈ schemes) :
    scheme = "http://".toList ∧ String.utf8Len scheme = 7 ∨ String.utf8Len scheme = 8 := by
  simp only [schemes, List.mem_cons, List.not_mem_nil, or_false] at hs
  rcases hs with rfl | rfl
  · exact .inl ⟨rfl, by decide⟩
  · exact .inr (by decide)

theorem normalize_eq_ok : normalize raw = .ok url ↔ url = String.ofList (judged raw) ∧
    (∃ scheme ∈ schemes, ∃ rest, judged raw = scheme ++ rest) ∧
    8 < String.utf8Len (judged raw) := by
  have hlongest : longestScheme = 8 := by decide
  unfold normalize
  dsimp only
  rw [← judged, String.utf8ByteSize_ofList, hlongest, ← isHttpUrl_iff]
  by_cases hempty : judged raw = []
  · simp [hempty]
  · cases hscheme : isHttpUrl (String.ofList (judged raw)) with
    | false => simp [hempty]
    | true =>
      by_cases hshort : String.utf8Len (judged raw) ≤ 8
      · simp [hempty, hshort, Nat.not_lt.mpr hshort]
      · have hlong := Nat.lt_of_not_le hshort
        simp only [String.isEmpty_iff, String.ofList_eq_empty_iff, hempty, Bool.not_true,
          Bool.false_eq_true, hshort, hlong, ↓reduceIte, Except.ok.injEq, and_true]
        exact eq_comm

-- ---------------------------------------------------------------------------
-- Right and wrong judgements
-- ---------------------------------------------------------------------------

theorem hasHost_iff : HasHost cs ↔ ∃ scheme ∈ schemes, ∃ c rest, cs = scheme ++ c :: rest ∧
    endsHost c = false := by
  simp only [HasHost, takeWhile_host_ne_nil]
  constructor
  · rintro ⟨scheme, hs, _, hcs, c, rest, rfl, hc⟩
    exact ⟨scheme, hs, c, rest, hcs, hc⟩
  · rintro ⟨scheme, hs, c, rest, hcs, hc⟩
    exact ⟨scheme, hs, _, hcs, c, rest, rfl, hc⟩

/-- An address that is accepted is a scheme and more. -/
theorem exists_cons_of_normalize (h : normalize raw = .ok url) :
    ∃ scheme ∈ schemes, ∃ c rest, judged raw = scheme ++ c :: rest := by
  obtain ⟨-, ⟨scheme, hs, rest, hjudged⟩, hlong⟩ := normalize_eq_ok.mp h
  cases rest with
  | nil =>
    rw [hjudged, List.append_nil] at hlong
    rcases utf8Len_scheme hs with ⟨-, hlen⟩ | hlen <;> omega
  | cons c rest => exact ⟨scheme, hs, c, rest, hjudged⟩

theorem head_normalized (hs : scheme ∈ schemes) (h : judged raw = scheme ++ rest) :
    ∀ c ∈ (String.ofList (judged raw)).toList.head?, isBlank c = false := by
  rw [String.toList_ofList, h]
  simp only [schemes, List.mem_cons, List.not_mem_nil, or_false] at hs
  rcases hs with rfl | rfl <;> rintro _ ⟨⟩ <;> decide

theorem last_of_noSlip (hslip : ¬Slip raw) (h : normalize raw = .ok url) :
    ∀ c ∈ (judged raw).getLast?, isBlank c = false := by
  obtain ⟨scheme, hs, d, rest, hjudged⟩ := exists_cons_of_normalize h
  obtain ⟨-, -, hlong⟩ := normalize_eq_ok.mp h
  intro c hc
  cases hblank : isBlank c with
  | false => rfl
  | true =>
    rw [hjudged, List.getLast?_append_of_ne_nil _ (List.cons_ne_nil d rest)] at hc
    obtain ⟨more, hmore⟩ := List.getLast?_eq_some_iff.mp hc
    exact absurd (.blankEnd scheme more c hs (hmore ▸ hjudged) hblank hlong) hslip

/-- A host is long enough with its scheme, unless it is the one octet that is missed. -/
theorem accepted_of_hasHost (hslip : ¬Slip raw) (h : HasHost (bare raw)) :
    ∃ url, normalize raw = .ok url := by
  obtain ⟨scheme, hs, c, rest, hbare, hc⟩ := hasHost_iff.mp h
  obtain ⟨tail, hjudged, -⟩ := exists_eq_dropEndWhile_append isEnding (judged raw)
  rw [← bare_eq, hbare, List.append_assoc, List.cons_append] at hjudged
  refine ⟨_, normalize_eq_ok.mpr ⟨rfl, ⟨scheme, hs, _, hjudged⟩, ?_⟩⟩
  have hpos := c.utf8Size_pos
  rw [hjudged, String.utf8Len_append, String.utf8Len_cons]
  rcases utf8Len_scheme hs with ⟨rfl, hlen⟩ | hlen
  · cases hmore : rest ++ tail with
    | cons d more =>
      have hpos' := d.utf8Size_pos
      rw [String.utf8Len_cons]
      omega
    | nil =>
      obtain ⟨rfl, rfl⟩ := List.append_eq_nil_iff.mp hmore
      have hblank : isBlank c = false := last_bare raw c (by simp [hbare])
      have hsize : c.utf8Size ≠ 1 := fun hone => hslip (.shortHost c hjudged hone hc hblank)
      rw [String.utf8Len_nil]
      omega
  · omega

theorem not_isNormalized_of_slip (hslip : Slip raw) : ¬IsNormalized raw := by
  intro h
  cases hslip with
  | shortHost c hjudged hsize hc hblank =>
    have hlast : ∀ d ∈ (judged raw).getLast?, isBlank d = false := by simpa [hjudged] using hblank
    have hhost : HasHost (bare raw) := by
      rw [bare_eq_judged hlast, hjudged]
      exact hasHost_iff.mpr ⟨_, by simp [schemes], c, [], rfl, hc⟩
    obtain ⟨url, hurl⟩ := h.accepted.mpr hhost
    obtain ⟨-, -, hlong⟩ := normalize_eq_ok.mp hurl
    have hlen : String.utf8Len "http://".toList = 7 := by decide
    rw [hjudged, String.utf8Len_append, String.utf8Len_cons, String.utf8Len_nil, hsize,
      hlen] at hlong
    omega
  | noHost scheme c rest hs hjudged hc hlong =>
    have haccepted := normalize_eq_ok.mpr ⟨rfl, ⟨scheme, hs, _, hjudged⟩, hlong⟩
    obtain ⟨scheme', hs', c', rest', hbare, hc'⟩ := hasHost_iff.mp (h.accepted.mp ⟨_, haccepted⟩)
    obtain ⟨tail, htail, -⟩ := exists_eq_dropEndWhile_append isEnding (judged raw)
    rw [← bare_eq, hbare, hjudged, List.append_assoc] at htail
    obtain ⟨-, hrest⟩ := scheme_unique hs hs' htail
    obtain ⟨rfl, -⟩ := List.cons.inj hrest
    rw [hc] at hc'
    cases hc'
  | blankEnd scheme rest c hs hjudged hblank hlong =>
    have haccepted := normalize_eq_ok.mpr ⟨rfl, ⟨scheme, hs, _, hjudged⟩, hlong⟩
    have hlast : c ∈ (String.ofList (judged raw)).toList.getLast? := by
      rw [String.toList_ofList, hjudged, ← List.append_assoc, List.getLast?_concat]
      rfl
    rw [(h.last _ haccepted c hlast).1] at hblank
    cases hblank

theorem isNormalized_of_noSlip (hslip : ¬Slip raw) : IsNormalized raw where
  accepted := by
    refine ⟨fun ⟨url, hurl⟩ => ?_, accepted_of_hasHost hslip⟩
    obtain ⟨scheme, hs, c, rest, hjudged⟩ := exists_cons_of_normalize hurl
    obtain ⟨-, -, hlong⟩ := normalize_eq_ok.mp hurl
    rw [bare_eq_judged (last_of_noSlip hslip hurl), hasHost_iff]
    refine ⟨scheme, hs, c, rest, hjudged, ?_⟩
    cases hc : endsHost c with
    | false => rfl
    | true => exact absurd (.noHost scheme c rest hs hjudged hc hlong) hslip
  head := by
    intro url hurl
    obtain ⟨rfl, ⟨scheme, hs, rest, hjudged⟩, -⟩ := normalize_eq_ok.mp hurl
    exact head_normalized hs hjudged
  last := by
    intro url hurl c hc
    obtain ⟨rfl, -⟩ := normalize_eq_ok.mp hurl
    rw [String.toList_ofList] at hc
    exact ⟨last_of_noSlip hslip hurl c hc, last_judged raw c hc⟩
  again := by
    intro url hurl
    obtain ⟨rfl, ⟨scheme, hs, rest, hjudged⟩, hlong⟩ := normalize_eq_ok.mp hurl
    have hself : judged (String.ofList (judged raw)) = judged raw := by
      have htrim : trim (judged raw) = judged raw :=
        trim_eq_self (by simpa using head_normalized hs hjudged) (last_of_noSlip hslip hurl)
      rw [judged, String.toList_ofList, htrim]
      exact dropEndWhile_eq_self fun c hc => by simpa using last_judged raw c hc
    rw [normalize_eq_ok, hself]
    exact ⟨rfl, ⟨scheme, hs, rest, hjudged⟩, hlong⟩

/-- What is accepted is a scheme with more than eight octets in all. That is right just where none
of the three slips is made. -/
theorem normalized_iff_noSlip (raw : String) :
    (∀ url, normalize raw = .ok url ↔ url = String.ofList (judged raw) ∧
      (∃ scheme ∈ schemes, ∃ rest, judged raw = scheme ++ rest) ∧
      8 < String.utf8Len (judged raw)) ∧
    (IsNormalized raw ↔ ¬Slip raw) :=
  ⟨fun _ => normalize_eq_ok, fun h hslip => not_isNormalized_of_slip hslip h,
    isNormalized_of_noSlip⟩

/-- A host of one letter is refused, a query is taken for a host, and a blank stays at the end. -/
theorem slips_made :
    (HasHost (bare "http://a") ∧ normalize "http://a" = .error .noHost) ∧
    (¬HasHost (bare "https://?q") ∧ normalize "https://?q" = .ok "https://?q") ∧
    normalize "https://a /" = .ok "https://a " ∧ normalize "https://a " = .ok "https://a" ∧
    ¬IsNormalized "http://a" ∧ ¬IsNormalized "https://?q" ∧ ¬IsNormalized "https://a /" := by
  have hshort : Slip "http://a" := .shortHost 'a' (by decide) (by decide) rfl (by decide)
  have hnone : Slip "https://?q" :=
    .noHost "https://".toList '?' ['q'] (by simp [schemes]) (by decide) rfl (by decide)
  have hblank : Slip "https://a /" :=
    .blankEnd "https://".toList ['a'] ' ' (by simp [schemes]) (by decide) (by decide) (by decide)
  refine ⟨⟨?_, by decide +kernel⟩, ⟨?_, by decide +kernel⟩, by decide +kernel, by decide +kernel,
    not_isNormalized_of_slip hshort, not_isNormalized_of_slip hnone,
    not_isNormalized_of_slip hblank⟩
  · exact hasHost_iff.mpr ⟨"http://".toList, by simp [schemes], 'a', [], by decide, rfl⟩
  · rw [hasHost_iff]
    rintro ⟨scheme, hs, c, rest, hcs, hc⟩
    have hbare : bare "https://?q" = "https://".toList ++ ['?', 'q'] := by decide
    rw [hbare] at hcs
    obtain ⟨-, hrest⟩ := scheme_unique (by simp [schemes]) hs hcs
    cases hrest
    cases hc

end RemoteNotes.BaseUrl
