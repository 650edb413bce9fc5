import Mathlib.Data.List.Basic
import RemoteNotes.Proofs.Names
import RemoteNotes.Proofs.Results

/-!
# The texts of a name

A name has two spellings, its text and its id, and either may stand among blanks
(`parse_eq_ok`). The strict reader knows the text alone (`parseStrict_eq_ok`). What the text of a
name starts with ends in a slash, and no id holds one, so that no id is taken for a text
(`dropLead?_id`).
-/

namespace RemoteNotes

theorem Text.dropLead?_eq_some {lead s rest : String} :
    dropLead? lead s = some rest ↔ s = lead ++ rest := by
  constructor
  · intro h
    obtain ⟨cs, hcs, rfl⟩ := Option.map_eq_some_iff.mp h
    apply String.toList_injective
    simp [← List.isPrefixOf?_eq_some_iff_append_eq.mp hcs]
  · rintro rfl
    exact dropLead?_append lead rest

/-- The id that a text spells: it is the text without the blanks around it, or what follows the
start that the names of the kind have. -/
structure IsSpelling (kind : ResourceKind) (raw id : String) : Prop where
  id_ne : id ≠ ""
  id_plain : ∀ c ∈ id.toList, c ≠ '/' ∧ Text.isBlank c = false
  trimmed : Text.trimmed raw = id ∨ Text.trimmed raw = kind.lead ++ id

namespace ResourceName

variable {kind : ResourceKind} {n : ResourceName kind} {raw id : String}

theorem ofId_eq_ok : ofId id = .ok n ↔ n.id = id := by
  constructor
  · intro h
    unfold ofId at h
    split at h
    · cases h
      rfl
    · split at h <;> cases h
  · rintro rfl
    exact ofId_id n

/-- No id starts as the texts of names do. -/
theorem dropLead?_id (n : ResourceName kind) : Text.dropLead? kind.lead n.id = none := by
  apply Option.eq_none_iff_forall_ne_some.mpr
  intro rest h
  have hslash : '/' ∈ n.id.toList := by
    simp [Text.dropLead?_eq_some.mp h, ResourceKind.lead]
  exact (((isId_iff n.id).mp n.isId).2 '/' hslash).1 rfl

-- ---------------------------------------------------------------------------
-- What is read
-- ---------------------------------------------------------------------------

theorem parseStrict_eq_ok : parseStrict raw = .ok n ↔ raw = n.text := by
  constructor
  · intro h
    unfold parseStrict at h
    split at h
    · cases h
    · next hdrop =>
      rw [Text.dropLead?_eq_some.mp hdrop, ← ofId_eq_ok.mp h, text]
  · rintro rfl
    exact parseStrict_text n

theorem parseMessage_eq_ok :
    parseMessage raw = .ok n ↔ Text.trimmed raw = n.id ∨ Text.trimmed raw = n.text := by
  simp only [parseMessage, ofId_eq_ok]
  constructor
  · intro h
    cases hdrop : Text.dropLead? kind.lead (Text.trimmed raw) with
    | none => simp [h, hdrop]
    | some id =>
      have hid : n.id = id := by simpa [hdrop] using h
      exact .inr (by simp [Text.dropLead?_eq_some.mp hdrop, text, hid])
  · rintro (h | h)
    · simp [h, dropLead?_id]
    · simp [h, text, Text.dropLead?_append]

theorem parse_eq_ok :
    parse raw = .ok n ↔ Text.trimmed raw = n.id ∨ Text.trimmed raw = n.text :=
  mapError_eq_ok.trans parseMessage_eq_ok

theorem parse_eq_ok_iff_isSpelling : parse raw = .ok n ↔ IsSpelling kind raw n.id := by
  obtain ⟨hne, hplain⟩ := (isId_iff n.id).mp n.isId
  rw [parse_eq_ok]
  exact ⟨fun h => ⟨hne, hplain, h⟩, fun h => h.trimmed⟩

theorem exists_id_of_isSpelling (h : IsSpelling kind raw id) :
    ∃ n : ResourceName kind, n.id = id :=
  ⟨⟨id, (isId_iff id).mpr ⟨h.id_ne, h.id_plain⟩⟩, rfl⟩

theorem parse_id (n : ResourceName kind) : parse n.id = .ok n :=
  parse_eq_ok.mpr (.inl (Text.trimmed_of_noBlanks n.isBlank_of_mem_id))

/-- A text is read as a name just if it spells the id of the name, and every name is read from its
text and from its id. What the strict reader takes are the texts of names. -/
theorem names_canonical (kind : ResourceKind) (raw : String) :
    ((∃ n : ResourceName kind, parse raw = .ok n) ↔ ∃ id, IsSpelling kind raw id) ∧
    ∀ n : ResourceName kind,
      (parse raw = .ok n ↔ ∃ id, IsSpelling kind raw id ∧ n.text = kind.lead ++ id ∧ n.id = id) ∧
      Text.dropLead? kind.lead n.text = some n.id ∧
      parse n.text = .ok n ∧ parse n.id = .ok n ∧ parseStrict n.text = .ok n ∧
      (parseStrict raw = .ok n ↔ raw = n.text) ∧ (parseStrict raw = .ok n → parse raw = .ok n) := by
  refine ⟨⟨?_, ?_⟩, fun n => ⟨⟨?_, ?_⟩, ?_, n.parse_text, n.parse_id, n.parseStrict_text,
    parseStrict_eq_ok, ?_⟩⟩
  · rintro ⟨n, h⟩
    exact ⟨n.id, parse_eq_ok_iff_isSpelling.mp h⟩
  · rintro ⟨id, h⟩
    obtain ⟨n, rfl⟩ := exists_id_of_isSpelling h
    exact ⟨n, parse_eq_ok_iff_isSpelling.mpr h⟩
  · intro h
    exact ⟨n.id, parse_eq_ok_iff_isSpelling.mp h, rfl, rfl⟩
  · rintro ⟨id, h, -, rfl⟩
    exact parse_eq_ok_iff_isSpelling.mpr h
  · exact Text.dropLead?_append kind.lead n.id
  · intro h
    rw [parseStrict_eq_ok.mp h]
    exact n.parse_text

/-- The full text of a name, and its id between two kinds of blanks. -/
theorem name_of_two_spellings :
    ∃ n : AttachmentName, n.id = "ü-1" ∧ parseStrict "attachments/ü-1" = .ok n ∧
      parse "attachments/ü-1" = .ok n ∧ parse "\t\u3000ü-1\n" = .ok n := by
  obtain ⟨hne, hplain⟩ := (isId_iff "ü-1").mp (by decide +kernel)
  have hspells : IsSpelling .attachment "\t\u3000ü-1\n" "ü-1" :=
    ⟨hne, hplain, .inl (by decide +kernel)⟩
  obtain ⟨n, hid⟩ := exists_id_of_isSpelling hspells
  have hfull : "attachments/ü-1" = n.text := by rw [text, hid]; rfl
  obtain ⟨-, -, -, -, -, hstrict, hparse⟩ := (names_canonical .attachment "attachments/ü-1").2 n
  obtain ⟨hbare, -⟩ := (names_canonical .attachment "\t\u3000ü-1\n").2 n
  exact ⟨n, hid, hstrict.mpr hfull, hparse (hstrict.mpr hfull),
    hbare.mpr ⟨"ü-1", hspells, hfull.symm, hid⟩⟩

end ResourceName

end RemoteNotes
