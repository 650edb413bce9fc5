import RemoteNotes.Proofs.Trimming
import RemoteNotes.Tag

/-!
# Tags and their sets

What a tag is: `validate` gives tags only, and gives a tag back as it is
(`validate_eq_ok`, `validate_self`). A set of tags is made again from its list
(`TagSet.ofList_toList`).
-/

namespace RemoteNotes

namespace Tag

/-- A text that is a tag as it stands. -/
def IsTag (t : String) : Prop := t ≠ "" ∧ ∀ c ∈ t.toList, isTagChar c = true

def dropHash : List Char → List Char
  | '#' :: cs => cs
  | cs => cs

theorem validate_eq (raw : String) :
    validate raw =
      if (dropHash (Text.trim raw.toList)).isEmpty then .error "tag must not be empty"
      else if (dropHash (Text.trim raw.toList)).all isTagChar then
        .ok (String.ofList (dropHash (Text.trim raw.toList)))
      else .error ("tag '" ++ String.ofList (dropHash (Text.trim raw.toList)) ++
        "' must not contain whitespace or '#'") := rfl

theorem validate_eq_ok_iff {raw t : String} :
    validate raw = .ok t ↔ IsTag t ∧ dropHash (Text.trim raw.toList) = t.toList := by
  rw [validate_eq]
  generalize dropHash (Text.trim raw.toList) = cs
  constructor
  · intro h
    split at h
    · contradiction
    · next hne =>
      split at h
      · next hall =>
        cases h
        exact ⟨⟨by simpa using hne, by simpa using hall⟩, by simp⟩
      · contradiction
  · rintro ⟨⟨hne, hall⟩, rfl⟩
    have hempty : t.toList.isEmpty = false := by simpa using hne
    have hchars : t.toList.all isTagChar = true := List.all_eq_true.mpr hall
    simp [hempty, hchars]

theorem validate_eq_ok {raw t : String} (h : validate raw = .ok t) : IsTag t :=
  (validate_eq_ok_iff.mp h).1

theorem IsTag.char {t : String} (h : IsTag t) {c : Char} (hc : c ∈ t.toList) :
    Text.isBlank c = false ∧ c ≠ '#' := by
  simpa [isTagChar] using h.2 c hc

theorem validate_self {t : String} (h : IsTag t) : validate t = .ok t := by
  have hdrop : dropHash t.toList = t.toList := by
    unfold dropHash
    split
    · next rest heq => exact absurd rfl (h.char (heq ▸ List.mem_cons_self)).2
    · rfl
  refine validate_eq_ok_iff.mpr ⟨h, ?_⟩
  rw [Text.trim_of_noBlanks fun c hc => (h.char hc).1, hdrop]

theorem validate_idem {raw t : String} (h : validate raw = .ok t) : validate t = .ok t :=
  validate_self (validate_eq_ok h)

end Tag

namespace TagSet

theorem insertAscending_eq_append {s : String} {ts : List String} (h : ∀ t ∈ ts, t < s) :
    insertAscending s ts = ts ++ [s] := by
  induction ts with
  | nil => rfl
  | cons t rest ih =>
    have ht := h t List.mem_cons_self
    have hne : s ≠ t := fun heq => String.lt_irrefl t (heq ▸ ht)
    rw [insertAscending, if_neg hne, if_neg (String.lt_asymm ht),
      ih fun u hu => h u (List.mem_cons_of_mem t hu), List.cons_append]

theorem toList_foldl_insert {ts : List String} {acc : TagSet}
    (h : (acc.toList ++ ts).Pairwise (· < ·)) :
    (ts.foldl (fun acc t => acc.insert t) acc).toList = acc.toList ++ ts := by
  induction ts generalizing acc with
  | nil => exact (List.append_nil _).symm
  | cons t rest ih =>
    have hlast : (acc.insert t).toList = acc.toList ++ [t] :=
      insertAscending_eq_append fun u hu =>
        (List.pairwise_append.mp h).2.2 u hu t List.mem_cons_self
    rw [List.foldl_cons, ih, hlast, List.append_assoc, List.singleton_append]
    rwa [hlast, List.append_assoc, List.singleton_append]

theorem ofList_toList (ts : TagSet) : ofList ts.toList = ts := by
  have hlist : (ofList ts.toList).toList = ts.toList := toList_foldl_insert ts.ascending
  generalize ofList ts.toList = made at hlist
  cases made
  cases ts
  cases hlist
  rfl

theorem mem_foldl_insert {tags : List String} {acc : TagSet} {t : String} :
    t ∈ (tags.foldl (fun acc t => acc.insert t) acc).toList ↔ t ∈ tags ∨ t ∈ acc.toList := by
  induction tags generalizing acc with
  | nil => simp
  | cons s rest ih =>
    rw [List.foldl_cons, ih, mem_insert, List.mem_cons]
    grind

theorem mem_ofList {tags : List String} {t : String} : t ∈ (ofList tags).toList ↔ t ∈ tags := by
  rw [ofList, mem_foldl_insert]
  simp [empty]

end TagSet

end RemoteNotes
