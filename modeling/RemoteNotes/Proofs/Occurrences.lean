import RemoteNotes.Memo.Tagging
import RemoteNotes.Proofs.Tags

/-!
# Tags in texts that are put together

Where a text goes on with a character that no tag can hold, the tags before and behind it stay as
they are (`occurrences_append_cons`). So a line of tags behind a content adds these tags and
changes none (`occurrences_append`).
-/

namespace RemoteNotes

namespace Text

/-- A text is what is left of it when it is trimmed, and blanks. -/
theorem exists_trimEnd_append (cs : List Char) :
    ∃ blanks, cs = trimEnd cs ++ blanks ∧ ∀ c ∈ blanks, isBlank c = true := by
  refine ⟨(cs.reverse.takeWhile isBlank).reverse, ?_, fun c hc => ?_⟩
  · rw [trimEnd, dropEndWhile, ← List.reverse_append, List.takeWhile_append_dropWhile,
      List.reverse_reverse]
  · exact List.all_eq_true.mp List.all_takeWhile c (List.mem_reverse.mp hc)

end Text

namespace Tag

theorem isTagChar_of_isBlank {c : Char} (h : Text.isBlank c = true) : isTagChar c = false := by
  simp [isTagChar, h]

-- ---------------------------------------------------------------------------
-- One step through a text
-- ---------------------------------------------------------------------------

/-- A run of characters behind a hash sign is a tag unless it is empty. -/
def ofRun (run : List Char) : List String := if run.isEmpty then [] else [String.ofList run]

theorem occurrences_nil : occurrences [] = [] := by rw [occurrences]

theorem occurrences_hash (cs : List Char) :
    occurrences ('#' :: cs) =
      ofRun (cs.takeWhile isTagChar) ++ occurrences (cs.dropWhile isTagChar) := by
  rw [occurrences, ofRun]
  split
  · next hempty =>
    have hrun : cs.takeWhile isTagChar = [] := List.isEmpty_iff.mp hempty
    have hdrop : cs.dropWhile isTagChar = cs := by
      have hall := List.takeWhile_append_dropWhile (p := isTagChar) (l := cs)
      rwa [hrun, List.nil_append] at hall
    rw [hdrop, List.nil_append]
  · rfl

theorem occurrences_cons_of_ne {c : Char} (hc : c ≠ '#') (cs : List Char) :
    occurrences (c :: cs) = occurrences cs := by
  rw [occurrences]
  exact fun h => hc h

theorem occurrences_of_blank {cs : List Char} (h : ∀ c ∈ cs, Text.isBlank c = true) :
    occurrences cs = [] := by
  induction cs with
  | nil => exact occurrences_nil
  | cons c cs ih =>
    have hc : c ≠ '#' := by
      rintro rfl
      exact absurd (h '#' List.mem_cons_self) (by decide)
    rw [occurrences_cons_of_ne hc, ih fun d hd => h d (List.mem_cons_of_mem c hd)]

-- ---------------------------------------------------------------------------
-- Texts that are put together
-- ---------------------------------------------------------------------------

/-- No tag goes on behind a character that no tag can hold. -/
theorem occurrences_append_cons {c : Char} (hc : isTagChar c = false) (cs rest : List Char) :
    occurrences (cs ++ c :: rest) = occurrences cs ++ occurrences (c :: rest) := by
  cases cs with
  | nil => rw [occurrences_nil, List.nil_append, List.nil_append]
  | cons d cs =>
    by_cases hd : d = '#'
    · subst hd
      rw [List.cons_append, occurrences_hash, occurrences_hash, Text.takeWhile_append_cons hc,
        Text.dropWhile_append_cons hc, occurrences_append_cons hc, List.append_assoc]
    · rw [List.cons_append, occurrences_cons_of_ne hd, occurrences_cons_of_ne hd,
        occurrences_append_cons hc]
termination_by cs.length
decreasing_by
  · have hlength := (List.dropWhile_suffix isTagChar (l := cs)).length_le
    simp only [List.length_cons]
    omega
  · simp

theorem occurrences_blank_cons {c : Char} (hc : Text.isBlank c = true) (cs : List Char) :
    occurrences (c :: cs) = occurrences cs := by
  refine occurrences_cons_of_ne ?_ cs
  rintro rfl
  exact absurd hc (by decide)

theorem occurrences_trimEnd (cs : List Char) : occurrences (Text.trimEnd cs) = occurrences cs := by
  obtain ⟨blanks, hcs, hblanks⟩ := Text.exists_trimEnd_append cs
  cases blanks with
  | nil => rw [List.append_nil] at hcs; rw [← hcs]
  | cons c blanks =>
    have hc := isTagChar_of_isBlank (hblanks c List.mem_cons_self)
    calc occurrences (Text.trimEnd cs)
        = occurrences (Text.trimEnd cs) ++ occurrences (c :: blanks) := by
          rw [occurrences_of_blank hblanks, List.append_nil]
      _ = occurrences cs := by rw [← occurrences_append_cons hc, ← hcs]

/-- A tag ends where the text does, or in front of a character that it cannot hold. -/
theorem occurrences_tag {t : String} (ht : IsTag t) {rest : List Char}
    (hrest : ∀ c ∈ rest.head?, isTagChar c = false) :
    occurrences ('#' :: (t.toList ++ rest)) = t :: occurrences rest := by
  have hrun : (t.toList ++ rest).takeWhile isTagChar = t.toList := by
    rw [List.takeWhile_append_of_pos ht.2]
    cases rest with
    | nil => exact List.append_nil _
    | cons c rest => rw [List.takeWhile_cons_of_neg (by simp [hrest c rfl]), List.append_nil]
  have hdrop : (t.toList ++ rest).dropWhile isTagChar = rest := by
    rw [List.dropWhile_append_of_pos ht.2, Text.dropWhile_eq_self hrest]
  have hne : t.toList.isEmpty = false := by simpa using ht.1
  rw [occurrences_hash, hrun, hdrop, ofRun, hne, if_neg Bool.false_ne_true, String.ofList_toList,
    List.singleton_append]

theorem occurrences_hash_tag {t : String} (ht : IsTag t) : occurrences ('#' :: t.toList) = [t] := by
  simpa [occurrences_nil] using @occurrences_tag t ht [] nofun

-- ---------------------------------------------------------------------------
-- Lines of tags
-- ---------------------------------------------------------------------------

theorem toList_line_cons_cons (t u : String) (tags : List String) :
    (line (t :: u :: tags)).toList = '#' :: (t.toList ++ ' ' :: (line (u :: tags)).toList) := by
  simp [line, String.intercalate_cons_cons]

theorem toList_line_singleton (t : String) : (line [t]).toList = '#' :: t.toList := by
  simp [line]

theorem occurrences_line {tags : List String} (h : ∀ t ∈ tags, IsTag t) :
    occurrences (line tags).toList = tags := by
  induction tags with
  | nil => exact occurrences_nil
  | cons t tags ih =>
    have ht := h t List.mem_cons_self
    specialize ih fun u hu => h u (List.mem_cons_of_mem t hu)
    cases tags with
    | nil => rw [toList_line_singleton, occurrences_hash_tag ht]
    | cons u tags =>
      have hblank : ∀ c ∈ (' ' :: (line (u :: tags)).toList).head?, isTagChar c = false := by
        intro c hc
        cases hc
        decide
      rw [toList_line_cons_cons, occurrences_tag ht hblank, occurrences_blank_cons (by decide), ih]

/-- A content with more tags has its own tags first, and then those that it did not hold. -/
theorem occurrences_append {content : String} {tags : List String} (h : ∀ t ∈ tags, IsTag t) :
    occurrences (append content tags).toList =
      occurrences content.toList ++ missing content tags := by
  unfold append
  split
  · next hnone => rw [List.isEmpty_iff.mp hnone, List.append_nil]
  · have hmissing : ∀ t ∈ missing content tags, IsTag t := fun t ht =>
      h t (List.mem_filter.mp ht).1
    have hbreak : ("\n\n" : String).toList = ['\n', '\n'] := rfl
    rw [String.toList_append, String.toList_append, String.toList_ofList, hbreak,
      List.append_assoc, List.cons_append, occurrences_append_cons (by decide),
      occurrences_trimEnd, occurrences_blank_cons (by decide), List.cons_append, List.nil_append,
      occurrences_blank_cons (by decide), occurrences_line hmissing]

end Tag

end RemoteNotes
