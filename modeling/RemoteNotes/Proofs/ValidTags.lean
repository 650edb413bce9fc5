import RemoteNotes.Proofs.Tagging

/-!
# Tags that are found and tags that are accepted

A hash sign is no character of a tag, so the tags in a text are all the runs of such characters
that stand behind one, each as long as it gets (`mem_occurrences_iff`). What is found in this way
is what is accepted as a tag (`found_iff_accepted`).
-/

namespace RemoteNotes.Tag

variable {t : String} {cs : List Char}

/-- A tag stands in a text behind a hash sign, and the text ends with it or goes on with a
character that no tag can hold. -/
def StandsIn (t : String) (cs : List Char) : Prop :=
  ∃ front rest, cs = front ++ '#' :: (t.toList ++ rest) ∧ ∀ c ∈ rest.head?, isTagChar c = false

theorem StandsIn.append (h : StandsIn t cs) (front : List Char) : StandsIn t (front ++ cs) := by
  obtain ⟨middle, rest, rfl, hrest⟩ := h
  exact ⟨front ++ middle, rest, by simp, hrest⟩

-- ---------------------------------------------------------------------------
-- What is found
-- ---------------------------------------------------------------------------

theorem isTag_takeWhile {cs : List Char} (h : (cs.takeWhile isTagChar).isEmpty ≠ true) :
    IsTag (String.ofList (cs.takeWhile isTagChar)) := by
  refine ⟨by simpa using h, fun c hc => ?_⟩
  rw [String.toList_ofList] at hc
  exact List.mem_takeWhile_imp hc

theorem standsIn_takeWhile (cs : List Char) :
    StandsIn (String.ofList (cs.takeWhile isTagChar)) ('#' :: cs) :=
  ⟨[], cs.dropWhile isTagChar, by simp, Text.head_dropWhile⟩

theorem standsIn_of_mem_occurrences (h : t ∈ occurrences cs) : IsTag t ∧ StandsIn t cs := by
  fun_induction occurrences cs with
  | case1 => cases h
  | case2 cs run hempty ih =>
    obtain ⟨htag, hstands⟩ := ih h
    exact ⟨htag, hstands.append ['#']⟩
  | case3 cs run hrun ih =>
    rcases List.mem_cons.mp h with rfl | h
    · exact ⟨isTag_takeWhile hrun, standsIn_takeWhile cs⟩
    · obtain ⟨htag, hstands⟩ := ih h
      have hsplit : '#' :: cs = ('#' :: run) ++ cs.dropWhile isTagChar := by simp [run]
      exact ⟨htag, hsplit ▸ hstands.append ('#' :: run)⟩
  | case4 c cs hc ih =>
    obtain ⟨htag, hstands⟩ := ih h
    exact ⟨htag, hstands.append [c]⟩

/-- No tag goes on behind a hash sign, so what stands in front of one hides no tag behind it. -/
theorem mem_occurrences_iff : t ∈ occurrences cs ↔ IsTag t ∧ StandsIn t cs := by
  refine ⟨standsIn_of_mem_occurrences, ?_⟩
  rintro ⟨htag, front, rest, rfl, hrest⟩
  simp [occurrences_append_cons (show isTagChar '#' = false by decide), occurrences_tag htag hrest]

-- ---------------------------------------------------------------------------
-- What is accepted
-- ---------------------------------------------------------------------------

theorem validate_hash (h : IsTag t) : validate ("#" ++ t) = .ok t := by
  have hchars : ∀ c ∈ '#' :: t.toList, Text.isBlank c = false := by
    simp only [List.forall_mem_cons]
    exact ⟨by decide, fun c hc => (h.char hc).1⟩
  refine validate_eq_ok_iff.mpr ⟨h, ?_⟩
  simp [Text.trim_of_noBlanks hchars, dropHash]

/-- The tags that are found in a text are those that are accepted as they are and stand in it. What
is accepted is a tag that is found behind a hash sign, alone, and accepted with the sign or without. -/
theorem found_iff_accepted :
    (∀ text t, t ∈ (extract text).toList ↔ validate t = .ok t ∧ StandsIn t text.toList) ∧
    ∀ raw t, validate raw = .ok t → validate t = .ok t ∧ validate ("#" ++ t) = .ok t ∧
      (extract ("#" ++ t)).toList = [t] := by
  constructor
  · intro text t
    have htag : validate t = .ok t ↔ IsTag t := ⟨validate_eq_ok, validate_self⟩
    rw [mem_extract, mem_occurrences_iff, htag]
  · intro raw t h
    have htag := validate_eq_ok h
    refine ⟨validate_self htag, validate_hash htag, ?_⟩
    have hset : extract ("#" ++ t) = TagSet.ofList [t] := by
      simp [extract, occurrences_hash_tag htag]
    rw [hset]
    rfl

/-- Two hash signs in a row, a blank that is not of ASCII, and a tag that is asked for with a hash
sign among blanks. -/
theorem found_and_accepted_once :
    "ünï-1" ∈ (extract "a##ünï-1\u2003#").toList ∧ validate " #ünï-1\n" = .ok "ünï-1" ∧
      validate "ünï-1" = .ok "ünï-1" ∧ validate "#ünï-1" = .ok "ünï-1" ∧
      (extract "#ünï-1").toList = ["ünï-1"] := by
  have haccepted : validate " #ünï-1\n" = .ok "ünï-1" := by decide +kernel
  obtain ⟨hself, hhash, hset⟩ := found_iff_accepted.2 _ _ haccepted
  have hstands : StandsIn "ünï-1" "a##ünï-1\u2003#".toList :=
    ⟨['a', '#'], ['\u2003', '#'], by decide, by simp; decide⟩
  exact ⟨(found_iff_accepted.1 _ _).mpr ⟨hself, hstands⟩, haccepted, hself, hhash, hset⟩

end RemoteNotes.Tag
