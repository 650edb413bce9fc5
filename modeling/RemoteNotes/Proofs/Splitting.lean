import RemoteNotes.Proofs.Trimming

/-!
# Texts cut at a character

What a text comes to when it is split at every occurrence of a character, and when it is cut at
the first one (`cut?_eq_some`).
-/

namespace RemoteNotes.Text

theorem splitOn_append_cons (sep : Char) (cs rest : List Char) :
    splitOn sep (cs ++ sep :: rest) = splitOn sep cs ++ splitOn sep rest := by
  induction cs with
  | nil => exact if_pos rfl
  | cons c cs ih =>
    rw [List.cons_append, splitOn, splitOn]
    split
    · rw [ih, List.cons_append]
    · rw [ih]
      cases h : splitOn sep cs with
      | nil => exact absurd h (splitOn_ne_nil sep cs)
      | cons piece pieces => rfl

theorem splitOn_of_not_mem {sep : Char} {cs : List Char} (h : sep ∉ cs) :
    splitOn sep cs = [cs] := by
  induction cs with
  | nil => rfl
  | cons c cs ih =>
    have hc : c ≠ sep := fun heq => h (heq ▸ List.mem_cons_self)
    rw [splitOn, if_neg hc, ih fun hmem => h (List.mem_cons_of_mem c hmem)]

theorem piece_of_mem_splitOn {sep : Char} {cs piece : List Char} (h : piece ∈ splitOn sep cs) :
    piece.Sublist cs ∧ sep ∉ piece := by
  induction cs generalizing piece with
  | nil =>
    cases List.mem_singleton.mp h
    exact ⟨List.Sublist.refl _, List.not_mem_nil⟩
  | cons c cs ih =>
    unfold splitOn at h
    split at h
    · rcases List.mem_cons.mp h with rfl | h
      · exact ⟨List.nil_sublist _, List.not_mem_nil⟩
      · exact ⟨(ih h).1.cons c, (ih h).2⟩
    · next hc =>
      split at h
      · next hnil => exact absurd hnil (splitOn_ne_nil sep cs)
      · next first pieces hsplit =>
        rw [hsplit] at ih
        rcases List.mem_cons.mp h with rfl | h
        · obtain ⟨hsub, hnot⟩ := ih List.mem_cons_self
          refine ⟨hsub.cons_cons c, fun hmem => ?_⟩
          rcases List.mem_cons.mp hmem with rfl | hmem
          · exact hc rfl
          · exact hnot hmem
        · obtain ⟨hsub, hnot⟩ := ih (List.mem_cons_of_mem first h)
          exact ⟨hsub.cons c, hnot⟩

/-- The first piece ends at the first separator. -/
theorem splitOn_of_mem {sep : Char} {cs : List Char} (h : sep ∈ cs) :
    ∃ piece rest, cs = piece ++ sep :: rest ∧ sep ∉ piece ∧
      splitOn sep cs = piece :: splitOn sep rest := by
  obtain ⟨piece, rest, rfl, hpiece⟩ := List.eq_append_cons_of_mem h
  refine ⟨piece, rest, rfl, hpiece, ?_⟩
  rw [splitOn_append_cons, splitOn_of_not_mem hpiece, List.singleton_append]

theorem splitOn_eq_singleton_iff {sep : Char} {cs piece : List Char} :
    splitOn sep cs = [piece] ↔ sep ∉ piece ∧ cs = piece := by
  constructor
  · intro h
    by_cases hmem : sep ∈ cs
    · obtain ⟨first, rest, -, -, hsplit⟩ := splitOn_of_mem hmem
      exact absurd (List.cons.inj (hsplit.symm.trans h)).2 (splitOn_ne_nil sep rest)
    · rw [splitOn_of_not_mem hmem] at h
      obtain rfl := List.head_eq_of_cons_eq h
      exact ⟨hmem, rfl⟩
  · rintro ⟨hmem, rfl⟩
    exact splitOn_of_not_mem hmem

theorem splitOn_eq_cons_cons_iff {sep : Char} {cs piece next : List Char}
    {pieces : List (List Char)} :
    splitOn sep cs = piece :: next :: pieces ↔
      sep ∉ piece ∧ ∃ rest, cs = piece ++ sep :: rest ∧ splitOn sep rest = next :: pieces := by
  constructor
  · intro h
    by_cases hmem : sep ∈ cs
    · obtain ⟨first, rest, hcs, hfirst, hsplit⟩ := splitOn_of_mem hmem
      obtain ⟨rfl, hrest⟩ := List.cons.inj (hsplit.symm.trans h)
      exact ⟨hfirst, rest, hcs, hrest⟩
    · rw [splitOn_of_not_mem hmem] at h
      cases h
  · rintro ⟨hmem, rest, rfl, hrest⟩
    rw [splitOn_append_cons, splitOn_of_not_mem hmem, hrest, List.singleton_append]

theorem cut?_append {mark : Char} {cs : List Char} (h : mark ∉ cs) (rest : List Char) :
    cut? mark (cs ++ rest) =
      (cut? mark rest).map fun (before, after) => (cs ++ before, after) := by
  induction cs with
  | nil => cases hcut : cut? mark rest <;> simp [hcut]
  | cons c cs ih =>
    have hc : c ≠ mark := fun heq => h (heq ▸ List.mem_cons_self)
    rw [List.cons_append, cut?, if_neg hc,
      ih fun hmem => h (List.mem_cons_of_mem c hmem), Option.map_map]
    rfl

theorem cut?_eq_none {mark : Char} {cs : List Char} : cut? mark cs = none ↔ mark ∉ cs := by
  induction cs with
  | nil => simp [cut?]
  | cons c cs ih =>
    rw [cut?]
    split
    · next hc => simp [hc]
    · next hc =>
      rw [Option.map_eq_none_iff, ih, List.mem_cons, not_or]
      exact ⟨fun h => ⟨fun heq => hc heq.symm, h⟩, And.right⟩

theorem cut?_eq_some {mark : Char} {cs before after : List Char} :
    cut? mark cs = some (before, after) ↔ cs = before ++ mark :: after ∧ mark ∉ before := by
  constructor
  · intro h
    have hmem : mark ∈ cs := by
      by_contra hnot
      simp [cut?_eq_none.mpr hnot] at h
    obtain ⟨front, rest, rfl, hfront⟩ := List.eq_append_cons_of_mem hmem
    simp only [cut?_append hfront, cut?, ↓reduceIte, Option.map_some, List.append_nil,
      Option.some.injEq, Prod.mk.injEq] at h
    obtain ⟨rfl, rfl⟩ := h
    exact ⟨rfl, hfront⟩
  · rintro ⟨rfl, hmark⟩
    simp [cut?_append hmark, cut?]

/-- What is left before a mark are the blanks behind it, and the other way round. -/
theorem cut?_trim {mark : Char} (hmark : isBlank mark = false) (cs : List Char) :
    cut? mark (trim cs) =
      (cut? mark cs).map fun (before, after) => (trimStart before, trimEnd after) := by
  cases hcut : cut? mark cs with
  | none =>
    refine cut?_eq_none.mpr fun hmem => cut?_eq_none.mp hcut ?_
    exact (List.dropWhile_sublist isBlank).subset (mem_of_mem_dropEndWhile hmem)
  | some pair =>
    obtain ⟨rfl, hnot⟩ := cut?_eq_some.mp hcut
    rw [trim_append_cons hmark]
    exact cut?_eq_some.mpr ⟨rfl, fun hmem => hnot ((List.dropWhile_sublist isBlank).subset hmem)⟩

/-- The text before the first separator, or all of it. -/
theorem takeWhile_ne_eq_iff {sep : Char} {cs piece : List Char} :
    cs.takeWhile (· != sep) = piece ↔
      sep ∉ piece ∧ ∃ rest, cs = piece ++ rest ∧ ∀ c ∈ rest.head?, c = sep := by
  constructor
  · rintro rfl
    refine ⟨fun hmem => ?_, cs.dropWhile (· != sep), List.takeWhile_append_dropWhile.symm, ?_⟩
    · simpa using List.mem_takeWhile_imp hmem
    · intro c hc
      simpa using head_dropWhile c hc
  · rintro ⟨hnot, rest, rfl, hrest⟩
    have hpiece : ∀ c ∈ piece, (c != sep) = true := by
      intro c hc
      simpa using fun heq : c = sep => hnot (heq ▸ hc)
    rw [List.takeWhile_append_of_pos hpiece]
    cases rest with
    | nil => simp
    | cons c rest => simp [hrest c rfl]

end RemoteNotes.Text
