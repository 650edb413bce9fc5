import Mathlib.Data.List.TakeWhile
import RemoteNotes.Text.Blank

/-!
# Trimmed texts

Trimming leaves no blank at either end (`head_trim`, `getLast_trim`), and a text without
blanks at its ends as it is (`trim_eq_self`).
-/

namespace RemoteNotes.Text

theorem dropWhile_eq_self {p : Char → Bool} {cs : List Char}
    (h : ∀ c ∈ cs.head?, p c = false) : cs.dropWhile p = cs := by
  cases cs with
  | nil => rfl
  | cons c cs => exact List.dropWhile_cons_of_neg (by simp [h c rfl])

theorem dropEndWhile_eq_self {p : Char → Bool} {cs : List Char}
    (h : ∀ c ∈ cs.getLast?, p c = false) : dropEndWhile p cs = cs := by
  rw [dropEndWhile, dropWhile_eq_self (by rwa [List.head?_reverse]), List.reverse_reverse]

theorem dropWhile_append_cons {p : Char → Bool} {c : Char} (hc : p c = false)
    (cs rest : List Char) : (cs ++ c :: rest).dropWhile p = cs.dropWhile p ++ c :: rest := by
  induction cs with
  | nil => exact List.dropWhile_cons_of_neg (by simp [hc])
  | cons d cs ih =>
    cases hd : p d with
    | true => rw [List.cons_append, List.dropWhile_cons_of_pos hd, ih, List.dropWhile_cons_of_pos hd]
    | false =>
      rw [List.cons_append, List.dropWhile_cons_of_neg (by simp [hd]),
        List.dropWhile_cons_of_neg (by simp [hd]), List.cons_append]

theorem dropEndWhile_append_cons {p : Char → Bool} {c : Char} (hc : p c = false)
    (cs rest : List Char) :
    dropEndWhile p (cs ++ c :: rest) = cs ++ c :: dropEndWhile p rest := by
  rw [dropEndWhile, List.reverse_append, List.reverse_cons, List.append_assoc,
    List.singleton_append, dropWhile_append_cons hc]
  simp [dropEndWhile]

theorem mem_of_mem_dropEndWhile {p : Char → Bool} {cs : List Char} {c : Char}
    (h : c ∈ dropEndWhile p cs) : c ∈ cs :=
  List.mem_reverse.mp ((List.dropWhile_sublist p).subset (List.mem_reverse.mp h))

theorem dropEndWhile_append_of_pos {p : Char → Bool} (cs : List Char) {tail : List Char}
    (h : ∀ c ∈ tail, p c = true) : dropEndWhile p (cs ++ tail) = dropEndWhile p cs := by
  rw [dropEndWhile, List.reverse_append, List.dropWhile_append_of_pos (by simpa using h)]
  rfl

theorem exists_eq_dropEndWhile_append (p : Char → Bool) (cs : List Char) :
    ∃ tail, cs = dropEndWhile p cs ++ tail ∧ ∀ c ∈ tail, p c = true := by
  refine ⟨(cs.reverse.takeWhile p).reverse, ?_, fun c hc => ?_⟩
  · rw [dropEndWhile, ← List.reverse_append, List.takeWhile_append_dropWhile, List.reverse_reverse]
  · exact List.mem_takeWhile_imp (List.mem_reverse.mp hc)

theorem takeWhile_append_cons {p : Char → Bool} {c : Char} (hc : p c = false)
    (cs rest : List Char) : (cs ++ c :: rest).takeWhile p = cs.takeWhile p := by
  induction cs with
  | nil => exact List.takeWhile_cons_of_neg (by simp [hc])
  | cons d cs ih =>
    cases hd : p d with
    | true => rw [List.cons_append, List.takeWhile_cons_of_pos hd, ih, List.takeWhile_cons_of_pos hd]
    | false =>
      rw [List.cons_append, List.takeWhile_cons_of_neg (by simp [hd]),
        List.takeWhile_cons_of_neg (by simp [hd])]

/-- A text without blanks at its two ends is as it is when it is trimmed. -/
theorem trim_eq_self {cs : List Char} (hhead : ∀ c ∈ cs.head?, isBlank c = false)
    (hlast : ∀ c ∈ cs.getLast?, isBlank c = false) : trim cs = cs := by
  rw [trim, trimStart, dropWhile_eq_self hhead, trimEnd, dropEndWhile_eq_self hlast]

theorem trim_of_noBlanks {cs : List Char} (h : ∀ c ∈ cs, isBlank c = false) : trim cs = cs :=
  trim_eq_self (fun c hc => h c (List.mem_of_head? hc)) fun c hc => h c (List.mem_of_getLast? hc)

theorem trimmed_of_noBlanks {s : String} (h : ∀ c ∈ s.toList, isBlank c = false) :
    trimmed s = s := by
  rw [trimmed, trim_of_noBlanks h, String.ofList_toList]

theorem head_dropWhile {p : Char → Bool} {cs : List Char} :
    ∀ c ∈ (cs.dropWhile p).head?, p c = false := by
  induction cs with
  | nil => intro c hc; cases hc
  | cons d cs ih =>
    cases hd : p d with
    | true => rwa [List.dropWhile_cons_of_pos hd]
    | false =>
      rw [List.dropWhile_cons_of_neg (by simp [hd])]
      intro c hc
      cases hc
      exact hd

theorem head_trim (cs : List Char) : ∀ c ∈ (trim cs).head?, isBlank c = false := by
  intro c hc
  have hprefix : trim cs <+: trimStart cs := by
    rw [← List.reverse_suffix, trim, trimEnd, dropEndWhile, List.reverse_reverse]
    exact List.dropWhile_suffix isBlank
  obtain ⟨rest, hrest⟩ := hprefix
  refine head_dropWhile c (?_ : c ∈ (trimStart cs).head?)
  rw [← hrest, List.head?_append, hc]
  rfl

theorem getLast_dropEndWhile {p : Char → Bool} {cs : List Char} :
    ∀ c ∈ (dropEndWhile p cs).getLast?, p c = false := by
  rw [dropEndWhile, List.getLast?_reverse]
  exact head_dropWhile

theorem getLast_trim (cs : List Char) : ∀ c ∈ (trim cs).getLast?, isBlank c = false :=
  getLast_dropEndWhile

theorem trim_trim (cs : List Char) : trim (trim cs) = trim cs :=
  trim_eq_self (head_trim cs) (getLast_trim cs)

theorem trimmed_trimmed (s : String) : trimmed (trimmed s) = trimmed s := by
  rw [trimmed, trimmed, String.toList_ofList, trim_trim]

theorem nonBlank?_eq_some_iff {s t : String} :
    nonBlank? s = some t ↔ t = trimmed s ∧ t ≠ "" := by
  simp only [nonBlank?, Option.ite_none_left_eq_some, Option.some.injEq, String.isEmpty_iff]
  constructor
  · rintro ⟨hne, rfl⟩
    exact ⟨rfl, hne⟩
  · rintro ⟨rfl, hne⟩
    exact ⟨hne, rfl⟩

theorem bind_nonBlank?_eq_some {raw? : Option String} {s : String} :
    raw?.bind nonBlank? = some s ↔ ∃ raw, raw? = some raw ∧ s = trimmed raw ∧ s ≠ "" := by
  simp [Option.bind_eq_some_iff, nonBlank?_eq_some_iff]

theorem nonBlank?_eq_some {s t : String} (h : nonBlank? s = some t) :
    trimmed t = t ∧ t ≠ "" := by
  obtain ⟨rfl, hne⟩ := nonBlank?_eq_some_iff.mp h
  exact ⟨trimmed_trimmed s, hne⟩

theorem nonBlank?_eq_self {s : String} (htrim : trimmed s = s) (hne : s ≠ "") :
    nonBlank? s = some s := by
  have hempty : s.isEmpty = false := by simpa using hne
  simp [nonBlank?, htrim, hempty]

theorem trim_eq_nil_iff {cs : List Char} : trim cs = [] ↔ ∀ c ∈ cs, isBlank c = true := by
  have hsplit := List.takeWhile_append_dropWhile (p := isBlank) (l := cs)
  have hfront : ∀ c ∈ cs.takeWhile isBlank, isBlank c = true := fun _ => List.mem_takeWhile_imp
  rw [← hsplit, List.forall_mem_append, hsplit, and_iff_right hfront]
  simp [trim, trimEnd, dropEndWhile, trimStart, List.dropWhile_eq_nil_iff]

theorem trim_append_cons {c : Char} (hc : isBlank c = false) (cs rest : List Char) :
    trim (cs ++ c :: rest) = trimStart cs ++ c :: trimEnd rest := by
  rw [trim, trimStart, dropWhile_append_cons hc, trimEnd, dropEndWhile_append_cons hc]
  rfl

theorem trim_trimStart (cs : List Char) : trim (trimStart cs) = trim cs := by
  have hstart : trimStart (trimStart cs) = trimStart cs := dropWhile_eq_self head_dropWhile
  rw [trim, trim, hstart]

theorem trim_trimEnd (cs : List Char) : trim (trimEnd cs) = trim cs := by
  by_cases hblank : ∀ c ∈ cs, isBlank c = true
  · have hend : ∀ c ∈ trimEnd cs, isBlank c = true :=
      fun c hc => hblank c (mem_of_mem_dropEndWhile hc)
    simp [trim_eq_nil_iff.mpr hblank, trim_eq_nil_iff.mpr hend]
  · obtain ⟨c, hmem, hc⟩ : ∃ c ∈ cs, isBlank c = false := by simpa using hblank
    obtain ⟨front, rest, rfl⟩ := List.append_of_mem hmem
    have hrest : trimEnd (trimEnd rest) = trimEnd rest := dropEndWhile_eq_self getLast_dropEndWhile
    have hend : trimEnd (front ++ c :: rest) = front ++ c :: trimEnd rest :=
      dropEndWhile_append_cons hc front rest
    rw [hend, trim_append_cons hc, trim_append_cons hc, hrest]

/-- Nothing is left of a text just if all of it is blank. -/
theorem trimmed_eq_empty_iff {s : String} : trimmed s = "" ↔ isBlankText s = true := by
  simp [trimmed, isBlankText, trim_eq_nil_iff]

theorem isBlank_of_isDigit {c : Char} (h : c.isDigit = true) : isBlank c = false := by
  obtain ⟨hfirst, hlast⟩ := Bool.and_eq_true_iff.mp h
  have hfirst' : 0x30 ≤ c.toNat := of_decide_eq_true hfirst
  have hlast' : c.toNat ≤ 0x39 := of_decide_eq_true hlast
  simp only [isBlank, Bool.or_eq_false_iff, Bool.and_eq_false_iff, decide_eq_false_iff_not,
    beq_eq_false_iff_ne]
  omega

end RemoteNotes.Text
