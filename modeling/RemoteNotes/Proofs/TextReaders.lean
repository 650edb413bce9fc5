import RemoteNotes.Proofs.JsonGrammar

/-!
# Readers of texts

A text is read just where the grammar has one, to the octets that it spells
(`takes_textBody`), and skipped just where the grammar has one (`takes_skipText`).
-/

namespace RemoteNotes.Json

namespace Reader

open Grammar
open Text.Utf8 (Octets)

variable {c : Cursor} {rest : Octets}

theorem takes_nextInText_bind {β : Type} {f : UInt8 → Reader β} {b : β} :
    Takes (nextInText >>= f) c b rest ↔
      ∃ o bs, c.rest = o :: bs ∧ Takes (f o) c.tail b rest := by
  unfold nextInText
  rw [bind_assoc, takes_next_bind]
  rcases hc : c.rest with _ | ⟨o, bs⟩
  · simp
  · simp

@[simp] theorem takes_hexUnit {n : Nat} : Takes hexUnit c n rest ↔ Hex c.rest n rest := by
  unfold hexUnit
  rw [takes_get_bind]
  split
  · next a b c' d bs hc =>
    simp only [takes_eat_bind]
    split
    · next i j k l ha hb hc' hd =>
      simp only [takes_pure, Cursor.tail_rest, hc, List.tail_cons]
      constructor
      · rintro ⟨rfl, rfl⟩
        exact .digits ha hb hc' hd
      · rintro ⟨ha', hb', hc'', hd'⟩
        simp_all
    · next hnone =>
      simp only [not_takes_fail, false_iff, hc]
      rintro ⟨ha, hb, hc', hd⟩
      exact hnone _ _ _ _ ha hb hc' hd
  · next hshort =>
    refine iff_of_false ?_ ?_
    · intro h
      obtain ⟨_, _, -, h⟩ := takes_of_bind h
      exact not_takes_fail h
    · intro h
      generalize hc : c.rest = bs at h
      cases h
      exact hshort _ _ _ _ _ hc

@[simp] theorem takes_pairOctet {o : UInt8} {u : Unit} :
    Takes (pairOctet o) c u rest ↔ c.rest = o :: rest := by
  unfold pairOctet
  rw [takes_peek_bind]
  rcases hc : c.rest with _ | ⟨b, bs⟩
  · simp
  · simp [hc]

theorem takes_unicodeEscape {ch : Char} :
    Takes unicodeEscape c ch rest ↔ Numbered c.rest ch rest := by
  unfold unicodeEscape
  constructor
  · intro h
    obtain ⟨n, c₁, hn, h⟩ := takes_of_bind h
    rw [takes_hexUnit] at hn
    by_cases hlow : isLowSurrogate n = true
    · simp [hlow] at h
    by_cases hhigh : isHighSurrogate n = true
    · simp only [hlow, hhigh, Bool.not_true, Bool.false_eq_true, if_false] at h
      obtain ⟨_, c₂, hback, h⟩ := takes_of_bind h
      obtain ⟨_, c₃, hu, h⟩ := takes_of_bind h
      obtain ⟨m, c₄, hm, h⟩ := takes_of_bind h
      rw [takes_pairOctet] at hback hu
      rw [takes_hexUnit] at hm
      rw [hback, hu] at hn
      by_cases hlow' : isLowSurrogate m = true
      · simp only [hlow', Bool.not_true, Bool.false_eq_true, if_false, takes_pure] at h
        obtain ⟨rfl, rfl⟩ := h
        exact .pair hn hhigh hm hlow'
      · simp [hlow'] at h
    · simp [hlow, hhigh] at h
      obtain ⟨rfl, rfl⟩ := h
      exact .unit hn (by simpa using hlow) (by simpa using hhigh)
  · intro h
    generalize hc : c.rest = bs at h
    cases h with
    | unit hn hlow hhigh =>
      refine Takes.bind (takes_hexUnit.mpr (hc ▸ hn)) fun c₁ h₁ => ?_
      simp [hlow, hhigh, h₁]
    | pair hn hhigh hm hlow =>
      refine Takes.bind (takes_hexUnit.mpr (hc ▸ hn)) fun c₁ h₁ => ?_
      simp only [hhigh, isLowSurrogate_of_isHighSurrogate hhigh, Bool.not_true,
        Bool.false_eq_true, if_false]
      refine Takes.bind (a := ()) (takes_pairOctet.mpr h₁) fun c₂ h₂ => ?_
      refine Takes.bind (a := ()) (takes_pairOctet.mpr h₂) fun c₃ h₃ => ?_
      refine Takes.bind (takes_hexUnit.mpr (h₃ ▸ hm)) fun c₄ h₄ => ?_
      simp only [hlow, Bool.not_true, Bool.false_eq_true, if_false, takes_pure]
      exact ⟨rfl, h₄⟩

theorem takes_escape {w : Octets} : Takes escape c w rest ↔ Escape c.rest w rest := by
  unfold escape
  rw [takes_nextInText_bind]
  constructor
  · rintro ⟨o, bs, hc, h⟩
    rw [hc]
    split at h
    · next v hv =>
      simp only [takes_pure, Cursor.tail_rest, hc, List.tail_cons] at h
      obtain ⟨rfl, rfl⟩ := h
      exact .simple hv
    · next hnone =>
      by_cases ho : o = 0x75
      · simp only [ho, beq_self_eq_true, if_true] at h
        obtain ⟨ch, c', hch, h⟩ := takes_of_bind h
        rw [takes_unicodeEscape, Cursor.tail_rest, hc, List.tail_cons] at hch
        obtain ⟨rfl, rfl⟩ := takes_pure.mp h
        exact ho ▸ .numbered hch
      · simp [ho] at h
  · intro h
    generalize hc : c.rest = bs at h
    cases h with
    | simple hv =>
      refine ⟨_, _, rfl, ?_⟩
      simp [hv, hc]
    | numbered hch =>
      refine ⟨_, _, rfl, ?_⟩
      have hnone : simpleEscape? 0x75 = none := rfl
      simp only [hnone, beq_self_eq_true, if_true]
      exact Takes.bind (takes_unicodeEscape.mpr (by simpa [hc] using hch)) fun c' h' => by simp [h']

/-- A text is read to its closing quote, as long as there is fuel for its octets. -/
theorem takes_textOctets {fuel : Nat} {acc w : Octets} (hfuel : c.rest.length < fuel) :
    Takes (textOctets fuel acc) c w rest ↔ ∃ v, Spells c.rest v rest ∧ w = acc.reverse ++ v := by
  induction fuel generalizing c acc with
  | zero => omega
  | succ fuel ih =>
    unfold textOctets
    rw [takes_nextInText_bind]
    constructor
    · rintro ⟨o, bs, hc, h⟩
      have hrest := Cursor.tail_of_cons hc
      have hshort : c.tail.rest.length < fuel := by
        rw [hrest]
        simp only [hc, List.length_cons] at hfuel
        omega
      rw [hc]
      by_cases hquote : o = quoteMark
      · simp only [hquote, beq_self_eq_true, if_true, takes_pure, hrest] at h
        obtain ⟨rfl, rfl⟩ := h
        exact ⟨[], hquote ▸ .close, (List.append_nil _).symm⟩
      by_cases hback : o = 0x5C
      · subst hback
        simp only [beq_iff_eq, hquote, if_false, if_true] at h
        obtain ⟨v, c', hv, h⟩ := takes_of_bind h
        rw [takes_escape] at hv
        rw [ih (Nat.lt_trans hv.shorter hshort)] at h
        obtain ⟨w', hw', rfl⟩ := h
        rw [hrest] at hv
        exact ⟨v ++ w', .escape hv hw', by simp⟩
      · simp only [beq_iff_eq, hquote, hback, if_false, takes_ite, not_takes_fail,
          if_false_left, ih hshort, hrest] at h
        obtain ⟨hplain, v, hv, rfl⟩ := h
        exact ⟨o :: v, .plain hquote hback (by simpa using hplain) hv, by simp⟩
    · rintro ⟨v, hv, rfl⟩
      generalize hc : c.rest = bs at hv
      rw [hc] at hfuel
      cases hv with
      | close => exact ⟨_, _, rfl, by simp [hc]⟩
      | @plain b _ _ _ hquote hback hplain hv =>
        refine ⟨b, _, rfl, ?_⟩
        have hrest := Cursor.tail_of_cons hc
        rw [List.length_cons] at hfuel
        simp only [beq_iff_eq, hquote, hback, if_false, UInt8.not_lt.mpr hplain]
        rw [ih (by rw [hrest]; omega), hrest]
        exact ⟨_, hv, by simp⟩
      | escape hescape hv =>
        refine ⟨_, _, rfl, ?_⟩
        have hfirst : (0x5C == quoteMark) = false := rfl
        simp only [hfirst, beq_self_eq_true, if_true, Bool.false_eq_true, if_false]
        have hrest := Cursor.tail_of_cons hc
        refine Takes.bind (takes_escape.mpr (hrest ▸ hescape)) fun c' h' => ?_
        have hshort := hescape.shorter
        rw [List.length_cons] at hfuel
        exact (ih (by rw [h']; omega)).mpr ⟨_, h' ▸ hv, by simp⟩

theorem takes_textBody {s : String} : Takes textBody c s rest ↔ IsText s c.rest rest := by
  unfold textBody
  rw [takes_remaining_bind]
  constructor
  · intro h
    obtain ⟨w, c₁, hw, h⟩ := takes_of_bind h
    obtain ⟨_, hspells, rfl⟩ := (takes_textOctets (Nat.lt_succ_self _)).mp hw
    split at h
    · next cs hcs =>
      obtain ⟨rfl, rfl⟩ := takes_pure.mp h
      exact ⟨_, hspells, by simpa using hcs⟩
    · exact absurd h not_takes_fail
  · rintro ⟨w, hw, hs⟩
    refine Takes.bind ((takes_textOctets (Nat.lt_succ_self _)).mpr ⟨w, hw, rfl⟩) fun c₁ h₁ => ?_
    simp [hs, h₁]

-- ---------------------------------------------------------------------------
-- Texts that are skipped
-- ---------------------------------------------------------------------------

theorem takes_skipEscape {u : Unit} :
    Takes skipEscape c u rest ↔ LooseEscape c.rest rest := by
  unfold skipEscape
  rw [takes_nextInText_bind]
  constructor
  · rintro ⟨b, bs, hc, h⟩
    have hrest := Cursor.tail_of_cons hc
    rw [hc]
    cases hsimple : simpleEscape? b with
    | none =>
      simp only [hsimple, Option.isNone_none, if_true, beq_iff_eq, takes_ite, not_takes_fail,
        if_false_right] at h
      obtain ⟨rfl, h⟩ := h
      obtain ⟨n, c', hn, h⟩ := takes_of_bind h
      obtain ⟨-, rfl⟩ := takes_pure.mp h
      rw [takes_hexUnit, hrest] at hn
      exact .numbered hn
    | some o =>
      simp only [hsimple, Option.isNone_some, Bool.false_eq_true, if_false, takes_pure, hrest] at h
      obtain ⟨-, rfl⟩ := h
      exact .simple hsimple
  · intro h
    generalize hc : c.rest = bs at h
    have hrest := fun b t (h : bs = b :: t) => Cursor.tail_of_cons (hc.trans h)
    cases h with
    | simple hsimple => exact ⟨_, _, rfl, by simp [hsimple, hc]⟩
    | numbered hn =>
      refine ⟨_, _, rfl, ?_⟩
      have hnone : (simpleEscape? 0x75).isNone = true := rfl
      simp only [hnone, beq_self_eq_true, if_true]
      exact Takes.bind (takes_hexUnit.mpr (hrest _ _ rfl ▸ hn)) fun c' h' => by simp [h']

theorem takes_skipText {fuel : Nat} {u : Unit} (hfuel : c.rest.length < fuel) :
    Takes (skipText fuel) c u rest ↔ Quoted c.rest rest := by
  induction fuel generalizing c with
  | zero => omega
  | succ fuel ih =>
    unfold skipText
    rw [takes_peek_bind]
    rcases hc : c.rest with _ | ⟨b, bs⟩
    · simp only [List.head?_nil, not_takes_fail, false_iff]
      rintro ⟨⟩
    have hrest := Cursor.tail_of_cons hc
    rw [hc, List.length_cons] at hfuel
    simp only [List.head?_cons]
    by_cases hcontrol : b < 0x20
    · simp only [hcontrol, if_true, not_takes_fail_bind, false_iff]
      intro h
      cases h with
      | plain _ _ hplain => exact UInt8.not_le.mpr hcontrol hplain
      | _ => exact absurd hcontrol (by decide)
    simp only [hcontrol, if_false, takes_eat_bind, beq_iff_eq, takes_ite, takes_pure, hrest]
    by_cases hquote : b = quoteMark
    · rw [if_pos hquote]
      constructor
      · rintro ⟨-, rfl⟩
        exact hquote ▸ .close
      · intro h
        cases h with
        | close => exact ⟨trivial, rfl⟩
        | plain hplain => exact absurd hquote hplain
        | _ => exact absurd hquote (by decide)
    by_cases hback : b = 0x5C
    · rw [if_neg hquote, if_pos hback]
      constructor
      · intro h
        obtain ⟨_, c', hescape, h⟩ := takes_of_bind h
        rw [takes_skipEscape, hrest] at hescape
        have hshort := hescape.shorter
        exact hback ▸ .escape hescape ((ih (by omega)).mp h)
      · intro h
        cases h with
        | close => exact absurd hback (by decide)
        | plain _ hplain => exact absurd hback hplain
        | escape hescape h =>
          have hshort := hescape.shorter
          refine Takes.bind (a := ()) (takes_skipEscape.mpr (hrest ▸ hescape)) fun c' h' => ?_
          exact (ih (by rw [h']; omega)).mpr (h' ▸ h)
    · rw [if_neg hquote, if_neg hback, ih (by rw [hrest]; omega), hrest]
      constructor
      · exact .plain hquote hback (UInt8.not_lt.mp hcontrol)
      · intro h
        cases h with
        | plain _ _ _ h => exact h
        | _ => contradiction

end Reader

end RemoteNotes.Json
