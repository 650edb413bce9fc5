import RemoteNotes.Number.Decimal

/-!
# Digits of numbers

The digits of a number stand for it, with or without zeros in front (`isNumeral_digitsOf`,
`isNumeral_padded`), and a whole number is read from its text as it was
(`readInt_intText`).
-/

namespace RemoteNotes.Number

/-- Digits that stand for a number. There may be zeros in front. -/
structure IsNumeral (cs : List Char) (n : Nat) : Prop where
  digits : ∀ c ∈ cs, c.isDigit = true
  value : natOfDigits cs = n

theorem isDigit_digit (d : Nat) (h : d < 10) : (Char.ofNat (0x30 + d)).isDigit = true := by
  revert d
  decide

theorem digitValue?_digit (d : Nat) (h : d < 10) : digitValue? (Char.ofNat (0x30 + d)) = some d := by
  revert d
  decide

theorem digitValue?_of_isDigit {c : Char} (h : c.isDigit = true) :
    digitValue? c = some (c.toNat - 0x30) := if_pos h

theorem digit_lt {c : Char} (h : c.isDigit = true) : c.toNat - 0x30 < 10 := by
  have hlast : c.toNat ≤ 0x39 := of_decide_eq_true (Bool.and_eq_true_iff.mp h).2
  omega

theorem foldl_digits_lt {cs : List Char} (h : ∀ c ∈ cs, c.isDigit = true) (acc : Nat) :
    cs.foldl (fun acc c => acc * 10 + (digitValue? c).getD 0) acc < (acc + 1) * tenTo cs.length := by
  induction cs generalizing acc with
  | nil => rw [List.length_nil, tenTo_zero, Nat.mul_one]; exact Nat.lt_succ_self acc
  | cons c cs ih =>
    have hc := h c List.mem_cons_self
    have hdigit := digit_lt hc
    rw [List.foldl_cons, digitValue?_of_isDigit hc, Option.getD_some, List.length_cons, tenTo_succ,
      Nat.mul_comm (tenTo cs.length), ← Nat.mul_assoc]
    refine Nat.lt_of_lt_of_le (ih (fun d hd => h d (List.mem_cons_of_mem c hd)) _) ?_
    exact Nat.mul_le_mul_right _ (by omega)

theorem natOfDigits_lt {cs : List Char} (h : ∀ c ∈ cs, c.isDigit = true) :
    natOfDigits cs < tenTo cs.length := by
  simpa [natOfDigits] using foldl_digits_lt h 0

theorem natOfDigits_concat (cs : List Char) (c : Char) :
    natOfDigits (cs ++ [c]) = natOfDigits cs * 10 + (digitValue? c).getD 0 := by
  simp [natOfDigits, List.foldl_append]

theorem natOfDigits_zeros (k : Nat) (cs : List Char) :
    natOfDigits (List.replicate k '0' ++ cs) = natOfDigits cs := by
  induction k with
  | zero => rfl
  | succ k ih => exact ih

theorem digitsOf_of_lt {n : Nat} (h : n < 10) : digitsOf n = [Char.ofNat (0x30 + n)] := by
  rw [digitsOf, if_pos h]

theorem digitsOf_of_le {n : Nat} (h : 10 ≤ n) :
    digitsOf n = digitsOf (n / 10) ++ [Char.ofNat (0x30 + n % 10)] := by
  rw [digitsOf, if_neg (Nat.not_lt.mpr h)]

theorem isNumeral_digitsOf (n : Nat) : IsNumeral (digitsOf n) n := by
  induction n using Nat.strongRecOn with
  | ind n ih =>
    rcases Nat.lt_or_ge n 10 with hn | hn
    · rw [digitsOf_of_lt hn]
      refine ⟨List.forall_mem_singleton.mpr (isDigit_digit n hn), ?_⟩
      simp [natOfDigits, digitValue?_digit n hn]
    · obtain ⟨hdigits, hvalue⟩ := ih (n / 10) (by omega)
      have hlast : n % 10 < 10 := Nat.mod_lt n (by omega)
      rw [digitsOf_of_le hn]
      constructor
      · intro c hc
        rcases List.mem_append.mp hc with hc | hc
        · exact hdigits c hc
        · cases List.mem_singleton.mp hc
          exact isDigit_digit _ hlast
      · rw [natOfDigits_concat, hvalue, digitValue?_digit _ hlast, Option.getD_some]
        omega

theorem length_digitsOf_le {n k : Nat} (hk : 1 ≤ k) (h : n < tenTo k) :
    (digitsOf n).length ≤ k := by
  induction k generalizing n with
  | zero => omega
  | succ k ih =>
    rcases Nat.lt_or_ge n 10 with hn | hn
    · rw [digitsOf_of_lt hn]
      exact Nat.succ_le_succ (Nat.zero_le k)
    · rw [tenTo_succ] at h
      cases k with
      | zero => rw [tenTo_zero] at h; omega
      | succ k =>
        have hshort := ih (n := n / 10) (Nat.succ_le_succ (Nat.zero_le k)) (by omega)
        rw [digitsOf_of_le hn, List.length_append, List.length_singleton]
        omega

theorem digitsOf_ne_nil (n : Nat) : digitsOf n ≠ [] := by
  rcases Nat.lt_or_ge n 10 with hn | hn
  · rw [digitsOf_of_lt hn]
    exact List.cons_ne_nil _ _
  · rw [digitsOf_of_le hn]
    simp

/-- No text of a number is longer than its width as long as the number fits. -/
theorem length_padded {width n : Nat} (hw : 1 ≤ width) (h : n < tenTo width) :
    (padded width n).toList.length = width := by
  have hshort := length_digitsOf_le hw h
  simp only [padded, String.toList_ofList, List.length_append, List.length_replicate]
  omega

theorem isNumeral_padded (width n : Nat) : IsNumeral (padded width n).toList n := by
  obtain ⟨hdigits, hvalue⟩ := isNumeral_digitsOf n
  simp only [padded, String.toList_ofList]
  constructor
  · intro c hc
    rcases List.mem_append.mp hc with hc | hc
    · rw [List.eq_of_mem_replicate hc]
      rfl
    · exact hdigits c hc
  · rw [natOfDigits_zeros, hvalue]

-- ---------------------------------------------------------------------------
-- Whole numbers
-- ---------------------------------------------------------------------------

theorem le_foldl_digits (acc : Nat) (cs : List Char) :
    acc ≤ cs.foldl (fun acc c => acc * 10 + (digitValue? c).getD 0) acc := by
  induction cs generalizing acc with
  | nil => exact Nat.le_refl acc
  | cons c cs ih =>
    have hstep : acc ≤ acc * 10 + (digitValue? c).getD 0 := by omega
    exact Nat.le_trans hstep (ih _)

theorem readDigits_foldl {limit : Nat} {overflow : NumberFault} {acc : Nat} {cs : List Char}
    (hdigits : ∀ c ∈ cs, c.isDigit = true)
    (hlimit : cs.foldl (fun acc c => acc * 10 + (digitValue? c).getD 0) acc ≤ limit) :
    readDigits limit overflow acc cs =
      .ok (cs.foldl (fun acc c => acc * 10 + (digitValue? c).getD 0) acc) := by
  induction cs generalizing acc with
  | nil => rfl
  | cons c cs ih =>
    have hc := digitValue?_of_isDigit (hdigits c List.mem_cons_self)
    rw [List.foldl_cons, hc, Option.getD_some] at hlimit
    -- what is read so far stays below what is read in the end
    have hsofar := Nat.le_trans (le_foldl_digits _ cs) hlimit
    rw [readDigits, hc]
    simp only [List.foldl_cons, hc, Option.getD_some]
    rw [if_neg (Nat.not_lt.mpr hsofar)]
    exact ih (fun d hd => hdigits d (List.mem_cons_of_mem c hd)) hlimit

theorem IsNumeral.readDigits {cs : List Char} {n limit : Nat} (h : IsNumeral cs n)
    (hlimit : n ≤ limit) (overflow : NumberFault) : readDigits limit overflow 0 cs = .ok n := by
  obtain ⟨hdigits, rfl⟩ := h
  exact readDigits_foldl hdigits hlimit

theorem readDigits_le {limit acc n : Nat} {overflow : NumberFault} {cs : List Char}
    (hacc : acc ≤ limit) (h : readDigits limit overflow acc cs = .ok n) : n ≤ limit := by
  induction cs generalizing acc with
  | nil =>
    cases h
    exact hacc
  | cons c cs ih =>
    unfold readDigits at h
    split at h
    · contradiction
    · split at h
      · contradiction
      · exact ih (by omega) h

theorem map_eq_ok {ε α β : Type} {r : Except ε α} {f : α → β} {b : β} :
    r.map f = .ok b ↔ ∃ a, r = .ok a ∧ f a = b := by
  cases r <;> simp [Except.map]

theorem readInt_le {limit : Nat} {s : String} {n : Int} (h : readInt limit s = .ok n) :
    n ≤ limit := by
  unfold readInt at h
  split at h
  · contradiction
  · contradiction
  · contradiction
  · obtain ⟨m, hm, rfl⟩ := map_eq_ok.mp h
    exact Int.ofNat_le.mpr (readDigits_le (Nat.zero_le limit) hm)
  · obtain ⟨m, hm, rfl⟩ := map_eq_ok.mp h
    exact Int.le_trans (Int.neg_nonpos_of_nonneg (Int.natCast_nonneg m)) (Int.natCast_nonneg limit)
  · obtain ⟨m, hm, rfl⟩ := map_eq_ok.mp h
    exact Int.ofNat_le.mpr (readDigits_le (Nat.zero_le limit) hm)

theorem toList_natText (n : Nat) : (natText n).toList = digitsOf n := String.toList_ofList

theorem toList_intText {n : Int} (hn : 0 ≤ n) : (intText n).toList = digitsOf n.natAbs := by
  rw [intText, if_neg (by omega), toList_natText]

theorem toList_intText_of_neg {n : Int} (hn : n < 0) :
    (intText n).toList = '-' :: digitsOf n.natAbs := by
  rw [intText, if_pos hn, String.toList_ofList]

theorem mem_intText {n : Int} {c : Char} (h : c ∈ (intText n).toList) :
    c = '-' ∨ c.isDigit = true := by
  have hdigits := (isNumeral_digitsOf n.natAbs).digits
  by_cases hn : n < 0
  · rw [toList_intText_of_neg hn] at h
    exact (List.mem_cons.mp h).imp_right (hdigits c)
  · rw [toList_intText (Int.not_lt.mp hn)] at h
    exact .inr (hdigits c h)

theorem readInt_intText {n : Int} {limit : Nat} (hn : 0 ≤ n) (hlimit : n ≤ limit) :
    readInt limit (intText n) = .ok n := by
  have hnum := isNumeral_digitsOf n.natAbs
  have hread : readDigits limit .tooLarge 0 (digitsOf n.natAbs) = .ok n.natAbs :=
    hnum.readDigits (by omega) .tooLarge
  have htext := toList_intText hn
  have hof : Int.ofNat n.natAbs = n := Int.natAbs_of_nonneg hn
  cases hcs : digitsOf n.natAbs with
  | nil => exact absurd hcs (digitsOf_ne_nil _)
  | cons c cs =>
    -- a digit is no sign
    have hc : c.isDigit = true := hnum.digits c (hcs ▸ List.mem_cons_self)
    rw [hcs] at htext hread
    unfold readInt
    rw [htext]
    split
    · contradiction
    · next h => cases h; cases hc
    · next h => cases h; cases hc
    · next h => cases h; cases hc
    · next h => cases h; cases hc
    · rw [hread]
      exact congrArg Except.ok hof

theorem readInt_intText_of_neg {n : Int} {limit : Nat} (hn : n < 0) (hlimit : -(limit + 1) ≤ n) :
    readInt limit (intText n) = .ok n := by
  have hread : readDigits (limit + 1) .tooSmall 0 (digitsOf n.natAbs) = .ok n.natAbs :=
    (isNumeral_digitsOf n.natAbs).readDigits (by omega) .tooSmall
  have hof : -Int.ofNat n.natAbs = n := by
    change -(n.natAbs : Int) = n
    omega
  cases hcs : digitsOf n.natAbs with
  | nil => exact absurd hcs (digitsOf_ne_nil _)
  | cons c cs =>
    have htext := toList_intText_of_neg hn
    rw [hcs] at htext hread
    unfold readInt
    rw [htext]
    change (readDigits (limit + 1) .tooSmall 0 (c :: cs)).map (fun n => -Int.ofNat n) = .ok n
    rw [hread]
    exact congrArg Except.ok hof

end RemoteNotes.Number
