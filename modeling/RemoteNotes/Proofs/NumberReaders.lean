import RemoteNotes.Proofs.Digits
import RemoteNotes.Proofs.RecordReaders

/-!
# Readers of whole numbers

A whole number is read just where its digits stand, with a minus sign below zero and nothing
behind them that would make it another number (`takes_int`). All other numbers are read as
floating-point ones.
-/

namespace RemoteNotes.Json

open Number
open Text.Utf8 (Octets)

namespace Grammar

open Reader (past isBlankOctet isDigitOctet isExponentMark)

-- ---------------------------------------------------------------------------
-- Digits
-- ---------------------------------------------------------------------------

/-- The octets of the digits of a number. -/
def numeral (n : Nat) : Octets := Text.Utf8.encode (digitsOf n)

/-- The number that digits lead to, from the number of the digits in front of them. -/
def readOn (n : Nat) (ds : Octets) : Nat := ds.foldl (fun n b => n * 10 + (b.toNat - 0x30)) n

def digitOctet (d : Nat) : UInt8 := UInt8.ofNat (0x30 + d)

theorem isDigitOctet_digitOctet {d : Nat} (h : d < 10) : isDigitOctet (digitOctet d) = true := by
  revert d
  decide

theorem toNat_digitOctet {d : Nat} (h : d < 10) : (digitOctet d).toNat - 0x30 = d := by
  revert d
  decide

theorem exists_digitOctet {b : UInt8} (h : isDigitOctet b = true) : ∃ d < 10, b = digitOctet d := by
  obtain ⟨hfirst, hlast⟩ := Bool.and_eq_true_iff.mp h
  have hfirst : 0x30 ≤ b.toNat := UInt8.le_iff_toNat_le.mp (of_decide_eq_true hfirst)
  have hlast : b.toNat ≤ 0x39 := UInt8.le_iff_toNat_le.mp (of_decide_eq_true hlast)
  refine ⟨b.toNat - 0x30, by omega, ?_⟩
  rw [digitOctet, Nat.add_sub_cancel' hfirst, UInt8.ofNat_toNat]

theorem numeral_of_lt {n : Nat} (h : n < 10) : numeral n = [digitOctet n] := by
  rw [numeral, digitsOf_of_lt h]
  revert n
  decide

theorem numeral_zero : numeral 0 = [0x30] := numeral_of_lt (by decide)

theorem numeral_of_le {n : Nat} (h : 10 ≤ n) :
    numeral n = numeral (n / 10) ++ [digitOctet (n % 10)] := by
  have hlast : n % 10 < 10 := Nat.mod_lt n (by decide)
  rw [← numeral_of_lt hlast, numeral, numeral, numeral, digitsOf_of_le h, digitsOf_of_lt hlast]
  exact List.flatMap_append

theorem readOn_concat (n : Nat) (ds : Octets) (b : UInt8) :
    readOn n (ds ++ [b]) = readOn n ds * 10 + (b.toNat - 0x30) := by
  rw [readOn, List.foldl_append]
  rfl

theorem le_readOn (n : Nat) (ds : Octets) : n ≤ readOn n ds := by
  induction ds generalizing n with
  | nil => exact Nat.le_refl n
  | cons b ds ih =>
    have hstep : n ≤ n * 10 + (b.toNat - 0x30) := by omega
    exact Nat.le_trans hstep (ih _)

theorem numeral_digits (n : Nat) : ∀ b ∈ numeral n, isDigitOctet b = true := by
  induction n using Nat.strongRecOn with
  | ind n ih =>
    rcases Nat.lt_or_ge n 10 with hn | hn
    · rw [numeral_of_lt hn]
      exact List.forall_mem_singleton.mpr (isDigitOctet_digitOctet hn)
    · rw [numeral_of_le hn, List.forall_mem_append]
      refine ⟨ih (n / 10) (by omega), ?_⟩
      exact List.forall_mem_singleton.mpr (isDigitOctet_digitOctet (Nat.mod_lt n (by decide)))

theorem readOn_numeral (n : Nat) : readOn 0 (numeral n) = n := by
  induction n using Nat.strongRecOn with
  | ind n ih =>
    rcases Nat.lt_or_ge n 10 with hn | hn
    · simp [numeral_of_lt hn, readOn, toNat_digitOctet hn]
    · have hlast : n % 10 < 10 := Nat.mod_lt n (by decide)
      rw [numeral_of_le hn, readOn_concat, ih (n / 10) (by omega), toNat_digitOctet hlast]
      omega

theorem numeral_ne_nil (n : Nat) : numeral n ≠ [] := by
  rcases Nat.lt_or_ge n 10 with hn | hn
  · simp [numeral_of_lt hn]
  · simp [numeral_of_le hn]

/-- Only zero starts with a zero. -/
theorem head_numeral {n : Nat} (h : (numeral n).head? = some 0x30) : n = 0 := by
  induction n using Nat.strongRecOn with
  | ind n ih =>
    rcases Nat.lt_or_ge n 10 with hn | hn
    · rw [numeral_of_lt hn] at h
      have hzero := congrArg (fun b => b.toNat - 0x30) (Option.some.inj h)
      rwa [toNat_digitOctet hn] at hzero
    · rw [numeral_of_le hn, List.head?_append_of_ne_nil _ (numeral_ne_nil _)] at h
      have hfront := ih (n / 10) (by omega) h
      omega

/-- Digits without a zero in front are those of the number that they lead to. -/
theorem numeral_readOn {ds : Octets} (hne : ds ≠ []) (hdigits : ∀ b ∈ ds, isDigitOctet b = true)
    (hzero : ds.head? = some 0x30 → ds = [0x30]) : numeral (readOn 0 ds) = ds := by
  induction ds using List.reverseRecOn with
  | nil => exact absurd rfl hne
  | append_singleton ds b ih =>
    rw [List.forall_mem_append, List.forall_mem_singleton] at hdigits
    obtain ⟨d, hd, rfl⟩ := exists_digitOctet hdigits.2
    rw [readOn_concat, toNat_digitOctet hd]
    by_cases hfront : ds = []
    · simp [hfront, readOn, numeral_of_lt hd]
    · -- the digits in front do not start with a zero, so they lead to one number at least
      rw [List.head?_append_of_ne_nil _ hfront] at hzero
      have hhead : ds.head? ≠ some 0x30 := by
        intro hhead
        have hlength := congrArg List.length (hzero hhead)
        simp only [List.length_append, List.length_singleton] at hlength
        exact hfront (List.length_eq_zero_iff.mp (by omega))
      have hds := ih hfront hdigits.1 fun h => absurd h hhead
      have hpos : readOn 0 ds ≠ 0 := by
        intro hnull
        rw [hnull, numeral_of_lt (by decide)] at hds
        exact hhead (hds ▸ rfl)
      have hdiv : (readOn 0 ds * 10 + d) / 10 = readOn 0 ds := by omega
      have hmod : (readOn 0 ds * 10 + d) % 10 = d := by omega
      rw [numeral_of_le (by omega), hdiv, hmod, hds]

-- ---------------------------------------------------------------------------
-- Whole numbers
-- ---------------------------------------------------------------------------

/-- Nothing at the front would go on with a number that stands before it. -/
def EndsNumber (rest : Octets) : Prop :=
  ∀ b ∈ rest.head?, isDigitOctet b = false ∧ b ≠ 0x2E ∧ isExponentMark b = false

/-- The digits of a whole number, with a minus sign below zero, as all of the number. -/
def IsInteger (e : Int) (bs rest : Octets) : Prop :=
  bs = Text.Utf8.ofString (intText e) ++ rest ∧ EndsNumber rest

theorem takeWhile_digits (ds : Octets) {rest : Octets} (hdigits : ∀ b ∈ ds, isDigitOctet b = true)
    (hend : ∀ b ∈ rest.head?, isDigitOctet b = false) :
    (ds ++ rest).takeWhile isDigitOctet = ds ∧ (ds ++ rest).dropWhile isDigitOctet = rest := by
  rw [List.takeWhile_append_of_pos hdigits, List.dropWhile_append_of_pos hdigits]
  cases rest with
  | nil => simp
  | cons b rest => simp [hend b rfl]

theorem takeWhile_zero {rest : Octets} (hend : ∀ b ∈ rest.head?, isDigitOctet b = false) :
    (0x30 :: rest).takeWhile isDigitOctet = [0x30] :=
  (takeWhile_digits [0x30] (List.forall_mem_singleton.mpr rfl) hend).1

theorem head_behind_digits (bs : Octets) :
    ∀ b ∈ (bs.dropWhile isDigitOctet).head?, isDigitOctet b = false := by
  intro b hb
  have hnot := List.head?_dropWhile_not isDigitOctet bs
  rwa [Option.mem_def.mp hb] at hnot

/-- The grammar takes the digits of just one number. -/
theorem numeral_append_iff {n : Nat} {bs rest : Octets} :
    (bs = numeral n ++ rest ∧ ∀ b ∈ rest.head?, isDigitOctet b = false) ↔
      Whole bs rest ∧ readOn 0 (bs.takeWhile isDigitOctet) = n := by
  constructor
  · rintro ⟨rfl, hend⟩
    obtain ⟨htake, hdrop⟩ := takeWhile_digits _ (numeral_digits n) hend
    refine ⟨?_, by rw [htake, readOn_numeral]⟩
    rcases hds : numeral n with _ | ⟨b, ds⟩
    · exact absurd hds (numeral_ne_nil n)
    have hb : isDigitOctet b = true := numeral_digits n b (by simp [hds])
    by_cases hzero : b = 0x30
    · obtain rfl := head_numeral (n := n) (by rw [hds, hzero]; rfl)
      rw [← hds, numeral_zero]
      exact .zero hend
    · rw [hds, List.cons_append, List.dropWhile_cons_of_pos hb] at hdrop
      exact .digits hzero (digits_cons.mpr ⟨hb, hdrop⟩)
  · rintro ⟨hwhole, rfl⟩
    cases hwhole with
    | zero hend =>
      rw [takeWhile_zero hend]
      exact ⟨congrArg (· ++ rest) numeral_zero.symm, hend⟩
    | @digits b bs _ hzero hdigits =>
      obtain ⟨hb, rfl⟩ := digits_cons.mp hdigits
      have htake : (b :: bs).takeWhile isDigitOctet = b :: bs.takeWhile isDigitOctet :=
        List.takeWhile_cons_of_pos hb
      have hnumeral : numeral (readOn 0 (b :: bs.takeWhile isDigitOctet)) =
          b :: bs.takeWhile isDigitOctet := by
        refine numeral_readOn (List.cons_ne_nil _ _) ?_ fun h => absurd (Option.some.inj h) hzero
        rw [← htake]
        exact fun _ => List.mem_takeWhile_imp
      refine ⟨?_, head_behind_digits bs⟩
      rw [htake, hnumeral, List.cons_append, List.takeWhile_append_dropWhile]

theorem ofString_intText_of_neg {e : Int} (h : e < 0) :
    Text.Utf8.ofString (intText e) = 0x2D :: numeral e.natAbs := by
  rw [Text.Utf8.ofString, toList_intText_of_neg h]
  rfl

theorem ofString_intText {e : Int} (h : 0 ≤ e) :
    Text.Utf8.ofString (intText e) = numeral e.natAbs := by
  rw [Text.Utf8.ofString, toList_intText h, numeral]

theorem number_numeral {n : Nat} {rest : Octets} (hend : EndsNumber rest) :
    Number (numeral n ++ rest) rest := by
  refine ⟨rest, rest, ?_, .none ?_, .none fun b hb => (hend b hb).2.2⟩
  · exact (numeral_append_iff.mp ⟨rfl, fun b hb => (hend b hb).1⟩).1
  · exact fun hpoint => (hend _ hpoint).2.1 rfl

theorem IsInteger.stands {e : Int} {bs rest : Octets} (h : IsInteger e (past bs) rest) :
    Stands .value bs rest := by
  obtain ⟨hpast, hend⟩ := h
  by_cases hneg : e < 0
  · rw [ofString_intText_of_neg hneg, List.cons_append] at hpast
    exact .negative hpast (number_numeral hend)
  · rw [ofString_intText (Int.not_lt.mp hneg)] at hpast
    exact .number (hpast ▸ number_numeral hend)

/-- A number starts with a minus sign or with a digit. -/
theorem IsInteger.start {e : Int} {b : UInt8} {bs rest : Octets} (h : IsInteger e (b :: bs) rest) :
    b = 0x2D ∨ isDigitOctet b = true := by
  obtain ⟨htext, -⟩ := h
  by_cases hneg : e < 0
  · rw [ofString_intText_of_neg hneg, List.cons_append] at htext
    exact .inl (List.cons.inj htext).1
  · rw [ofString_intText (Int.not_lt.mp hneg)] at htext
    obtain ⟨d, ds, hds⟩ := List.exists_cons_of_ne_nil (numeral_ne_nil e.natAbs)
    rw [hds, List.cons_append] at htext
    rw [(List.cons.inj htext).1]
    exact .inr (numeral_digits e.natAbs d (by simp [hds]))

theorem IsInteger.past_eq {e : Int} {bs rest : Octets} (h : IsInteger e bs rest) :
    past bs = bs := by
  have hdigits : ∀ d < 10, isBlankOctet (digitOctet d) = false := by decide
  cases bs with
  | nil => rfl
  | cons b bs =>
    have hblank : isBlankOctet b = false := by
      rcases h.start with rfl | hdigit
      · decide
      · obtain ⟨d, hd, rfl⟩ := exists_digitOctet hdigit
        exact hdigits d hd
    exact List.dropWhile_cons_of_neg (Bool.not_eq_true _ ▸ hblank)

end Grammar

namespace Reader

open Grammar

variable {c : Cursor} {rest : Octets}

/-- Digits are read as far as they go, as long as the number fits. -/
theorem takes_wordDigits {fuel n taken m k : Nat} (hfuel : c.rest.length < fuel)
    (hn : n ≤ maxUInt64) :
    Takes (wordDigits fuel n taken) c (m, k, true) rest ↔
      m = readOn n (c.rest.takeWhile isDigitOctet) ∧ m ≤ maxUInt64 ∧
        k = taken + (c.rest.takeWhile isDigitOctet).length ∧
        rest = c.rest.dropWhile isDigitOctet := by
  induction fuel generalizing c n taken with
  | zero => omega
  | succ fuel ih =>
    unfold wordDigits
    rw [takes_peekOrZero_bind]
    by_cases hdigit : isDigitOctet (c.rest.head?.getD 0) = true
    · rw [if_pos hdigit]
      rcases hc : c.rest with _ | ⟨b, bs⟩
      · rw [hc] at hdigit
        exact absurd hdigit (by decide)
      have hb : isDigitOctet b = true := by rwa [hc] at hdigit
      have hshort : c.tail.rest.length < fuel := by
        simp only [hc, List.length_cons] at hfuel
        simp only [Cursor.tail_rest, hc, List.tail_cons]
        omega
      have hmore : readOn n (b :: bs.takeWhile isDigitOctet) =
          readOn (n * 10 + (b.toNat - 0x30)) (bs.takeWhile isDigitOctet) := rfl
      rw [List.head?_cons, Option.getD_some, List.takeWhile_cons_of_pos hb,
        List.dropWhile_cons_of_pos hb, hmore, List.length_cons]
      dsimp only
      rw [takes_ite]
      split
      · next hlarge =>
        -- the digits behind make the number no smaller
        have hle := le_readOn (n * 10 + (b.toNat - 0x30)) (bs.takeWhile isDigitOctet)
        simp only [takes_pure, Prod.mk.injEq, Bool.false_eq_true, and_false, false_and, false_iff]
        rintro ⟨rfl, hfits, -⟩
        omega
      · next hfits =>
        rw [takes_eat_bind, ih hshort (Nat.not_lt.mp hfits), Cursor.tail_rest, hc, List.tail_cons,
          Nat.add_right_comm]
        rfl
    · have hend := (forall_head_iff rfl).mpr (Bool.eq_false_iff.mpr hdigit)
      obtain ⟨htake, hdrop⟩ := takeWhile_digits [] (List.forall_mem_nil _) hend
      rw [List.nil_append] at htake hdrop
      rw [if_neg hdigit, takes_pure, htake, hdrop]
      constructor
      · rintro ⟨h, rfl⟩
        cases h
        exact ⟨rfl, hn, rfl, rfl⟩
      · rintro ⟨rfl, -, rfl, rfl⟩
        exact ⟨rfl, rfl⟩

/-- The number of a sign and of digits. A zero with a sign is none. -/
def Signed (negative : Bool) (n : Nat) (e : Int) : Prop :=
  if negative then n ≠ 0 ∧ n ≤ maxInt64 + 1 ∧ e = -n else e = n

theorem ofInt_eq_nat {e : Int} {n : Nat} : Num.ofInt e = .nat n ↔ e = n := by
  unfold Num.ofInt
  split
  · simp
    omega
  · simp
    omega

theorem ofInt_eq_negative {e m : Int} {h : m < 0} : Num.ofInt e = .negative m (h := h) ↔ e = m := by
  unfold Num.ofInt
  split
  · simp
  · simp
    omega

theorem ofInt_ne_float (e : Int) (x : Double) : Num.ofInt e ≠ .float x := by
  unfold Num.ofInt
  split <;> simp

theorem not_takes_float {r : Reader Double} {e : Int} :
    ¬Takes (do return .float (← r)) c (Num.ofInt e) rest := by
  rw [takes_bind]
  rintro ⟨x, c', -, h⟩
  exact ofInt_ne_float e x (takes_pure.mp h).1.symm

theorem takes_numberTail {negative : Bool} {n : Nat} {e : Int} :
    Takes (numberTail negative n) c (.ofInt e) rest ↔
      (c.rest.head?.getD 0 ≠ 0x2E ∧ isExponentMark (c.rest.head?.getD 0) = false) ∧
        Signed negative n e ∧ c.rest = rest := by
  unfold numberTail Signed
  rw [takes_peekOrZero_bind]
  generalize c.rest.head?.getD 0 = b
  by_cases hpoint : b = 0x2E
  · simp only [hpoint, beq_self_eq_true, if_true, ne_eq, not_true_eq_false, false_and, iff_false]
    exact not_takes_float
  rw [if_neg (by simpa using hpoint)]
  by_cases hmark : isExponentMark b = true
  · simp only [hmark, if_true, Bool.true_eq_false, and_false, false_and, iff_false]
    exact not_takes_float
  rw [if_neg hmark, and_iff_right ⟨hpoint, Bool.eq_false_iff.mpr hmark⟩]
  cases negative with
  | false => simp [eq_comm (b := Num.ofInt e), ofInt_eq_nat]
  | true =>
    simp only [Bool.not_true, Bool.false_eq_true, if_false, if_true]
    split
    · next hfloat =>
      refine iff_of_false (fun h => ofInt_ne_float e _ (takes_pure.mp h).1.symm) ?_
      omega
    · next hwhole =>
      rw [takes_pure, eq_comm (b := Num.ofInt e), ofInt_eq_negative]
      refine and_congr_left fun _ => ⟨fun he => ⟨by omega, by omega, he⟩, fun he => he.2.2⟩

theorem not_takes_longNumber {negative : Bool} {n : Nat} {e : Int} :
    ¬Takes (longNumber negative n) c (.ofInt e) rest := by
  unfold longNumber
  intro h
  obtain ⟨dropped, c', -, h⟩ := takes_of_bind h
  rw [takes_peekOrZero_bind, takes_ite] at h
  split at h
  · exact not_takes_float h
  · exact not_takes_float h

theorem endsNumber_iff :
    EndsNumber rest ↔ (∀ b ∈ rest.head?, isDigitOctet b = false) ∧
      rest.head?.getD 0 ≠ 0x2E ∧ isExponentMark (rest.head?.getD 0) = false := by
  cases rest with
  | nil => simp [EndsNumber, isExponentMark]
  | cons b rest => simp [EndsNumber]

theorem takes_numberTail_of_end {negative : Bool} {n : Nat} {e : Int}
    (hend : ∀ b ∈ c.rest.head?, isDigitOctet b = false) :
    Takes (numberTail negative n) c (.ofInt e) rest ↔
      EndsNumber rest ∧ Signed negative n e ∧ c.rest = rest := by
  rw [takes_numberTail]
  constructor
  · rintro ⟨hmarks, hsigned, rfl⟩
    exact ⟨endsNumber_iff.mpr ⟨hend, hmarks⟩, hsigned, rfl⟩
  · rintro ⟨hends, hsigned, rfl⟩
    exact ⟨(endsNumber_iff.mp hends).2, hsigned, rfl⟩

/-- The number that the digits at the front make. -/
def leading (bs : Octets) : Nat := readOn 0 (bs.takeWhile isDigitOctet)

theorem leading_zero {bs : Octets} (hend : ∀ b ∈ bs.head?, isDigitOctet b = false) :
    leading (0x30 :: bs) = 0 := by
  rw [leading, takeWhile_zero hend]
  rfl

theorem leading_cons {b : UInt8} {bs : Octets} (hdigit : isDigitOctet b = true) :
    leading (b :: bs) = readOn (b.toNat - 0x30) (bs.takeWhile isDigitOctet) := by
  rw [leading, List.takeWhile_cons_of_pos hdigit, readOn, List.foldl_cons, Nat.zero_mul,
    Nat.zero_add]
  rfl

/-- The grammar has a whole number at the front, and it fits. -/
def FitsWhole (negative : Bool) (e : Int) (bs rest : Octets) : Prop :=
  Whole bs rest ∧ EndsNumber rest ∧ leading bs ≤ maxUInt64 ∧ Signed negative (leading bs) e

theorem fitsWhole_iff {negative : Bool} {e : Int} {bs : Octets} :
    FitsWhole negative e bs rest ↔
      ∃ n, bs = numeral n ++ rest ∧ EndsNumber rest ∧ n ≤ maxUInt64 ∧ Signed negative n e := by
  constructor
  · rintro ⟨hwhole, hend, hfits, hsigned⟩
    exact ⟨_, (numeral_append_iff.mpr ⟨hwhole, rfl⟩).1, hend, hfits, hsigned⟩
  · rintro ⟨n, hbs, hend, hfits, hsigned⟩
    obtain ⟨hwhole, rfl⟩ := numeral_append_iff.mp ⟨hbs, (endsNumber_iff.mp hend).1⟩
    exact ⟨hwhole, hend, hfits, hsigned⟩

section

variable {negative : Bool} {e : Int} {b : UInt8} {bs : Octets}

/-- No digit stands behind a zero at the front. -/
theorem takes_number_of_zero (hc : c.rest = 0x30 :: bs) :
    Takes (number negative) c (.ofInt e) rest ↔ FitsWhole negative e (0x30 :: bs) rest := by
  have hrest := Cursor.tail_of_cons hc
  unfold number
  rw [takes_next_bind, hc, List.head?_cons]
  dsimp only
  rw [if_pos (beq_self_eq_true _), takes_peekOrZero_bind, hrest, takes_ite]
  split
  · next hdigit =>
    refine iff_of_false not_takes_failAtNext_bind ?_
    rintro ⟨hwhole, -⟩
    cases hwhole with
    | zero hend => exact absurd hdigit (Bool.eq_false_iff.mp ((forall_head_iff rfl).mp hend))
    | digits hne => exact hne rfl
  · next hdigit =>
    have hend := (forall_head_iff rfl).mpr (Bool.eq_false_iff.mpr hdigit)
    rw [takes_numberTail_of_end (hrest.symm ▸ hend), hrest, FitsWhole, leading_zero hend]
    constructor
    · rintro ⟨hends, hsigned, rfl⟩
      exact ⟨.zero hend, hends, Nat.zero_le _, hsigned⟩
    · rintro ⟨hwhole, hends, -, hsigned⟩
      cases hwhole with
      | zero => exact ⟨hends, hsigned, rfl⟩
      | digits hne => exact absurd rfl hne

theorem takes_number_of_digit (hc : c.rest = b :: bs) (hzero : b ≠ 0x30)
    (hdigit : isDigitOctet b = true) :
    Takes (number negative) c (.ofInt e) rest ↔ FitsWhole negative e (b :: bs) rest := by
  have hrest := Cursor.tail_of_cons hc
  have hfirst : b.toNat - 0x30 ≤ maxUInt64 :=
    Nat.le_trans (Nat.le_of_lt (Nat.lt_of_le_of_lt (Nat.sub_le _ _) b.toNat_lt)) (by decide)
  unfold number
  rw [takes_next_bind, hc, List.head?_cons, FitsWhole, leading_cons hdigit]
  dsimp only
  rw [if_neg (mt beq_iff_eq.mp hzero), if_pos hdigit, takes_remaining_bind]
  constructor
  · intro h
    obtain ⟨⟨n, k, fits⟩, c', hn, h⟩ := takes_of_bind h
    cases fits with
    | false => exact absurd h not_takes_longNumber
    | true =>
      rw [takes_wordDigits (Nat.lt_succ_self _) hfirst, hrest] at hn
      obtain ⟨rfl, hfits, -, hbehind⟩ := hn
      have hend := head_behind_digits bs
      rw [← hbehind] at hend
      obtain ⟨hends, hsigned, rfl⟩ := (takes_numberTail_of_end hend).mp h
      exact ⟨.digits hzero (digits_cons.mpr ⟨hdigit, hbehind.symm⟩), hends, hfits, hsigned⟩
  · rintro ⟨hwhole, hends, hfits, hsigned⟩
    cases hwhole with
    | zero => exact absurd rfl hzero
    | digits _ hdigits =>
      have hbehind := (digits_cons.mp hdigits).2
      rw [← hrest] at hbehind hfits hsigned
      refine Takes.bind ((takes_wordDigits (Nat.lt_succ_self _) hfirst).mpr
        ⟨rfl, hfits, rfl, hbehind.symm⟩) fun c' h' => ?_
      exact takes_numberTail.mpr ⟨h' ▸ (endsNumber_iff.mp hends).2, hsigned, h'⟩

/-- A number is whole just where it is written as one. -/
theorem takes_number : Takes (number negative) c (.ofInt e) rest ↔
    ∃ n, c.rest = numeral n ++ rest ∧ EndsNumber rest ∧ n ≤ maxUInt64 ∧ Signed negative n e := by
  rw [← fitsWhole_iff]
  rcases hc : c.rest with _ | ⟨b, bs⟩
  · unfold number
    rw [takes_next_bind, hc]
    refine iff_of_false not_takes_fail ?_
    rintro ⟨⟨⟩ | ⟨_, h⟩, _⟩
  by_cases hzero : b = 0x30
  · exact hzero ▸ takes_number_of_zero (hzero ▸ hc)
  by_cases hdigit : isDigitOctet b = true
  · exact takes_number_of_digit hc hzero hdigit
  · unfold number
    rw [takes_next_bind, hc, List.head?_cons]
    dsimp only
    rw [if_neg (mt beq_iff_eq.mp hzero), if_neg hdigit]
    refine iff_of_false not_takes_fail ?_
    rintro ⟨hwhole, -⟩
    cases hwhole with
    | zero => exact hzero rfl
    | digits _ h => exact hdigit (digits_cons.mp h).1

end

end Reader

namespace Form

open Grammar Reader

variable {α : Type} {c : Cursor} {rest : Octets}

theorem int_ofValue {limit : Nat} {name : String} {n : Num} {e : Int} :
    (int limit name).ofValue (.num n) = .ok e ↔
      n = Num.ofInt e ∧ -(limit : Int) - 1 ≤ e ∧ e ≤ limit := by
  unfold int numberBy
  rw [eq_comm (a := n)]
  cases n with
  | nat m =>
    rw [ofInt_eq_nat]
    dsimp only
    split
    · simp
      omega
    · simp
      omega
  | negative m =>
    rw [ofInt_eq_negative]
    dsimp only
    split
    · simp
      omega
    · simp
      omega
  | float x => simp [ofInt_ne_float]

theorem takes_numberBy {expected : String} {parse : Num → Except Cause α} {a : α} :
    Takes (numberBy expected parse).ofText c a rest ↔
      ∃ n, parse n = .ok a ∧
        ((∃ bs, past c.rest = 0x2D :: bs ∧ Takes (number true) c.pastBlanks.tail n rest) ∨
          (∃ b ∈ (past c.rest).head?, isDigitOctet b = true) ∧
            Takes (number false) c.pastBlanks n rest) := by
  show Takes (do
    let b ← firstOctet
    if b == 0x2D then
      eat
      judged (parse (← number true))
    else if isDigitOctet b then judged (parse (← number false))
    else mismatch expected) c a rest ↔ _
  rw [takes_firstOctet_bind]
  constructor
  · rintro ⟨b, bs, hpast, h⟩
    by_cases hminus : b = 0x2D
    · rw [if_pos (beq_iff_eq.mpr hminus), takes_eat_bind] at h
      obtain ⟨n, c', hn, h⟩ := takes_of_bind h
      obtain ⟨hparse, rfl⟩ := takes_judged.mp h
      exact ⟨n, hparse, .inl ⟨bs, hminus ▸ hpast, hn⟩⟩
    rw [if_neg (mt beq_iff_eq.mp hminus)] at h
    by_cases hdigit : isDigitOctet b = true
    · rw [if_pos hdigit] at h
      obtain ⟨n, c', hn, h⟩ := takes_of_bind h
      obtain ⟨hparse, rfl⟩ := takes_judged.mp h
      exact ⟨n, hparse, .inr ⟨⟨b, by rw [hpast]; rfl, hdigit⟩, hn⟩⟩
    · rw [if_neg hdigit] at h
      exact absurd h not_takes_mismatch
  · rintro ⟨n, hparse, ⟨bs, hpast, hn⟩ | ⟨⟨b, hb, hdigit⟩, hn⟩⟩
    · refine ⟨_, _, hpast, ?_⟩
      rw [if_pos (beq_self_eq_true _), takes_eat_bind]
      exact hn.bind fun c' h' => takes_judged.mpr ⟨hparse, h'⟩
    · obtain ⟨bs, hpast⟩ := List.head?_eq_some_iff.mp hb
      have hminus : b ≠ 0x2D := by
        rintro rfl
        exact absurd hdigit (by decide)
      refine ⟨_, _, hpast, ?_⟩
      rw [if_neg (mt beq_iff_eq.mp hminus), if_pos hdigit]
      exact hn.bind fun c' h' => takes_judged.mpr ⟨hparse, h'⟩

theorem takes_int {limit : Nat} {name : String} {e : Int} (hlimit : limit ≤ maxInt64) :
    Takes (int limit name).ofText c e rest ↔
      IsInteger e (past c.rest) rest ∧ -(limit : Int) - 1 ≤ e ∧ e ≤ limit := by
  have hofValue (n : Num) : (int limit name).ofValue (.num n) = .ok e ↔
      n = Num.ofInt e ∧ -(limit : Int) - 1 ≤ e ∧ e ≤ limit := int_ofValue
  have hmax : maxInt64 + 1 ≤ maxUInt64 := by decide
  refine takes_numberBy.trans ?_
  constructor
  · rintro ⟨n, hparse, hn⟩
    obtain ⟨rfl, hbounds⟩ := (hofValue n).mp hparse
    refine ⟨?_, hbounds⟩
    rcases hn with ⟨bs, hpast, hn⟩ | ⟨-, hn⟩
    · obtain ⟨m, hm, hend, -, hsigned⟩ := takes_number.mp hn
      rw [Cursor.tail_of_cons (c.pastBlanks_rest.trans hpast)] at hm
      obtain ⟨hne, -, rfl⟩ : m ≠ 0 ∧ m ≤ maxInt64 + 1 ∧ e = -m := hsigned
      refine ⟨?_, hend⟩
      rw [ofString_intText_of_neg (by omega), hpast, hm]
      simp
    · obtain ⟨m, hm, hend, -, hsigned⟩ := takes_number.mp hn
      obtain rfl : e = m := hsigned
      refine ⟨?_, hend⟩
      rw [ofString_intText (by omega), ← c.pastBlanks_rest, hm]
      simp
  · rintro ⟨⟨hpast, hend⟩, hbounds⟩
    refine ⟨Num.ofInt e, (hofValue _).mpr ⟨rfl, hbounds⟩, ?_⟩
    by_cases hneg : e < 0
    · rw [ofString_intText_of_neg hneg, List.cons_append] at hpast
      refine .inl ⟨_, hpast, takes_number.mpr ⟨e.natAbs, ?_, hend, by omega, ?_⟩⟩
      · exact Cursor.tail_of_cons (c.pastBlanks_rest.trans hpast)
      · exact ⟨by omega, by omega, by omega⟩
    · rw [ofString_intText (by omega)] at hpast
      refine .inr ⟨?_, takes_number.mpr ⟨e.natAbs, ?_, hend, by omega, ?_⟩⟩
      · obtain ⟨b, bs, hds⟩ := List.exists_cons_of_ne_nil (numeral_ne_nil e.natAbs)
        refine ⟨b, by rw [hpast, hds]; rfl, numeral_digits e.natAbs b ?_⟩
        rw [hds]
        exact List.mem_cons_self
      · rw [c.pastBlanks_rest, hpast]
      · show e = e.natAbs
        omega

end Form

end RemoteNotes.Json
