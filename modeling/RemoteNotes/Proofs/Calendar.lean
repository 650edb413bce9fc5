import RemoteNotes.Time.Calendar

/-!
# Days and dates

Every day has a date, and the date tells the day (`isValid_ofDayNumber`,
`dayNumber_ofDayNumber`).
-/

namespace RemoteNotes.Time

theorem foldl_add (n : Nat) (lengths : List Nat) :
    lengths.foldl (· + ·) n = n + lengths.foldl (· + ·) 0 := by
  induction lengths generalizing n with
  | nil => rfl
  | cons length rest ih =>
    rw [List.foldl_cons, List.foldl_cons, ih (n + length), ih (0 + length)]
    omega

theorem daysOf_monthLengths (y : Int) :
    (monthLengths y).foldl (· + ·) 0 = if isLeapYear y then 366 else 365 := by
  unfold monthLengths
  cases isLeapYear y <;> rfl

/-- A day within some months lies in one of them, behind the days of those before it. -/
theorem monthAndDay_eq {lengths : List Nat} {n : Nat} (h : n < lengths.foldl (· + ·) 0)
    (month : Nat) :
    ∃ k day, monthAndDay month lengths n = (month + k, day) ∧ k < lengths.length ∧
      1 ≤ day ∧ day ≤ lengths.getD k 0 ∧ (lengths.take k).foldl (· + ·) 0 + (day - 1) = n := by
  induction lengths generalizing month n with
  | nil => exact absurd h (Nat.not_lt_zero n)
  | cons length rest ih =>
    rw [List.foldl_cons, foldl_add] at h
    unfold monthAndDay
    split
    · exact ⟨0, n + 1, rfl, Nat.zero_lt_succ _, by omega, by simpa, by simp⟩
    · obtain ⟨k, day, heq, hk, hfirst, hlast, hn⟩ := ih (n := n - length) (by omega) (month + 1)
      refine ⟨k + 1, day, ?_, Nat.succ_lt_succ hk, hfirst, hlast, ?_⟩
      · rw [heq, Nat.add_right_comm, Nat.add_assoc]
      · rw [List.take_succ_cons, List.foldl_cons, foldl_add]
        omega

/-- The date of a day, given its place in its year. -/
theorem ofDayNumber_eq (n : Int) :
    ∃ k day, Date.ofDayNumber n = ⟨yearOf n, k + 1, day⟩ ∧ k < 12 ∧ 1 ≤ day ∧
      day ≤ (monthLengths (yearOf n)).getD k 0 ∧
      (((monthLengths (yearOf n)).take k).foldl (· + ·) 0 + (day - 1) : Nat) =
        n - yearStart (yearOf n) := by
  obtain ⟨hfirst, hlast⟩ := yearOf_bounds n
  have hin : (n - yearStart (yearOf n)).toNat < (monthLengths (yearOf n)).foldl (· + ·) 0 := by
    rw [daysOf_monthLengths]
    rw [yearStart_succ] at hlast
    cases hleap : isLeapYear (yearOf n) <;> simp only [hleap, ↓reduceIte, Bool.false_eq_true] at hlast ⊢ <;>
      omega
  obtain ⟨k, day, heq, hk, hday, hlength, hn⟩ := monthAndDay_eq hin 1
  refine ⟨k, day, ?_, hk, hday, hlength, by omega⟩
  simp [Date.ofDayNumber, heq, Nat.add_comm]

theorem isValid_ofDayNumber (n : Int) : (Date.ofDayNumber n).IsValid := by
  obtain ⟨k, day, heq, hk, hday, hlength, -⟩ := ofDayNumber_eq n
  rw [heq]
  exact ⟨Nat.le_add_left 1 k, hk, hday, hlength⟩

theorem dayNumber_ofDayNumber (n : Int) : (Date.ofDayNumber n).dayNumber = n := by
  obtain ⟨k, day, heq, -, -, -, hn⟩ := ofDayNumber_eq n
  rw [heq]
  simp only [Date.dayNumber, daysBefore, Nat.add_sub_cancel]
  omega

end RemoteNotes.Time
