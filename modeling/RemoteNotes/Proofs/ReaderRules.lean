import RemoteNotes.Json.Form

/-!
# What readers accept

A reader is described by the octets in front of it, the result and the octets that it leaves;
the places that it keeps track of matter to faults only. Each primitive has its rule, and
`takes_bind` puts them together.
-/

namespace RemoteNotes.Json

open Text.Utf8 (Octets)

/-- The octets from the first one that is no blank. -/
def Reader.past (bs : Octets) : Octets := bs.dropWhile isBlankOctet

namespace Cursor

/-- The cursor behind the next octet. -/
def tail (c : Cursor) : Cursor :=
  match c.rest with
  | [] => c
  | b :: rest => ⟨rest, Reader.advance c.position b⟩

@[simp] theorem tail_rest (c : Cursor) : c.tail.rest = c.rest.tail := by
  unfold tail
  split <;> simp_all

theorem tail_of_cons {c : Cursor} {b : UInt8} {bs : Octets} (h : c.rest = b :: bs) :
    c.tail.rest = bs := by
  rw [tail_rest, h, List.tail_cons]

def pastBlanks (c : Cursor) : Cursor := Reader.dropBlanks c.rest c.position

@[simp] theorem pastBlanks_rest (c : Cursor) :
    c.pastBlanks.rest = Reader.past c.rest := by
  obtain ⟨bs, p⟩ := c
  show (Reader.dropBlanks bs p).rest = bs.dropWhile Reader.isBlankOctet
  induction bs generalizing p with
  | nil => rfl
  | cons b bs ih =>
    unfold Reader.dropBlanks
    split
    · next h => rw [ih, List.dropWhile_cons_of_pos h]
    · next h => rw [List.dropWhile_cons_of_neg h]

end Cursor

namespace Reader

variable {α β : Type}

/-- The reader succeeds with this result and leaves these octets. -/
def Takes (r : Reader α) (c : Cursor) (a : α) (rest : Octets) : Prop :=
  ∃ c', r.run c = (.ok a, c') ∧ c'.rest = rest

variable {c : Cursor} {a : α} {b : β} {rest : Octets}

-- ---------------------------------------------------------------------------
-- Readers put together
-- ---------------------------------------------------------------------------

theorem run_bind (r : Reader α) (f : α → Reader β) (c : Cursor) :
    (r >>= f).run c =
      match r.run c with
      | (.ok a, c') => (f a).run c'
      | (.error e, c') => (.error e, c') := by
  show (r >>= f) c = _
  simp only [bind, ExceptT.bind, ExceptT.mk, StateT.bind, ExceptT.run]
  rcases r c with ⟨_ | _, _⟩ <;> rfl

theorem takes_of_run_ok {r : Reader α} {a' : α} {c' : Cursor} (h : r.run c = (.ok a', c')) :
    Takes r c a rest ↔ a' = a ∧ c'.rest = rest := by
  rw [Takes, h]
  constructor
  · rintro ⟨_, heq, hrest⟩
    cases heq
    exact ⟨rfl, hrest⟩
  · rintro ⟨rfl, hrest⟩
    exact ⟨c', rfl, hrest⟩

theorem not_takes_of_run_error {r : Reader α} {e : Fault} {c' : Cursor}
    (h : r.run c = (.error e, c')) : ¬Takes r c a rest := by
  rw [Takes, h]
  rintro ⟨_, heq, _⟩
  cases heq

@[simp] theorem takes_pure {a' : α} :
    Takes (pure a' : Reader α) c a rest ↔ a' = a ∧ c.rest = rest := takes_of_run_ok rfl

theorem takes_bind {r : Reader α} {f : α → Reader β} :
    Takes (r >>= f) c b rest ↔ ∃ a c', r.run c = (.ok a, c') ∧ Takes (f a) c' b rest := by
  unfold Takes
  rw [run_bind]
  rcases r.run c with ⟨_ | a, c'⟩
  · constructor
    · rintro ⟨_, h, _⟩
      cases h
    · rintro ⟨_, _, h, _⟩
      cases h
  · constructor
    · rintro h
      exact ⟨a, c', rfl, h⟩
    · rintro ⟨_, _, h, hrest⟩
      cases h
      exact hrest

theorem takes_of_bind {r : Reader α} {f : α → Reader β} (h : Takes (r >>= f) c b rest) :
    ∃ a c', Takes r c a c'.rest ∧ Takes (f a) c' b rest := by
  obtain ⟨a, c', hr, hf⟩ := takes_bind.mp h
  exact ⟨a, c', ⟨c', hr, rfl⟩, hf⟩

/-- The second reader may start at any cursor in front of the octets that the first one left. -/
theorem Takes.bind {r : Reader α} {f : α → Reader β} {m : Octets} (hr : Takes r c a m)
    (hf : ∀ c' : Cursor, c'.rest = m → Takes (f a) c' b rest) : Takes (r >>= f) c b rest := by
  obtain ⟨c', hrun, hm⟩ := hr
  exact takes_bind.mpr ⟨a, c', hrun, hf c' hm⟩

/-- Where the first reader is known to succeed. -/
theorem takes_bind_of_run {r : Reader α} {f : α → Reader β} {c' : Cursor}
    (hr : r.run c = (.ok a, c')) : Takes (r >>= f) c b rest ↔ Takes (f a) c' b rest := by
  unfold Takes
  rw [run_bind, hr]

@[simp] theorem not_takes_throw {f : Fault} : ¬Takes (throw f : Reader α) c a rest :=
  not_takes_of_run_error rfl

theorem not_takes_bind {r : Reader α} {f : α → Reader β} (h : ∀ a mid, ¬Takes r c a mid) :
    ¬Takes (r >>= f) c b rest := by
  rw [takes_bind]
  rintro ⟨a, c', hr, -⟩
  exact h a c'.rest ⟨c', hr, rfl⟩

@[simp] theorem takes_map {r : Reader α} {f : α → β} :
    Takes (f <$> r) c b rest ↔ ∃ a, Takes r c a rest ∧ f a = b := by
  rw [map_eq_pure_bind]
  constructor
  · intro h
    obtain ⟨a, c', hr, h⟩ := takes_of_bind h
    obtain ⟨hfa, rfl⟩ := takes_pure.mp h
    exact ⟨a, hr, hfa⟩
  · rintro ⟨a, hr, rfl⟩
    exact hr.bind fun c' h' => takes_pure.mpr ⟨rfl, h'⟩

-- ---------------------------------------------------------------------------
-- Primitives
-- ---------------------------------------------------------------------------

section

variable {fault : GrammarFault} {cause : Cause}

@[simp] theorem takes_get_bind {f : Cursor → Reader β} :
    Takes (get >>= f) c b rest ↔ Takes (f c) c b rest := takes_bind_of_run rfl

@[simp] theorem takes_peek_bind {f : Option UInt8 → Reader β} :
    Takes (peek >>= f) c b rest ↔ Takes (f c.rest.head?) c b rest := takes_bind_of_run rfl

@[simp] theorem takes_peekOrZero_bind {f : UInt8 → Reader β} :
    Takes (peekOrZero >>= f) c b rest ↔ Takes (f (c.rest.head?.getD 0)) c b rest :=
  takes_bind_of_run rfl

@[simp] theorem takes_remaining_bind {f : Nat → Reader β} :
    Takes (remaining >>= f) c b rest ↔ Takes (f c.rest.length) c b rest := takes_bind_of_run rfl

@[simp] theorem takes_peekPastBlanks_bind {f : Option UInt8 → Reader β} :
    Takes (peekPastBlanks >>= f) c b rest ↔
      Takes (f (past c.rest).head?) c.pastBlanks b rest := by
  rw [← Cursor.pastBlanks_rest]
  exact takes_bind_of_run rfl

theorem run_next : next.run c = (.ok c.rest.head?, c.tail) := by
  obtain ⟨_ | ⟨b, bs⟩, p⟩ := c <;> rfl

theorem run_eat : eat.run c = (.ok (), c.tail) := by
  unfold eat
  rw [run_bind, run_next]
  rfl

@[simp] theorem takes_next_bind {f : Option UInt8 → Reader β} :
    Takes (next >>= f) c b rest ↔ Takes (f c.rest.head?) c.tail b rest :=
  takes_bind_of_run run_next

@[simp] theorem takes_eat_bind {f : Unit → Reader β} :
    Takes (eat >>= f) c b rest ↔ Takes (f ()) c.tail b rest := takes_bind_of_run run_eat

@[simp] theorem takes_eat {u : Unit} : Takes eat c u rest ↔ c.rest.tail = rest := by
  rw [takes_of_run_ok run_eat, Cursor.tail_rest]
  exact and_iff_right rfl

@[simp] theorem not_takes_fail : ¬Takes (fail fault : Reader α) c a rest := by
  simp [fail]

@[simp] theorem not_takes_failAtNext : ¬Takes (failAtNext fault : Reader α) c a rest := by
  simp [failAtNext]

@[simp] theorem not_takes_refuse : ¬Takes (refuse cause : Reader α) c a rest := by
  simp [refuse]

@[simp] theorem not_takes_fail_bind {f : α → Reader β} :
    ¬Takes (fail fault >>= f) c b rest := not_takes_bind fun _ _ => not_takes_fail

@[simp] theorem not_takes_failAtNext_bind {f : α → Reader β} :
    ¬Takes (failAtNext fault >>= f) c b rest := not_takes_bind fun _ _ => not_takes_failAtNext

@[simp] theorem takes_ite {p : Prop} [Decidable p] {r s : Reader α} :
    Takes (if p then r else s) c a rest ↔ if p then Takes r c a rest else Takes s c a rest := by
  split <;> rfl

theorem run_attempt {r : Reader α} {result : Except Fault α} {c' : Cursor}
    (h : r.run c = (result, c')) : (attempt r).run c = (.ok result, c') := by
  show (Except.ok (r.run c).1, (r.run c).2) = _
  rw [h]

/-- The place of a failure does not matter to a success. -/
@[simp] theorem takes_located {r : Reader α} : Takes (located r) c a rest ↔ Takes r c a rest := by
  unfold located
  rcases h : r.run c with ⟨e | a', c'⟩
  · rw [takes_bind_of_run (run_attempt h)]
    exact iff_of_false (by simp) (not_takes_of_run_error h)
  · rw [takes_bind_of_run (run_attempt h), takes_of_run_ok h, takes_pure]

/-- What is inside brackets, then the closing one. -/
theorem takes_enclosed {r : Reader α} {close : Reader Unit} :
    Takes (enclosed r close) c a rest ↔ Takes (do let a ← r; close; return a) c a rest := by
  unfold enclosed
  rcases h : r.run c with ⟨e | a', c'⟩
  · rw [takes_bind_of_run (run_attempt h)]
    rcases hclose : close.run c' with ⟨result, c''⟩
    rw [takes_bind_of_run (run_attempt hclose)]
    exact iff_of_false not_takes_throw (not_takes_bind fun _ _ => not_takes_of_run_error h)
  · rw [takes_bind_of_run (run_attempt h), takes_bind_of_run h]
    rcases hclose : close.run c' with ⟨e | _, c''⟩
    · rw [takes_bind_of_run (run_attempt hclose)]
      exact iff_of_false not_takes_throw (not_takes_bind fun _ _ => not_takes_of_run_error hclose)
    · rw [takes_bind_of_run (run_attempt hclose), takes_bind_of_run hclose]

-- ---------------------------------------------------------------------------
-- Names and digits
-- ---------------------------------------------------------------------------

@[simp] theorem takes_ident {w : Octets} {u : Unit} :
    Takes (ident w) c u rest ↔ c.rest = w ++ rest := by
  induction w generalizing c with
  | nil => simp [ident]
  | cons b w ih =>
    unfold ident
    rw [takes_next_bind]
    rcases hc : c.rest with _ | ⟨b', bs⟩
    · simp
    · simp only [List.head?_cons, takes_ite, ih, Cursor.tail_rest, hc, List.tail_cons,
        not_takes_fail, beq_iff_eq, List.cons_append, List.cons.injEq]
      split <;> simp_all

theorem takes_countDigits {fuel taken n : Nat} (hfuel : c.rest.length < fuel) :
    Takes (countDigits fuel taken) c n rest ↔
      n = taken + (c.rest.takeWhile isDigitOctet).length ∧
        rest = c.rest.dropWhile isDigitOctet := by
  induction fuel generalizing c taken with
  | zero => omega
  | succ fuel ih =>
    unfold countDigits
    rw [takes_peekOrZero_bind, takes_ite]
    rcases hc : c.rest with _ | ⟨b, bs⟩
    · simp [isDigitOctet, hc, eq_comm]
    · have hshort : c.tail.rest.length < fuel := by
        simp only [hc, List.length_cons] at hfuel
        simp only [Cursor.tail_rest, hc, List.tail_cons]
        omega
      simp only [List.head?_cons, Option.getD_some, takes_eat_bind]
      rw [ih hshort, Cursor.tail_rest, hc, List.tail_cons]
      by_cases hb : isDigitOctet b = true
      · simp [hb]
        omega
      · simp [hb, hc, eq_comm]

/-- Digits are taken as far as they go. -/
@[simp] theorem takes_skipDigits {n : Nat} :
    Takes skipDigits c n rest ↔
      n = (c.rest.takeWhile isDigitOctet).length ∧ rest = c.rest.dropWhile isDigitOctet := by
  unfold skipDigits
  rw [takes_remaining_bind, takes_countDigits (Nat.lt_succ_self _), Nat.zero_add]

end

end Reader

end RemoteNotes.Json
