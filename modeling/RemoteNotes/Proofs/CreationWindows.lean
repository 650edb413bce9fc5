import RemoteNotes.Proofs.Instants
import RemoteNotes.Proofs.SearchFilters

/-!
# Windows of creation

Times of creation count whole seconds on the server, and the window of a search is to the
nanosecond. Its two bounds are rounded apart, so that the expression of a valid filter admits a
second just if some instant of that second lies in the window (`admits_second_iff`).
-/

namespace RemoteNotes

open Search Time

/-- Whether a clause lets memos of a second pass, as far as their time of creation goes. -/
def Search.Clause.AdmitsSecond (s : Int) : Clause → Prop
  | .createdFrom first => first ≤ s
  | .createdBefore bound => s < bound
  | _ => True

namespace SearchFilter

variable {f : SearchFilter}

/-- The clauses that are read in what is sent for a filter. -/
def sentClauses? (f : SearchFilter) : Option (List Clause) :=
  f.filterExpression.toOption.bind fun expression => expression.elim (some []) readExpression?

/-- An instant lies in the window of creation. A bound that is missing leaves it open. -/
structure Spans (f : SearchFilter) (t : Instant) : Prop where
  after : ∀ a ∈ f.createdAfter, a.sinceEpoch ≤ t.sinceEpoch
  before : ∀ b ∈ f.createdBefore, t.sinceEpoch < b.sinceEpoch

/-- No bound of the window is in a leap second. -/
structure HasPlainBounds (f : SearchFilter) : Prop where
  after : ∀ a ∈ f.createdAfter, a.IsPlain
  before : ∀ b ∈ f.createdBefore, b.IsPlain

-- ---------------------------------------------------------------------------
-- What is sent
-- ---------------------------------------------------------------------------

theorem sentClauses?_of_valid (h : f.violations = []) :
    ∃ k, f.Asks k ∧ f.sentClauses? = some k.clauses := by
  obtain ⟨k, hk, hclauses⟩ := clauses_of_valid h
  refine ⟨k, hk, ?_⟩
  simp only [sentClauses?, filterExpression, hclauses]
  exact expression?_elim k.isProper_of_mem_clauses

theorem forall_toList_map {α : Type} {o : Option α} {make : α → Clause} {p : Clause → Prop} :
    (∀ c ∈ (o.map make).toList, p c) ↔ ∀ x ∈ o, p (make x) := by
  cases o <;> simp

/-- Of the clauses that are sent, those for the bounds alone tell seconds apart. -/
theorem Asks.admits_iff {k : Conditions} (h : f.Asks k) (s : Int) :
    (∀ c ∈ k.clauses, c.AdmitsSecond s) ↔
      (∀ a ∈ f.createdAfter, a.seconds ≤ s) ∧ ∀ b ∈ f.createdBefore, s < b.ceilSeconds := by
  have htags : ∀ c ∈ (if k.tags.isEmpty then [] else [Clause.taggedWithAny k.tags]),
      c.AdmitsSecond s := by
    split <;> simp [Clause.AdmitsSecond]
  simp only [Conditions.clauses, h.since, h.before, Option.map_map, List.forall_mem_append,
    forall_toList_map]
  constructor
  · rintro ⟨⟨-, hafter⟩, hbefore⟩
    exact ⟨hafter, hbefore⟩
  · rintro ⟨hafter, hbefore⟩
    exact ⟨⟨⟨⟨⟨fun _ _ => trivial, htags⟩, fun _ _ => trivial⟩, fun _ _ => trivial⟩, hafter⟩,
      hbefore⟩

-- ---------------------------------------------------------------------------
-- Seconds and the window
-- ---------------------------------------------------------------------------

/-- The window of a valid filter is not empty. -/
theorem after_lt_before (h : f.violations = []) (hplain : f.HasPlainBounds) :
    ∀ a ∈ f.createdAfter, ∀ b ∈ f.createdBefore, a.sinceEpoch < b.sinceEpoch := by
  intro a ha b hb
  have hwindow : f.windowViolations = [] := by
    simp only [violations, List.append_eq_nil_iff] at h
    exact h.1.2
  simp only [windowViolations, Option.mem_def.mp ha, Option.mem_def.mp hb] at hwindow
  rw [← Instant.lt_iff (hplain.after a ha) (hplain.before b hb)]
  simpa [Instant.le] using hwindow

/-- The instant to look at is the first bound if the second holds it, and else the start of the
second. -/
theorem exists_spans_iff (hplain : f.HasPlainBounds)
    (hwindow : ∀ a ∈ f.createdAfter, ∀ b ∈ f.createdBefore, a.sinceEpoch < b.sinceEpoch)
    (s : Int) :
    (∃ t : Instant, t.IsPlain ∧ t.seconds = s ∧ f.Spans t) ↔
      (∀ a ∈ f.createdAfter, a.seconds ≤ s) ∧ ∀ b ∈ f.createdBefore, s < b.ceilSeconds := by
  constructor
  · rintro ⟨t, ht, rfl, hspan⟩
    refine ⟨fun a ha => Instant.seconds_le ht (hspan.after a ha), fun b hb => ?_⟩
    rw [← Instant.startOf_lt_iff (hplain.before b hb)]
    exact Int.lt_of_le_of_lt t.startOf_le (hspan.before b hb)
  · rintro ⟨hafter, hbefore⟩
    by_cases hheld : ∃ a ∈ f.createdAfter, a.seconds = s
    · obtain ⟨a, ha, rfl⟩ := hheld
      refine ⟨a, hplain.after a ha, rfl, fun a' ha' => ?_, hwindow a ha⟩
      cases Option.mem_unique ha' ha
      exact Int.le_refl _
    · refine ⟨.startOf s, Instant.isPlain_startOf s, rfl, fun a ha => ?_, fun b hb => ?_⟩
      · have hne : a.seconds ≠ s := fun heq => hheld ⟨a, ha, heq⟩
        have hbelow : a.seconds < s := by have := hafter a ha; omega
        exact Instant.le_startOf (hplain.after a ha) hbelow
      · exact (Instant.startOf_lt_iff (hplain.before b hb) s).mpr (hbefore b hb)

/-- The clauses that are sent admit a second just if the window reaches into it. -/
theorem admits_second_iff (f : SearchFilter) (h : f.violations = [])
    (hplain : f.HasPlainBounds) :
    ∃ clauses, f.sentClauses? = some clauses ∧ ∀ s, (∀ c ∈ clauses, c.AdmitsSecond s) ↔
      ∃ t : Instant, t.IsPlain ∧ t.seconds = s ∧ f.Spans t := by
  obtain ⟨k, hk, hsent⟩ := sentClauses?_of_valid h
  refine ⟨k.clauses, hsent, fun s => ?_⟩
  rw [hk.admits_iff, exists_spans_iff hplain (after_lt_before h hplain)]

/-- A window of one nanosecond within a second before 1970. -/
theorem admits_second_of_nanosecond :
    let f : SearchFilter := {
      createdAfter := some ⟨-2, 500000000⟩, createdBefore := some ⟨-2, 500000001⟩ }
    f.violations = [] ∧ f.HasPlainBounds ∧ ∃ clauses, f.sentClauses? = some clauses ∧
      ∀ s, (∀ c ∈ clauses, c.AdmitsSecond s) ↔ s = -2 := by
  intro f
  have hvalid : f.violations = [] := by decide +kernel
  have hplain : f.HasPlainBounds := by
    constructor <;> simp [f, Instant.IsPlain, nanosPerSecond]
  obtain ⟨clauses, hsent, hadmits⟩ := admits_second_iff f hvalid hplain
  refine ⟨hvalid, hplain, clauses, hsent, fun s => (hadmits s).trans ?_⟩
  rw [exists_spans_iff hplain (after_lt_before hvalid hplain)]
  simp only [f, Option.mem_some_iff, forall_eq', Instant.ceilSeconds]
  omega

end SearchFilter

end RemoteNotes
