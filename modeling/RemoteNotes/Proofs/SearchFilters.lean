import RemoteNotes.Proofs.SearchExpressions

/-!
# What a search filter asks for

A valid filter is sent as an expression from which the conditions it stands for can be read
back, each of them and nothing else (`filterExpression_readable`). Filters with one expression
ask for the same.
-/

namespace RemoteNotes

open Search

/-- The conditions of a search, in the forms in which they are sent. -/
@[ext]
structure Conditions where
  text : Option String
  tags : List String
  creator : Option UserName
  visibility : Option Visibility
  /-- The first second of the window of creation. -/
  since : Option Int
  /-- The first second after the window of creation. -/
  before : Option Int

namespace Conditions

def clauses (k : Conditions) : List Clause :=
  (k.text.map .contentHolds).toList ++
    (if k.tags.isEmpty then [] else [.taggedWithAny k.tags]) ++
    (k.creator.map .createdBy).toList ++
    (k.visibility.map .visibleTo).toList ++
    (k.since.map .createdFrom).toList ++
    (k.before.map .createdBefore).toList

def put (k : Conditions) : Clause → Conditions
  | .contentHolds text => { k with text := some text }
  | .taggedWithAny tags => { k with tags }
  | .createdBy creator => { k with creator := some creator }
  | .visibleTo visibility => { k with visibility := some visibility }
  | .createdFrom second => { k with since := some second }
  | .createdBefore second => { k with before := some second }

theorem foldl_put_clauses (k : Conditions) :
    k.clauses.foldl put ⟨none, [], none, none, none, none⟩ = k := by
  obtain ⟨text, tags, creator, visibility, since, before⟩ := k
  cases text <;> cases tags <;> cases creator <;> cases visibility <;> cases since <;>
    cases before <;> rfl

theorem clauses_inj {k k' : Conditions} (h : k.clauses = k'.clauses) : k = k' := by
  rw [← foldl_put_clauses k, h, foldl_put_clauses]

theorem isProper_of_mem_clauses {k : Conditions} : ∀ c ∈ k.clauses, c.IsProper := by
  intro c hc
  simp only [clauses, List.mem_append, Option.mem_toList, Option.map_eq_some_iff] at hc
  rcases hc with ((((⟨_, -, rfl⟩ | hc) | ⟨_, -, rfl⟩) | ⟨_, -, rfl⟩) | ⟨_, -, rfl⟩) | ⟨_, -, rfl⟩
  · trivial
  · cases htags : k.tags with
    | nil => simp [htags] at hc
    | cons tag tags =>
      simp only [htags, List.isEmpty_cons, Bool.false_eq_true, if_false, List.mem_singleton] at hc
      rw [hc]
      exact List.cons_ne_nil tag tags
  all_goals trivial

end Conditions

namespace SearchFilter

/-- A filter stands for some conditions: the text without blanks around it, each tag without its
hash sign, the creator by name, and the bounds as whole seconds. -/
structure Asks (f : SearchFilter) (k : Conditions) : Prop where
  text : k.text = f.text.map Text.trimmed
  tags : f.tags.map Tag.validate = k.tags.map .ok
  creator : f.creator.map ResourceName.parseMessage = k.creator.map .ok
  visibility : k.visibility = f.visibility
  since : k.since = f.createdAfter.map (·.seconds)
  before : k.before = f.createdBefore.map (·.ceilSeconds)

/-- No condition on the memos is set. -/
def IsOpen (f : SearchFilter) : Prop :=
  f.text = none ∧ f.tags = [] ∧ f.creator = none ∧ f.visibility = none ∧
    f.createdAfter = none ∧ f.createdBefore = none

theorem checkCreator_eq_ok {f : SearchFilter} {creator : Option UserName} :
    f.checkCreator = .ok creator ↔
      f.creator.map ResourceName.parseMessage = creator.map .ok := by
  unfold checkCreator
  cases f.creator with
  | none => cases creator <;> simp
  | some raw =>
    cases creator <;> simp [Checked.map_eq_ok, Checked.ofExcept_eq_ok]

/-- Nothing that is set is dropped on the way to the clauses. -/
theorem clauses_of_valid {f : SearchFilter} (h : f.violations = []) :
    ∃ k, f.Asks k ∧ f.clauses = .ok k.clauses := by
  rw [← violations_checkClauses, Checked.violations_eq_nil_iff] at h
  obtain ⟨clauses, hclauses⟩ := h
  have hparts := hclauses
  simp only [checkClauses, Checked.and'_eq_ok, Checked.and_eq_ok, Checked.withViolations_eq_ok]
    at hparts
  obtain ⟨⟨_, creator, ⟨_, tags, ⟨-, rfl⟩, htags, rfl⟩, hcreator, rfl⟩, -⟩ := hparts
  refine ⟨⟨f.text.map Text.trimmed, tags, creator, f.visibility, f.createdAfter.map (·.seconds),
    f.createdBefore.map (·.ceilSeconds)⟩, ?_, ?_⟩
  · exact ⟨rfl, Checked.all_mapIdx_eq_ok.mp htags, checkCreator_eq_ok.mp hcreator, rfl, rfl, rfl⟩
  · rw [SearchFilter.clauses, Checked.toExcept_eq_ok, hclauses]
    simp [clausesOf, Conditions.clauses, Option.map_map, Function.comp_def]

theorem Asks.clauses_eq_nil {f : SearchFilter} {k : Conditions} (h : f.Asks k) :
    k.clauses = [] ↔ f.IsOpen := by
  have htags : k.tags = [] ↔ f.tags = [] := by
    have hlength := congrArg List.length h.tags
    rw [List.length_map, List.length_map] at hlength
    rw [← List.length_eq_zero_iff, ← List.length_eq_zero_iff, hlength]
  have hcreator : k.creator = none ↔ f.creator = none := by
    have hnone := congrArg (· = none) h.creator
    simpa using hnone.symm.to_iff
  have hany : (if k.tags.isEmpty then [] else [Clause.taggedWithAny k.tags]) = [] ↔
      k.tags = [] := by
    cases k.tags <;> simp
  simp only [Conditions.clauses, IsOpen, List.append_eq_nil_iff, Option.toList_eq_nil_iff,
    Option.map_eq_none_iff, h.text, h.visibility, h.since, h.before, hcreator, ← htags, hany,
    and_assoc]

theorem Asks.unique {f : SearchFilter} {k k' : Conditions} (h : f.Asks k) (h' : f.Asks k') :
    k = k' := by
  have htags : k.tags = k'.tags :=
    (List.map_inj_right fun _ _ => Except.ok.inj).mp (h.tags.symm.trans h'.tags)
  have hcreator : k.creator = k'.creator :=
    Option.map_injective (fun _ _ => Except.ok.inj) (h.creator.symm.trans h'.creator)
  exact Conditions.ext (h.text.trans h'.text.symm) htags hcreator
    (h.visibility.trans h'.visibility.symm) (h.since.trans h'.since.symm)
    (h.before.trans h'.before.symm)

theorem expression?_elim {clauses : List Clause} (h : ∀ c ∈ clauses, c.IsProper) :
    (expression? clauses).elim (some []) readExpression? = some clauses := by
  cases clauses with
  | nil => rfl
  | cons c clauses => exact readExpression?_write (List.cons_ne_nil c clauses) h

/-- Each condition of a valid filter and nothing else can be read from its expression. -/
theorem filterExpression_readable (f : SearchFilter) (h : f.violations = []) :
    ∃ k, f.Asks k ∧ (f.filterExpression = .ok none ↔ f.IsOpen) ∧
      (¬f.IsOpen → ∃ e, f.filterExpression = .ok (some e) ∧ readExpression? e = some k.clauses) ∧
      ∀ g : SearchFilter, g.violations = [] → g.filterExpression = f.filterExpression →
        g.Asks k := by
  have hsent {f : SearchFilter} {k : Conditions} (hclauses : f.clauses = .ok k.clauses) :
      f.filterExpression = .ok (expression? k.clauses) := by
    rw [filterExpression, hclauses]
    rfl
  obtain ⟨k, hk, hclauses⟩ := clauses_of_valid h
  have hread := expression?_elim k.isProper_of_mem_clauses
  rw [hsent hclauses, ← hk.clauses_eq_nil]
  refine ⟨k, hk, ?_, fun hopen => ?_, fun g hg heq => ?_⟩
  · cases k.clauses <;> simp [expression?]
  · cases he : expression? k.clauses with
    | none =>
      rw [he] at hread
      exact absurd (Option.some.inj hread).symm hopen
    | some e =>
      rw [he] at hread
      exact ⟨e, rfl, hread⟩
  · obtain ⟨k', hk', hclauses'⟩ := clauses_of_valid hg
    have hread' := expression?_elim k'.isProper_of_mem_clauses
    rw [hsent hclauses'] at heq
    rw [Except.ok.inj heq, hread] at hread'
    rwa [Conditions.clauses_inj (Option.some.inj hread')]

/-- Quotes, marks and brackets within texts add no clause. -/
theorem readable_quotes :
    let f : SearchFilter := {
      text := some " say \"hi\\\" && (", tags := ["#a\"||b", "c\\"], creator := some "users/\"1\""
      visibility := some .everyone, createdAfter := some ⟨-1, 0⟩, createdBefore := some ⟨9, 1⟩ }
    f.violations = [] ∧ ∃ e, f.filterExpression = .ok (some e) ∧
      readExpression? e = some [.contentHolds "say \"hi\\\" && (",
        .taggedWithAny ["a\"||b", "c\\"], .createdBy ⟨"\"1\"", by decide⟩, .visibleTo .everyone,
        .createdFrom (-1), .createdBefore 10] := by
  intro f
  have hvalid : f.violations = [] := by decide +kernel
  obtain ⟨k, hk, -, hread, -⟩ := filterExpression_readable f hvalid
  obtain ⟨e, he, hclauses⟩ := hread (by simp [f, IsOpen])
  have hasks : f.Asks {
      text := some "say \"hi\\\" && (", tags := ["a\"||b", "c\\"]
      creator := some ⟨"\"1\"", by decide⟩, visibility := some .everyone
      since := some (-1), before := some 10 } :=
    ⟨by decide +kernel, rfl, rfl, rfl, rfl, rfl⟩
  rw [hk.unique hasks] at hclauses
  exact ⟨hvalid, e, he, hclauses⟩

end SearchFilter

end RemoteNotes
