import Mathlib.Data.List.Induction
import Mathlib.Tactic.MkIffOfInductiveProp
import RemoteNotes.Proofs.Requests
import RemoteNotes.Proofs.Results
import RemoteNotes.Proofs.SearchFilters
import RemoteNotes.Search.Reading

/-!
# Filters made of pairs

Pairs of keys and values are applied one after the other. What comes of them can be read off the
pairs field by field: the last value under a key counts, and tags are kept in their order
(`foldl_applyPair`). The pairs make a filter just if each of them is sound and the filter is valid.
Otherwise each pair at fault is reported, and then what is wrong with the filter of the others
(`ofPairs_iff_sound`).
-/

namespace RemoteNotes.SearchFilter

open Number (readNat maxUInt32)
open RequestPart (reports)

/-- A key and a value, which counts without the blanks around it. -/
abbrev Pair := String × String

-- ---------------------------------------------------------------------------
-- The filter that pairs describe
-- ---------------------------------------------------------------------------

/-- What the last pair under a key comes to, of those that can be read. -/
def lastUnder {α : Type} (key : String) (read : String → Option α) (pairs : List Pair) : Option α :=
  (pairs.filterMap fun p => if p.1 = key then read (Text.trimmed p.2) else none).getLast?

/-- The pieces between commas, without blank ones. -/
def pieces (value : String) : List String :=
  ((Text.splitOn ',' value.toList).map fun piece => String.ofList (Text.trim piece)).filter (· ≠ "")

def tagsIn (p : Pair) : List String :=
  if p.1 = "tag" then [Text.trimmed p.2]
  else if p.1 = "tags" then pieces (Text.trimmed p.2)
  else []

/-- The filter that pairs describe, each field by itself. -/
def described (pairs : List Pair) : SearchFilter where
  text := lastUnder "text" some pairs
  tags := pairs.flatMap tagsIn
  creator := lastUnder "creator" some pairs
  visibility := lastUnder "visibility" (fun value => (Visibility.parse value).toOption) pairs
  createdAfter := lastUnder "created_after" (fun value => (Time.Rfc3339.parse value).toOption) pairs
  createdBefore := lastUnder "created_before" (fun value => (Time.Rfc3339.parse value).toOption) pairs
  state := (lastUnder "state" (fun value => (MemoState.parse value).toOption) pairs).getD .normal
  pageSize := (lastUnder "page_size" (fun value => (readNat maxUInt32 value).toOption) pairs).getD 50
  pageToken := lastUnder "page_token" some pairs
  order := (lastUnder "order" (fun value => SortOrder.named.lookup value) pairs).getD .newestFirst

theorem lastUnder_concat {α : Type} (key : String) (read : String → Option α) (pairs : List Pair)
    (k raw : String) : lastUnder key read (pairs ++ [(k, raw)]) =
      if k = key then (read (Text.trimmed raw)).or (lastUnder key read pairs)
      else lastUnder key read pairs := by
  split
  · next h => cases hread : read (Text.trimmed raw) <;> simp [lastUnder, h, hread]
  · next h => simp [lastUnder, h]

theorem splitTags_eq (value : String) : splitTags value = pieces value := by
  unfold splitTags pieces
  induction Text.splitOn ',' value.toList with
  | nil => rfl
  | cons piece rest ih => by_cases h : Text.trim piece = [] <;> simp_all

-- ---------------------------------------------------------------------------
-- Pair by pair
-- ---------------------------------------------------------------------------

/-- The keys that mean something. -/
inductive IsKey : String → Prop
  | text : IsKey "text"
  | tag : IsKey "tag"
  | tags : IsKey "tags"
  | creator : IsKey "creator"
  | visibility : IsKey "visibility"
  | state : IsKey "state"
  | createdAfter : IsKey "created_after"
  | createdBefore : IsKey "created_before"
  | pageSize : IsKey "page_size"
  | pageToken : IsKey "page_token"
  | order : IsKey "order"

@[mk_iff]
structure IsSoundPair (p : Pair) : Prop where
  known : IsKey p.1
  visibility : p.1 = "visibility" → ∃ v, Visibility.parse (Text.trimmed p.2) = .ok v
  state : p.1 = "state" → ∃ s, MemoState.parse (Text.trimmed p.2) = .ok s
  instant : p.1 = "created_after" ∨ p.1 = "created_before" →
    ∃ t, Time.Rfc3339.parse (Text.trimmed p.2) = .ok t
  pageSize : p.1 = "page_size" → ∃ n, readNat maxUInt32 (Text.trimmed p.2) = .ok n
  order : p.1 = "order" → ∃ o, SortOrder.named.lookup (Text.trimmed p.2) = some o

/-- What is said against the values under the keys whose values are read. -/
def rules : List (String × (String → Option String)) := [
  ("text", fun _ => none), ("tag", fun _ => none), ("tags", fun _ => none),
  ("creator", fun _ => none), ("page_token", fun _ => none),
  ("visibility", fun value => refusal? (Visibility.parse value)),
  ("state", fun value => refusal? (MemoState.parse value)),
  ("created_after", fun value => refusal? (parseInstant value)),
  ("created_before", fun value => refusal? (parseInstant value)),
  ("page_size", fun value => refusal?
    ((readNat maxUInt32 value).mapError fun fault => "invalid page size: " ++ fault.message)),
  ("order", fun value => refusal?
    ((Json.Form.choose SortOrder.named value).mapError Json.Cause.message))]

def pairPart (p : Pair) : RequestPart where
  field := p.1
  fault? := match rules.lookup p.1 with
    | some rule => rule (Text.trimmed p.2)
    | none => some "unknown filter key"

theorem isKey_of_mem_rules : ∀ rule ∈ rules, IsKey rule.1 := by
  simp [rules, IsKey.text, IsKey.tag, IsKey.tags, IsKey.creator, IsKey.visibility, IsKey.state,
    IsKey.createdAfter, IsKey.createdBefore, IsKey.pageSize, IsKey.pageToken, IsKey.order]

theorem change_unknown {key : String} (h : ¬IsKey key) (value : String) :
    change key value = .error "unknown filter key" := by
  unfold change
  split <;> first | rfl | exact absurd (by constructor) h

theorem lookup_unknown {key : String} (h : ¬IsKey key) : rules.lookup key = none := by
  rw [List.lookup_eq_none_iff]
  intro rule hrule
  have hne : key ≠ rule.1 := fun heq => h (heq ▸ isKey_of_mem_rules rule hrule)
  simpa using hne

theorem toOption_choose {α : Type} (choices : List (String × α)) (name : String) :
    (Json.Form.choose choices name).toOption = choices.lookup name := by
  unfold Json.Form.choose
  cases choices.lookup name <;> rfl

theorem choose_eq_ok {α : Type} {choices : List (String × α)} {name : String} {a : α} :
    Json.Form.choose choices name = .ok a ↔ choices.lookup name = some a := by
  rw [← toOption_eq_some, toOption_choose]

theorem fault?_eq (p : Pair) :
    (pairPart p).fault? = refusal? (change p.1 (Text.trimmed p.2)) := by
  obtain ⟨key, raw⟩ := p
  by_cases h : IsKey key
  · cases h <;> simp [pairPart, rules, change, refusal?_map] <;> rfl
  · simp [pairPart, lookup_unknown h, change_unknown h, refusal?]

/-- A pair that can be read changes the filter that the pairs before it describe, and any other
pair leaves it as it is. -/
theorem described_concat (pairs : List Pair) (p : Pair) : described (pairs ++ [p]) =
    (change p.1 (Text.trimmed p.2)).toOption.getD id (described pairs) := by
  obtain ⟨key, raw⟩ := p
  by_cases h : IsKey key
  · cases h with
    | text => simp [change, described, lastUnder_concat, tagsIn, toOption_ok]
    | tag => simp [change, described, lastUnder_concat, tagsIn, toOption_ok]
    | tags => simp [change, described, lastUnder_concat, tagsIn, toOption_ok, splitTags_eq]
    | creator => simp [change, described, lastUnder_concat, tagsIn, toOption_ok]
    | visibility =>
      cases hread : (Visibility.parse (Text.trimmed raw)).toOption <;>
        simp [change, described, lastUnder_concat, tagsIn, hread, toOption_map]
    | state =>
      cases hread : (MemoState.parse (Text.trimmed raw)).toOption <;>
        simp [change, described, lastUnder_concat, tagsIn, hread, toOption_map]
    | createdAfter =>
      cases hread : (Time.Rfc3339.parse (Text.trimmed raw)).toOption <;>
        simp [change, described, lastUnder_concat, tagsIn, hread, toOption_map, toOption_mapError,
          parseInstant]
    | createdBefore =>
      cases hread : (Time.Rfc3339.parse (Text.trimmed raw)).toOption <;>
        simp [change, described, lastUnder_concat, tagsIn, hread, toOption_map, toOption_mapError,
          parseInstant]
    | pageSize =>
      cases hread : (readNat maxUInt32 (Text.trimmed raw)).toOption <;>
        simp [change, described, lastUnder_concat, tagsIn, hread, toOption_map, toOption_mapError]
    | pageToken => simp [change, described, lastUnder_concat, tagsIn, toOption_ok]
    | order =>
      cases hread : SortOrder.named.lookup (Text.trimmed raw) <;>
        simp [change, described, lastUnder_concat, tagsIn, hread, toOption_map, toOption_mapError,
          toOption_choose]
  · have hne {k : String} (hk : IsKey k) : key ≠ k := fun heq => h (heq ▸ hk)
    simp [change_unknown h, toOption_error, described, lastUnder_concat, tagsIn, hne .text,
      hne .tag, hne .tags, hne .creator, hne .visibility, hne .state, hne .createdAfter,
      hne .createdBefore, hne .pageSize, hne .pageToken, hne .order]

theorem fault?_eq_none_iff (p : Pair) : (pairPart p).fault? = none ↔ IsSoundPair p := by
  obtain ⟨key, raw⟩ := p
  rw [fault?_eq, isSoundPair_iff]
  by_cases h : IsKey key
  · simp only [h, true_and]
    cases h <;> simp [change, refusal?_map, refusal?_eq_none, parseInstant, mapError_eq_ok, choose_eq_ok]
  · simp [h, change_unknown h, refusal?]

/-- What one pair does to a filter and to the list of faults. -/
theorem applyPair_described (pairs : List Pair) (bad : List Violation) (p : Pair) :
    applyPair (described pairs, bad) p =
      (described (pairs ++ [p]), bad ++ reports [pairPart p]) := by
  have hfield : (pairPart p).field = p.1 := rfl
  have hfault := fault?_eq p
  rw [described_concat, applyPair]
  cases hchange : change p.1 (Text.trimmed p.2) with
  | ok set => simp [reports, RequestPart.violation?, hfault, hchange, refusal?, toOption_ok]
  | error message =>
    simp [reports, RequestPart.violation?, hfault, hfield, hchange, refusal?, toOption_error]

theorem foldl_applyPair (pairs : List Pair) :
    pairs.foldl applyPair ({}, []) = (described pairs, reports (pairs.map pairPart)) := by
  induction pairs using List.reverseRecOn with
  | nil => rfl
  | append_singleton pairs p ih =>
    rw [List.foldl_append, ih, List.map_append, RequestPart.reports_append]
    exact applyPair_described ..

-- ---------------------------------------------------------------------------
-- The filter that is made
-- ---------------------------------------------------------------------------

theorem reports_pairs_eq_nil_iff {pairs : List Pair} :
    reports (pairs.map pairPart) = [] ↔ ∀ p ∈ pairs, IsSoundPair p := by
  simp only [RequestPart.reports_eq_nil_iff, List.forall_mem_map, fault?_eq_none_iff]

theorem exists_toQuery {f : SearchFilter} (h : f.violations = []) :
    ∃ query, f.toQuery = .ok query := by
  obtain ⟨k, -, hclauses⟩ := clauses_of_valid h
  simp [toQuery, filterExpression, hclauses, Except.map, bind, Except.bind, pure, Except.pure]

/-- Pairs make the filter that they describe, if each pair is sound and the filter is valid.
Otherwise each pair that is not sound is reported in its turn, and then all that is wrong with what
the other pairs describe. -/
theorem ofPairs_iff_sound (pairs : List Pair) :
    (∀ f, ofPairs pairs = .ok f ↔
      ((∀ p ∈ pairs, IsSoundPair p) ∧ (described pairs).violations = []) ∧ f = described pairs) ∧
    (∀ f, ofPairs pairs = .ok f → ∃ query, f.toQuery = .ok query) ∧
    (∀ e, ofPairs pairs = .error e ↔
      ¬((∀ p ∈ pairs, IsSoundPair p) ∧ (described pairs).violations = []) ∧
        e = ⟨subject, reports (pairs.map pairPart) ++ (described pairs).violations⟩) ∧
    ∀ p, (pairPart p).violation? = none ↔ IsSoundPair p := by
  have hmade : ofPairs pairs = (Checked.withViolations
      (reports (pairs.map pairPart) ++ (described pairs).violations)
      (described pairs)).toExcept subject := by
    rw [ofPairs, foldl_applyPair]
  have hok (f : SearchFilter) : ofPairs pairs = .ok f ↔
      ((∀ p ∈ pairs, IsSoundPair p) ∧ (described pairs).violations = []) ∧ f = described pairs := by
    rw [hmade, Checked.toExcept_eq_ok, Checked.withViolations_eq_ok, List.append_eq_nil_iff,
      reports_pairs_eq_nil_iff, @eq_comm _ f]
  refine ⟨hok, fun f hf => ?_, fun e => ?_, fun p => ?_⟩
  · obtain ⟨⟨-, hvalid⟩, rfl⟩ := (hok f).mp hf
    exact exists_toQuery hvalid
  · rw [hmade, Checked.toExcept_eq_error, Checked.violations_withViolations, Ne,
      List.append_eq_nil_iff, reports_pairs_eq_nil_iff, and_comm]
  · rw [RequestPart.violation?, Option.map_eq_none_iff, fault?_eq_none_iff]

/-- The first of the two sizes is replaced, the number that is none is left out. -/
example : ofPairs [("colour", "blue"), ("page_size", "0"), ("tags", "a, ,#b"),
      ("page_size", "many"), ("text", " ")] =
    .error ⟨"search filter", [⟨"colour", "unknown filter key"⟩,
      ⟨"page_size", "invalid page size: invalid digit found in string"⟩,
      ⟨"text", "text must not be blank"⟩,
      ⟨"page_size", "page_size must be between 1 and 1000"⟩]⟩ := by decide +kernel

end RemoteNotes.SearchFilter
