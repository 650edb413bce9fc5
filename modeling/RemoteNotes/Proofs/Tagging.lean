import RemoteNotes.Proofs.Occurrences
import RemoteNotes.Proofs.Requests
import RemoteNotes.Proofs.Results

/-!
# Contents with tags

What new memos and updates send as their content has the tags of the content that was given and
the tags that were asked for, and no others. Nothing is written into a content that holds them all
(`content_sent_tagged`).
-/

namespace RemoteNotes

namespace TagSet

/-- A set is known by its members. -/
theorem eq_of_mem_iff {a b : TagSet} (h : ∀ t, t ∈ a.toList ↔ t ∈ b.toList) : a = b := by
  have hnodup (ts : TagSet) : ts.toList.Nodup := by
    refine ts.ascending.imp ?_
    rintro t _ hlt rfl
    exact String.lt_irrefl t hlt
  have hperm := (List.perm_ext_iff_of_nodup (hnodup a) (hnodup b)).mpr h
  have hlist := List.Perm.eq_of_pairwise
    (fun s t _ _ hlt hgt => absurd hgt (String.lt_asymm hlt)) a.ascending b.ascending hperm
  cases a
  cases b
  cases hlist
  rfl

end TagSet

namespace Tag

-- ---------------------------------------------------------------------------
-- Tags that are asked for
-- ---------------------------------------------------------------------------

theorem nodup_eraseDups (tags : List String) : tags.eraseDups.Nodup := by
  cases tags with
  | nil => exact List.nodup_nil
  | cons t tags =>
    rw [List.eraseDups_cons, List.nodup_cons]
    exact ⟨by simp, nodup_eraseDups (tags.filter fun u => !u == t)⟩
termination_by tags.length
decreasing_by exact Nat.lt_succ_of_le (List.length_filter_le ..)

/-- The tags of a list are all valid, and come to these when they are read. -/
def ReadAs (raw given : List String) : Prop := raw.map validate = given.map .ok

theorem exists_readAs {raw : List String} :
    (∃ given, ReadAs raw given) ↔ ∀ tag ∈ raw, ∃ t, validate tag = .ok t := exists_map_eq_ok

theorem violations_eq_nil_iff {raw : List String} :
    violations raw = [] ↔ ∀ tag ∈ raw, ∃ t, validate tag = .ok t := by
  rw [← RequestPart.reports_tagParts, RequestPart.reports_eq_nil_iff]
  exact RequestPart.forall_numbered

theorem mem_valid {raw : List String} {t : String} :
    t ∈ valid raw ↔ ∃ tag ∈ raw, validate tag = .ok t := by
  simp only [valid, List.mem_eraseDups, List.mem_filterMap, toOption_eq_some]

theorem valid_eq_nil_iff {raw : List String} (h : ∀ tag ∈ raw, ∃ t, validate tag = .ok t) :
    valid raw = [] ↔ raw = [] := by
  refine ⟨fun hvalid => ?_, fun hraw => by rw [hraw]; rfl⟩
  refine List.eq_nil_iff_forall_not_mem.mpr fun tag htag => ?_
  obtain ⟨t, ht⟩ := h tag htag
  exact List.eq_nil_iff_forall_not_mem.mp hvalid t (mem_valid.mpr ⟨tag, htag, ht⟩)

theorem isTag_of_mem_valid {raw : List String} {t : String} (h : t ∈ valid raw) : IsTag t := by
  obtain ⟨_, -, htag⟩ := mem_valid.mp h
  exact validate_eq_ok htag

section

variable {raw given : List String} (h : ReadAs raw given)

include h

theorem ReadAs.ne_nil {t : String} (ht : t ∈ given) : raw ≠ [] := by
  rintro rfl
  cases given with
  | nil => cases ht
  | cons => cases h

theorem ReadAs.valid_eq : valid raw = given.eraseDups := by
  have hgiven : raw.filterMap (fun tag => (validate tag).toOption) = given := by
    calc raw.filterMap (fun tag => (validate tag).toOption)
        = (raw.map validate).filterMap Except.toOption := by rw [List.filterMap_map]; rfl
      _ = given.filterMap fun t => some t := by rw [h, List.filterMap_map]; rfl
      _ = given := List.filterMap_some
  rw [valid, hgiven]

theorem ReadAs.isTag : ∀ t ∈ given, IsTag t := by
  intro t ht
  rw [← List.mem_eraseDups, ← h.valid_eq] at ht
  exact isTag_of_mem_valid ht

end

-- ---------------------------------------------------------------------------
-- Tags of the content that is sent
-- ---------------------------------------------------------------------------

/-- A content as it is sent for a memo that some tags were asked for. -/
structure IsTagged (content : String) (given : List String) (sent : String) : Prop where
  extract_eq : extract sent = TagSet.ofList ((extract content).toList ++ given)
  unchanged : (∀ t ∈ given, t ∈ (extract content).toList) → sent = content
  /-- Tags that the content does not hold stand behind it, each of them once. -/
  added : (∃ t ∈ given, t ∉ (extract content).toList) → ∃ more : List String,
    more.Nodup ∧ more.Sublist given.eraseDups ∧
    (∀ t, t ∈ more ↔ t ∈ given ∧ t ∉ (extract content).toList) ∧
    sent = String.ofList (Text.trimEnd content.toList) ++ "\n\n" ++
      String.intercalate " " (more.map fun t => "#" ++ t)

theorem IsTagged.mem {content sent t : String} {given : List String}
    (h : IsTagged content given sent) (ht : t ∈ given) : t ∈ (extract sent).toList := by
  rw [h.extract_eq, TagSet.mem_ofList, List.mem_append]
  exact .inr ht

theorem mem_extract {content t : String} :
    t ∈ (extract content).toList ↔ t ∈ occurrences content.toList := TagSet.mem_ofList

theorem mem_missing {content t : String} {tags : List String} :
    t ∈ missing content tags ↔ t ∈ tags ∧ t ∉ (extract content).toList := by
  simp [missing, TagSet.contains]

theorem missing_eq_nil_iff {content : String} {tags : List String} :
    missing content tags = [] ↔ ∀ t ∈ tags, t ∈ (extract content).toList := by
  simp only [List.eq_nil_iff_forall_not_mem, mem_missing, not_and, not_not]

theorem append_eq_self {content : String} {tags : List String}
    (h : ∀ t ∈ tags, t ∈ (extract content).toList) : append content tags = content := by
  rw [append, missing_eq_nil_iff.mpr h]
  rfl

theorem mem_extract_append {content t : String} {tags : List String} (h : ∀ t ∈ tags, IsTag t) :
    t ∈ (extract (append content tags)).toList ↔ t ∈ (extract content).toList ∨ t ∈ tags := by
  rw [mem_extract, occurrences_append h, List.mem_append, ← mem_extract, mem_missing]
  grind

theorem append_append {content : String} {tags : List String} (h : ∀ t ∈ tags, IsTag t) :
    append (append content tags) tags = append content tags :=
  append_eq_self fun _ ht => (mem_extract_append h).mpr (.inr ht)

theorem isTagged_append {content : String} {given : List String} (h : ∀ t ∈ given, IsTag t) :
    IsTagged content given (append content given.eraseDups) where
  extract_eq := TagSet.eq_of_mem_iff fun t => by
    rw [mem_extract_append fun u hu => h u (List.mem_eraseDups.mp hu), TagSet.mem_ofList,
      List.mem_append, List.mem_eraseDups]
  unchanged hall := append_eq_self fun t ht => hall t (List.mem_eraseDups.mp ht)
  added := by
    rintro ⟨t, ht, hnew⟩
    have hmissing (u : String) : u ∈ missing content given.eraseDups ↔
        u ∈ given ∧ u ∉ (extract content).toList := by
      rw [mem_missing, List.mem_eraseDups]
    have hsome : missing content given.eraseDups ≠ [] :=
      List.ne_nil_of_mem ((hmissing t).mpr ⟨ht, hnew⟩)
    refine ⟨missing content given.eraseDups, (nodup_eraseDups given).sublist List.filter_sublist,
      List.filter_sublist, hmissing, ?_⟩
    rw [append, if_neg (by simpa using hsome), line]

theorem ReadAs.isTagged {raw given : List String} (h : ReadAs raw given)
    (content : String) : IsTagged content given (append content (valid raw)) := by
  rw [h.valid_eq]
  exact isTagged_append h.isTag

end Tag

-- ---------------------------------------------------------------------------
-- The contents of requests
-- ---------------------------------------------------------------------------

/-- The content of the memo in the body of a request. -/
def sentContent? (body : Json) : Option String :=
  ((body.get? "memo").bind (·.get? "content")).bind Json.asText?

theorem NewMemo.sentContent?_body (m : NewMemo) (id : Option MemoName) :
    sentContent? (m.body id) = some (Tag.append m.content (Tag.valid m.tags)) := by
  simp [sentContent?, body, Json.get?_ofFields, Json.asText?]

theorem MemoUpdate.sentContent?_body (u : MemoUpdate) (name : MemoName) :
    sentContent? (u.body name) = u.content.map fun c => Tag.append c (Tag.valid u.tags) := by
  have hcontent : ((u.body name).get? "memo").bind (·.get? "content") =
      u.content.map fun c => .text (Tag.append c (Tag.valid u.tags)) := by
    simp [body, Json.get?_ofFields, changes, Change.plain, ← Option.toList_map, Function.comp_def]
  rw [sentContent?, hcontent]
  cases u.content <;> rfl

/-- What is sent for a content and a list of tags, by new memos and by updates alike. -/
structure CarriesTags (content : String) (raw given : List String) (sent : String) : Prop where
  read : Tag.ReadAs raw given
  tagged : Tag.IsTagged content given sent
  again : Tag.append sent (Tag.valid raw) = sent
  created : ∀ (m : NewMemo) prepared, m.content = content → m.tags = raw →
    m.prepare = .ok prepared → sentContent? prepared.body = some sent
  updated : ∀ (u : MemoUpdate) name body, u.content = some content → u.tags = raw →
    u.prepare name = .ok body → sentContent? body = some sent

/-- The content that is sent carries the tags of the given one and those that were asked for, and
to ask for them again changes nothing. -/
theorem content_sent_tagged (content : String) (raw : List String)
    (h : Tag.violations raw = []) : ∃ given sent, CarriesTags content raw given sent := by
  obtain ⟨given, hgiven⟩ := Tag.exists_readAs.mpr (Tag.violations_eq_nil_iff.mp h)
  refine ⟨given, Tag.append content (Tag.valid raw), hgiven, hgiven.isTagged content,
    Tag.append_append fun _ => Tag.isTag_of_mem_valid, ?_, ?_⟩
  · rintro m prepared rfl rfl hprepare
    obtain ⟨-, -, id, -, hbody⟩ := NewMemo.prepare_eq_ok.mp hprepare
    rw [hbody, NewMemo.sentContent?_body]
  · rintro u name body hcontent rfl hprepare
    obtain ⟨-, rfl⟩ := MemoUpdate.prepare_eq_ok.mp hprepare
    rw [MemoUpdate.sentContent?_body, hcontent, Option.map_some]

/-- One tag stands in the content, and the other one is asked for twice. -/
theorem content_sent_with_repeated_tag :
    Tag.violations ["#work", "rust", "work"] = [] ∧
      ∃ given sent, CarriesTags "Shipping #rust today \n" ["#work", "rust", "work"] given sent := by
  have hvalid : Tag.violations ["#work", "rust", "work"] = [] := by decide
  exact ⟨hvalid, content_sent_tagged "Shipping #rust today \n" _ hvalid⟩

end RemoteNotes
