import RemoteNotes.Attachment
import RemoteNotes.Memo
import RemoteNotes.Proofs.Tags
import RemoteNotes.Proofs.Timestamps
import RemoteNotes.Proofs.WireFields
import RemoteNotes.User

/-!
# Objects that were read

An object is read as soon as each of its fields is (`ofFields_eq_ok`), and what was read keeps
the rules of its kind (`isChecked_of_ofFields`).
-/

namespace RemoteNotes

open Json (Fields)
open Number (Double)
open Time (Instant)
open Wire (Key)

theorem WireModel.ofWire_eq_ok {α : Type} [WireModel α] {v : Json} {a : α} :
    ofWire v = .ok a ↔ ∃ fields, v = .object fields ∧ ofFields fields = .ok a := by
  rw [ofWire, Checked.toExcept_eq_ok]
  cases v <;> simp [checkWire, Checked.violation]

namespace Wire

variable {k : Key} {o : Fields}

theorem parseInstant_eq_ok {s : String} {t : Instant} :
    parseInstant s = .ok t ↔ Time.Rfc3339.parse s = .ok t := mapError_eq_ok

theorem isRegular_of_instant {t : Instant} (h : instant k o = .ok t) : t.IsRegular := by
  obtain ⟨s, -, hparse⟩ := required_eq_ok.mp h
  exact Time.Rfc3339.isRegular_of_parse (parseInstant_eq_ok.mp hparse)

theorem isRegular_of_instant? {t? : Option Instant} (h : instant? k o = .ok t?) :
    ∀ t ∈ t?, t.IsRegular := by
  rintro t rfl
  obtain ⟨s, -, hparse⟩ := optional_eq_some h
  exact Time.Rfc3339.isRegular_of_parse (parseInstant_eq_ok.mp hparse)

end Wire

-- ---------------------------------------------------------------------------
-- Attachments
-- ---------------------------------------------------------------------------

namespace Attachment

def times (a : Attachment) : List Instant := [a.createTime]

/-- What every attachment that was read satisfies. -/
structure IsChecked (a : Attachment) : Prop where
  times : ∀ t ∈ a.times, t.IsRegular
  filename_trimmed : Text.trimmed a.filename = a.filename
  filename_nonempty : a.filename ≠ ""
  mimeType : '/' ∈ a.mimeType.toList
  size_nonneg : 0 ≤ a.sizeBytes
  size_le : a.sizeBytes ≤ Number.maxInt64
  externalLink : a.externalLink ≠ some ""

structure IsWellFormed (a : Attachment) : Prop extends IsChecked a where
  plainYears : ∀ t ∈ a.times, t.HasPlainYear

theorem ofFields_eq_ok {o : Fields} {a : Attachment} :
    ofFields o = .ok a ↔
      Wire.required (.plain "name") ResourceName.parseStrict o = .ok a.name ∧
      Wire.instant ⟨"createTime", "create_time"⟩ o = .ok a.createTime ∧
      Wire.required (.plain "filename") parseFilename o = .ok a.filename ∧
      Wire.required (.plain "type") parseMimeType o = .ok a.mimeType ∧
      checkSize o = .ok a.sizeBytes ∧
      Wire.nonEmptyText? ⟨"externalLink", "external_link"⟩ o = .ok a.externalLink ∧
      Wire.optional (.plain "memo") ResourceName.parseStrict o = .ok a.memo := by
  constructor
  · intro h
    obtain ⟨_, _, h, hmemo, _⟩ := Checked.and_eq_ok.mp h
    obtain ⟨_, _, h, hlink, _⟩ := Checked.and_eq_ok.mp h
    obtain ⟨_, _, h, hsize, _⟩ := Checked.and_eq_ok.mp h
    obtain ⟨_, _, h, htype, _⟩ := Checked.and_eq_ok.mp h
    obtain ⟨_, _, h, hfilename, _⟩ := Checked.and_eq_ok.mp h
    obtain ⟨_, _, h, hcreate, _⟩ := Checked.and_eq_ok.mp h
    obtain ⟨_, hname, _⟩ := Checked.map_eq_ok.mp h
    subst_vars
    exact ⟨hname, hcreate, hfilename, htype, hsize, hlink, hmemo⟩
  · rintro ⟨hname, hcreate, hfilename, htype, hsize, hlink, hmemo⟩
    rw [ofFields, hname, hcreate, hfilename, htype, hsize, hlink, hmemo]
    rfl

theorem parseFilename_eq_ok {raw s : String} :
    parseFilename raw = .ok s ↔ Text.nonBlank? raw = some s := by
  unfold parseFilename
  cases Text.nonBlank? raw <;> simp

theorem parseMimeType_eq_ok {raw s : String} :
    parseMimeType raw = .ok s ↔ '/' ∈ raw.toList ∧ raw = s := by
  unfold parseMimeType isMimeType
  split <;> simp_all

theorem checkSize_eq_ok {o : Fields} {n : Int} :
    checkSize o = .ok n ↔ Wire.int64OrZero (.plain "size") o = .ok n ∧ 0 ≤ n := by
  rw [checkSize, Checked.andThen_eq_ok]
  constructor
  · rintro ⟨m, hread, hm⟩
    split at hm
    · contradiction
    · cases hm
      exact ⟨hread, by omega⟩
  · rintro ⟨hread, hn⟩
    exact ⟨n, hread, if_neg (by omega)⟩

theorem isChecked_of_ofFields {o : Fields} {a : Attachment} (h : ofFields o = .ok a) :
    a.IsChecked := by
  obtain ⟨-, hcreate, hfilename, htype, hsize, hlink, -⟩ := ofFields_eq_ok.mp h
  obtain ⟨_, -, hfilename⟩ := Wire.required_eq_ok.mp hfilename
  obtain ⟨_, -, htype⟩ := Wire.required_eq_ok.mp htype
  obtain ⟨hslash, rfl⟩ := parseMimeType_eq_ok.mp htype
  obtain ⟨hsize, hnonneg⟩ := checkSize_eq_ok.mp hsize
  exact {
    times := List.forall_mem_singleton.mpr (Wire.isRegular_of_instant hcreate)
    filename_trimmed := (Text.nonBlank?_eq_some (parseFilename_eq_ok.mp hfilename)).1
    filename_nonempty := (Text.nonBlank?_eq_some (parseFilename_eq_ok.mp hfilename)).2
    mimeType := hslash
    size_nonneg := hnonneg
    size_le := Wire.int64OrZero_le hsize
    externalLink := Wire.nonEmptyText?_eq_ok hlink }

end Attachment

-- ---------------------------------------------------------------------------
-- Users
-- ---------------------------------------------------------------------------

namespace User

def times (u : User) : List Instant := [u.createTime, u.updateTime]

/-- What every user that was read satisfies. -/
structure IsChecked (u : User) : Prop where
  times : ∀ t ∈ u.times, t.IsRegular
  username_trimmed : Text.trimmed u.username = u.username
  username_nonempty : u.username ≠ ""
  email_trimmed : Text.trimmed u.email = u.email
  email : u.email = "" ∨ '@' ∈ u.email.toList

structure IsWellFormed (u : User) : Prop extends IsChecked u where
  plainYears : ∀ t ∈ u.times, t.HasPlainYear

theorem ofFields_eq_ok {o : Fields} {u : User} :
    ofFields o = .ok u ↔
      Wire.required (.plain "name") ResourceName.parseStrict o = .ok u.name ∧
      Wire.required (.plain "username") parseUsername o = .ok u.username ∧
      ((Wire.textOrEmpty (.plain "email") o).andThen fun raw =>
        .ofExcept "email" (parseEmail raw)) = .ok u.email ∧
      Wire.textOrEmpty (.plain "nickname") o = .ok u.nickname ∧
      Wire.textOrEmpty ⟨"avatarUrl", "avatar_url"⟩ o = .ok u.avatarUrl ∧
      Wire.textOrEmpty (.plain "description") o = .ok u.description ∧
      Wire.required (.plain "role") Role.parse o = .ok u.role ∧
      Wire.instant ⟨"createTime", "create_time"⟩ o = .ok u.createTime ∧
      Wire.instant ⟨"updateTime", "update_time"⟩ o = .ok u.updateTime := by
  constructor
  · intro h
    obtain ⟨_, _, h, hupdate, _⟩ := Checked.and_eq_ok.mp h
    obtain ⟨_, _, h, hcreate, _⟩ := Checked.and_eq_ok.mp h
    obtain ⟨_, _, h, hrole, _⟩ := Checked.and_eq_ok.mp h
    obtain ⟨_, _, h, hdescription, _⟩ := Checked.and_eq_ok.mp h
    obtain ⟨_, _, h, havatar, _⟩ := Checked.and_eq_ok.mp h
    obtain ⟨_, _, h, hnickname, _⟩ := Checked.and_eq_ok.mp h
    obtain ⟨_, _, h, hemail, _⟩ := Checked.and_eq_ok.mp h
    obtain ⟨_, _, h, husername, _⟩ := Checked.and_eq_ok.mp h
    obtain ⟨_, hname, _⟩ := Checked.map_eq_ok.mp h
    subst_vars
    exact ⟨hname, husername, hemail, hnickname, havatar, hdescription, hrole, hcreate, hupdate⟩
  · rintro ⟨hname, husername, hemail, hnickname, havatar, hdescription, hrole, hcreate, hupdate⟩
    rw [ofFields, hname, husername, hemail, hnickname, havatar, hdescription, hrole, hcreate,
      hupdate]
    rfl

theorem parseUsername_eq_ok {raw s : String} :
    parseUsername raw = .ok s ↔ Text.nonBlank? raw = some s := by
  unfold parseUsername
  cases Text.nonBlank? raw <;> simp

theorem parseEmail_eq_ok {raw s : String} :
    parseEmail raw = .ok s ↔ Text.trimmed raw = s ∧ (s = "" ∨ '@' ∈ s.toList) := by
  unfold parseEmail
  dsimp only
  constructor
  · intro h
    split at h
    · next hmail =>
      cases h
      exact ⟨rfl, by simpa using hmail⟩
    · contradiction
  · rintro ⟨rfl, hmail⟩
    exact if_pos (by simpa using hmail)

theorem isChecked_of_ofFields {o : Fields} {u : User} (h : ofFields o = .ok u) :
    u.IsChecked := by
  obtain ⟨-, husername, hemail, -, -, -, -, hcreate, hupdate⟩ := ofFields_eq_ok.mp h
  obtain ⟨_, -, husername⟩ := Wire.required_eq_ok.mp husername
  obtain ⟨raw, -, hemail⟩ := Checked.andThen_eq_ok.mp hemail
  obtain ⟨htrim, hmail⟩ := parseEmail_eq_ok.mp (Checked.ofExcept_eq_ok.mp hemail)
  exact {
    times := by
      simp [times, Wire.isRegular_of_instant hcreate, Wire.isRegular_of_instant hupdate]
    username_trimmed := (Text.nonBlank?_eq_some (parseUsername_eq_ok.mp husername)).1
    username_nonempty := (Text.nonBlank?_eq_some (parseUsername_eq_ok.mp husername)).2
    email_trimmed := by rw [← htrim, Text.trimmed_trimmed]
    email := hmail }

end User

-- ---------------------------------------------------------------------------
-- Memos
-- ---------------------------------------------------------------------------

namespace Location

def InRange (l : Location) : Prop :=
  withinDegrees 90 l.latitude = true ∧ withinDegrees 180 l.longitude = true

instance (l : Location) : Decidable l.InRange := by
  unfold InRange
  infer_instance

theorem violations_eq_nil_iff (l : Location) : l.violations = [] ↔ l.InRange := by
  unfold violations InRange
  cases withinDegrees 90 l.latitude <;> cases withinDegrees 180 l.longitude <;> simp

theorem ofFields_eq_ok {o : Fields} {l : Location} :
    ofFields o = .ok l ↔ l.InRange ∧
      Wire.textOrEmpty (.plain "placeholder") o = .ok l.placeholder ∧
      (Wire.double? (.plain "latitude") o).map (·.getD Double.zero) = .ok l.latitude ∧
      (Wire.double? (.plain "longitude") o).map (·.getD Double.zero) = .ok l.longitude := by
  rw [← violations_eq_nil_iff]
  unfold ofFields
  cases Wire.textOrEmpty (.plain "placeholder") o with
  | bad first more =>
    simp [Checked.relabel_eq_ok, Checked.and'_eq_ok, Checked.and_eq_ok, Checked.map_eq_ok]
  | ok placeholder =>
    cases Wire.double? (.plain "latitude") o with
    | bad first more =>
      simp [Checked.relabel_eq_ok, Checked.and'_eq_ok, Checked.and_eq_ok, Checked.map_eq_ok]
    | ok latitude =>
      cases Wire.double? (.plain "longitude") o with
      | bad first more =>
        simp [Checked.relabel_eq_ok, Checked.and'_eq_ok, Checked.and_eq_ok, Checked.map_eq_ok]
      | ok longitude =>
        simp only [Checked.relabel_eq_ok, Checked.and'_eq_ok, Checked.withViolations_eq_ok,
          and_true]
        constructor
        · rintro ⟨hl, hrange⟩
          cases hl
          exact ⟨hrange, rfl, rfl, rfl⟩
        · obtain ⟨_, _, _⟩ := l
          rintro ⟨hrange, hplaceholder, hlatitude, hlongitude⟩
          cases hplaceholder
          cases hlatitude
          cases hlongitude
          exact ⟨rfl, hrange⟩

end Location

namespace Memo

def times (m : Memo) : List Instant := [m.createTime, m.updateTime] ++ m.displayTime.toList

/-- What every memo that was read satisfies. -/
structure IsChecked (m : Memo) : Prop where
  times : ∀ t ∈ m.times, t.IsRegular
  tags : ∀ tag ∈ m.tags.toList, Tag.validate tag = .ok tag
  location : ∀ l ∈ m.location, l.InRange

structure IsWellFormed (m : Memo) : Prop extends IsChecked m where
  plainYears : ∀ t ∈ m.times, t.HasPlainYear

theorem ofFields_eq_ok {o : Fields} {m : Memo} :
    ofFields o = .ok m ↔
      Wire.required (.plain "name") ResourceName.parseStrict o = .ok m.name ∧
      Wire.required (.plain "state") MemoState.parse o = .ok m.state ∧
      Wire.required (.plain "creator") ResourceName.parseStrict o = .ok m.creator ∧
      Wire.instant ⟨"createTime", "create_time"⟩ o = .ok m.createTime ∧
      Wire.instant ⟨"updateTime", "update_time"⟩ o = .ok m.updateTime ∧
      Wire.instant? ⟨"displayTime", "display_time"⟩ o = .ok m.displayTime ∧
      Wire.textOrEmpty (.plain "content") o = .ok m.content ∧
      Wire.textOrEmpty (.plain "snippet") o = .ok m.snippet ∧
      Wire.required (.plain "visibility") Visibility.parse o = .ok m.visibility ∧
      Wire.boolOrFalse (.plain "pinned") o = .ok m.pinned ∧
      Wire.optional (.plain "parent") ResourceName.parseStrict o = .ok m.parent ∧
      TagSet.ofList <$> Wire.items (.plain "tags") checkTag o = .ok m.tags ∧
      Wire.items (.plain "attachments") checkAttachment o = .ok m.attachments ∧
      checkLocation o = .ok m.location := by
  constructor
  · intro h
    obtain ⟨_, _, h, hlocation, _⟩ := Checked.and_eq_ok.mp h
    obtain ⟨_, _, h, hattachments, _⟩ := Checked.and_eq_ok.mp h
    obtain ⟨_, _, h, htags, _⟩ := Checked.and_eq_ok.mp h
    obtain ⟨_, _, h, hparent, _⟩ := Checked.and_eq_ok.mp h
    obtain ⟨_, _, h, hpinned, _⟩ := Checked.and_eq_ok.mp h
    obtain ⟨_, _, h, hvisibility, _⟩ := Checked.and_eq_ok.mp h
    obtain ⟨_, _, h, hsnippet, _⟩ := Checked.and_eq_ok.mp h
    obtain ⟨_, _, h, hcontent, _⟩ := Checked.and_eq_ok.mp h
    obtain ⟨_, _, h, hdisplay, _⟩ := Checked.and_eq_ok.mp h
    obtain ⟨_, _, h, hupdate, _⟩ := Checked.and_eq_ok.mp h
    obtain ⟨_, _, h, hcreate, _⟩ := Checked.and_eq_ok.mp h
    obtain ⟨_, _, h, hcreator, _⟩ := Checked.and_eq_ok.mp h
    obtain ⟨_, _, h, hstate, _⟩ := Checked.and_eq_ok.mp h
    obtain ⟨_, hname, _⟩ := Checked.map_eq_ok.mp h
    subst_vars
    exact ⟨hname, hstate, hcreator, hcreate, hupdate, hdisplay, hcontent, hsnippet, hvisibility,
      hpinned, hparent, htags, hattachments, hlocation⟩
  · rintro ⟨hname, hstate, hcreator, hcreate, hupdate, hdisplay, hcontent, hsnippet, hvisibility,
      hpinned, hparent, htags, hattachments, hlocation⟩
    rw [ofFields, hname, hstate, hcreator, hcreate, hupdate, hdisplay, hcontent, hsnippet,
      hvisibility, hpinned, hparent, htags, hattachments, hlocation]
    rfl

theorem checkTag_eq_ok {i : Nat} {v : Json} {tag : String} :
    checkTag i v = .ok tag ↔ ∃ raw, v = .text raw ∧ Tag.validate raw = .ok tag := by
  cases v <;> simp [checkTag, Checked.violation, Checked.ofExcept_eq_ok]

theorem checkLocation_inRange {o : Fields} {l? : Option Location} (h : checkLocation o = .ok l?) :
    ∀ l ∈ l?, l.InRange := by
  rintro l rfl
  obtain ⟨fields?, -, hl⟩ := Checked.andThen_eq_ok.mp h
  cases fields? with
  | none => cases hl
  | some fields =>
    obtain ⟨_, hl, heq⟩ := Checked.map_eq_ok.mp hl
    cases heq
    exact (Location.ofFields_eq_ok.mp hl).1

theorem isChecked_of_ofFields {o : Fields} {m : Memo} (h : ofFields o = .ok m) : m.IsChecked := by
  obtain ⟨-, -, -, hcreate, hupdate, hdisplay, -, -, -, -, -, htags, -, hlocation⟩ :=
    ofFields_eq_ok.mp h
  constructor
  · have hoptional := Wire.isRegular_of_instant? hdisplay
    simpa [times, or_imp, forall_and, Wire.isRegular_of_instant hcreate,
      Wire.isRegular_of_instant hupdate] using hoptional
  · intro tag htag
    obtain ⟨tags, hitems, hset⟩ := Checked.map_eq_ok.mp htags
    rw [← hset, TagSet.mem_ofList] at htag
    obtain ⟨i, v, hcheck⟩ := Wire.items_eq_ok hitems tag htag
    obtain ⟨raw, -, hvalidate⟩ := checkTag_eq_ok.mp hcheck
    exact Tag.validate_idem hvalidate
  · exact checkLocation_inRange hlocation

end Memo

end RemoteNotes
