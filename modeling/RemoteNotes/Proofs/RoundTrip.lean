import RemoteNotes.Proofs.Names
import RemoteNotes.Proofs.Readings

/-!
# Round trips

What an object needs so that its wire form is read back as that object
(`ofWire_toWire_of_wellFormed`), and which of the objects that were read have it: those whose
times all have a year of four digits in Universal Time (`ofWire_toWire_iff_plainYears`).
-/

namespace RemoteNotes

open Json (Fields)
open Number (Double)
open Time (Instant)
open Wire (Key)

namespace ResourceName

variable {kind : ResourceKind}

theorem text_ne_empty (n : ResourceName kind) : n.text ≠ "" := by
  intro hempty
  have htext : n.text.toList = kind.lead.toList ++ n.id.toList := String.toList_append
  rw [hempty] at htext
  cases kind <;> exact nomatch htext

end ResourceName

-- ---------------------------------------------------------------------------
-- Times
-- ---------------------------------------------------------------------------

namespace Wire

variable {k : Key} {o : Fields}

/-- A time is read back as it was written just if its year has four digits. -/
theorem instant_written_iff {t : Instant} (hfind : find? k o = some (.text t.text))
    (ht : t.IsRegular) : instant k o = .ok t ↔ t.HasPlainYear := by
  rw [← Time.Rfc3339.parse_text_iff ht, ← parseInstant_eq_ok, instant, required_eq_ok]
  simp [hfind]

theorem instant?_written_iff {t? : Option Instant}
    (hfind : find? k o = t?.map fun t => .text t.text) (ht : ∀ t ∈ t?, t.IsRegular) :
    instant? k o = .ok t? ↔ ∀ t ∈ t?, t.HasPlainYear := by
  constructor
  · rintro h t rfl
    obtain ⟨s, hs, hparse⟩ := optional_eq_some h
    obtain rfl : t.text = s := by simpa using hfind.symm.trans hs
    exact (Time.Rfc3339.parse_text_iff (ht t rfl)).mp (parseInstant_eq_ok.mp hparse)
  · intro h
    refine optional_written hfind (fun t _ => Time.Rfc3339.text_ne_empty t) fun t hmem => ?_
    exact parseInstant_eq_ok.mpr (Time.Rfc3339.parse_text (ht t hmem) (h t hmem))

end Wire

theorem WireModel.ofWire_ofFields_iff {α : Type} [WireModel α] {fields : Fields} {a : α}
    {P : Prop} (h : ∀ o, Wire.MadeOf o fields → (ofFields o = .ok a ↔ P)) :
    ofWire (Json.ofFields fields) = .ok a ↔ P :=
  Checked.toExcept_eq_ok.trans (h _ rfl)

-- ---------------------------------------------------------------------------
-- Attachments
-- ---------------------------------------------------------------------------

namespace Attachment

theorem ofWire_toWire_iff {a : Attachment} (h : a.IsChecked) :
    WireModel.ofWire (WireModel.toWire a) = .ok a ↔ ∀ t ∈ a.times, t.HasPlainYear := by
  refine WireModel.ofWire_ofFields_iff fun o ho => ?_
  change ofFields o = .ok a ↔ _
  have hname : Wire.required (.plain "name") ResourceName.parseStrict o = .ok a.name :=
    Wire.required_written (ho.find? (by simp) (by simp)) a.name.parseStrict_text
  have hcreate : Wire.instant ⟨"createTime", "create_time"⟩ o = .ok a.createTime ↔
      a.createTime.HasPlainYear :=
    Wire.instant_written_iff (ho.find? (by simp) (by simp)) (h.times _ List.mem_cons_self)
  have hparse : parseFilename a.filename = .ok a.filename :=
    parseFilename_eq_ok.mpr (Text.nonBlank?_eq_self h.filename_trimmed h.filename_nonempty)
  have hfilename : Wire.required (.plain "filename") parseFilename o = .ok a.filename :=
    Wire.required_written (ho.find? (by simp) (by simp)) hparse
  have htype : Wire.required (.plain "type") parseMimeType o = .ok a.mimeType :=
    Wire.required_written (ho.find? (by simp) (by simp))
      (parseMimeType_eq_ok.mpr ⟨h.mimeType, rfl⟩)
  have hsize : checkSize o = .ok a.sizeBytes :=
    checkSize_eq_ok.mpr ⟨Wire.int64OrZero_written (ho.find? (by simp) (by simp))
      h.size_nonneg h.size_le, h.size_nonneg⟩
  have hlink : Wire.nonEmptyText? ⟨"externalLink", "external_link"⟩ o = .ok a.externalLink :=
    Wire.nonEmptyText?_written (ho.find? (by simp) (by simp)) h.externalLink
  have hmemo : Wire.optional (.plain "memo") ResourceName.parseStrict o = .ok a.memo :=
    Wire.optional_written (ho.find? (by simp) (by simp))
      (fun n _ => n.text_ne_empty) (fun n _ => n.parseStrict_text)
  simp [ofFields_eq_ok, hname, hcreate, hfilename, htype, hsize, hlink, hmemo, times]

end Attachment

-- ---------------------------------------------------------------------------
-- Users
-- ---------------------------------------------------------------------------

namespace User

theorem ofWire_toWire_iff {u : User} (h : u.IsChecked) :
    WireModel.ofWire (WireModel.toWire u) = .ok u ↔ ∀ t ∈ u.times, t.HasPlainYear := by
  refine WireModel.ofWire_ofFields_iff fun o ho => ?_
  change ofFields o = .ok u ↔ _
  have hname : Wire.required (.plain "name") ResourceName.parseStrict o = .ok u.name :=
    Wire.required_written (ho.find? (by simp) (by simp)) u.name.parseStrict_text
  have hparse : parseUsername u.username = .ok u.username :=
    parseUsername_eq_ok.mpr (Text.nonBlank?_eq_self h.username_trimmed h.username_nonempty)
  have husername : Wire.required (.plain "username") parseUsername o = .ok u.username :=
    Wire.required_written (ho.find? (by simp) (by simp)) hparse
  have hemail : ((Wire.textOrEmpty (.plain "email") o).andThen fun raw =>
      .ofExcept "email" (parseEmail raw)) = .ok u.email :=
    Checked.andThen_eq_ok.mpr ⟨u.email,
      Wire.textOrEmpty_written (ho.find? (by simp) (by simp)),
      Checked.ofExcept_eq_ok.mpr (parseEmail_eq_ok.mpr ⟨h.email_trimmed, h.email⟩)⟩
  have hnickname : Wire.textOrEmpty (.plain "nickname") o = .ok u.nickname :=
    Wire.textOrEmpty_written (ho.find? (by simp) (by simp))
  have havatar : Wire.textOrEmpty ⟨"avatarUrl", "avatar_url"⟩ o = .ok u.avatarUrl :=
    Wire.textOrEmpty_written (ho.find? (by simp) (by simp))
  have hdescription : Wire.textOrEmpty (.plain "description") o = .ok u.description :=
    Wire.textOrEmpty_written (ho.find? (by simp) (by simp))
  have hrole : Wire.required (.plain "role") Role.parse o = .ok u.role :=
    Wire.required_written (ho.find? (by simp) (by simp)) u.role.parse_text
  have hcreate : Wire.instant ⟨"createTime", "create_time"⟩ o = .ok u.createTime ↔
      u.createTime.HasPlainYear :=
    Wire.instant_written_iff (ho.find? (by simp) (by simp)) (h.times _ (by simp [times]))
  have hupdate : Wire.instant ⟨"updateTime", "update_time"⟩ o = .ok u.updateTime ↔
      u.updateTime.HasPlainYear :=
    Wire.instant_written_iff (ho.find? (by simp) (by simp)) (h.times _ (by simp [times]))
  simp [ofFields_eq_ok, hname, husername, hemail, hnickname, havatar, hdescription, hrole,
    hcreate, hupdate, times]

end User

-- ---------------------------------------------------------------------------
-- Places
-- ---------------------------------------------------------------------------

namespace Location

theorem ofFields_written {l : Location} (h : l.InRange) :
    ∃ o, l.toWire = .object o ∧ ofFields o = .ok l := by
  obtain ⟨o, hwire, ho⟩ : ∃ o, l.toWire = .object o ∧ Wire.MadeOf o _ := ⟨_, rfl, rfl⟩
  refine ⟨o, hwire, ofFields_eq_ok.mpr ⟨h, ?_, ?_, ?_⟩⟩
  · exact Wire.textOrEmpty_written (ho.find? (by simp) (by simp))
  · exact Checked.map_eq_ok.mpr ⟨some l.latitude, Wire.double?_written
      (ho.find? (by simp) (by simp)), rfl⟩
  · exact Checked.map_eq_ok.mpr ⟨some l.longitude, Wire.double?_written
      (ho.find? (by simp) (by simp)), rfl⟩

end Location

-- ---------------------------------------------------------------------------
-- Memos
-- ---------------------------------------------------------------------------

namespace Memo

theorem checkAttachment_written (i : Nat) (n : AttachmentName) :
    checkAttachment i (Json.ofFields [("name", .text n.text)]) = .ok n :=
  Checked.ofExcept_eq_ok.mpr n.parseStrict_text

theorem checkLocation_written {o : Fields} {l? : Option Location}
    (hfind : Wire.find? (.plain "location") o = l?.map Location.toWire)
    (hl : ∀ l ∈ l?, l.InRange) : checkLocation o = .ok l? := by
  cases l? with
  | none => simp [checkLocation, Wire.object?, hfind, Checked.andThen]
  | some l =>
    obtain ⟨fields, hwire, hread⟩ := Location.ofFields_written (hl l rfl)
    rw [Option.map_some, hwire] at hfind
    simp [checkLocation, Wire.object?, hfind, Checked.andThen, hread, Checked.map]

theorem ofWire_toWire_iff {m : Memo} (h : m.IsChecked) :
    WireModel.ofWire (WireModel.toWire m) = .ok m ↔ ∀ t ∈ m.times, t.HasPlainYear := by
  refine WireModel.ofWire_ofFields_iff fun o ho => ?_
  change ofFields o = .ok m ↔ _
  have hname : Wire.required (.plain "name") ResourceName.parseStrict o = .ok m.name :=
    Wire.required_written (ho.find? (by simp) (by simp)) m.name.parseStrict_text
  have hstate : Wire.required (.plain "state") MemoState.parse o = .ok m.state :=
    Wire.required_written (ho.find? (by simp) (by simp)) m.state.parse_text
  have hcreator : Wire.required (.plain "creator") ResourceName.parseStrict o = .ok m.creator :=
    Wire.required_written (ho.find? (by simp) (by simp)) m.creator.parseStrict_text
  have hcreate : Wire.instant ⟨"createTime", "create_time"⟩ o = .ok m.createTime ↔
      m.createTime.HasPlainYear :=
    Wire.instant_written_iff (ho.find? (by simp) (by simp)) (h.times _ (by simp [times]))
  have hupdate : Wire.instant ⟨"updateTime", "update_time"⟩ o = .ok m.updateTime ↔
      m.updateTime.HasPlainYear :=
    Wire.instant_written_iff (ho.find? (by simp) (by simp)) (h.times _ (by simp [times]))
  have hdisplay : Wire.instant? ⟨"displayTime", "display_time"⟩ o = .ok m.displayTime ↔
      ∀ t ∈ m.displayTime, t.HasPlainYear :=
    Wire.instant?_written_iff (ho.find? (by simp) (by simp))
      fun t ht => h.times t (by simp [times, Option.mem_def.mp ht])
  have hcontent : Wire.textOrEmpty (.plain "content") o = .ok m.content :=
    Wire.textOrEmpty_written (ho.find? (by simp) (by simp))
  have hsnippet : Wire.textOrEmpty (.plain "snippet") o = .ok m.snippet :=
    Wire.textOrEmpty_written (ho.find? (by simp) (by simp))
  have hvisibility : Wire.required (.plain "visibility") Visibility.parse o = .ok m.visibility :=
    Wire.required_written (ho.find? (by simp) (by simp)) m.visibility.parse_text
  have hpinned : Wire.boolOrFalse (.plain "pinned") o = .ok m.pinned :=
    Wire.boolOrFalse_written (ho.find? (by simp) (by simp))
  have hparent : Wire.optional (.plain "parent") ResourceName.parseStrict o = .ok m.parent :=
    Wire.optional_written (ho.find? (by simp) (by simp))
      (fun n _ => n.text_ne_empty) (fun n _ => n.parseStrict_text)
  have htags : TagSet.ofList <$> Wire.items (.plain "tags") checkTag o = .ok m.tags := by
    refine Checked.map_eq_ok.mpr ⟨m.tags.toList, ?_, m.tags.ofList_toList⟩
    exact Wire.items_written (ho.find? (by simp) (by simp))
      fun i tag htag => checkTag_eq_ok.mpr ⟨tag, rfl, h.tags tag htag⟩
  have hattachments : Wire.items (.plain "attachments") checkAttachment o = .ok m.attachments :=
    Wire.items_written (ho.find? (by simp) (by simp))
      fun i n _ => checkAttachment_written i n
  have hlocation : checkLocation o = .ok m.location :=
    checkLocation_written (ho.find? (by simp) (by simp [Location.toWire])) h.location
  simp [ofFields_eq_ok, hname, hstate, hcreator, hcreate, hupdate, hdisplay, hcontent, hsnippet,
    hvisibility, hpinned, hparent, htags, hattachments, hlocation, times, or_imp, forall_and]

end Memo

-- ---------------------------------------------------------------------------
-- All kinds
-- ---------------------------------------------------------------------------

theorem ofWire_toWire_of_wellFormed :
    (∀ m : Memo, m.IsWellFormed → WireModel.ofWire (WireModel.toWire m) = .ok m) ∧
    (∀ a : Attachment, a.IsWellFormed → WireModel.ofWire (WireModel.toWire a) = .ok a) ∧
    ∀ u : User, u.IsWellFormed → WireModel.ofWire (WireModel.toWire u) = .ok u := by
  refine ⟨?_, ?_, ?_⟩
  · intro m h
    exact (Memo.ofWire_toWire_iff h.toIsChecked).mpr h.plainYears
  · intro a h
    exact (Attachment.ofWire_toWire_iff h.toIsChecked).mpr h.plainYears
  · intro u h
    exact (User.ofWire_toWire_iff h.toIsChecked).mpr h.plainYears

/-- A memo from the leap second at the end of 2016 and one of its attachments. -/
theorem ofWire_toWire_leap_second :
    let leap : Instant := ⟨1483228799, 1500000000⟩
    let m : Memo := {
      name := ⟨"1", by decide +kernel⟩, state := .archived, creator := ⟨"2", by decide +kernel⟩
      createTime := leap, updateTime := ⟨-1, 20000⟩, displayTime := some leap
      content := "a \"b\"", snippet := "", visibility := .members, pinned := true
      parent := some ⟨"x%y", by decide +kernel⟩
      tags := { toList := ["a", "b/c"], ascending := by decide +kernel }
      attachments := [⟨"3", by decide +kernel⟩]
      location := some ⟨"pole", Double.ofRatio true 90 1, Double.zero⟩ }
    let a : Attachment := {
      name := ⟨"3", by decide +kernel⟩, createTime := leap, filename := "photo one.png"
      mimeType := "image/png", sizeBytes := 9223372036854775807, externalLink := none
      memo := some m.name }
    let u : User := {
      name := m.creator, username := "ann", email := "", nickname := "", avatarUrl := ""
      description := " ", role := .host, createTime := leap, updateTime := ⟨253402300799, 0⟩ }
    (m.IsWellFormed ∧ WireModel.ofWire (WireModel.toWire m) = .ok m) ∧
      (a.IsWellFormed ∧ WireModel.ofWire (WireModel.toWire a) = .ok a) ∧
      (u.IsWellFormed ∧ WireModel.ofWire (WireModel.toWire u) = .ok u) := by
  intro leap m a u
  have hm : m.IsWellFormed :=
    { times := by decide +kernel
      tags := by decide +kernel
      location := by decide +kernel
      plainYears := by decide +kernel }
  have ha : a.IsWellFormed :=
    { times := by decide +kernel
      filename_trimmed := by decide +kernel
      filename_nonempty := by decide +kernel
      mimeType := by decide +kernel
      size_nonneg := by decide +kernel
      size_le := by decide +kernel
      externalLink := by decide +kernel
      plainYears := by decide +kernel }
  have hu : u.IsWellFormed :=
    { times := by decide +kernel
      username_trimmed := by decide +kernel
      username_nonempty := by decide +kernel
      email_trimmed := by decide +kernel
      email := by decide +kernel
      plainYears := by decide +kernel }
  obtain ⟨hmemo, hattachment, huser⟩ := ofWire_toWire_of_wellFormed
  exact ⟨⟨hm, hmemo m hm⟩, ⟨ha, hattachment a ha⟩, ⟨hu, huser u hu⟩⟩

/-- Among the objects that were read, those come back from their wire form whose times have
years of four digits in Universal Time. -/
theorem ofWire_toWire_iff_plainYears (v : Json) :
    (∀ m : Memo, WireModel.ofWire v = .ok m →
      (WireModel.ofWire (WireModel.toWire m) = .ok m ↔ ∀ t ∈ m.times, t.HasPlainYear)) ∧
    (∀ a : Attachment, WireModel.ofWire v = .ok a →
      (WireModel.ofWire (WireModel.toWire a) = .ok a ↔ ∀ t ∈ a.times, t.HasPlainYear)) ∧
    ∀ u : User, WireModel.ofWire v = .ok u →
      (WireModel.ofWire (WireModel.toWire u) = .ok u ↔ ∀ t ∈ u.times, t.HasPlainYear) := by
  refine ⟨?_, ?_, ?_⟩
  · intro m h
    obtain ⟨o, -, hread⟩ := WireModel.ofWire_eq_ok.mp h
    exact Memo.ofWire_toWire_iff (Memo.isChecked_of_ofFields hread)
  · intro a h
    obtain ⟨o, -, hread⟩ := WireModel.ofWire_eq_ok.mp h
    exact Attachment.ofWire_toWire_iff (Attachment.isChecked_of_ofFields hread)
  · intro u h
    obtain ⟨o, -, hread⟩ := WireModel.ofWire_eq_ok.mp h
    exact User.ofWire_toWire_iff (User.isChecked_of_ofFields hread)

/-- One object of each kind: a user whose offset shifts the last day of the year 9999 into the
next year, a memo with a leap second, and an attachment. -/
theorem ofWire_toWire_shifted_year :
    let m : Memo := {
      name := ⟨"1", by decide +kernel⟩, state := .normal, creator := ⟨"2", by decide +kernel⟩
      createTime := ⟨1483228799, 1500000000⟩, updateTime := ⟨1483228800, 0⟩, displayTime := none
      content := "", snippet := "", visibility := .everyone, pinned := false, parent := none
      tags := { toList := ["a"] }, attachments := [], location := none }
    let a : Attachment := {
      name := ⟨"3", by decide +kernel⟩, createTime := ⟨0, 0⟩, filename := "b.png"
      mimeType := "image/png", sizeBytes := 5, externalLink := none, memo := none }
    let u : User := {
      name := ⟨"2", by decide +kernel⟩, username := "ann", email := "", nickname := ""
      avatarUrl := "", description := "", role := .user, createTime := ⟨0, 0⟩
      updateTime := ⟨253402304399, 0⟩ }
    let memo : Json := .object [
      ("createTime", .text "2017-01-01T01:59:60.5+02:00"), ("creator", .text "users/2"),
      ("name", .text "memos/1"), ("state", .text "NORMAL"), ("tags", .array [.text " #a "]),
      ("update_time", .text "2017-01-01T00:00:00Z"), ("visibility", .text "PUBLIC")]
    let attachment : Json := .object [
      ("createTime", .text "1970-01-01t00:00:00z"), ("filename", .text " b.png"),
      ("name", .text "attachments/3"), ("size", .text "+5"), ("type", .text "image/png")]
    let user : Json := .object [
      ("createTime", .text "1970-01-01T00:00:00Z"), ("name", .text "users/2"),
      ("role", .text "USER"), ("updateTime", .text "9999-12-31T23:59:59-01:00"),
      ("username", .text "ann")]
    (WireModel.ofWire memo = .ok m ∧
      (WireModel.ofWire (WireModel.toWire m) = .ok m ↔ ∀ t ∈ m.times, t.HasPlainYear)) ∧
    (WireModel.ofWire attachment = .ok a ∧
      (WireModel.ofWire (WireModel.toWire a) = .ok a ↔ ∀ t ∈ a.times, t.HasPlainYear)) ∧
    (WireModel.ofWire user = .ok u ∧
      (WireModel.ofWire (WireModel.toWire u) = .ok u ↔ ∀ t ∈ u.times, t.HasPlainYear)) := by
  intro m a u memo attachment user
  have hm : WireModel.ofWire memo = .ok m := by decide +kernel
  have ha : WireModel.ofWire attachment = .ok a := by decide +kernel
  have hu : WireModel.ofWire user = .ok u := by decide +kernel
  exact ⟨⟨hm, (ofWire_toWire_iff_plainYears memo).1 m hm⟩,
    ⟨ha, (ofWire_toWire_iff_plainYears attachment).2.1 a ha⟩,
    ⟨hu, (ofWire_toWire_iff_plainYears user).2.2 u hu⟩⟩

/-- A day that Universal Time counts to the year before the first. -/
theorem unreadable_though_read :
    let v : Json := .object [
      ("createTime", .text "0000-01-01T00:00:00+23:59"), ("filename", .text "photo one.png"),
      ("name", .text "attachments/a1"), ("size", .text "1234"), ("type", .text "image/png")]
    ∃ a : Attachment, WireModel.ofWire v = .ok a ∧
      WireModel.ofWire (WireModel.toWire a) ≠ .ok a := by
  intro v
  refine ⟨{
    name := ⟨"a1", by decide +kernel⟩, createTime := ⟨-62167305540, 0⟩
    filename := "photo one.png", mimeType := "image/png", sizeBytes := 1234
    externalLink := none, memo := none }, ?_, ?_⟩
  · decide +kernel
  · decide +kernel

end RemoteNotes
