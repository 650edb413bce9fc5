import RemoteNotes.Proofs.Addresses
import RemoteNotes.Proofs.Calls
import RemoteNotes.Proofs.Frame
import RemoteNotes.Proofs.Names

/-!
# Where requests about names go

Requests about a memo, an attachment or a user go to an address that its name is part of, as
it is. An id with marks, dots or encoded octets means something else there, and just the names
without them have an address that no other name shares (`addresses_iff_isPlain`).
-/

namespace RemoteNotes

open Http Text Text.Percent

namespace Http.Url

-- ---------------------------------------------------------------------------
-- Addresses of names
-- ---------------------------------------------------------------------------

/-- What follows a name in the addresses that are in use: nothing, or one more segment. -/
def tails : List (List String) := [[], ["attachments"]]

def tailChars (tail : List String) : List Char := tail.flatMap fun s => '/' :: s.toList

/-- Below a base, an address is that of a name and what follows it. -/
structure Addresses (base : Url) {kind : ResourceKind} (n : ResourceName kind)
    (tail : List String) (url : Url) : Prop where
  host : url.scheme = base.scheme ∧ url.authority = base.authority
  path : ∃ segment, url.segments = base.segments ++ [kind.collection, segment] ++ tail ∧
    decode segment.toList = Utf8.ofString n.id
  query : url.query = none

/-- An id that can be put in an address as it is. -/
structure IsPlain (tail : List String) (id : String) : Prop where
  marks : ∀ c ∈ id.toList, c ≠ '?' ∧ c ≠ '#' ∧ c ≠ '\\'
  octets : ¬HasEncodedOctet id.toList
  dots : id ≠ "." ∧ id ≠ ".."
  ending : tail = [] → ∀ c ∈ id.toList.getLast?, isOuter c = false

variable {base : Url} {kind : ResourceKind} {tail : List String}

/-- The part of an id that arrives. -/
def sentId (tail : List String) (id : List Char) : List Char :=
  if tail = [] then dropEndWhile isOuter id else id

theorem sentId_sublist (tail : List String) (id : List Char) : (sentId tail id).Sublist id := by
  unfold sentId
  split
  · rw [← List.reverse_sublist, dropEndWhile, List.reverse_reverse]
    exact List.dropWhile_sublist _
  · exact List.Sublist.refl _

theorem dropEndWhile_text (htail : tail ∈ tails) (n : ResourceName kind) :
    dropEndWhile isOuter (n.text.toList ++ tailChars tail) =
      kind.collection.toList ++ '/' :: (sentId tail n.id.toList ++ tailChars tail) := by
  have htext : n.text.toList = kind.collection.toList ++ '/' :: n.id.toList := by
    simp [ResourceName.text, ResourceKind.lead]
  rw [htext]
  simp only [tails, List.mem_cons, List.not_mem_nil, or_false] at htail
  rcases htail with rfl | rfl
  · simp only [tailChars, List.flatMap_nil, List.append_nil, dropEndWhile_append_cons (c := '/')
      (p := isOuter) rfl]
    rfl
  · have hchars : kind.collection.toList ++ '/' :: n.id.toList ++ tailChars ["attachments"] =
        (kind.collection.toList ++ '/' :: n.id.toList) ++ '/' :: "attachments".toList := rfl
    have hlast : dropEndWhile isOuter "attachments".toList = "attachments".toList := by decide
    rw [hchars, dropEndWhile_append_cons rfl, hlast, List.append_assoc]
    rfl

theorem pathSegments_tail (htail : tail ∈ tails) (q : List Char) :
    pathSegments (q ++ tailChars tail) = pathSegments q ++ tail := by
  simp only [tails, List.mem_cons, List.not_mem_nil, or_false] at htail
  rcases htail with rfl | rfl
  · simp [tailChars]
  · have hlast : pathSegments "attachments".toList = ["attachments"] := by decide
    rw [← hlast, ← pathSegments_append q _ (c := '/') rfl, hlast]
    rfl

theorem not_mem_tailChars (htail : tail ∈ tails) {mark : Char} (hmark : mark = '#' ∨ mark = '?') :
    mark ∉ tailChars tail := by
  revert tail
  rcases hmark with rfl | rfl <;> decide

/-- The path goes on behind a base with the collection and what comes before all marks. -/
theorem segments_below (base : Url) (kind : ResourceKind) (r : List Char) :
    let path := behind '?' (behind '#' r).1
    (base.below (kind.collection.toList ++ '/' :: r)).segments =
        resolveFrom base.segments (kind.collection :: pathSegments path.1) ∧
      (base.below (kind.collection.toList ++ '/' :: r)).query =
        path.2.map fun q => encode keptInQuery (String.ofList q) := by
  have hcollection : pathSegments kind.collection.toList = [kind.collection] := by
    cases kind <;> decide
  have hbehind {mark : Char} (hmark : mark = '#' ∨ mark = '?') (r : List Char) :
      behind mark (kind.collection.toList ++ '/' :: r) =
        (kind.collection.toList ++ '/' :: (behind mark r).1, (behind mark r).2) := by
    have hnot : mark ∉ kind.collection.toList ++ ['/'] := by
      rcases hmark with rfl | rfl <;> cases kind <;> decide
    simpa using behind_append hnot r
  simp only [below, hbehind (.inl rfl), hbehind (.inr rfl), and_true]
  rw [pathSegments_append _ _ (c := '/') rfl, hcollection]
  rfl

theorem segments_below_of_query {q₀ : List Char} (htail : tail ∈ tails)
    (h : (base.below (kind.collection.toList ++ '/' :: (q₀ ++ tailChars tail))).query = none) :
    ∃ q tail', q.Sublist q₀ ∧ (q = q₀ → '#' ∉ q ∧ '?' ∉ q) ∧ tail' ⊆ tail ∧
      (base.below (kind.collection.toList ++ '/' :: (q₀ ++ tailChars tail))).segments =
        resolveFrom base.segments (kind.collection :: (pathSegments q ++ tail')) := by
  obtain ⟨hsegments, hquery⟩ := segments_below base kind (q₀ ++ tailChars tail)
  rw [hsegments]
  rw [hquery, Option.map_eq_none_iff] at h
  obtain ⟨hnone, hpath⟩ := behind_eq_none h
  rw [hpath]
  by_cases hmark : '#' ∈ q₀
  · -- what comes before the mark is only a part
    obtain ⟨a, b, rfl, hnot⟩ := List.eq_append_cons_of_mem hmark
    have hbefore : (behind '#' ((a ++ '#' :: b) ++ tailChars tail)).1 = a := by
      rw [List.append_assoc, behind_append hnot]
      exact List.append_nil a
    rw [hbefore]
    refine ⟨a, [], List.sublist_append_left .., fun heq => ?_, List.nil_subset _, ?_⟩
    · have hlength := congrArg List.length heq
      simp at hlength
    · rw [List.append_nil]
  · have hall : '#' ∉ q₀ ++ tailChars tail := fun hmem =>
      (List.mem_append.mp hmem).elim hmark (not_mem_tailChars htail (.inl rfl))
    rw [behind_of_not_mem hall] at hnone ⊢
    refine ⟨q₀, tail, List.Sublist.refl _, fun _ => ⟨hmark, fun hmem => ?_⟩, List.Subset.refl _, ?_⟩
    · exact hnone (List.mem_append_left _ hmem)
    · rw [pathSegments_tail htail]

/-- The segments that the service has of its own. -/
def words : List String := ["memos", "attachments", "users"]

theorem collection_mem_words (kind : ResourceKind) : kind.collection ∈ words := by
  cases kind <;> decide

theorem mem_words_of_mem (htail : tail ∈ tails) {s : String} (hs : s ∈ tail) : s ∈ words := by
  have hall : ∀ tail ∈ tails, ∀ s ∈ tail, s ∈ words := by decide
  exact hall tail htail s hs

theorem noDots_of_word {s : String} (h : s ∈ words) :
    isSingleDot s = false ∧ isDoubleDot s = false := by
  revert s
  decide

/-- Its words are ids like any other. -/
theorem isPlain_of_word {id : String} (h : id ∈ words) : IsPlain tail id := by
  have hmarks : ∀ s ∈ words, ∀ c ∈ s.toList, c ≠ '?' ∧ c ≠ '#' ∧ c ≠ '\\' := by simp [words]
  have hpercent : ∀ s ∈ words, '%' ∉ s.toList := by decide
  have hdots : ∀ s ∈ words, s ≠ "." ∧ s ≠ ".." := by decide
  have hending : ∀ s ∈ words, ∀ c ∈ s.toList.getLast?, isOuter c = false := by
    simp [words, isOuter]
  refine ⟨hmarks id h, fun hoctet => ?_, hdots id h, fun _ => hending id h⟩
  obtain ⟨before, rest, hid, -⟩ := hoctet
  exact hpercent id h (hid ▸ by simp)

theorem noSlash_of_isPlain {n : ResourceName kind} (h : IsPlain tail n.id) :
    ∀ c ∈ n.id.toList, isSlash c = false := by
  intro c hc
  have hslash := (((isId_iff n.id).mp n.isId).2 c hc).1
  simp [isSlash, hslash, (h.marks c hc).2.2]

theorem noDots_of_isPlain {n : ResourceName kind} (h : IsPlain tail n.id) :
    isSingleDot (encode keptInPath n.id) = false ∧ isDoubleDot (encode keptInPath n.id) = false := by
  refine noDots_of_decode (t := n.id) ?_ h.dots
  rw [decode_encode, decode_eq_encode_iff.mpr h.octets, Utf8.ofString]

theorem addresses_of_isPlain (base : Url) (htail : tail ∈ tails) {n : ResourceName kind}
    (h : IsPlain tail n.id) :
    Addresses base n tail
      (base.below (dropEndWhile isOuter (n.text.toList ++ tailChars tail))) := by
  have hsent : sentId tail n.id.toList = n.id.toList := by
    unfold sentId
    split
    · next hnil => exact dropEndWhile_eq_self (h.ending hnil)
    · rfl
  have hnot {mark : Char} (hmark : mark = '#' ∨ mark = '?') :
      mark ∉ n.id.toList ++ tailChars tail := by
    intro hmem
    rcases List.mem_append.mp hmem with hmem | hmem
    · rcases hmark with rfl | rfl
      · exact (h.marks _ hmem).2.1 rfl
      · exact (h.marks _ hmem).1 rfl
    · exact not_mem_tailChars htail hmark hmem
  rw [dropEndWhile_text htail, hsent]
  obtain ⟨hsegments, hquery⟩ := segments_below base kind (n.id.toList ++ tailChars tail)
  rw [behind_of_not_mem (hnot (.inl rfl)), behind_of_not_mem (hnot (.inr rfl))] at hsegments hquery
  refine ⟨below_host base _, ⟨encode keptInPath n.id, ?_, ?_⟩, hquery⟩
  · rw [hsegments, pathSegments_tail htail, pathSegments_of_noSlash (noSlash_of_isPlain h),
      String.ofList_toList, resolveFrom_of_noDots, List.append_assoc]
    · rfl
    · intro s hs
      rcases List.mem_cons.mp hs with rfl | hs
      · exact noDots_of_word (collection_mem_words kind)
      · rcases List.mem_cons.mp hs with rfl | hs
        · exact noDots_of_isPlain h
        · exact noDots_of_word (mem_words_of_mem htail hs)
  · rw [decode_encode]
    exact decode_eq_encode_iff.mpr h.octets

theorem isPlain_of_addresses {base : Url} (htail : tail ∈ tails) {n : ResourceName kind}
    (h : Addresses base n tail
      (base.below (dropEndWhile isOuter (n.text.toList ++ tailChars tail)))) :
    IsPlain tail n.id := by
  rw [dropEndWhile_text htail] at h
  obtain ⟨-, ⟨segment, hpath, hdecode⟩, hquery⟩ := h
  obtain ⟨q, tail', hsub, hmarks, htail', hsegments⟩ := segments_below_of_query htail hquery
  rw [hsegments, List.append_assoc] at hpath
  have hsegment := mem_of_resolveFrom hpath segment (by simp)
  have hword (hmem : segment ∈ words) : IsPlain tail n.id := by
    have hself := decode_eq_encode_iff.mpr (show IsPlain tail segment from isPlain_of_word hmem).octets
    obtain rfl : segment = n.id := Utf8.ofString_inj.mp (hself.symm.trans hdecode)
    exact isPlain_of_word hmem
  rcases hsegment with rfl | ⟨hmem, hsingle, hdouble⟩
  · have hnone : decode "".toList = Utf8.encode "".toList := by
      rw [String.toList_empty, decode]
      rfl
    have hempty : "" = n.id := Utf8.ofString_inj.mp (hnone.symm.trans hdecode)
    exact absurd hempty.symm ((isId_iff n.id).mp n.isId).1
  · rw [List.mem_cons, List.mem_append] at hmem
    rcases hmem with rfl | hmem | hmem
    · exact hword (collection_mem_words kind)
    · obtain ⟨rfl, rfl, hslash, hoctets⟩ :=
        eq_of_mem_pathSegments hmem (hsub.trans (sentId_sublist tail _)) hdecode
      have hsent : n.id.toList = sentId tail n.id.toList :=
        hsub.eq_of_length_le (sentId_sublist tail _).length_le
      obtain ⟨hhash, hquestion⟩ := hmarks hsent
      rw [String.ofList_toList] at hsingle hdouble
      refine ⟨fun c hc => ⟨?_, ?_, ?_⟩, hoctets, ⟨?_, ?_⟩, fun hnil => ?_⟩
      · rintro rfl
        exact hquestion hc
      · rintro rfl
        exact hhash hc
      · rintro rfl
        cases hslash _ hc
      · intro hid
        rw [hid] at hsingle
        revert hsingle
        decide
      · intro hid
        rw [hid] at hdouble
        revert hdouble
        decide
      · rw [hsent, sentId, if_pos hnil]
        exact getLast_dropEndWhile
    · exact hword (mem_words_of_mem htail (htail' hmem))

-- ---------------------------------------------------------------------------
-- Names told apart
-- ---------------------------------------------------------------------------

theorem toList_intercalate_cons (s : String) (tail : List String) :
    (String.intercalate "/" (s :: tail)).toList = s.toList ++ tailChars tail := by
  induction tail generalizing s with
  | nil => rw [String.intercalate_singleton, tailChars, List.flatMap_nil, List.append_nil]
  | cons t tail ih =>
    rw [String.intercalate_cons_cons, String.toList_append, String.toList_append, ih,
      List.append_assoc]
    rfl

theorem takeWhile_tailChars {cs : List Char} (h : '/' ∉ cs) (tail : List String) :
    (cs ++ tailChars tail).takeWhile (· != '/') = cs := by
  have hall : ∀ c ∈ cs, (c != '/') = true := fun c hc => by
    simpa using fun heq : c = '/' => h (heq ▸ hc)
  rw [List.takeWhile_append_of_pos hall]
  cases tail with
  | nil => exact List.append_nil cs
  | cons s tail => exact List.append_nil cs

theorem eq_of_append_tailChars {cs ds : List Char} (hcs : '/' ∉ cs) (hds : '/' ∉ ds)
    {tail tail' : List String} (h : cs ++ tailChars tail = ds ++ tailChars tail') :
    cs = ds ∧ tailChars tail = tailChars tail' := by
  have hfront := congrArg (·.takeWhile (· != '/')) h
  simp only [takeWhile_tailChars hcs, takeWhile_tailChars hds] at hfront
  subst hfront
  exact ⟨rfl, List.append_cancel_left h⟩

theorem noSlash_of_decode {s : String} {n : ResourceName kind}
    (h : decode s.toList = Utf8.ofString n.id) : '/' ∉ s.toList := by
  intro hslash
  have hmem : UInt8.ofNat '/'.toNat ∈ Utf8.encode n.id.toList := by
    have hslash := slash_mem_decode hslash
    rwa [h] at hslash
  exact (((isId_iff n.id).mp n.isId).2 '/' ((Utf8.mem_encode_ascii (by decide)).mp hmem)).1 rfl

/-- Below one base, the target of an address tells which name it is the address of. -/
theorem Addresses.text_eq {kind' : ResourceKind} {n : ResourceName kind} {n' : ResourceName kind'}
    {tail' : List String} {url url' : Url} (h : Addresses base n tail url)
    (h' : Addresses base n' tail' url') (htarget : url.target = url'.target) :
    n.text = n'.text := by
  obtain ⟨segment, hpath, hdecode⟩ := h.path
  obtain ⟨segment', hpath', hdecode'⟩ := h'.path
  have hcollection (kind : ResourceKind) : '/' ∉ kind.collection.toList := by
    cases kind <;> decide
  have htargets : (String.intercalate "/" (base.segments ++ kind.collection :: segment :: tail)).toList =
      (String.intercalate "/" (base.segments ++ kind'.collection :: segment' :: tail')).toList := by
    simp only [target, Url.path, queryPart, h.query, h'.query, hpath, hpath'] at htarget
    have hchars := congrArg String.toList htarget
    simpa using hchars
  have hback : kind.collection.toList ++ tailChars (segment :: tail) =
      kind'.collection.toList ++ tailChars (segment' :: tail') := by
    rw [← toList_intercalate_cons, ← toList_intercalate_cons]
    cases hfront : base.segments with
    | nil => rwa [hfront] at htargets
    | cons s front =>
      rw [hfront, String.intercalate_append_of_ne_nil (by simp) (by simp),
        String.intercalate_append_of_ne_nil (by simp) (by simp)] at htargets
      simp only [String.toList_append] at htargets
      exact List.append_cancel_left htargets
  obtain ⟨hkind, hsegments⟩ := eq_of_append_tailChars (hcollection kind) (hcollection kind') hback
  have hafter : segment.toList ++ tailChars tail = segment'.toList ++ tailChars tail' :=
    (List.cons.inj hsegments).2
  obtain ⟨hsegment, -⟩ :=
    eq_of_append_tailChars (noSlash_of_decode hdecode) (noSlash_of_decode hdecode') hafter
  rw [hsegment, hdecode'] at hdecode
  rw [ResourceName.text, ResourceName.text, ResourceKind.lead, ResourceKind.lead,
    String.toList_inj.mp hkind, Utf8.ofString_inj.mp hdecode]

end Http.Url

-- ---------------------------------------------------------------------------
-- What operations about names send
-- ---------------------------------------------------------------------------

/-- What an operation is about, as it was asked for, and what follows the name in the address. -/
structure Aim where
  kind : ResourceKind
  raw : String
  tail : List String

def Aim.path (aim : Aim) (n : ResourceName aim.kind) : String :=
  n.text ++ String.ofList (Url.tailChars aim.tail)

/-- What an operation about one thing is about. -/
def Operation.aim? : Operation → Option Aim
  | .getMemo raw | .updateMemo raw _ | .deleteMemo raw => some ⟨.memo, raw, []⟩
  | .setMemoAttachments raw _ | .listMemoAttachments raw => some ⟨.memo, raw, ["attachments"]⟩
  | .getAttachment raw | .deleteAttachment raw => some ⟨.attachment, raw, []⟩
  | .getUser raw => some ⟨.user, raw, []⟩
  | _ => none

namespace Client

open Url
open RemoteNotes.Action (Chains Respects)

variable {c : Client} {path : String} {kind : ResourceKind} {tail : List String}

/-- A request for a path, without a query. -/
def IsPlainCall (c : Client) (path : String) (x : Exchange) : Prop :=
  ∃ request token, IsCall c request token x ∧ request.path = path ∧ request.query = []

def OnlyCalls (c : Client) (path : String) (s t : ClientState) : Prop :=
  ∃ xs, Called s xs t ∧ ∀ x ∈ xs, IsPlainCall c path x

theorem onlyCalls_chains : Chains (OnlyCalls c path) where
  refl _ := ⟨[], called_nil rfl, List.forall_mem_nil _⟩
  trans h k := by
    obtain ⟨xs, hxs, hall⟩ := h
    obtain ⟨ys, hys, hall'⟩ := k
    exact ⟨xs ++ ys, hxs.trans hys, List.forall_mem_append.mpr ⟨hall, hall'⟩⟩

theorem onlyCalls_call {request : ApiRequest} (hpath : request.path = path)
    (hquery : request.query = []) : Respects (OnlyCalls c path) (c.call request) := by
  intro s
  obtain ⟨sent, htrace, hcalled⟩ := call_trace c request s
  refine ⟨sent, hcalled, fun x hx => ?_⟩
  obtain ⟨token, hx⟩ := htrace.isCall x hx
  exact ⟨request, token, hx, hpath, hquery⟩

theorem onlyCalls_fetch {α : Type} [WireModel α] {request : ApiRequest}
    (hpath : request.path = path) (hquery : request.query = []) :
    Respects (OnlyCalls c path) (c.fetch request : Action α) :=
  .bind onlyCalls_chains (onlyCalls_call hpath hquery) fun _ => .ofExcept onlyCalls_chains _

theorem checked_ok_bind {α β : Type} (a : α) (f : α → Action β) :
    (checked (.ok a) >>= f) = f a := rfl

theorem about_path {kind : ResourceKind} (method : Method) (operation : String)
    (n : ResourceName kind) (tail : String) :
    (about method operation n tail).path = n.text ++ tail := by
  have hhead : ∀ d ∈ (n.text ++ tail).toList.head?, (d == '/') = false := by
    cases kind <;> simp [ResourceName.text, ResourceKind.lead, ResourceKind.collection]
  change String.ofList ((n.text ++ tail).toList.dropWhile (· == '/')) = n.text ++ tail
  rw [dropWhile_eq_self hhead, String.ofList_toList]

theorem onlyCalls_perform {op : Operation} {aim : Aim} (haim : op.aim? = some aim)
    {n : ResourceName aim.kind} (hname : ResourceName.parse aim.raw = .ok n) :
    Respects (OnlyCalls c (aim.path n)) (op.perform c) := by
  cases op with
  | getMemo raw =>
    cases haim
    refine .discard ?_
    rw [getMemo, hname, checked_ok_bind]
    exact onlyCalls_fetch (about_path ..) rfl
  | updateMemo raw update =>
    cases haim
    refine .discard ?_
    rw [updateMemo, hname, checked_ok_bind]
    exact .bind onlyCalls_chains (.ofExcept onlyCalls_chains _)
      fun _ => onlyCalls_fetch (about_path .patch "update_memo" n "") rfl
  | deleteMemo raw =>
    cases haim
    change Respects _ (c.deleteMemo raw)
    rw [deleteMemo, hname, checked_ok_bind]
    exact .bind onlyCalls_chains (onlyCalls_call (about_path ..) rfl)
      fun _ => .pure onlyCalls_chains _
  | setMemoAttachments raw attachments =>
    cases haim
    change Respects _ (c.setMemoAttachments raw attachments)
    rw [setMemoAttachments, hname, checked_ok_bind]
    refine .bind onlyCalls_chains (.ofExcept onlyCalls_chains _) fun names => ?_
    exact .bind onlyCalls_chains (onlyCalls_call (about_path .patch "set_memo_attachments" n attachmentsTail) rfl)
      fun _ => .pure onlyCalls_chains _
  | listMemoAttachments raw =>
    cases haim
    refine .discard ?_
    rw [listMemoAttachments, hname, checked_ok_bind]
    exact .bind onlyCalls_chains (onlyCalls_call (about_path ..) rfl)
      fun _ => .ofExcept onlyCalls_chains _
  | getAttachment raw =>
    cases haim
    refine .discard ?_
    rw [getAttachment, hname, checked_ok_bind]
    exact onlyCalls_fetch (about_path ..) rfl
  | deleteAttachment raw =>
    cases haim
    change Respects _ (c.deleteAttachment raw)
    rw [deleteAttachment, hname, checked_ok_bind]
    exact .bind onlyCalls_chains (onlyCalls_call (about_path ..) rfl)
      fun _ => .pure onlyCalls_chains _
  | getUser raw =>
    cases haim
    refine .discard ?_
    rw [getUser, hname, checked_ok_bind]
    exact onlyCalls_fetch (about_path ..) rfl
  | _ => cases haim

/-- A request that an operation sends about what it was asked for. -/
structure SendsAbout (c : Client) (op : Operation) (aim : Aim) (n : ResourceName aim.kind)
    (x : Exchange) : Prop where
  aim? : op.aim? = some aim
  name : ResourceName.parse aim.raw = .ok n
  sent : ∃ s sent, (c.after s op).exchanges = s.exchanges ++ sent ∧ x ∈ sent
  call : x.purpose = .call

theorem mem_tails_of_aim? {op : Operation} {aim : Aim} (h : op.aim? = some aim) :
    aim.tail ∈ tails := by
  cases op <;> cases h <;> simp [tails]

theorem SendsAbout.isPlainCall {op : Operation} {aim : Aim} {n : ResourceName aim.kind} {x : Exchange}
    (h : SendsAbout c op aim n x) : IsPlainCall c (aim.path n) x := by
  obtain ⟨s, sent, hsent, hx⟩ := h.sent
  obtain ⟨xs, hcalled, hall⟩ := onlyCalls_perform (c := c) h.aim? h.name s
  refine hall x ?_
  rw [← hcalled.eq]
  change x ∈ ((c.after s op).exchanges.drop s.exchanges.length).filter _
  rw [hsent, List.drop_left]
  exact List.mem_filter.mpr ⟨hx, decide_eq_true h.call⟩

theorem noLineEnds (htail : tail ∈ tails) (n : ResourceName kind) :
    ∀ c ∈ (n.text ++ String.ofList (tailChars tail)).toList, isLineEndOrTab c = false := by
  have hfront : ∀ c ∈ (kind.collection ++ "/").toList, isLineEndOrTab c = false := by
    cases kind <;> simp [ResourceKind.collection, isLineEndOrTab]
  have hback : ∀ tail ∈ tails, ∀ c ∈ tailChars tail, isLineEndOrTab c = false := by
    simp [tails, tailChars, isLineEndOrTab]
  have hblank {c : Char} (h : isBlank c = false) : isLineEndOrTab c = false := by
    cases hc : isLineEndOrTab c with
    | false => rfl
    | true =>
      simp only [isLineEndOrTab, Bool.or_eq_true, beq_iff_eq] at hc
      rcases hc with (rfl | rfl) | rfl <;> cases h
  intro c hc
  rw [ResourceName.text, String.toList_append, String.toList_append, String.toList_ofList,
    List.mem_append, List.mem_append] at hc
  rcases hc with (hc | hc) | hc
  · exact hfront c hc
  · exact hblank (((isId_iff n.id).mp n.isId).2 c hc).2
  · exact hback tail htail c hc

/-- What is sent about a name goes on behind the base of the service with that name. -/
theorem SendsAbout.url {op : Operation} {aim : Aim} {n : ResourceName aim.kind} {x : Exchange}
    (h : SendsAbout c op aim n x) :
    ∃ base, parse? c.config.apiBaseUrl = some base ∧
      (base.query = none → base.fragment = none → x.request.url =
        base.below (dropEndWhile isOuter (n.text.toList ++ tailChars aim.tail))) := by
  obtain ⟨request, token, hcall, hpath, hquery⟩ := h.isPlainCall
  obtain ⟨-, ⟨url, hurl, hx⟩, -⟩ := hcall.onWire
  rw [hpath, ClientConfig.apiBaseUrl, String.append_assoc] at hurl
  obtain ⟨base, hbase, hbelow⟩ := parse?_below hurl (noLineEnds (mem_tails_of_aim? h.aim?) n)
  refine ⟨base, hbase, fun hnone hnone' => ?_⟩
  rw [hx, hquery, hbelow hnone hnone', Aim.path, String.toList_append, String.toList_ofList]
  rfl

/-- Just the names with plain ids are sent to an address of their own, the collection, the id
and what belongs to the operation, and no two of them to the same one. -/
theorem addresses_iff_isPlain {op : Operation} {aim : Aim} {n : ResourceName aim.kind}
    {x : Exchange} (h : SendsAbout c op aim n x) :
    ∃ base, parse? c.config.apiBaseUrl = some base ∧
      (base.query = none → base.fragment = none →
        (Addresses base n aim.tail x.request.url ↔ IsPlain aim.tail n.id) ∧
        (IsPlain aim.tail n.id →
          ∀ (op' : Operation) (aim' : Aim) (n' : ResourceName aim'.kind) (x' : Exchange),
            SendsAbout c op' aim' n' x' → IsPlain aim'.tail n'.id →
              x.request.url.target = x'.request.url.target → n.text = n'.text)) := by
  obtain ⟨base, hbase, hurl⟩ := h.url
  refine ⟨base, hbase, fun hquery hfragment => ?_⟩
  have hplain {op : Operation} {aim : Aim} {n : ResourceName aim.kind} {x : Exchange}
      (h : SendsAbout c op aim n x) :
      Addresses base n aim.tail x.request.url ↔ IsPlain aim.tail n.id := by
    obtain ⟨base', hbase', hurl⟩ := h.url
    cases hbase.symm.trans hbase'
    rw [hurl hquery hfragment]
    have htail := mem_tails_of_aim? h.aim?
    exact ⟨isPlain_of_addresses htail, addresses_of_isPlain base htail⟩
  refine ⟨hplain h, fun hn op' aim' n' x' h' hn' htarget => ?_⟩
  exact ((hplain h).mpr hn).text_eq ((hplain h').mpr hn') htarget

/-- A lone percent sign and a letter of two octets arrive. -/
theorem addresses_of_percent :
    let c := facing (.token "key") fun _ _ => .answered ⟨200, [], [123, 125], .complete⟩
    let n : MemoName := ⟨"50%ß", by decide⟩
    ∃ x base, SendsAbout c (.deleteMemo n.text) ⟨.memo, n.text, []⟩ n x ∧
      parse? c.config.apiBaseUrl = some base ∧ base.query = none ∧ base.fragment = none ∧
      IsPlain [] n.id ∧ Addresses base n [] x.request.url ∧
      x.request.url.target = "/api/v1/memos/50%%C3%9F" := by
  intro c n
  have hsent : (c.after c.start (.deleteMemo n.text)).exchanges.map
      (fun x => (x.purpose, x.request.url.target)) = [(.call, "/api/v1/memos/50%%C3%9F")] := by
    decide +kernel
  obtain ⟨x, hx, heq⟩ := List.map_eq_singleton_iff.mp hsent
  obtain ⟨hcall, htarget⟩ := Prod.mk.inj heq
  have hsends : SendsAbout c (.deleteMemo n.text) ⟨.memo, n.text, []⟩ n x :=
    ⟨rfl, ResourceName.parse_text n, ⟨c.start, [x], hx, List.mem_singleton_self x⟩, hcall⟩
  have hplain : IsPlain [] n.id := by
    refine ⟨by simp [n], ?_, by decide, fun _ => by simp [n, isOuter]⟩
    simp [n, hasEncodedOctet_cons, StartsHex]
  have hbare : (parse? c.config.apiBaseUrl).map (fun base => (base.query, base.fragment)) =
      some (none, none) := by decide +kernel
  obtain ⟨base, hbase, h⟩ := addresses_iff_isPlain hsends
  rw [hbase] at hbare
  obtain ⟨hquery, hfragment⟩ := Prod.mk.inj (Option.some.inj hbare)
  exact ⟨x, base, hsends, hbase, hquery, hfragment, hplain,
    (h hquery hfragment).1.mpr hplain, htarget⟩

/-- The deletion of one memo is asked for with the target of another. -/
theorem deleted_by_another_name :
    let c := facing (.token "key") fun _ _ => .answered ⟨200, [], [123, 125], .complete⟩
    let sent (raw : String) := (c.after c.start (.deleteMemo raw)).exchanges.map fun x =>
      (x.request.method, x.request.url.target)
    (ResourceName.parse "memos/a#b" : Except _ MemoName) = .ok ⟨"a#b", by decide⟩ ∧
      (ResourceName.parse "memos/a" : Except _ MemoName) = .ok ⟨"a", by decide⟩ ∧
      sent "memos/a#b" = [(.delete, "/api/v1/memos/a")] ∧
      sent "memos/a" = [(.delete, "/api/v1/memos/a")] := by
  exact ⟨ResourceName.parse_text ⟨"a#b", by decide⟩, ResourceName.parse_text ⟨"a", by decide⟩,
    by decide +kernel, by decide +kernel⟩

end Client

end RemoteNotes
