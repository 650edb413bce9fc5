import RemoteNotes.Proofs.NumberReaders
import RemoteNotes.Proofs.Results
import RemoteNotes.Proofs.Sextets
import RemoteNotes.Proofs.Splitting
import RemoteNotes.Proofs.WrittenJson
import RemoteNotes.Session.Token

/-!
# Signed tokens

A token of three parts is taken to end when the claims in its middle part say so
(`claimedExpiry?_eq_some_iff`): they are an object with one member `exp` that is a whole number,
whatever else the object holds, or a list of that number alone.
-/

namespace RemoteNotes.SessionToken

open Json (Form)
open Json.Form (Layout)
open Json.Grammar
open Json.Reader (past openObject openList closeList Takes)
open Number (maxInt64)
open Text.Utf8 (Octets)
open Time (Instant)

namespace Claims

-- ---------------------------------------------------------------------------
-- Claims
-- ---------------------------------------------------------------------------

/-- A whole number of 64 bits. -/
def IsSeconds (e : Int) (bs rest : Octets) : Prop :=
  IsInteger e bs rest ∧ -(maxInt64 : Int) - 1 ≤ e ∧ e ≤ maxInt64

def endings (ms : List Member) : List Member := ms.filter fun m => m.name == "exp"

/-- The payload is an object, and its member of this name, if there is one, is a null or tells the
end. Its other members hold what they like. -/
def IsObject (payload : Octets) (end? : Option Int) : Prop :=
  ∃ bs ms rest, past payload = openObject :: bs ∧ Members true ms bs rest ∧ past rest = [] ∧
    (endings ms = [] ∧ end? = none ∨
      ∃ m, endings ms = [m] ∧ HoldsOptional IsSeconds end? m.value m.behind)

/-- The payload is a list of a null or of the end, and of nothing else. -/
def IsList (payload : Octets) (end? : Option Int) : Prop :=
  ∃ b₁ b₂ rest, past payload = openList :: b₁ ∧ HoldsOptional IsSeconds end? b₁ b₂ ∧
    past b₂ = closeList :: rest ∧ past rest = []

def Holds (_ : Form.Field Claims) (put : Claims → Claims) (bs rest : Octets) : Prop :=
  ∃ end?, HoldsOptional IsSeconds end? bs rest ∧ (fun c => { c with expiry := end? }) = put

/-- The one part of the claims. -/
def part : Form.Field Claims :=
  { Form.Field.part "exp" (.optional (.int maxInt64 "i64")) fun v c => { c with expiry := v } with
    mayEndBefore := false }

theorem layout_fields : layout.fields = [part] := rfl

theorem filter_answersTo (ms : List Member) :
    ms.filter (fun m => part.answersTo m.name) = endings ms := by
  have hname (m : Member) : part.answersTo m.name = (m.name == "exp") := by
    simp [Form.Field.answersTo, part, Form.Field.part, Bool.beq_comm]
  simp only [hname, endings]

theorem not_isSeconds_null {e : Int} {bs rest : Octets} : ¬IsSeconds e (0x6E :: bs) rest := by
  rintro ⟨hinteger, -⟩
  rcases hinteger.start with h | h
  · exact absurd h (by decide)
  · exact absurd h (by decide)

theorem takes_end {c : Json.Cursor} {end? : Option Int} {rest : Octets} :
    Takes (Form.optional (.int maxInt64 "i64")).ofText c end? rest ↔
      HoldsOptional IsSeconds end? c.rest rest :=
  Form.takes_optional (Form.takes_int (Nat.le_refl maxInt64)) not_isSeconds_null

theorem stands_of_holds {end? : Option Int} {bs rest : Octets}
    (h : HoldsOptional IsSeconds end? bs rest) : Stands .value bs rest := by
  cases end? with
  | none => exact .null h
  | some e => exact IsInteger.stands h.1

theorem layout_parts : layout.Parts Holds where
  takes f hf := by
    intro c put rest
    rw [layout_fields, List.mem_singleton] at hf
    subst hf
    simp only [part, Form.Field.part, Form.takes_formMap, takes_end]
    rfl
  stands f hf := by
    rintro put bs rest ⟨end?, h, -⟩
    exact stands_of_holds h

/-- What is read as claims: an object, and also a list. -/
theorem claims?_eq_some_iff {payload : Octets} {c : Claims} :
    claims? payload = some c ↔ IsObject payload c.expiry ∨ IsList payload c.expiry := by
  unfold claims?
  rw [toOption_eq_some, Json.readOctets_eq_ok]
  simp only [form, Form.takes_record layout_parts]
  constructor
  · rintro ⟨rest, h, hend⟩
    cases h with
    | object hpast hms hgathers hfinish =>
      cases hfinish
      refine .inl ⟨_, _, rest, hpast, hms, hend, ?_⟩
      rw [Layout.gathers_single_iff layout_fields rfl, filter_answersTo] at hgathers
      rcases hgathers with ⟨hnone, rfl⟩ | ⟨-, m, _, hm, ⟨end?, hend?, rfl⟩, rfl⟩
      · exact .inl ⟨hnone, rfl⟩
      · exact .inr ⟨m, hm, hend?⟩
    | list hpast hlists hclose hfinish =>
      cases hfinish
      rw [layout_fields, Layout.lists_single_iff rfl] at hlists
      obtain ⟨_, ⟨end?, hend?, rfl⟩, rfl⟩ := hlists
      exact .inr ⟨_, _, rest, hpast, holdsOptional_past.mp hend?, hclose, hend⟩
  · rintro (⟨bs, ms, rest, hpast, hms, hend, hends⟩ | ⟨b₁, b₂, rest, hpast, hends, hclose, hend⟩)
    · refine ⟨rest, .object hpast hms ?_ rfl, hend⟩
      rw [Layout.gathers_single_iff layout_fields rfl, filter_answersTo]
      rcases hends with ⟨hnone, hend?⟩ | ⟨m, hm, hend?⟩
      · exact .inl ⟨hnone, congrArg Claims.mk hend?.symm⟩
      · exact .inr ⟨List.not_mem_nil, m, _, hm, ⟨c.expiry, hend?, rfl⟩, rfl⟩
    · refine ⟨rest, .list hpast ?_ hclose rfl, hend⟩
      rw [layout_fields, Layout.lists_single_iff rfl]
      exact ⟨_, ⟨c.expiry, holdsOptional_past.mpr hends, rfl⟩, rfl⟩

/-- The payload is an object with one member of this name, which is this whole number. -/
def TellsEnd (payload : Octets) (e : Int) : Prop :=
  ∃ bs ms rest m, past payload = openObject :: bs ∧ Members true ms bs rest ∧ past rest = [] ∧
    endings ms = [m] ∧ IsInteger e (past m.value) m.behind

theorem isObject_some_iff {payload : Octets} {e : Int} :
    IsObject payload (some e) ↔ TellsEnd payload e ∧ -(maxInt64 : Int) - 1 ≤ e ∧ e ≤ maxInt64 := by
  constructor
  · rintro ⟨bs, ms, rest, hpast, hms, hend, ⟨-, hnone⟩ | ⟨m, hm, hinteger, hbounds⟩⟩
    · cases hnone
    · exact ⟨⟨bs, ms, rest, m, hpast, hms, hend, hm, hinteger⟩, hbounds⟩
  · rintro ⟨⟨bs, ms, rest, m, hpast, hms, hend, hm, hinteger⟩, hbounds⟩
    exact ⟨bs, ms, rest, hpast, hms, hend, .inr ⟨m, hm, hinteger, hbounds⟩⟩

theorem tellsEnd_of_claims? {payload : Octets} {e : Int}
    (h : (claims? payload).bind Claims.expiry = some e)
    (hstart : (past payload).head? = some openObject) : TellsEnd payload e := by
  obtain ⟨c, hc, he⟩ := Option.bind_eq_some_iff.mp h
  rcases claims?_eq_some_iff.mp hc with hobject | ⟨_, _, _, hlist, -⟩
  · exact (isObject_some_iff.mp (he ▸ hobject)).1
  · rw [hlist, List.head?_cons] at hstart
    exact absurd (Option.some.inj hstart) (by decide)

/-- The octets of an object that is written with the end among other fields. -/
def written (before after : Json.Fields) (e : Int) : Octets :=
  Text.Utf8.ofString (Json.write (.object (before ++ ("exp", .num (.ofInt e)) :: after)))

theorem tellsEnd_written {before after : Json.Fields} {e : Int}
    (hscalar : ∀ f ∈ before ++ after, IsScalar f.2) (hname : ∀ f ∈ before ++ after, f.1 ≠ "exp") :
    TellsEnd (written before after e) e := by
  rw [List.forall_mem_append] at hscalar hname
  have hscalars : ∀ f ∈ before ++ ("exp", .num (.ofInt e)) :: after, IsScalar f.2 :=
    List.forall_mem_append.mpr ⟨hscalar.1, List.forall_mem_cons.mpr ⟨.whole e, hscalar.2⟩⟩
  have hinteger := isInteger_written e (endsNumber_behindField after)
  rw [written, ofString_write_object]
  exact ⟨_, _, [], _, rfl, members_written hscalars, rfl, filter_membersOf hname.1 hname.2,
    hinteger.past_eq.symm ▸ hinteger⟩

end Claims

-- ---------------------------------------------------------------------------
-- Tokens of three parts
-- ---------------------------------------------------------------------------

/-- A header, the symbols of a payload with padding behind them, and a signature. -/
def signed (header : String) (payload : Octets) (padding : Nat) (signature : String) : String :=
  header ++ "." ++
    String.ofList (Text.Base64.encode Text.Base64.urlSafe payload ++ List.replicate padding '=') ++
    "." ++ signature

section

variable {header signature secret : String} {payload : Octets} {padding : Nat} {e : Int}

theorem toList_signed : (signed header payload padding signature).toList =
    header.toList ++ '.' ::
      ((Text.Base64.encode Text.Base64.urlSafe payload ++ List.replicate padding '=') ++
        '.' :: signature.toList) := by
  simp [signed]

/-- No symbol is a dot or belongs to the padding. -/
theorem symbol_ne {c : Char} (h : c ∈ Text.Base64.encode Text.Base64.urlSafe payload) :
    c ≠ '.' ∧ c ≠ '=' := by
  rw [Text.Base64.encode_eq] at h
  obtain ⟨n, hn, rfl⟩ := List.mem_map.mp h
  have hsymbol : ∀ n < 64, Text.Base64.urlSafe.symbol n ≠ '.' ∧
      Text.Base64.urlSafe.symbol n ≠ '=' := by decide
  exact hsymbol n (Text.Base64.sextets_lt payload n hn)

theorem dot_not_mem_symbols :
    '.' ∉ Text.Base64.encode Text.Base64.urlSafe payload ++ List.replicate padding '=' := by
  intro h
  rcases List.mem_append.mp h with h | h
  · exact (symbol_ne h).1 rfl
  · exact absurd (List.eq_of_mem_replicate h) (by decide)

theorem dropEndWhile_symbols {cs : List Char} :
    Text.dropEndWhile (· == '=') cs = Text.Base64.encode Text.Base64.urlSafe payload ↔
      ∃ padding, cs = Text.Base64.encode Text.Base64.urlSafe payload ++
        List.replicate padding '=' := by
  constructor
  · intro h
    obtain ⟨tail, hcs, htail⟩ := Text.exists_eq_dropEndWhile_append (· == '=') cs
    rw [h] at hcs
    refine ⟨tail.length, hcs.trans (congrArg _ ?_)⟩
    exact List.eq_replicate_of_mem fun c hc => beq_iff_eq.mp (htail c hc)
  · rintro ⟨padding, rfl⟩
    rw [Text.dropEndWhile_append_of_pos]
    · refine Text.dropEndWhile_eq_self fun c hc => ?_
      exact beq_eq_false_iff_ne.mpr (symbol_ne (List.mem_of_getLast? hc)).2
    · exact fun c hc => beq_iff_eq.mpr (List.eq_of_mem_replicate hc)

/-- There is a payload just where there are three parts, the middle one in symbols. -/
theorem payload?_eq_some_iff :
    payload? secret = some payload ↔ ∃ header padding signature, '.' ∉ header.toList ∧
      '.' ∉ signature.toList ∧ secret = signed header payload padding signature := by
  unfold payload?
  constructor
  · intro h
    split at h
    · next first middle last hsplit =>
      rw [Text.Base64.decode?_eq_some_iff Text.Base64.urlSafe_isProper, dropEndWhile_symbols] at h
      obtain ⟨padding, rfl⟩ := h
      simp only [Text.splitOn_eq_cons_cons_iff, Text.splitOn_eq_singleton_iff] at hsplit
      obtain ⟨hfirst, _, hsecret, -, _, rfl, hlast, rfl⟩ := hsplit
      refine ⟨String.ofList first, padding, String.ofList _, by simpa, by simpa, ?_⟩
      rw [← String.toList_inj, toList_signed, hsecret, String.toList_ofList, String.toList_ofList]
    · cases h
  · rintro ⟨header, padding, signature, hheader, hsignature, rfl⟩
    have hsplit : Text.splitOn '.' (signed header payload padding signature).toList =
        [header.toList,
          Text.Base64.encode Text.Base64.urlSafe payload ++ List.replicate padding '=',
          signature.toList] := by
      simp only [Text.splitOn_eq_cons_cons_iff, Text.splitOn_eq_singleton_iff]
      exact ⟨hheader, _, toList_signed, dot_not_mem_symbols, _, rfl, hsignature, rfl⟩
    simp only [hsplit]
    rw [Text.Base64.decode?_eq_some_iff Text.Base64.urlSafe_isProper, dropEndWhile_symbols]
    exact ⟨padding, rfl⟩

theorem ofSeconds?_eq_some_iff {t : Instant} :
    Instant.ofSeconds? e = some t ↔
      (Instant.firstSecond ≤ e ∧ e ≤ Instant.lastSecond) ∧ t = ⟨e, 0⟩ := by
  rw [Instant.ofSeconds?, Option.ite_none_right_eq_some, Option.some.injEq, eq_comm]

theorem claimedExpiry?_eq_some_iff {t : Instant} :
    claimedExpiry? secret = some t ↔ ∃ payload, payload? secret = some payload ∧
      ∃ e, (Claims.IsObject payload (some e) ∨ Claims.IsList payload (some e)) ∧
        (Instant.firstSecond ≤ e ∧ e ≤ Instant.lastSecond) ∧ t = ⟨e, 0⟩ := by
  unfold claimedExpiry?
  simp only [Option.bind_eq_bind, Option.bind_eq_some_iff, Claims.claims?_eq_some_iff,
    ofSeconds?_eq_some_iff]
  constructor
  · rintro ⟨payload, hpayload, c, hclaims, e, hend, h⟩
    exact ⟨payload, hpayload, e, hend ▸ hclaims, h⟩
  · rintro ⟨payload, hpayload, e, hclaims, h⟩
    exact ⟨payload, hpayload, ⟨some e⟩, hclaims, e, rfl, h⟩

theorem claimedExpiry?_of_count (h : secret.toList.count '.' ≠ 2) :
    claimedExpiry? secret = none := by
  rw [Option.eq_none_iff_forall_ne_some]
  intro t ht
  obtain ⟨payload, hpayload, -⟩ := claimedExpiry?_eq_some_iff.mp ht
  obtain ⟨header, padding, signature, hheader, hsignature, rfl⟩ := payload?_eq_some_iff.mp hpayload
  apply h
  rw [toList_signed, List.count_append, List.count_cons_self, List.count_append,
    List.count_cons_self, List.count_eq_zero.mpr hheader, List.count_eq_zero.mpr hsignature,
    List.count_eq_zero.mpr dot_not_mem_symbols]

/-- A kept second is a number of 64 bits. -/
theorem kept_seconds :
    -(maxInt64 : Int) - 1 ≤ Instant.firstSecond ∧ Instant.lastSecond ≤ maxInt64 := by
  decide

theorem expiresAt_signed (hheader : '.' ∉ header.toList) (hsignature : '.' ∉ signature.toList)
    (hfirst : Instant.firstSecond ≤ e) (hlast : e ≤ Instant.lastSecond)
    (hend : Claims.TellsEnd payload e) :
    (ofBearer (signed header payload padding signature)).expiresAt = some ⟨e, 0⟩ := by
  have hbounds := kept_seconds
  have hobject : Claims.IsObject payload (some e) :=
    Claims.isObject_some_iff.mpr ⟨hend, by omega, by omega⟩
  have hpayload : payload? (signed header payload padding signature) = some payload :=
    payload?_eq_some_iff.mpr ⟨header, padding, signature, hheader, hsignature, rfl⟩
  exact claimedExpiry?_eq_some_iff.mpr ⟨payload, hpayload, e, .inl hobject, ⟨hfirst, hlast⟩, rfl⟩

end

/-- A token of three parts whose claims tell their end is taken to end then, however the claims are
spelled and however much padding stands behind them; so it is with claims that were written. A
token with more or fewer parts is not taken to end. -/
theorem bearer_expiry :
    (∀ (header signature : String) (padding : Nat) (e : Int),
      '.' ∉ header.toList → '.' ∉ signature.toList →
      Instant.firstSecond ≤ e → e ≤ Instant.lastSecond →
      (∀ payload, Claims.TellsEnd payload e →
        (ofBearer (signed header payload padding signature)).expiresAt = some ⟨e, 0⟩) ∧
      ∀ before after, (∀ f ∈ before ++ after, IsScalar f.2 ∧ f.1 ≠ "exp") →
        (ofBearer (signed header (Claims.written before after e) padding signature)).expiresAt =
          some ⟨e, 0⟩) ∧
      ∀ secret, secret.toList.count '.' ≠ 2 → (ofBearer secret).expiresAt = none := by
  refine ⟨fun header signature padding e hheader hsignature hfirst hlast => ⟨?_, ?_⟩, ?_⟩
  · exact fun payload => expiresAt_signed hheader hsignature hfirst hlast
  · intro before after hothers
    refine expiresAt_signed hheader hsignature hfirst hlast (Claims.tellsEnd_written ?_ ?_)
    · exact fun f hf => (hothers f hf).1
    · exact fun f hf => (hothers f hf).2
  · exact fun secret => claimedExpiry?_of_count

/-- An end before 1970, under an escaped name and between other members. -/
theorem bearer_expiry_spelled :
    let payload := Text.Utf8.ofString
      " \x7b\"sub\" : \"a\\\"b\", \"e\\u0078p\" : -60 ,\"admin\":true\x7d"
    let before := [("sub", .text "a\"b")]
    let after := [("admin", .bool true), ("iat", .num (.ofInt (-61)))]
    (signed "h" payload 2 "s" =
      "h.IHsic3ViIiA6ICJhXCJiIiwgImVcdTAwNzhwIiA6IC02MCAsImFkbWluIjp0cnVlfQ==.s" ∧
      Claims.TellsEnd payload (-60) ∧
      (ofBearer (signed "h" payload 2 "s")).expiresAt = some ⟨-60, 0⟩) ∧
    ((∀ f ∈ before ++ after, IsScalar f.2 ∧ f.1 ≠ "exp") ∧
      (ofBearer (signed "" (Claims.written before after (-60)) 0 "")).expiresAt = some ⟨-60, 0⟩) ∧
    "one.two".toList.count '.' ≠ 2 ∧ (ofBearer "one.two").expiresAt = none := by
  intro payload before after
  have hend : Claims.TellsEnd payload (-60) :=
    Claims.tellsEnd_of_claims? (by decide +kernel) (by decide)
  have hothers : ∀ f ∈ before ++ after, IsScalar f.2 ∧ f.1 ≠ "exp" := by
    simp only [before, after, List.singleton_append, List.forall_mem_cons]
    exact ⟨⟨.text _, by decide⟩, ⟨.truth _, by decide⟩, ⟨.whole _, by decide⟩, nofun⟩
  obtain ⟨hspelled, -⟩ := bearer_expiry.1 "h" "s" 2 (-60) (by decide) (by decide) (by decide)
    (by decide)
  obtain ⟨-, hwritten⟩ := bearer_expiry.1 "" "" 0 (-60) (by decide) (by decide) (by decide)
    (by decide)
  exact ⟨⟨by decide +kernel, hend, hspelled payload hend⟩, ⟨hothers, hwritten _ _ hothers⟩,
    by decide, bearer_expiry.2 _ (by decide)⟩

end RemoteNotes.SessionToken
