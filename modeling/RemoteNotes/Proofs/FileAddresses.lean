import RemoteNotes.Proofs.Addresses
import RemoteNotes.Proofs.Downloads
import RemoteNotes.Proofs.Results

/-!
# Where downloads go

A download asks for the path of the server, the path of the attachment below it, and one segment
that stands for the name of the file. A name that is a dot segment cannot stand in a path, however
it is encoded, and just the other names arrive (`fileAddress_iff`).
-/

namespace RemoteNotes

open Text Text.Percent

-- ---------------------------------------------------------------------------
-- Segments for any text
-- ---------------------------------------------------------------------------

namespace Text.Percent

open Http.Url (isSlash isOuter isLineEndOrTab keptInPath)

/-- The characters that a text encoded for one segment is written in. -/
def isSegmentChar (c : Char) : Bool :=
  c.toNat < 0x80 && (isUnreserved (UInt8.ofNat c.toNat) || c == '%')

theorem isSegmentChar_ascii {c : Char} (h : isSegmentChar c = true) : c.toNat < 0x80 :=
  of_decide_eq_true (Bool.and_eq_true_iff.mp h).1

/-- They mean nothing to a reader of addresses, who keeps them as they are. -/
theorem isSegmentChar_inert {c : Char} (h : isSegmentChar c = true) :
    keptInPath (UInt8.ofNat c.toNat) = true ∧ isSlash c = false ∧ isOuter c = false ∧
      isLineEndOrTab c = false ∧ c ≠ '#' ∧ c ≠ '?' := by
  have hall : ∀ n < 0x80, isSegmentChar (Char.ofNat n) = true →
      keptInPath (UInt8.ofNat (Char.ofNat n).toNat) = true ∧ isSlash (Char.ofNat n) = false ∧
        isOuter (Char.ofNat n) = false ∧ isLineEndOrTab (Char.ofNat n) = false ∧
        Char.ofNat n ≠ '#' ∧ Char.ofNat n ≠ '?' := by decide +kernel
  have hc := hall c.toNat (isSegmentChar_ascii h)
  rw [Char.ofNat_toNat] at hc
  exact hc h

theorem isUnreserved_char {b : UInt8} (h : isUnreserved b = true) :
    isSegmentChar (Char.ofNat b.toNat) = true ∧ Char.ofNat b.toNat ≠ '%' ∧
      String.utf8EncodeChar (Char.ofNat b.toNat) = [b] := by
  have hall : ∀ n < 256, isUnreserved (UInt8.ofNat n) = true →
      isSegmentChar (Char.ofNat n) = true ∧ Char.ofNat n ≠ '%' ∧
        String.utf8EncodeChar (Char.ofNat n) = [UInt8.ofNat n] := by decide +kernel
  have hb := hall b.toNat b.toNat_lt
  rw [UInt8.ofNat_toNat] at hb
  exact hb h

theorem isSegmentChar_encodeOctet (b : UInt8) : ∀ c ∈ encodeOctet b, isSegmentChar c = true := by
  have hdigit : ∀ n < 16, isSegmentChar (upperHexDigit n) = true := by decide +kernel
  have hb : b.toNat < 256 := b.toNat_lt
  simp only [encodeOctet, List.forall_mem_cons]
  exact ⟨by decide, hdigit _ (by omega), hdigit _ (by omega), List.forall_mem_nil _⟩

theorem isSegmentChar_encode (s : String) :
    ∀ c ∈ (encode isUnreserved s).toList, isSegmentChar c = true := by
  intro c hc
  rw [encode, String.toList_ofList, encodeOctets, List.mem_flatMap] at hc
  obtain ⟨b, -, hc⟩ := hc
  split at hc
  · next hb =>
    cases List.mem_singleton.mp hc
    exact (isUnreserved_char hb).1
  · exact isSegmentChar_encodeOctet b c hc

theorem decode_encode_unreserved (s : String) :
    decode (encode isUnreserved s).toList = Utf8.ofString s := by
  rw [encode, String.toList_ofList]
  induction Utf8.ofString s with
  | nil => rw [encodeOctets, List.flatMap_nil, decode]
  | cons b bs ih =>
    rw [encodeOctets, List.flatMap_cons]
    split
    · next hb =>
      obtain ⟨-, hpercent, hoctet⟩ := isUnreserved_char hb
      rw [List.singleton_append, decode_of_ne hpercent, hoctet]
      exact congrArg (b :: ·) ih
    · rw [decode_encodeOctet]
      exact congrArg (b :: ·) ih

/-- A reader of addresses leaves an encoded segment as it is. -/
theorem encode_path_eq_self {s : String} (h : ∀ c ∈ s.toList, isSegmentChar c = true) :
    encode keptInPath s = s := by
  apply String.toList_inj.mp
  rw [toList_encode]
  generalize s.toList = cs at h
  induction cs with
  | nil => rfl
  | cons c cs ih =>
    obtain ⟨hc, hcs⟩ := List.forall_mem_cons.mp h
    rw [List.flatMap_cons, pathChar_kept (isSegmentChar_ascii hc) (isSegmentChar_inert hc).1,
      ih hcs]
    rfl

end Text.Percent

namespace Http.Url

variable {front : String} {base url : Url} {m : List Char}

-- ---------------------------------------------------------------------------
-- Addresses below a server
-- ---------------------------------------------------------------------------

/-- What goes on behind the slash of a base goes on behind its path as it was written. -/
theorem parse?_root (h : parse? (front ++ "/") = some base) :
    ∃ m, (∀ c ∈ m.head?, endsAuthority c = true) ∧ ∀ more, parse? (front ++ "/" ++ more) =
      some (ofPath base.scheme base.authority (m ++
        '/' :: (dropEndWhile isOuter more.toList).filter (!isLineEndOrTab ·))) := by
  obtain ⟨parts?, hparts⟩ := parse?_slash front
  have hbase := hparts ""
  rw [String.append_empty, h] at hbase
  cases parts? with
  | none => cases hbase
  | some parts =>
    obtain ⟨scheme, r⟩ := parts
    simp only [Option.bind_some] at hparts hbase
    -- behind nothing but slashes there would be no authority
    have hsome : r.dropWhile isSlash ≠ [] := by
      intro hnil
      rw [List.dropWhile_append, hnil] at hbase
      cases hbase
    have hrest (rest : List Char) : (r ++ '/' :: rest).dropWhile isSlash =
        r.dropWhile isSlash ++ '/' :: rest := by
      rw [List.dropWhile_append, if_neg (by simpa using hsome)]
    simp only [hrest] at hparts hbase
    rcases ofAuthority?_slash scheme (r.dropWhile isSlash) with hnone | ⟨authority, m, hm, hpath⟩
    · rw [hnone] at hbase
      cases hbase
    · rw [hpath] at hbase
      cases hbase
      exact ⟨m, hm, fun more => (hparts more).trans (hpath _)⟩

theorem behind_of_mem {mark : Char} (h : mark ∈ m) (rest : List Char) :
    (behind mark (m ++ rest)).1 = (behind mark m).1 := by
  obtain ⟨before, after, rfl, hnot⟩ := List.eq_append_cons_of_mem h
  have hcut (rest : List Char) : cut? mark (before ++ mark :: rest) = some (before, rest) :=
    cut?_eq_some.mpr ⟨rfl, hnot⟩
  rw [behind, behind, List.append_assoc, List.cons_append, hcut, hcut]

theorem ofPath_bare_iff {scheme authority : String} :
    (ofPath scheme authority (m ++ ['/'])).query = none ∧
      (ofPath scheme authority (m ++ ['/'])).fragment = none ↔ '#' ∉ m ∧ '?' ∉ m := by
  constructor
  · rintro ⟨hquery, hfragment⟩
    obtain ⟨hhash, haddress⟩ := behind_eq_none (Option.map_eq_none_iff.mp hfragment)
    simp only [ofPath, haddress] at hquery
    obtain ⟨hmark, -⟩ := behind_eq_none (Option.map_eq_none_iff.mp hquery)
    exact ⟨fun hmem => hhash (List.mem_append_left _ hmem),
      fun hmem => hmark (List.mem_append_left _ hmem)⟩
  · rintro ⟨hhash, hmark⟩
    have hhash' : '#' ∉ m ++ ['/'] := by simpa using hhash
    have hmark' : '?' ∉ m ++ ['/'] := by simpa using hmark
    simp [ofPath, behind_of_not_mem hhash', behind_of_not_mem hmark']

/-- Where a base has a query or a fragment, that takes in all that comes behind it. -/
theorem segments_of_marked {scheme authority : String} (h : '#' ∈ m ∨ '?' ∈ m)
    (rest rest' : List Char) :
    (ofPath scheme authority (m ++ rest)).segments =
      (ofPath scheme authority (m ++ rest')).segments := by
  by_cases hhash : '#' ∈ m
  · simp only [ofPath, behind_of_mem hhash]
  · have hmark : '?' ∈ m := h.resolve_left hhash
    simp only [ofPath, behind_append hhash, behind_of_mem hmark]

theorem resolveFrom_concat {s : String} (hsingle : isSingleDot s = false)
    (hdouble : isDoubleDot s = false) (done front : List String) :
    resolveFrom done (front ++ [s]) = (resolveFrom done (front ++ [""])).dropLast ++ [s] := by
  induction front generalizing done with
  | nil =>
    rw [List.nil_append, resolveFrom, hsingle, hdouble]
    simp [resolveFrom, show isSingleDot "" = false by decide, show isDoubleDot "" = false by decide]
  | cons t front ih =>
    rw [List.cons_append, List.cons_append, resolveFrom_cons done t (by simp),
      resolveFrom_cons done t (by simp), ih]

theorem resolveFrom_singleDot (done : List String) : resolveFrom done ["."] = done ++ [""] := by
  rw [resolveFrom, show isDoubleDot "." = false by decide, show isSingleDot "." = true by decide]
  rfl

theorem resolveFrom_doubleDot (done : List String) :
    resolveFrom done [".."] = done.dropLast ++ [""] := by
  rw [resolveFrom, show isDoubleDot ".." = true by decide]
  rfl

theorem ofPath_unmarked (scheme authority : String)
    (hm : ∀ c ∈ m.head?, endsAuthority c = true) (hmarks : '#' ∉ m ∧ '?' ∉ m) :
    ∃ front, ∀ tail, '#' ∉ tail → '?' ∉ tail →
      (ofPath scheme authority (m ++ '/' :: tail)).segments =
        resolveFrom [] (front ++ pathSegments tail) ∧
      (ofPath scheme authority (m ++ '/' :: tail)).query = none := by
  have hslash : ∀ c ∈ m.head?, isSlash c = true := by
    intro c hc
    have hmem := List.mem_of_head? hc
    have hends := hm c hc
    simp only [endsAuthority, Bool.or_eq_true, beq_iff_eq] at hends
    rcases hends with (hslash | rfl) | rfl
    · exact hslash
    · exact absurd hmem hmarks.2
    · exact absurd hmem hmarks.1
  obtain ⟨front, hread⟩ := readPath_slash hslash
  refine ⟨front, fun tail hhash hmark => ?_⟩
  have hhash' : '#' ∉ m ++ '/' :: tail := by simp [hmarks.1, hhash]
  have hmark' : '?' ∉ m ++ '/' :: tail := by simp [hmarks.2, hmark]
  simp [ofPath, behind_of_not_mem hhash', behind_of_not_mem hmark', hread]

theorem pathSegments_nil : pathSegments [] = [""] := by
  decide

/-- What goes on behind a base without query and fragment takes the place of its last segment,
which is empty. -/
theorem segments_of_unmarked (scheme authority : String)
    (hm : ∀ c ∈ m.head?, endsAuthority c = true) (hmarks : '#' ∉ m ∧ '?' ∉ m) :
    ∃ done, (ofPath scheme authority (m ++ ['/'])).segments = done ++ [""] ∧
      ∀ {tail : List Char} {s : String} {rest : List String}, '#' ∉ tail → '?' ∉ tail →
        pathSegments tail = s :: rest → rest ≠ [] →
        isSingleDot s = false → isDoubleDot s = false →
        (ofPath scheme authority (m ++ '/' :: tail)).segments = resolveFrom (done ++ [s]) rest ∧
          (ofPath scheme authority (m ++ '/' :: tail)).query = none := by
  obtain ⟨front, hfront⟩ := ofPath_unmarked scheme authority hm hmarks
  obtain ⟨hbase, -⟩ := hfront [] (by simp) (by simp)
  rw [pathSegments_nil] at hbase
  refine ⟨(resolveFrom [] (front ++ [""])).dropLast, ?_, ?_⟩
  · rw [hbase]
    exact resolveFrom_concat (by decide) (by decide) [] front
  · intro tail s rest hhash hmark htail hrest hsingle hdouble
    obtain ⟨hsegments, hquery⟩ := hfront tail hhash hmark
    rw [hsegments, htail, resolveFrom_append hsingle hdouble hrest,
      resolveFrom_concat hsingle hdouble]
    exact ⟨rfl, hquery⟩

-- ---------------------------------------------------------------------------
-- Addresses of files
-- ---------------------------------------------------------------------------

/-- Below the path of a base, which ends in a slash, an address is that of the file of an
attachment. -/
structure IsFileAddress (base : Url) (a : Attachment) (thumbnail : Bool) (url : Url) : Prop where
  host : url.scheme = base.scheme ∧ url.authority = base.authority
  path : ∃ front segment, base.segments = front ++ [""] ∧
    url.segments = front ++ ["file", "attachments", a.name.id, segment] ∧
    '/' ∉ segment.toList ∧ decode segment.toList = Utf8.ofString a.filename
  query : url.query = if thumbnail then some "thumbnail=true" else none

/-- Only letters, digits, hyphens and underscores of ASCII. -/
def IsSimpleId (id : String) : Prop := ∀ c ∈ id.toList, c.isAlphanum ∨ c = '-' ∨ c = '_'

instance (id : String) : Decidable (IsSimpleId id) := List.decidableBAll _ id.toList

theorem lt_of_isAlphanum {c : Char} (h : c.isAlphanum = true) : c.toNat < 0x80 := by
  have hrange : (decide ('A'.val ≤ c.val ∧ c.val ≤ 'Z'.val) ||
      decide ('a'.val ≤ c.val) && decide (c.val ≤ 'z'.val) ||
      decide ('0'.val ≤ c.val) && decide (c.val ≤ '9'.val)) = true := h
  simp only [Bool.or_eq_true, Bool.and_eq_true, decide_eq_true_eq, UInt32.le_iff_toNat_le] at hrange
  have hval : c.toNat = c.val.toNat := rfl
  rw [hval]
  rcases hrange with (⟨-, hlast⟩ | ⟨-, hlast⟩) | ⟨-, hlast⟩ <;>
    exact Nat.lt_of_le_of_lt hlast (by decide)

theorem isSimpleId_char {id : String} (h : IsSimpleId id) {c : Char} (hc : c ∈ id.toList) :
    isSegmentChar c = true ∧ c ≠ '%' ∧ c ≠ '.' := by
  have hall : ∀ n < 0x80, (Char.ofNat n).isAlphanum = true →
      isSegmentChar (Char.ofNat n) = true ∧ Char.ofNat n ≠ '%' ∧ Char.ofNat n ≠ '.' := by
    decide +kernel
  rcases h c hc with hletter | rfl | rfl
  · have hletter' := hall c.toNat (lt_of_isAlphanum hletter)
    rw [Char.ofNat_toNat] at hletter'
    exact hletter' hletter
  · decide
  · decide

theorem noDots_of_isSimpleId {id : String} (h : IsSimpleId id) :
    isSingleDot id = false ∧ isDoubleDot id = false := by
  refine noDots_of_decode (t := id) (decode_eq_encode_iff.mpr ?_) ⟨?_, ?_⟩
  · rintro ⟨before, rest, hid, -⟩
    exact (isSimpleId_char h (hid ▸ by simp : '%' ∈ id.toList)).2.1 rfl
  · rintro rfl
    exact (isSimpleId_char h (by decide : '.' ∈ ".".toList)).2.2 rfl
  · rintro rfl
    exact (isSimpleId_char h (by decide : '.' ∈ "..".toList)).2.2 rfl

theorem pathSegments_eq_self {s : String} (h : ∀ c ∈ s.toList, isSegmentChar c = true) :
    pathSegments s.toList = [s] := by
  rw [pathSegments_of_noSlash fun c hc => (isSegmentChar_inert (h c hc)).2.1, String.ofList_toList,
    encode_path_eq_self h]

/-- The address of a file behind the slash of the base. -/
def filePart (a : Attachment) : String :=
  "file/attachments/" ++ a.name.id ++ "/" ++ encode isUnreserved a.filename

theorem toList_filePart (a : Attachment) : (filePart a).toList = "file".toList ++
    '/' :: ("attachments".toList ++ '/' :: (a.name.id.toList ++
      '/' :: (encode isUnreserved a.filename).toList)) := by
  have hlead : "file/attachments/".toList =
      "file".toList ++ '/' :: ("attachments".toList ++ ['/']) := by
    decide
  have hslash : "/".toList = ['/'] := rfl
  unfold filePart
  simp only [String.toList_append, hlead, hslash, List.append_assoc, List.cons_append,
    List.nil_append]

theorem pathSegments_filePart {a : Attachment} (h : IsSimpleId a.name.id) :
    pathSegments (filePart a).toList =
      ["file", "attachments", a.name.id, encode isUnreserved a.filename] := by
  have hslash : isSlash '/' = true := rfl
  have hfile : pathSegments "file".toList = ["file"] := by decide
  have hattachments : pathSegments "attachments".toList = ["attachments"] := by decide
  have hid : pathSegments a.name.id.toList = [a.name.id] :=
    pathSegments_eq_self fun c hc => (isSimpleId_char h hc).1
  rw [toList_filePart, pathSegments_append _ _ hslash, pathSegments_append _ _ hslash,
    pathSegments_append _ _ hslash, hfile, hattachments, hid,
    pathSegments_eq_self (isSegmentChar_encode a.filename)]
  rfl

theorem filePart_char {a : Attachment} (h : IsSimpleId a.name.id) :
    ∀ c ∈ (filePart a).toList, c = '/' ∨ isSegmentChar c = true := by
  intro c hc
  have hfile : ∀ c ∈ "file".toList ++ "attachments".toList, isSegmentChar c = true :=
    List.all_eq_true.mp (by decide)
  simp only [toList_filePart, List.mem_append, List.mem_cons] at hc hfile
  rcases hc with hc | rfl | hc | rfl | hc | rfl | hc
  · exact .inr (hfile c (.inl hc))
  · exact .inl rfl
  · exact .inr (hfile c (.inr hc))
  · exact .inl rfl
  · exact .inr (isSimpleId_char h hc).1
  · exact .inl rfl
  · exact .inr (isSegmentChar_encode a.filename c hc)

variable {a : Attachment} {thumbnail : Bool}

/-- What is an address of a file behind a base that has no query and no fragment is one that stands
for the name, unless that is a dot segment. -/
theorem segments_of_file {done : List String} (hid : IsSimpleId a.name.id)
    (hbase : base.segments = done ++ [""])
    (hurl : url.segments = resolveFrom (done ++ ["file"])
      ["attachments", a.name.id, encode isUnreserved a.filename]) :
    (∃ front segment, base.segments = front ++ [""] ∧
      url.segments = front ++ ["file", "attachments", a.name.id, segment] ∧
      '/' ∉ segment.toList ∧ decode segment.toList = Utf8.ofString a.filename) ↔
      a.filename ≠ "." ∧ a.filename ≠ ".." := by
  have hattachments : isSingleDot "attachments" = false ∧ isDoubleDot "attachments" = false := by
    decide
  have hfront : resolveFrom (done ++ ["file"])
      ["attachments", a.name.id, encode isUnreserved a.filename] =
        resolveFrom (done ++ ["file", "attachments", a.name.id])
          [encode isUnreserved a.filename] := by
    obtain ⟨hsingle, hdouble⟩ := noDots_of_isSimpleId hid
    rw [resolveFrom_cons _ _ (by simp), resolveFrom_cons _ _ (by simp)]
    simp [hattachments, hsingle, hdouble]
  rw [hurl, hbase, hfront]
  constructor
  · rintro ⟨front, segment, hdone, hsegments, -, hdecode⟩
    obtain ⟨hfronts, -⟩ := List.append_inj' hdone rfl
    subst hfronts
    refine ⟨fun hname => ?_, fun hname => ?_⟩
    · -- one dot leaves an empty segment
      have hdot : encode isUnreserved a.filename = "." := by rw [hname]; decide
      rw [hdot, resolveFrom_singleDot, List.append_assoc, List.append_cancel_left_eq] at hsegments
      obtain rfl : "" = segment := by simpa using hsegments
      rw [hname, String.toList_empty, decode] at hdecode
      cases hdecode
    · -- two dots leave one segment less
      have hdot : encode isUnreserved a.filename = ".." := by rw [hname]; decide
      rw [hdot, resolveFrom_doubleDot, List.dropLast_append_of_ne_nil (by simp),
        List.append_assoc, List.append_cancel_left_eq] at hsegments
      simp at hsegments
  · intro hdots
    have hdecode := decode_encode_unreserved a.filename
    obtain ⟨hsingle, hdouble⟩ := noDots_of_decode hdecode hdots
    refine ⟨done, encode isUnreserved a.filename, rfl, ?_, ?_, hdecode⟩
    · rw [resolveFrom, hsingle, hdouble]
      simp
    · intro hslash
      have hinert := (isSegmentChar_inert (isSegmentChar_encode a.filename _ hslash)).2.1
      cases hinert

theorem filePart_unmarked (hid : IsSimpleId a.name.id) {mark : Char}
    (hmark : mark = '#' ∨ mark = '?') : mark ∉ (filePart a).toList := by
  intro hmem
  rcases filePart_char hid mark hmem with rfl | hinert
  · simp at hmark
  · obtain ⟨-, -, -, -, hhash, hquestion⟩ := isSegmentChar_inert hinert
    exact hmark.elim hhash hquestion

theorem filePart_significant (hid : IsSimpleId a.name.id) :
    (dropEndWhile isOuter (filePart a).toList).filter (!isLineEndOrTab ·) =
      (filePart a).toList := by
  have hinert (c : Char) (hc : c ∈ (filePart a).toList) :
      isOuter c = false ∧ isLineEndOrTab c = false := by
    rcases filePart_char hid c hc with rfl | hc
    · decide
    · obtain ⟨-, -, houter, hend, -⟩ := isSegmentChar_inert hc
      exact ⟨houter, hend⟩
  rw [dropEndWhile_eq_self fun c hc => (hinert c (List.mem_of_mem_getLast? hc)).1]
  exact List.filter_eq_self.mpr fun c hc => by rw [(hinert c hc).2]; rfl

theorem query_withPairs (h : url.query = none) :
    (url.withPairs (if thumbnail then [("thumbnail", "true")] else [])).query =
      if thumbnail then some "thumbnail=true" else none := by
  have hadded : formEncodePairs [("thumbnail", "true")] = "thumbnail=true" := by decide +kernel
  cases thumbnail with
  | false => exact h
  | true => simp [withPairs, h, hadded]

theorem withPairs_host (url : Url) (pairs : List (String × String)) :
    (url.withPairs pairs).scheme = url.scheme ∧ (url.withPairs pairs).authority = url.authority ∧
      (url.withPairs pairs).segments = url.segments := by
  unfold withPairs
  split
  · exact ⟨rfl, rfl, rfl⟩
  · dsimp only
    split <;> exact ⟨rfl, rfl, rfl⟩

theorem isFileAddress_iff (hid : IsSimpleId a.name.id) (hbase : parse? (front ++ "/") = some base)
    (hurl : parse? (front ++ "/" ++ filePart a) = some url) :
    IsFileAddress base a thumbnail
        (url.withPairs (if thumbnail then [("thumbnail", "true")] else [])) ↔
      (base.query = none ∧ base.fragment = none) ∧ a.filename ≠ "." ∧ a.filename ≠ ".." := by
  obtain ⟨m, hm, hparse⟩ := parse?_root hbase
  have hroot := hparse ""
  rw [String.append_empty, hbase] at hroot
  change some base = some (ofPath base.scheme base.authority (m ++ ['/'])) at hroot
  rw [hparse, filePart_significant hid] at hurl
  generalize base.scheme = scheme, base.authority = authority at hroot hurl
  obtain rfl := Option.some.inj hroot
  obtain rfl := Option.some.inj hurl
  obtain ⟨hscheme, hauthority, hsegments⟩ := withPairs_host
    (ofPath scheme authority (m ++ '/' :: (filePart a).toList))
    (if thumbnail then [("thumbnail", "true")] else [])
  rw [ofPath_bare_iff]
  by_cases hmarks : '#' ∉ m ∧ '?' ∉ m
  · obtain ⟨done, hdone, htail⟩ := segments_of_unmarked scheme authority hm hmarks
    obtain ⟨hfile, hquery⟩ := htail (filePart_unmarked hid (.inl rfl))
      (filePart_unmarked hid (.inr rfl)) (pathSegments_filePart hid) (by simp) (by decide)
      (by decide)
    rw [and_iff_right hmarks, ← segments_of_file hid hdone hfile, ← hsegments]
    exact ⟨fun h => h.path, fun h => ⟨⟨hscheme, hauthority⟩, h, query_withPairs hquery⟩⟩
  · refine iff_of_false (fun h => ?_) fun h => hmarks h.1
    obtain ⟨front, segment, hbase, hfile, -⟩ := h.path
    have hmarked : '#' ∈ m ∨ '?' ∈ m := by
      by_contra hnone
      exact hmarks (not_or.mp hnone)
    rw [hsegments, segments_of_marked hmarked _ ['/'], hbase, List.append_cancel_left_eq] at hfile
    simp at hfile

end Http.Url

namespace Client

open Http.Url

variable {c : Client} {a : Attachment} {thumbnail : Bool} {x : Exchange}

/-- A request for the file that the download of an attachment sends. -/
structure AsksForFile (c : Client) (a : Attachment) (thumbnail : Bool) (x : Exchange) : Prop where
  sent : ∃ sink s sent, ((c.downloadAttachment a thumbnail sink).run s).2.exchanges =
    s.exchanges ++ sent ∧ x ∈ sent
  purpose : x.purpose = .download

theorem fileUrl_filePath (c : Client) (a : Attachment) :
    c.fileUrl a.filePath = c.config.baseUrl ++ "/" ++ filePart a := by
  have hlead : "/file/" ++ ResourceKind.attachment.lead = "/" ++ "file/attachments/" := by decide
  have hpath : a.filePath = "/" ++ filePart a := by
    unfold filePart Attachment.filePath
    simp only [ResourceName.text, ← String.append_assoc, hlead]
  have hchars : a.filePath.toList.dropWhile (· == '/') = (filePart a).toList := by
    rw [hpath, String.toList_append, toList_filePart]
    rfl
  rw [Client.fileUrl, hchars, String.ofList_toList]

theorem AsksForFile.url (h : AsksForFile c a thumbnail x) :
    ∃ url, Http.Url.parse? (c.config.baseUrl ++ "/" ++ filePart a) = some url ∧
      x.request.url = url.withPairs (if thumbnail then [("thumbnail", "true")] else []) := by
  obtain ⟨sink, s, sent, hsent, hx⟩ := h.sent
  obtain ⟨sent', hsent', hcourse⟩ := downloadAttachment_course c a thumbnail sink s
  rw [hsent, List.append_cancel_left_eq] at hsent'
  subst hsent'
  rcases hcourse.isForFile x hx with hlogin | ⟨-, token, hbuild⟩
  · rw [h.purpose] at hlogin
    cases hlogin
  · obtain ⟨-, -, url, hurl, hx⟩ := build?_eq_some hbuild
    rw [fileUrl_filePath] at hurl
    exact ⟨url, hurl, hx⟩

/-- A download asks for an address of the file below the server just if the address of the server
is a mere path and the name of the file is no dot segment. -/
theorem fileAddress_iff (h : AsksForFile c a thumbnail x) (hid : IsSimpleId a.name.id) :
    (∃ base, parse? (c.config.baseUrl ++ "/") = some base ∧
      IsFileAddress base a thumbnail x.request.url) ↔
    (∃ base, parse? (c.config.baseUrl ++ "/") = some base ∧
      base.query = none ∧ base.fragment = none) ∧ a.filename ≠ "." ∧ a.filename ≠ ".." := by
  obtain ⟨url, hurl, hx⟩ := h.url
  rw [hx]
  constructor
  · rintro ⟨base, hbase, haddress⟩
    obtain ⟨hbare, hdots⟩ := (isFileAddress_iff hid hbase hurl).mp haddress
    exact ⟨⟨base, hbase, hbare⟩, hdots⟩
  · rintro ⟨⟨base, hbase, hbare⟩, hdots⟩
    exact ⟨base, hbase, (isFileAddress_iff hid hbase hurl).mpr ⟨hbare, hdots⟩⟩

/-- An encoded dot, a slash, marks and a letter of two octets arrive in one segment. -/
theorem fileAddress_of_marks :
    let c := facing (.token "key") fun _ _ => .answered ⟨200, [], [], .complete⟩
    let a : Attachment := {
      name := ⟨"a-1_B", by decide⟩, createTime := ⟨0, 0⟩, filename := "%2e/?#ß"
      mimeType := "image/png", sizeBytes := 0, externalLink := none, memo := none }
    ∃ x base, AsksForFile c a true x ∧ IsSimpleId a.name.id ∧
      parse? (c.config.baseUrl ++ "/") = some base ∧ IsFileAddress base a true x.request.url ∧
      x.request.url.target = "/file/attachments/a-1_B/%252e%2F%3F%23%C3%9F?thumbnail=true" := by
  intro c a
  have hsent : ((c.downloadAttachment a true {}).run c.start).2.exchanges.map
      (fun x => (x.purpose, x.request.url.target)) =
        [(.download, "/file/attachments/a-1_B/%252e%2F%3F%23%C3%9F?thumbnail=true")] := by
    decide +kernel
  obtain ⟨x, hx, heq⟩ := List.map_eq_singleton_iff.mp hsent
  obtain ⟨hpurpose, htarget⟩ := Prod.mk.inj heq
  have hasks : AsksForFile c a true x :=
    ⟨⟨{}, c.start, [x], hx, List.mem_singleton_self x⟩, hpurpose⟩
  have hid : IsSimpleId a.name.id := by decide
  have hbare : (parse? (c.config.baseUrl ++ "/")).map (fun base => (base.query, base.fragment)) =
      some (none, none) := by decide +kernel
  obtain ⟨base, hbase, hnone⟩ := Option.map_eq_some_iff.mp hbare
  obtain ⟨hquery, hfragment⟩ := Prod.mk.inj hnone
  obtain ⟨base', hbase', haddress⟩ := (fileAddress_iff hasks hid).mpr
    ⟨⟨base, hbase, hquery, hfragment⟩, by decide, by decide⟩
  exact ⟨x, base', hasks, hid, hbase', haddress, htarget⟩

/-- A file whose name is two dots is asked for at the address of all files. -/
theorem file_of_dots :
    let c := facing (.token "key") fun _ _ => .answered ⟨200, [], [], .complete⟩
    ∃ (a : Attachment) (x : Exchange),
      WireModel.ofWire (.object [("createTime", .text "2024-05-01T12:00:00Z"),
        ("filename", .text ".."), ("name", .text "attachments/a1"), ("size", .text "4"),
        ("type", .text "image/png")]) = .ok a ∧ a.filename = ".." ∧
      IsSimpleId a.name.id ∧ AsksForFile c a false x ∧
      x.request.url.target = "/file/attachments/" ∧
      ¬∃ base, parse? (c.config.baseUrl ++ "/") = some base ∧
        IsFileAddress base a false x.request.url := by
  intro c
  let a : Attachment := {
    name := ⟨"a1", by decide⟩, createTime := ⟨1714564800, 0⟩, filename := ".."
    mimeType := "image/png", sizeBytes := 4, externalLink := none, memo := none }
  have hread : (WireModel.ofWire (.object [("createTime", .text "2024-05-01T12:00:00Z"),
        ("filename", .text ".."), ("name", .text "attachments/a1"), ("size", .text "4"),
        ("type", .text "image/png")])).toOption = some a := by decide +kernel
  have hsent : ((c.downloadAttachment a false {}).run c.start).2.exchanges.map
      (fun x => (x.purpose, x.request.url.target)) = [(.download, "/file/attachments/")] := by
    decide +kernel
  obtain ⟨x, hx, heq⟩ := List.map_eq_singleton_iff.mp hsent
  obtain ⟨hpurpose, htarget⟩ := Prod.mk.inj heq
  have hasks : AsksForFile c a false x :=
    ⟨⟨{}, c.start, [x], hx, List.mem_singleton_self x⟩, hpurpose⟩
  have hid : IsSimpleId a.name.id := by decide
  refine ⟨a, x, toOption_eq_some.mp hread, rfl, hid, hasks, htarget, fun haddress => ?_⟩
  obtain ⟨url, hurl, hx⟩ := hasks.url
  obtain ⟨base, hbase, haddress⟩ := haddress
  rw [hx] at haddress
  exact ((isFileAddress_iff hid hbase hurl).mp haddress).2.2 rfl

end Client

end RemoteNotes
