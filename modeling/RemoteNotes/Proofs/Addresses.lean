import RemoteNotes.Proofs.PercentCoding
import RemoteNotes.Proofs.Splitting

/-!
# Addresses below a base

What is read from an address that continues another one. Where the base has neither query nor
fragment, scheme and authority stay as they are, and the path goes on from the path of the base
(`parse?_below`). A segment that was not changed on the way stands for the text it was made of
(`eq_of_mem_pathSegments`).
-/

namespace RemoteNotes

namespace Text

open Percent (hexValue?)

theorem isPrefixOf?_append_cons {c : Char} {lead : List Char} (hc : c ∉ lead)
    (cs rest : List Char) :
    lead.isPrefixOf? (cs ++ c :: rest) = (lead.isPrefixOf? cs).map (· ++ c :: rest) := by
  induction lead generalizing cs with
  | nil => rfl
  | cons d lead ih =>
    have hstep (e : Char) (es : List Char) : (d :: lead).isPrefixOf? (e :: es) =
        if d == e then lead.isPrefixOf? es else none := rfl
    cases cs with
    | nil =>
      have hd : (d == c) = false := by
        simpa using fun heq : d = c => hc (heq ▸ List.mem_cons_self)
      rw [List.nil_append, hstep, hd]
      rfl
    | cons e cs =>
      rw [List.cons_append, hstep, hstep, ih fun hmem => hc (List.mem_cons_of_mem d hmem)]
      split <;> rfl

-- ---------------------------------------------------------------------------
-- Lower case
-- ---------------------------------------------------------------------------

theorem toLower_cases (c : Char) : c.toLower = c ∨ ∃ n < 26, c = Char.ofNat (0x41 + n) := by
  unfold Char.toLower
  split
  · next h =>
    have hfirst : 0x41 ≤ c.toNat := h.1
    have hlast : c.toNat ≤ 0x5A := h.2
    refine .inr ⟨c.toNat - 0x41, by omega, ?_⟩
    rw [Nat.add_sub_cancel' hfirst, Char.ofNat_toNat]
  · exact .inl rfl

theorem eq_of_toLower {c d : Char} (hd : d.isLower = false) (h : c.toLower = d) : c = d := by
  rcases toLower_cases c with hc | ⟨n, hn, rfl⟩
  · exact hc.symm.trans h
  · have hlower : ∀ n < 26, (Char.ofNat (0x41 + n)).toLower.isLower = true := by decide
    rw [← h, hlower n hn] at hd
    cases hd

theorem hexValue?_of_toLower {c : Char} (h : c.toLower = 'e') : hexValue? c = some 14 := by
  rcases toLower_cases c with hc | ⟨n, hn, rfl⟩
  · rw [← hc, h]
    rfl
  · have hletter : ∀ n < 26, (Char.ofNat (0x41 + n)).toLower = 'e' →
        hexValue? (Char.ofNat (0x41 + n)) = some 14 := by decide
    exact hletter n hn h

end Text

namespace Http.Url

open Text Text.Percent

-- ---------------------------------------------------------------------------
-- Queries and fragments
-- ---------------------------------------------------------------------------

theorem behind_append {mark : Char} {cs : List Char} (h : mark ∉ cs) (rest : List Char) :
    behind mark (cs ++ rest) = (cs ++ (behind mark rest).1, (behind mark rest).2) := by
  rw [behind, cut?_append h, behind]
  cases cut? mark rest <;> rfl

theorem behind_eq_none {mark : Char} {cs : List Char} (h : (behind mark cs).2 = none) :
    mark ∉ cs ∧ behind mark cs = (cs, none) := by
  unfold behind at h ⊢
  cases hcut : cut? mark cs with
  | none => exact ⟨cut?_eq_none.mp hcut, rfl⟩
  | some parts => rw [hcut] at h; cases h

theorem behind_of_not_mem {mark : Char} {cs : List Char} (h : mark ∉ cs) :
    behind mark cs = (cs, none) := by
  rw [behind, cut?_eq_none.mpr h]

-- ---------------------------------------------------------------------------
-- Segments
-- ---------------------------------------------------------------------------

/-- The segments that are written in a path, dots and all. -/
def pathSegments (cs : List Char) : List String :=
  (splitSegments cs).map fun piece => encode keptInPath (String.ofList piece)

theorem pathSegments_append (cs rest : List Char) {c : Char} (hc : isSlash c = true) :
    pathSegments (cs ++ c :: rest) = pathSegments cs ++ pathSegments rest := by
  have hsplit : splitSegments (cs ++ c :: rest) = splitSegments cs ++ splitSegments rest := by
    rw [splitSegments, List.map_append, List.map_cons, if_pos hc, splitOn_append_cons]
    rfl
  rw [pathSegments, hsplit, List.map_append]
  rfl

theorem pathSegments_ne_nil (cs : List Char) : pathSegments cs ≠ [] := by
  simp [pathSegments, splitSegments, splitOn_ne_nil]

theorem pathSegments_of_noSlash {cs : List Char} (h : ∀ c ∈ cs, isSlash c = false) :
    pathSegments cs = [encode keptInPath (String.ofList cs)] := by
  have hmap : (cs.map fun c => if isSlash c then '/' else c) = cs := by
    conv => rhs; rw [← List.map_id cs]
    refine List.map_congr_left fun c hc => ?_
    simp [h c hc]
  have hslash : '/' ∉ cs := fun hmem => Bool.noConfusion (h '/' hmem)
  rw [pathSegments, splitSegments, hmap, splitOn_of_not_mem hslash]
  rfl

theorem resolveFrom_cons (done : List String) (s : String) {rest : List String} (h : rest ≠ []) :
    resolveFrom done (s :: rest) =
      resolveFrom (if isDoubleDot s then done.dropLast else if isSingleDot s then done
        else done ++ [s]) rest := by
  obtain ⟨t, rest, rfl⟩ := List.exists_cons_of_ne_nil h
  rw [resolveFrom]
  split
  · rfl
  · split <;> rfl

/-- A segment that is no dot stays, whatever comes behind it. -/
theorem resolveFrom_append {s : String} (hsingle : isSingleDot s = false)
    (hdouble : isDoubleDot s = false) {rest : List String} (hrest : rest ≠ [])
    (done front : List String) :
    resolveFrom done (front ++ s :: rest) = resolveFrom (resolveFrom done (front ++ [s])) rest := by
  induction front generalizing done with
  | nil =>
    rw [List.nil_append, List.nil_append, resolveFrom_cons done s hrest, resolveFrom, hdouble,
      hsingle]
    rfl
  | cons t front ih =>
    rw [List.cons_append, List.cons_append, resolveFrom_cons done t (by simp),
      resolveFrom_cons done t (by simp), ih]

theorem resolveFrom_of_noDots {segments : List String}
    (h : ∀ s ∈ segments, isSingleDot s = false ∧ isDoubleDot s = false) (done : List String) :
    resolveFrom done segments = done ++ segments := by
  induction segments generalizing done with
  | nil => exact (List.append_nil done).symm
  | cons s rest ih =>
    obtain ⟨hsingle, hdouble⟩ := h s List.mem_cons_self
    cases rest with
    | nil =>
      rw [resolveFrom, hsingle, hdouble]
      rfl
    | cons t more =>
      rw [resolveFrom_cons done s (List.cons_ne_nil t more), hsingle, hdouble]
      simp only [Bool.false_eq_true, ↓reduceIte]
      rw [ih (fun u hu => h u (List.mem_cons_of_mem s hu)), List.append_assoc,
        List.singleton_append]

/-- What holds of the empty segment and of every given one that is no dot holds of all segments
beyond a place, if it did before. -/
theorem forall_drop_resolveFrom {P : String → Prop} {n : Nat} (hempty : P "")
    {done segments : List String}
    (hgiven : ∀ s ∈ segments, isSingleDot s = false → isDoubleDot s = false → P s)
    (hdone : ∀ s ∈ done.drop n, P s) : ∀ s ∈ (resolveFrom done segments).drop n, P s := by
  have hlast {front : List String} (hfront : ∀ s ∈ front.drop n, P s) :
      ∀ s ∈ front.dropLast.drop n, P s :=
    fun s hs => hfront s (((List.dropLast_sublist front).drop n).subset hs)
  have hsnoc {front : List String} {t : String} (hfront : ∀ s ∈ front.drop n, P s) (ht : P t) :
      ∀ s ∈ (front ++ [t]).drop n, P s := by
    intro s hs
    rw [List.drop_append, List.mem_append] at hs
    rcases hs with hs | hs
    · exact hfront s hs
    · cases List.mem_singleton.mp (List.mem_of_mem_drop hs)
      exact ht
  induction segments generalizing done with
  | nil => exact hdone
  | cons t rest ih =>
    have hrest : ∀ s ∈ rest, isSingleDot s = false → isDoubleDot s = false → P s :=
      fun s hs => hgiven s (List.mem_cons_of_mem t hs)
    cases rest with
    | nil =>
      rw [resolveFrom]
      split
      · exact hsnoc (hlast hdone) hempty
      · next hdouble =>
        split
        · exact hsnoc hdone hempty
        · next hsingle =>
          exact hsnoc hdone (hgiven t List.mem_cons_self (by simpa using hsingle)
            (by simpa using hdouble))
    | cons u more =>
      rw [resolveFrom_cons done t (List.cons_ne_nil u more)]
      refine ih hrest ?_
      split
      · exact hlast hdone
      · next hdouble =>
        split
        · exact hdone
        · next hsingle =>
          exact hsnoc hdone (hgiven t List.mem_cons_self (by simpa using hsingle)
            (by simpa using hdouble))

/-- What comes behind the segments from before are given segments that are no dots, and empty
ones. -/
theorem mem_of_resolveFrom {done segments rest : List String}
    (h : resolveFrom done segments = done ++ rest) :
    ∀ s ∈ rest, s = "" ∨ s ∈ segments ∧ isSingleDot s = false ∧ isDoubleDot s = false := by
  have hall := forall_drop_resolveFrom
    (P := fun s => s = "" ∨ s ∈ segments ∧ isSingleDot s = false ∧ isDoubleDot s = false)
    (n := done.length) (.inl rfl) (fun s hs hsingle hdouble => .inr ⟨hs, hsingle, hdouble⟩)
    (show ∀ s ∈ done.drop done.length, _ by simp)
  rwa [h, List.drop_left] at hall

-- ---------------------------------------------------------------------------
-- Dots
-- ---------------------------------------------------------------------------

/-- The ways in which a dot is written, in lower case. -/
def dots : List (List Char) := [['.'], ['%', '2', 'e']]

theorem decode_dot {u : List Char} (h : u.map Char.toLower ∈ dots) (rest : List Char) :
    decode (u ++ rest) = 0x2E :: decode rest := by
  simp only [dots, List.mem_cons, List.not_mem_nil, or_false] at h
  rcases h with h | h
  · obtain ⟨c, rfl, hc⟩ := List.map_eq_singleton_iff.mp h
    cases eq_of_toLower rfl hc
    exact decode_of_ne (by decide) rest
  · obtain ⟨c, cs, rfl, hc, h⟩ := List.map_eq_cons_iff.mp h
    obtain ⟨d, ds, rfl, hd, h⟩ := List.map_eq_cons_iff.mp h
    obtain ⟨e, rfl, he⟩ := List.map_eq_singleton_iff.mp h
    cases eq_of_toLower rfl hc
    cases eq_of_toLower rfl hd
    have htwo : hexValue? '2' = some 2 := rfl
    exact decode_hex htwo (hexValue?_of_toLower he) rest

theorem decode_of_isSingleDot {s : String} (h : isSingleDot s = true) :
    decode s.toList = [0x2E] := by
  have hmap : s.toList.map Char.toLower ∈ dots := by
    have hmem : asciiLower s ∈ [".", "%2e"] := by simpa [isSingleDot] using h
    have hchars := List.mem_map_of_mem (f := String.toList) hmem
    simpa [asciiLower, dots] using hchars
  have hdot := decode_dot hmap []
  rwa [List.append_nil, decode] at hdot

theorem decode_of_isDoubleDot {s : String} (h : isDoubleDot s = true) :
    decode s.toList = [0x2E, 0x2E] := by
  have hmap : ∃ a ∈ dots, ∃ b ∈ dots, s.toList.map Char.toLower = a ++ b := by
    have hmem : asciiLower s ∈ ["..", ".%2e", "%2e.", "%2e%2e"] := by simpa [isDoubleDot] using h
    have hchars := List.mem_map_of_mem (f := String.toList) hmem
    simpa [asciiLower, dots, or_assoc] using hchars
  obtain ⟨a, ha, b, hb, hmap⟩ := hmap
  obtain ⟨u, v, hs, rfl, rfl⟩ := List.map_eq_append_iff.mp hmap
  have hdot := decode_dot hb []
  rw [List.append_nil, decode] at hdot
  rw [hs, decode_dot ha, hdot]

/-- What stands for another text than one or two dots is no dot segment. -/
theorem noDots_of_decode {s t : String} (h : decode s.toList = Utf8.ofString t)
    (hdots : t ≠ "." ∧ t ≠ "..") : isSingleDot s = false ∧ isDoubleDot s = false := by
  have heq (u : String) (hu : decode s.toList = Utf8.ofString u) : t = u :=
    Utf8.ofString_inj.mp (h.symm.trans hu)
  constructor
  · cases hsingle : isSingleDot s with
    | false => rfl
    | true => exact absurd (heq "." (decode_of_isSingleDot hsingle)) hdots.1
  · cases hdouble : isDoubleDot s with
    | false => rfl
    | true => exact absurd (heq ".." (decode_of_isDoubleDot hdouble)) hdots.2

-- ---------------------------------------------------------------------------
-- Segments that stand for a text
-- ---------------------------------------------------------------------------

theorem length_encode_slashes (cs : List Char) :
    (Utf8.encode (cs.map fun c => if isSlash c then '/' else c)).length =
      (Utf8.encode cs).length := by
  induction cs with
  | nil => rfl
  | cons c cs ih =>
    rw [List.map_cons, Utf8.encode_cons, Utf8.encode_cons, List.length_append,
      List.length_append, ih]
    refine congrArg (· + _) ?_
    split
    · next hc =>
      rcases Bool.or_eq_true_iff.mp hc with h | h <;> cases beq_iff_eq.mp h <;> rfl
    · rfl

/-- Only the whole of a text has a segment that is decoded to its octets. -/
theorem eq_of_mem_pathSegments {s : String} {q cs : List Char} (hs : s ∈ pathSegments q)
    (hq : q.Sublist cs) (hdecode : decode s.toList = Utf8.encode cs) :
    q = cs ∧ s = encode keptInPath (String.ofList cs) ∧ (∀ c ∈ cs, isSlash c = false) ∧
      ¬HasEncodedOctet cs := by
  obtain ⟨piece, hpiece, rfl⟩ := List.mem_map.mp hs
  obtain ⟨hsub, hnot⟩ := piece_of_mem_splitOn hpiece
  rw [decode_encode, String.toList_ofList] at hdecode
  -- nothing gets longer on the way from the text to the octets of the segment
  have hdecoded : (Utf8.encode cs).length ≤ (Utf8.encode piece).length :=
    hdecode ▸ length_decode_le piece
  have hpart : (Utf8.encode piece).length ≤ (Utf8.encode q).length :=
    length_encode_slashes q ▸ Utf8.length_encode_le hsub
  obtain rfl : q = cs := Utf8.eq_of_sublist hq (Nat.le_trans hdecoded hpart)
  have heq := Utf8.eq_of_sublist hsub (by rwa [length_encode_slashes])
  have hnoSlash : ∀ c ∈ q, isSlash c = false := by
    intro c hc
    cases hslash : isSlash c with
    | false => rfl
    | true =>
      refine absurd ?_ hnot
      rw [heq]
      exact List.mem_map.mpr ⟨c, hc, if_pos hslash⟩
  have hpieces := pathSegments_of_noSlash hnoSlash
  have hmem : encode keptInPath (String.ofList piece) = encode keptInPath (String.ofList q) := by
    rw [hpieces] at hs
    exact List.mem_singleton.mp hs
  refine ⟨rfl, hmem, hnoSlash, decode_eq_encode_iff.mp ?_⟩
  rw [← hdecode, ← String.toList_ofList (l := piece), ← decode_encode, hmem, decode_encode,
    String.toList_ofList]

-- ---------------------------------------------------------------------------
-- Addresses
-- ---------------------------------------------------------------------------

/-- Blanks and control characters, which mean nothing around an address. -/
def isOuter (c : Char) : Bool := c.toNat ≤ 0x20

def isLineEndOrTab (c : Char) : Bool := c == '\t' || c == '\n' || c == '\r'

/-- What an address means that goes on behind a base address without query and fragment. -/
def below (base : Url) (cs : List Char) : Url :=
  let address := behind '#' cs
  let path := behind '?' address.1
  { base with
    segments := resolveFrom base.segments (pathSegments path.1)
    query := path.2.map fun q => encode keptInQuery (String.ofList q)
    fragment := address.2.map fun f => encode keptInFragment (String.ofList f) }

theorem below_host (base : Url) (cs : List Char) :
    (base.below cs).scheme = base.scheme ∧ (base.below cs).authority = base.authority :=
  ⟨rfl, rfl⟩

theorem significant_slash (front : String) :
    ∃ k : List Char, ∀ rest : String, significant (front ++ "/" ++ rest) =
      k ++ '/' :: (dropEndWhile isOuter rest.toList).filter (!isLineEndOrTab ·) := by
  refine ⟨(front.toList.dropWhile isOuter).filter (!isLineEndOrTab ·), fun rest => ?_⟩
  have hchars : (front ++ "/" ++ rest).toList = front.toList ++ '/' :: rest.toList := by
    simp
  change (dropEndWhile isOuter ((front ++ "/" ++ rest).toList.dropWhile isOuter)).filter _ = _
  rw [hchars, dropWhile_append_cons rfl, dropEndWhile_append_cons rfl, List.filter_append,
    List.filter_cons_of_pos (by rfl)]
  rfl

/-- The scheme at the front, and what follows its colon. -/
def leadingScheme? (cs : List Char) : Option (String × List Char) :=
  ["http", "https"].findSome? fun scheme =>
    ((scheme.toList ++ [':']).isPrefixOf? cs).map fun rest => (scheme, rest)

theorem afterScheme?_slash (cs rest : List Char) :
    afterScheme? (cs ++ '/' :: rest) = (leadingScheme? cs).map fun (scheme, behind) =>
      (scheme, (behind ++ '/' :: rest).dropWhile isSlash) := by
  simp only [afterScheme?, leadingScheme?, List.findSome?_cons, List.findSome?_nil]
  rw [isPrefixOf?_append_cons (by decide), isPrefixOf?_append_cons (by decide)]
  cases ("http".toList ++ [':']).isPrefixOf? cs with
  | some behind => rfl
  | none => cases ("https".toList ++ [':']).isPrefixOf? cs <;> rfl

/-- An address, given its scheme, its authority and what follows them. -/
def ofPath (scheme authority : String) (cs : List Char) : Url :=
  let address := behind '#' cs
  let path := behind '?' address.1
  { scheme, authority
    segments := readPath path.1
    query := path.2.map fun q => encode keptInQuery (String.ofList q)
    fragment := address.2.map fun f => encode keptInFragment (String.ofList f) }

def ofAuthority? (scheme : String) (rest : List Char) : Option Url :=
  let authority := rest.takeWhile fun c => !endsAuthority c
  if authority.isEmpty then none
  else some (ofPath scheme (asciiLower (String.ofList authority))
    (rest.dropWhile fun c => !endsAuthority c))

theorem parse?_eq (raw : String) :
    parse? raw = (afterScheme? (significant raw)).bind fun (scheme, rest) =>
      ofAuthority? scheme rest := by
  unfold parse? ofAuthority? ofPath
  cases afterScheme? (significant raw) with
  | none => rfl
  | some parts =>
    simp only [bind, Option.bind]
    split <;> rfl

theorem readPath_slash {m : List Char} (hm : ∀ c ∈ m.head?, isSlash c = true) :
    ∃ front : List String, ∀ rest : List Char, readPath (m ++ '/' :: rest) =
      resolveFrom [] (front ++ pathSegments rest) := by
  cases m with
  | nil => exact ⟨[], fun rest => rfl⟩
  | cons c m =>
    have hc : isSlash c = true := hm c rfl
    refine ⟨pathSegments m, fun rest => ?_⟩
    rw [← pathSegments_append m rest (c := '/') rfl]
    simp [readPath, hc, pathSegments]

theorem pathSegments_v1 : pathSegments "v1".toList = ["v1"] := by
  decide

theorem ofPath_below {scheme authority : String} {m : List Char}
    (hm : ∀ c ∈ m.head?, endsAuthority c = true) {base : Url}
    (h : ofPath scheme authority (m ++ '/' :: "v1".toList) = base) (hquery : base.query = none)
    (hfragment : base.fragment = none) (cs : List Char) :
    ofPath scheme authority (m ++ '/' :: ("v1".toList ++ '/' :: cs)) = base.below cs := by
  subst h
  obtain ⟨hhash, haddress⟩ := behind_eq_none (Option.map_eq_none_iff.mp hfragment)
  simp only [ofPath, haddress] at hquery
  obtain ⟨hmark, hpath⟩ := behind_eq_none (Option.map_eq_none_iff.mp hquery)
  have hslash : ∀ c ∈ m.head?, isSlash c = true := by
    intro c hc
    have hmem : c ∈ m ++ '/' :: "v1".toList := List.mem_append_left _ (List.mem_of_head? hc)
    have hends := hm c hc
    simp only [endsAuthority, Bool.or_eq_true, beq_iff_eq] at hends
    rcases hends with (hslash | rfl) | rfl
    · exact hslash
    · exact absurd hmem hmark
    · exact absurd hmem hhash
  obtain ⟨front, hread⟩ := readPath_slash hslash
  -- the marks of what comes behind are the first ones
  have hlong (rest : List Char) :
      m ++ '/' :: ("v1".toList ++ '/' :: rest) = (m ++ '/' :: "v1".toList) ++ '/' :: rest := by simp
  have hbehind {mark : Char} (hnot : mark ∉ m ++ '/' :: "v1".toList) (hslash : '/' ≠ mark)
      (rest : List Char) : behind mark (m ++ '/' :: ("v1".toList ++ '/' :: rest)) =
        (m ++ '/' :: ("v1".toList ++ '/' :: (behind mark rest).1), (behind mark rest).2) := by
    have hnot' : mark ∉ (m ++ '/' :: "v1".toList) ++ ['/'] := by
      simpa [Ne.symm hslash] using hnot
    have happend := behind_append hnot' rest
    simpa using happend
  have hsegments (rest : List Char) : readPath (m ++ '/' :: ("v1".toList ++ '/' :: rest)) =
      resolveFrom (readPath (m ++ '/' :: "v1".toList)) (pathSegments rest) := by
    rw [hread, hread, pathSegments_append _ _ (c := '/') rfl, pathSegments_v1]
    exact resolveFrom_append (by decide) (by decide) (pathSegments_ne_nil rest) [] front
  simp only [ofPath, below, hbehind hhash (by decide), hbehind hmark (by decide), hsegments,
    haddress, hpath]

/-- What stands in front of a slash decides whether there is a scheme, and what is behind it. -/
theorem parse?_slash (front : String) :
    ∃ parts? : Option (String × List Char), ∀ more : String, parse? (front ++ "/" ++ more) =
      parts?.bind fun (scheme, rest) => ofAuthority? scheme ((rest ++
        '/' :: (dropEndWhile isOuter more.toList).filter (!isLineEndOrTab ·)).dropWhile isSlash) := by
  obtain ⟨k, hk⟩ := significant_slash front
  refine ⟨leadingScheme? k, fun more => ?_⟩
  rw [parse?_eq, hk, afterScheme?_slash]
  cases leadingScheme? k <;> rfl

/-- An authority ends at a slash at the latest. -/
theorem ofAuthority?_slash (scheme : String) (q : List Char) :
    (∀ rest, ofAuthority? scheme (q ++ '/' :: rest) = none) ∨
      ∃ authority m, (∀ c ∈ m.head?, endsAuthority c = true) ∧ ∀ rest,
        ofAuthority? scheme (q ++ '/' :: rest) = some (ofPath scheme authority (m ++ '/' :: rest)) := by
  have hslash : (!endsAuthority '/') = false := rfl
  simp only [ofAuthority?, takeWhile_append_cons (p := fun c => !endsAuthority c) hslash,
    dropWhile_append_cons (p := fun c => !endsAuthority c) hslash]
  split
  · exact .inl fun _ => rfl
  · exact .inr ⟨_, _, fun c hc => by simpa using head_dropWhile c hc, fun _ => rfl⟩

/-- What stands in front of the version decides whether there is an address at all, and if so,
on its scheme, its authority and the start of its path. -/
theorem parse?_api (front : String) :
    (∀ more, parse? (front ++ "/api/v1" ++ more) = none) ∨
      ∃ scheme authority m, (∀ c ∈ m.head?, endsAuthority c = true) ∧
        ∀ more, parse? (front ++ "/api/v1" ++ more) = some (ofPath scheme authority
          (m ++ '/' :: ("v1".toList ++
            (dropEndWhile isOuter more.toList).filter (!isLineEndOrTab ·)))) := by
  obtain ⟨parts?, hparts⟩ := parse?_slash front
  have hparse (more : String) : parse? (front ++ "/api/v1" ++ more) =
      parts?.bind fun (scheme, rest) => ofAuthority? scheme ((rest ++ '/' :: ("api/v1".toList ++
        (dropEndWhile isOuter more.toList).filter (!isLineEndOrTab ·))).dropWhile isSlash) := by
    have htext : front ++ "/api/v1" ++ more = front ++ "/" ++ ("api/v1" ++ more) := by
      apply String.toList_inj.mp
      simp
    have hchars : ("api/v1" ++ more).toList = "api/v".toList ++ '1' :: more.toList := by simp
    rw [htext, hparts, hchars, dropEndWhile_append_cons rfl, List.filter_append,
      List.filter_cons_of_pos (by rfl)]
    rfl
  simp only [hparse]
  cases parts? with
  | none => exact .inl fun _ => rfl
  | some parts =>
    obtain ⟨scheme, r⟩ := parts
    simp only [Option.bind_some]
    -- the authority ends at the slash in front of the version, whatever comes before it
    have hrest (more : List Char) : (r ++ '/' :: ("api/v1".toList ++ more)).dropWhile isSlash =
        ((r ++ ['/']).dropWhile isSlash ++ "api".toList) ++ '/' :: ("v1".toList ++ more) := by
      have hdrop := dropWhile_append_cons (p := isSlash) (c := 'a') rfl (r ++ ['/'])
        ("pi/v1".toList ++ more)
      simpa using hdrop
    simp only [hrest]
    rcases ofAuthority?_slash scheme ((r ++ ['/']).dropWhile isSlash ++ "api".toList) with
      hnone | ⟨authority, m, hm, hpath⟩
    · exact .inl fun more => hnone _
    · exact .inr ⟨scheme, authority, m, hm, fun more => hpath _⟩

/-- What is an address below the base of a service is one because the base is one. -/
theorem parse?_below {front path : String} {url : Url}
    (h : parse? (front ++ "/api/v1" ++ ("/" ++ path)) = some url)
    (hpath : ∀ c ∈ path.toList, isLineEndOrTab c = false) :
    ∃ base, parse? (front ++ "/api/v1") = some base ∧
      (base.query = none → base.fragment = none →
        url = base.below (dropEndWhile isOuter path.toList)) := by
  rcases parse?_api front with hnone | ⟨scheme, authority, m, hm, hsome⟩
  · rw [hnone] at h
    cases h
  · have hbase := hsome ""
    rw [String.append_empty] at hbase
    have hmore : (dropEndWhile isOuter ("/" ++ path).toList).filter (!isLineEndOrTab ·) =
        '/' :: dropEndWhile isOuter path.toList := by
      have hchars : ("/" ++ path).toList = [] ++ '/' :: path.toList := by simp
      rw [hchars, dropEndWhile_append_cons rfl]
      refine List.filter_eq_self.mpr fun c hc => ?_
      rcases List.mem_cons.mp hc with rfl | hc
      · rfl
      · rw [hpath c (mem_of_mem_dropEndWhile hc)]
        rfl
    rw [hsome, hmore] at h
    exact ⟨_, hbase, fun hquery hfragment =>
      (Option.some.inj h).symm.trans (ofPath_below hm rfl hquery hfragment _)⟩

end Http.Url

end RemoteNotes
