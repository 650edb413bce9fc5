import RemoteNotes.Proofs.Digits
import RemoteNotes.Proofs.Names
import RemoteNotes.Search.Filter

/-!
# Search expressions, read back

An expression is read as the server reads it: literals first, in which a backslash takes the
next character as it is, then the pieces between marks outside of literals, then one clause
in each piece. What is read are the clauses that were written (`readExpression?_write`), so
that no text of a filter adds a clause or ends one.
-/

namespace RemoteNotes.Search

open Number

-- ---------------------------------------------------------------------------
-- Reading
-- ---------------------------------------------------------------------------

/-- A character outside of literals, or a whole literal. -/
inductive Token
  | char (c : Char)
  | text (s : String)
  deriving DecidableEq

/-- Where in an expression a character stands, with the literal so far. -/
inductive Place
  | outside
  | within (text : List Char)
  /-- Behind a backslash. -/
  | quoted (text : List Char)

/-- The tokens of what is left of an expression. No literal may be left open. -/
def tokens? : Place → List Char → Option (List Token)
  | .outside, [] => some []
  | _, [] => none
  | .outside, c :: cs =>
    if c = '"' then tokens? (.within []) cs else (tokens? .outside cs).map (.char c :: ·)
  | .within text, c :: cs =>
    if c = '\\' then tokens? (.quoted text) cs
    else if c = '"' then (tokens? .outside cs).map (.text (String.ofList text) :: ·)
    else tokens? (.within (text ++ [c])) cs
  | .quoted text, c :: cs => tokens? (.within (text ++ [c])) cs

/-- The pieces between separators, once the first `skip` tokens are passed over. -/
def pieces (sep : List Token) : (skip : Nat) → List Token → List (List Token)
  | _, [] => [[]]
  | skip + 1, _ :: ts => pieces sep skip ts
  | 0, t :: ts =>
    if sep.isPrefixOf (t :: ts) then [] :: pieces sep (sep.length - 1) ts
    else (pieces sep 0 ts).modifyHead (t :: ·)

def chars (s : String) : List Token := s.toList.map .char

def joint (mark : Char) : List Token := [.char ' ', .char mark, .char mark, .char ' ']

def literalWithin? (lead tail : String) (ts : List Token) : Option String :=
  match (chars lead).isPrefixOf? ts with
  | some (.text s :: more) => if more = chars tail then some s else none
  | _ => none

/-- The tags in alternatives between brackets. -/
def tags? (ts : List Token) : Option (List String) :=
  match (chars "(").isPrefixOf? ts with
  | some inner =>
    if inner.getLast? = some (.char ')') then
      (pieces (joint '|') 0 inner.dropLast).mapM (literalWithin? "tags.any(" ")")
    else none
  | none => none

def Token.char? : Token → Option Char
  | .char c => some c
  | .text _ => none

def numeral? (cs : List Char) : Option Nat :=
  if cs ≠ [] ∧ cs.all Char.isDigit then some (natOfDigits cs) else none

def integer? : List Char → Option Int
  | '-' :: cs => (numeral? cs).map fun n => -n
  | cs => (numeral? cs).map fun n => n

def numberBehind? (lead : String) (ts : List Token) : Option Int :=
  ((chars lead).isPrefixOf? ts).bind fun more => (more.mapM Token.char?).bind integer?

def userName? (s : String) : Option UserName := (ResourceName.parseStrict s).toOption

def visibility? (s : String) : Option Visibility := (Visibility.parse s).toOption

def readClause? (ts : List Token) : Option Clause :=
  (literalWithin? "content.contains(" ")" ts).map .contentHolds
  <|> (tags? ts).map .taggedWithAny
  <|> ((literalWithin? "creator == " "" ts).bind userName?).map .createdBy
  <|> ((literalWithin? "visibility == " "" ts).bind visibility?).map .visibleTo
  <|> (numberBehind? "created_ts >= " ts).map .createdFrom
  <|> (numberBehind? "created_ts < " ts).map .createdBefore

/-- The clauses of an expression, in their order. -/
def readExpression? (expression : String) : Option (List Clause) :=
  (tokens? .outside expression.toList).bind fun ts => (pieces (joint '&') 0 ts).mapM readClause?

-- ---------------------------------------------------------------------------
-- Literals
-- ---------------------------------------------------------------------------

theorem tokens?_chars {cs : List Char} (h : '"' ∉ cs) (rest : List Char) :
    tokens? .outside (cs ++ rest) = (tokens? .outside rest).map (cs.map .char ++ ·) := by
  induction cs with
  | nil => cases h : tokens? .outside rest <;> simp [h]
  | cons c cs ih =>
    have hc : c ≠ '"' := fun heq => h (heq ▸ List.mem_cons_self)
    rw [List.cons_append, tokens?, if_neg hc, ih fun hmem => h (List.mem_cons_of_mem c hmem),
      Option.map_map]
    rfl

/-- Backslashes are escaped first and quotes in what comes of that. In the other order, the
backslashes in front of quotes would be escaped too. -/
theorem flatMap_escapeChar (cs : List Char) :
    cs.flatMap escapeChar = (cs.flatMap fun c => if c = '\\' then ['\\', '\\'] else [c]).flatMap
      fun c => if c = '"' then ['\\', '"'] else [c] := by
  rw [List.flatMap_assoc]
  refine congrArg cs.flatMap (funext fun c => ?_)
  rw [escapeChar]
  by_cases hbackslash : c = '\\'
  · subst hbackslash
    rfl
  · by_cases hquote : c = '"'
    · subst hquote
      rfl
    · simp [hbackslash, hquote]

theorem tokens?_within (text cs rest : List Char) :
    tokens? (.within text) (cs.flatMap escapeChar ++ '"' :: rest) =
      (tokens? .outside rest).map (.text (String.ofList (text ++ cs)) :: ·) := by
  induction cs generalizing text with
  | nil =>
    rw [List.append_nil, List.flatMap_nil, List.nil_append, tokens?, if_neg (by decide), if_pos rfl]
  | cons c cs ih =>
    have hstep := ih (text ++ [c])
    rw [List.append_assoc, List.singleton_append] at hstep
    rw [List.flatMap_cons, escapeChar]
    split
    · exact hstep
    · next hc =>
      obtain ⟨hbackslash, hquote⟩ := not_or.mp hc
      rw [List.append_assoc, List.singleton_append, tokens?, if_neg hbackslash, if_neg hquote]
      exact hstep

theorem tokens?_literal (s : String) (rest : List Char) :
    tokens? .outside ((literal s).toList ++ rest) = (tokens? .outside rest).map (.text s :: ·) := by
  have hchars : (literal s).toList ++ rest = '"' :: (s.toList.flatMap escapeChar ++ '"' :: rest) := by
    simp [literal]
  rw [hchars, tokens?, if_pos rfl, tokens?_within, List.nil_append, String.ofList_toList]

-- ---------------------------------------------------------------------------
-- Pieces
-- ---------------------------------------------------------------------------

theorem pieces_skip (sep ts rest : List Token) :
    pieces sep ts.length (ts ++ rest) = pieces sep 0 rest := by
  induction ts with
  | nil => rfl
  | cons t ts ih => exact ih

theorem pieces_joint (mark : Char) (rest : List Token) :
    pieces (joint mark) 0 (joint mark ++ rest) = [] :: pieces (joint mark) 0 rest := by
  have hprefix : (joint mark).isPrefixOf (joint mark ++ rest) = true := by simp
  have hskip := pieces_skip (joint mark) [.char mark, .char mark, .char ' '] rest
  rw [← hskip]
  exact if_pos hprefix

theorem pieces_cons {mark : Char} (t : Token) {ts : List Token}
    (h : ts.head? ≠ some (.char mark)) :
    pieces (joint mark) 0 (t :: ts) = (pieces (joint mark) 0 ts).modifyHead (t :: ·) := by
  refine if_neg fun hprefix => h ?_
  obtain ⟨rest, hrest⟩ := List.isPrefixOf_iff_prefix.mp hprefix
  rw [← (List.cons.inj hrest).2]
  rfl

theorem pieces_append {mark : Char} {ts : List Token} (h : .char mark ∉ ts) {rest : List Token}
    (hrest : rest.head? ≠ some (.char mark)) :
    pieces (joint mark) 0 (ts ++ rest) = (pieces (joint mark) 0 rest).modifyHead (ts ++ ·) := by
  induction ts with
  | nil => cases hpieces : pieces (joint mark) 0 rest <;> simp [hpieces]
  | cons t ts ih =>
    have htail : .char mark ∉ ts := fun hmem => h (List.mem_cons_of_mem t hmem)
    have hnext : (ts ++ rest).head? ≠ some (.char mark) := by
      cases ts with
      | nil => exact hrest
      | cons u us => exact fun heq => htail (Option.some.inj heq ▸ List.mem_cons_self)
    rw [List.cons_append, pieces_cons t hnext, ih htail, List.modifyHead_modifyHead]
    rfl

/-- What is put together from pieces without the mark is taken apart into them. -/
theorem pieces_intercalate {mark : Char} (hmark : mark ≠ ' ') {tss : List (List Token)}
    (hne : tss ≠ []) (h : ∀ ts ∈ tss, .char mark ∉ ts) :
    pieces (joint mark) 0 ((joint mark).intercalate tss) = tss := by
  induction tss with
  | nil => exact absurd rfl hne
  | cons ts tss ih =>
    have hts := h ts List.mem_cons_self
    cases tss with
    | nil =>
      have hend := pieces_append hts (show ([] : List Token).head? ≠ _ from nofun)
      simpa [pieces] using hend
    | cons us tss =>
      have hspace : (joint mark ++ (joint mark).intercalate (us :: tss)).head? ≠
          some (.char mark) := by
        intro heq
        cases Option.some.inj heq
        exact hmark rfl
      rw [List.intercalate_cons_cons, List.append_assoc, pieces_append hts hspace, pieces_joint,
        ih (List.cons_ne_nil us tss) fun vs hvs => h vs (List.mem_cons_of_mem ts hvs),
        List.modifyHead_cons, List.append_nil]

-- ---------------------------------------------------------------------------
-- Tokens of clauses
-- ---------------------------------------------------------------------------

/-- A text is read as some tokens, whatever comes behind it. -/
def Stands (cs : List Char) (ts : List Token) : Prop :=
  ∀ rest, tokens? .outside (cs ++ rest) = (tokens? .outside rest).map (ts ++ ·)

theorem stands_chars (s : String) (h : '"' ∉ s.toList) : Stands s.toList (chars s) :=
  tokens?_chars h

theorem stands_literal (s : String) : Stands (literal s).toList [.text s] :=
  tokens?_literal s

theorem Stands.append {cs ds : List Char} {ts us : List Token} (h : Stands cs ts)
    (k : Stands ds us) : Stands (cs ++ ds) (ts ++ us) := by
  intro rest
  rw [List.append_assoc, h, k, Option.map_map]
  simp [Function.comp_def]

theorem Stands.intercalate {α : Type} {sep : List Char} {tsep : List Token} (hsep : Stands sep tsep)
    {f : α → List Char} {g : α → List Token} (h : ∀ x, Stands (f x) (g x)) (xs : List α) :
    Stands (sep.intercalate (xs.map f)) (tsep.intercalate (xs.map g)) := by
  induction xs with
  | nil => intro rest; simp
  | cons x xs ih =>
    cases xs with
    | nil => simpa using h x
    | cons y ys =>
      simp only [List.map_cons, List.intercalate_cons_cons] at ih ⊢
      exact ((h x).append hsep).append ih

def textWithin (lead s tail : String) : List Token := chars lead ++ .text s :: chars tail

def Clause.tokens : Clause → List Token
  | .contentHolds text => textWithin "content.contains(" text ")"
  | .taggedWithAny tags =>
    chars "(" ++ (joint '|').intercalate (tags.map fun t => textWithin "tags.any(" t ")") ++ chars ")"
  | .createdBy creator => textWithin "creator == " creator.text ""
  | .visibleTo visibility => textWithin "visibility == " visibility.text ""
  | .createdFrom second => chars "created_ts >= " ++ chars (intText second)
  | .createdBefore second => chars "created_ts < " ++ chars (intText second)

theorem stands_textWithin (lead s tail : String) (hlead : '"' ∉ lead.toList)
    (htail : '"' ∉ tail.toList) : Stands (lead ++ literal s ++ tail).toList
      (textWithin lead s tail) := by
  have h := ((stands_chars lead hlead).append (stands_literal s)).append (stands_chars tail htail)
  rw [String.toList_append, String.toList_append]
  simpa [textWithin] using h

theorem stands_intText (n : Int) : Stands (intText n).toList (chars (intText n)) := by
  refine stands_chars _ fun h => ?_
  rcases mem_intText h with h | h <;> cases h

theorem stands_clause (c : Clause) : Stands c.write.toList c.tokens := by
  cases c with
  | contentHolds text => exact stands_textWithin "content.contains(" text ")" (by simp) (by simp)
  | taggedWithAny tags =>
    have htag (tag : String) : Stands ("tags.any(" ++ literal tag ++ ")").toList _ :=
      stands_textWithin "tags.any(" tag ")" (by simp) (by simp)
    have hinner := (stands_chars " || " (by simp)).intercalate htag tags
    have hjoint : chars " || " = joint '|' := by simp [chars, joint]
    have hopen := stands_chars "(" (by simp)
    have hclose := stands_chars ")" (by simp)
    have hall := (hopen.append hinner).append hclose
    rw [hjoint] at hall
    have hwrite : (Clause.taggedWithAny tags).write = "(" ++
        String.intercalate " || " (tags.map fun t => "tags.any(" ++ literal t ++ ")") ++ ")" := rfl
    rw [hwrite, String.toList_append, String.toList_append, String.toList_intercalate, List.map_map]
    exact hall
  | createdBy creator =>
    have h := stands_textWithin "creator == " creator.text "" (by simp) (by simp)
    rwa [String.append_empty] at h
  | visibleTo visibility =>
    have h := stands_textWithin "visibility == " visibility.text "" (by simp) (by simp)
    rwa [String.append_empty] at h
  | createdFrom second =>
    have h := (stands_chars "created_ts >= " (by simp)).append (stands_intText second)
    rwa [← String.toList_append] at h
  | createdBefore second =>
    have h := (stands_chars "created_ts < " (by simp)).append (stands_intText second)
    rwa [← String.toList_append] at h

-- ---------------------------------------------------------------------------
-- Clauses
-- ---------------------------------------------------------------------------

/-- A clause that a filter may lead to: no choice without alternatives. -/
def Clause.IsProper : Clause → Prop
  | .taggedWithAny tags => tags ≠ []
  | _ => True

theorem mapM_map_eq_some {α β : Type} {f : α → β} {g : β → Option α} {xs : List α}
    (h : ∀ x ∈ xs, g (f x) = some x) : (xs.map f).mapM g = some xs := by
  induction xs with
  | nil => rfl
  | cons x xs ih =>
    rw [List.map_cons, List.mapM_cons, h x List.mem_cons_self,
      ih fun y hy => h y (List.mem_cons_of_mem x hy)]
    rfl

theorem literalWithin?_textWithin (lead s tail : String) :
    literalWithin? lead tail (textWithin lead s tail) = some s := by
  rw [literalWithin?, textWithin, Text.isPrefixOf?_append]
  exact if_pos rfl

theorem tags?_tokens {tags : List String} (h : tags ≠ []) :
    tags? (Clause.taggedWithAny tags).tokens = some tags := by
  have hmark : ∀ ts ∈ tags.map fun t => textWithin "tags.any(" t ")", .char '|' ∉ ts := by
    intro ts hts
    obtain ⟨tag, -, rfl⟩ := List.mem_map.mp hts
    simp [textWithin, chars]
  have hclose : chars ")" = [.char ')'] := rfl
  rw [tags?, Clause.tokens, List.append_assoc, Text.isPrefixOf?_append, hclose]
  simp only [List.getLast?_concat, if_true, List.dropLast_concat]
  rw [pieces_intercalate (by decide) (by simpa using h) hmark]
  exact mapM_map_eq_some fun tag _ => literalWithin?_textWithin "tags.any(" tag ")"

theorem numeral?_digitsOf (n : Nat) : numeral? (digitsOf n) = some n := by
  obtain ⟨hdigits, hvalue⟩ := isNumeral_digitsOf n
  rw [numeral?, if_pos ⟨digitsOf_ne_nil n, List.all_eq_true.mpr hdigits⟩, hvalue]

theorem integer?_intText (n : Int) : integer? (intText n).toList = some n := by
  unfold intText
  split
  · next hn =>
    have habs : -(n.natAbs : Int) = n := by omega
    rw [String.toList_ofList, integer?, numeral?_digitsOf]
    exact congrArg some habs
  · next hn =>
    have habs : (n.natAbs : Int) = n := by omega
    rw [toList_natText]
    unfold integer?
    split
    · next hcs =>
      have hminus := (isNumeral_digitsOf n.natAbs).digits '-' (hcs ▸ List.mem_cons_self)
      cases hminus
    · rw [numeral?_digitsOf]
      exact congrArg some habs

theorem numberBehind?_intText (lead : String) (n : Int) :
    numberBehind? lead (chars lead ++ chars (intText n)) = some n := by
  have hchars : (chars (intText n)).mapM Token.char? = some (intText n).toList :=
    mapM_map_eq_some fun _ _ => rfl
  rw [numberBehind?, Text.isPrefixOf?_append, Option.bind_some, hchars, Option.bind_some,
    integer?_intText]

/-- The fixed texts in front tell which kind of clause it is. -/
theorem readClause?_tokens {c : Clause} (h : c.IsProper) : readClause? c.tokens = some c := by
  cases c with
  | contentHolds text =>
    have hread := literalWithin?_textWithin "content.contains(" text ")"
    rw [readClause?, Clause.tokens, hread]
    rfl
  | taggedWithAny tags =>
    have hcontent : literalWithin? "content.contains(" ")" (Clause.taggedWithAny tags).tokens =
        none := rfl
    rw [readClause?, hcontent, tags?_tokens h]
    rfl
  | createdBy creator =>
    have hread := literalWithin?_textWithin "creator == " creator.text ""
    have hcontent : literalWithin? "content.contains(" ")" (Clause.createdBy creator).tokens =
        none := rfl
    have htags : tags? (Clause.createdBy creator).tokens = none := rfl
    rw [readClause?, hcontent, htags, Clause.tokens, hread]
    have hname : userName? creator.text = some creator := by
      rw [userName?, ResourceName.parseStrict_text]
      rfl
    simp only [Option.bind_some, hname]
    rfl
  | visibleTo visibility =>
    cases visibility <;> decide +kernel
  | createdFrom second =>
    have hread := numberBehind?_intText "created_ts >= " second
    have htexts : readClause? (Clause.createdFrom second).tokens =
        ((numberBehind? "created_ts >= " (Clause.createdFrom second).tokens).map .createdFrom <|>
          (numberBehind? "created_ts < " (Clause.createdFrom second).tokens).map .createdBefore) :=
      rfl
    rw [htexts, Clause.tokens, hread]
    rfl
  | createdBefore second =>
    have hread := numberBehind?_intText "created_ts < " second
    have htexts : readClause? (Clause.createdBefore second).tokens =
        (numberBehind? "created_ts < " (Clause.createdBefore second).tokens).map .createdBefore :=
      rfl
    rw [htexts, Clause.tokens, hread]
    rfl

-- ---------------------------------------------------------------------------
-- Expressions
-- ---------------------------------------------------------------------------

theorem mem_intercalate {α : Type} {x : α} {sep : List α} {xss : List (List α)}
    (h : x ∈ sep.intercalate xss) : x ∈ sep ∨ ∃ xs ∈ xss, x ∈ xs := by
  induction xss with
  | nil => cases h
  | cons xs xss ih =>
    cases xss with
    | nil => exact .inr ⟨xs, List.mem_singleton_self xs, by simpa using h⟩
    | cons ys xss =>
      rw [List.intercalate_cons_cons, List.mem_append, List.mem_append] at h
      rcases h with (h | h) | h
      · exact .inr ⟨xs, List.mem_cons_self, h⟩
      · exact .inl h
      · exact (ih h).imp_right fun ⟨zs, hzs, hx⟩ => ⟨zs, List.mem_cons_of_mem xs hzs, hx⟩

theorem ampersand_not_mem_tokens (c : Clause) : .char '&' ∉ c.tokens := by
  have hnumber (n : Int) : .char '&' ∉ chars (intText n) := by
    intro h
    obtain ⟨c, hc, heq⟩ := List.mem_map.mp h
    cases heq
    rcases mem_intText hc with h | h <;> cases h
  cases c with
  | contentHolds text => simp [Clause.tokens, textWithin, chars]
  | taggedWithAny tags =>
    intro h
    rw [Clause.tokens, List.mem_append, List.mem_append] at h
    rcases h with (h | h) | h
    · simp [chars] at h
    · rcases mem_intercalate h with h | ⟨ts, hts, h⟩
      · simp [joint] at h
      · obtain ⟨tag, -, rfl⟩ := List.mem_map.mp hts
        simp [textWithin, chars] at h
    · simp [chars] at h
  | createdBy creator => simp [Clause.tokens, textWithin, chars]
  | visibleTo visibility => simp [Clause.tokens, textWithin, chars]
  | createdFrom second =>
    rw [Clause.tokens, List.mem_append, not_or]
    exact ⟨by simp [chars], hnumber second⟩
  | createdBefore second =>
    rw [Clause.tokens, List.mem_append, not_or]
    exact ⟨by simp [chars], hnumber second⟩

/-- What is read of an expression are the clauses that were written. -/
theorem readExpression?_write {clauses : List Clause} (hne : clauses ≠ [])
    (h : ∀ c ∈ clauses, c.IsProper) :
    readExpression? (String.intercalate " && " (clauses.map Clause.write)) = some clauses := by
  have hjoint : chars " && " = joint '&' := by simp [chars, joint]
  have hstands := ((stands_chars " && " (by simp)).intercalate stands_clause clauses) []
  have htokens : tokens? .outside
      (String.intercalate " && " (clauses.map Clause.write)).toList =
        some ((joint '&').intercalate (clauses.map Clause.tokens)) := by
    rw [String.toList_intercalate, List.map_map, ← hjoint]
    rw [List.append_nil] at hstands
    refine hstands.trans ?_
    rw [tokens?, Option.map_some, List.append_nil]
  have hmark : ∀ ts ∈ clauses.map Clause.tokens, .char '&' ∉ ts := by
    intro ts hts
    obtain ⟨c, -, rfl⟩ := List.mem_map.mp hts
    exact ampersand_not_mem_tokens c
  rw [readExpression?, htokens, Option.bind_some,
    pieces_intercalate (by decide) (by simpa using hne) hmark]
  exact mapM_map_eq_some fun c hc => readClause?_tokens (h c hc)

example : readExpression?
    "content.contains(\"a \\\"b\\\" && (\") && (tags.any(\"x || y\") || tags.any(\"z\"))" =
      some [.contentHolds "a \"b\" && (", .taggedWithAny ["x || y", "z"]] := by
  decide +kernel

end RemoteNotes.Search
