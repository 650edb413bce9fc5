import RemoteNotes.Proofs.NumberReaders
import RemoteNotes.Proofs.Utf8Coding

/-!
# Written objects

What is written for a text is that text in the grammar (`isText_written`), and what is written
for an object has a member for each of its fields, in their order (`members_written`). The values
of the fields are scalars here.
-/

namespace RemoteNotes.Json

open Number
open Text.Utf8 (Octets encode)

namespace Grammar

open Reader (past hexOctet? simpleEscape? quoteMark comma openObject closeObject)

-- ---------------------------------------------------------------------------
-- Texts
-- ---------------------------------------------------------------------------

/-- An octet that stands in a text as it is. -/
def isPlainOctet (b : UInt8) : Bool := b != quoteMark && b != 0x5C && decide (0x20 ≤ b)

section

variable {bs w rest : Octets}

/-- Octets that need no escape stand for themselves. -/
theorem spells_plain {v : Octets} (hplain : ∀ b ∈ v, isPlainOctet b = true)
    (h : Spells bs w rest) : Spells (v ++ bs) (v ++ w) rest := by
  induction v with
  | nil => exact h
  | cons b v ih =>
    obtain ⟨hb, hv⟩ := List.forall_mem_cons.mp hplain
    simp only [isPlainOctet, Bool.and_eq_true, bne_iff_ne, decide_eq_true_eq] at hb
    obtain ⟨⟨hquote, hback⟩, hcontrol⟩ := hb
    exact .plain hquote hback hcontrol (ih hv)

/-- The octet of a hexadecimal digit. -/
def hexOctet (k : Nat) : UInt8 := UInt8.ofNat (if k < 10 then 0x30 + k else 0x57 + k)

theorem encode_hexPair {n : Nat} (h : n < 0x20) :
    encode (hexPair n) = [hexOctet (n / 16), hexOctet (n % 16)] := by
  revert n
  decide

theorem hexOctet?_hexOctet {k : Nat} (h : k < 16) : hexOctet? (hexOctet k) = some k := by
  revert k
  decide

theorem numbered_control {c : Char} (h : c.toNat < 0x20) :
    Numbered (0x30 :: 0x30 :: (encode (hexPair c.toNat) ++ bs)) c bs := by
  have hhigh : c.toNat / 16 < 16 := by omega
  have hlow : c.toNat % 16 < 16 := by omega
  have hdigits : Hex (0x30 :: 0x30 :: (encode (hexPair c.toNat) ++ bs))
      (((0 * 16 + 0) * 16 + c.toNat / 16) * 16 + c.toNat % 16) bs := by
    rw [encode_hexPair h]
    exact .digits rfl rfl (hexOctet?_hexOctet hhigh) (hexOctet?_hexOctet hlow)
  have hnumber : ((0 * 16 + 0) * 16 + c.toNat / 16) * 16 + c.toNat % 16 = c.toNat := by omega
  rw [hnumber] at hdigits
  have hsmall : Reader.isLowSurrogate c.toNat = false ∧ Reader.isHighSurrogate c.toNat = false := by
    simp [Reader.isLowSurrogate, Reader.isHighSurrogate]
    omega
  have hunit := Numbered.unit hdigits hsmall.1 hsmall.2
  rwa [Char.ofNat_toNat] at hunit

/-- The octets that mean another one behind a backslash. -/
def escapeLetters : Octets := [quoteMark, 0x5C, 0x62, 0x66, 0x6E, 0x72, 0x74]

/-- A character of one octet is written as it is, by a letter, or by its number. -/
def IsEscaped (c : Char) : Prop :=
  isPlainOctet (UInt8.ofNat c.toNat) = true ∧ encode (escapeChar c) = [UInt8.ofNat c.toNat] ∨
    (∃ b ∈ escapeLetters, simpleEscape? b = some (UInt8.ofNat c.toNat) ∧
      encode (escapeChar c) = [0x5C, b]) ∨
    c.toNat < 0x20 ∧
      encode (escapeChar c) = 0x5C :: 0x75 :: 0x30 :: 0x30 :: encode (hexPair c.toNat)

instance (c : Char) : Decidable (IsEscaped c) := inferInstanceAs (Decidable (_ ∨ _ ∨ _))

theorem isEscaped_ascii {c : Char} (h : c.toNat < 0x80) : IsEscaped c := by
  have hall : ∀ n < 0x80, IsEscaped (Char.ofNat n) := by decide +kernel
  have hc := hall c.toNat h
  rwa [Char.ofNat_toNat] at hc

theorem escapeChar_wide {c : Char} (h : 0x80 ≤ c.toNat) : escapeChar c = [c] := by
  have hne {d : Char} (hd : d.toNat < 0x80) : c ≠ d := by
    rintro rfl
    omega
  rw [escapeChar, if_neg (hne (by decide)), if_neg (hne (by decide)), if_neg (hne (by decide)),
    if_neg (hne (by decide)), if_neg (hne (by decide)), if_neg (by omega), if_neg (by omega),
    if_neg (by omega)]

theorem isPlainOctet_wide {b : UInt8} (h : 0x80 ≤ b.toNat) : isPlainOctet b = true := by
  have hne {d : UInt8} (hd : d.toNat < 0x80) : b ≠ d := by
    rintro rfl
    omega
  simp only [isPlainOctet, Bool.and_eq_true, bne_iff_ne, decide_eq_true_eq]
  refine ⟨⟨hne (by decide), hne (by decide)⟩, UInt8.le_iff_toNat_le.mpr ?_⟩
  exact Nat.le_trans (by decide) h

theorem spells_escapeChar (c : Char) (h : Spells bs w rest) :
    Spells (encode (escapeChar c) ++ bs) (String.utf8EncodeChar c ++ w) rest := by
  rcases Nat.lt_or_ge c.toNat 0x80 with hascii | hwide
  · rw [Text.Utf8.utf8EncodeChar_ascii hascii]
    rcases isEscaped_ascii hascii with ⟨hplain, heq⟩ | ⟨b, -, hmeaning, heq⟩ | ⟨hcontrol, heq⟩
    · rw [heq]
      exact spells_plain (List.forall_mem_singleton.mpr hplain) h
    · rw [heq]
      exact .escape (.simple hmeaning) h
    · rw [heq, ← Text.Utf8.utf8EncodeChar_ascii hascii]
      exact .escape (.numbered (numbered_control hcontrol)) h
  · rw [escapeChar_wide hwide, Text.Utf8.encode_singleton]
    refine spells_plain (fun b hb => ?_) h
    exact isPlainOctet_wide (Text.Utf8.le_of_mem_utf8EncodeChar hwide b hb)

theorem spells_written (cs : List Char) (rest : Octets) :
    Spells (encode (cs.flatMap escapeChar) ++ quoteMark :: rest) (encode cs) rest := by
  induction cs with
  | nil => exact .close
  | cons c cs ih =>
    rw [List.flatMap_cons, Text.Utf8.encode_append, List.append_assoc, Text.Utf8.encode_cons]
    exact spells_escapeChar c ih

theorem isText_written (s : String) (rest : Octets) :
    IsText s (encode (s.toList.flatMap escapeChar) ++ quoteMark :: rest) rest :=
  ⟨encode s.toList, spells_written s.toList rest, Text.Utf8.decode?_encode s.toList⟩

theorem encode_writeText (s : String) (rest : Octets) :
    encode (writeText s) ++ rest =
      quoteMark :: (encode (s.toList.flatMap escapeChar) ++ quoteMark :: rest) := by
  rw [writeText, List.cons_append, Text.Utf8.encode_cons, Text.Utf8.encode_append,
    List.append_assoc, List.append_assoc]
  rfl

end

-- ---------------------------------------------------------------------------
-- Scalars
-- ---------------------------------------------------------------------------

/-- A text, a truth value or a whole number. -/
inductive IsScalar : Json → Prop
  | text (s : String) : IsScalar (.text s)
  | truth (b : Bool) : IsScalar (.bool b)
  | whole (n : Int) : IsScalar (.num (.ofInt n))

theorem text_ofInt (n : Int) : (Num.ofInt n).text = intText n := by
  unfold Num.ofInt
  split
  · rfl
  · next h =>
    have hnat : n.toNat = n.natAbs := by omega
    rw [Num.text, intText, if_neg h, hnat]

theorem isInteger_written (n : Int) {rest : Octets} (hend : EndsNumber rest) :
    IsInteger n (encode (writeChars (.num (.ofInt n))) ++ rest) rest := by
  rw [writeChars, text_ofInt]
  exact ⟨rfl, hend⟩

theorem IsScalar.stands {v : Json} (h : IsScalar v) {rest : Octets} (hend : EndsNumber rest) :
    Stands .value (encode (writeChars v) ++ rest) rest := by
  cases h with
  | text s =>
    rw [writeChars, encode_writeText]
    exact .text rfl (spells_written s.toList rest).quoted
  | truth b =>
    cases b with
    | true => exact .truth rfl
    | false => exact .falsehood rfl
  | whole n =>
    have hinteger := isInteger_written n hend
    exact IsInteger.stands (hinteger.past_eq.symm ▸ hinteger)

-- ---------------------------------------------------------------------------
-- Objects
-- ---------------------------------------------------------------------------

/-- What is written behind a field, if these fields are still to come. -/
def behindField : Fields → Octets
  | [] => [closeObject]
  | field :: more => comma :: (encode (writeFields (field :: more)) ++ [closeObject])

/-- The members that the fields of an object are written as. -/
def membersOf : Fields → List Member
  | [] => []
  | (k, v) :: more =>
    ⟨k, encode (writeChars v) ++ behindField more, behindField more⟩ :: membersOf more

theorem endsNumber_behindField (fields : Fields) : EndsNumber (behindField fields) := by
  cases fields with
  | nil => simp [EndsNumber, behindField]; decide
  | cons field more => simp [EndsNumber, behindField]; decide

theorem encode_writeFields (k : String) (v : Json) (more : Fields) :
    encode (writeFields ((k, v) :: more)) ++ [closeObject] =
      encode (writeText k) ++ 0x3A :: (encode (writeChars v) ++ behindField more) := by
  have hcolon : String.utf8EncodeChar ':' = [0x3A] := by decide
  have hcomma : String.utf8EncodeChar ',' = [comma] := by decide
  cases more with
  | nil =>
    simp only [writeFields, Text.Utf8.encode_append, Text.Utf8.encode_cons, hcolon, behindField,
      List.append_assoc, List.cons_append, List.nil_append]
  | cons field more =>
    simp only [writeFields, Text.Utf8.encode_append, Text.Utf8.encode_cons, hcolon, hcomma,
      behindField, List.append_assoc, List.cons_append, List.nil_append]

theorem member_written {first : Bool} {bs : Octets} {k : String} {v : Json} {more : Fields}
    (hv : IsScalar v)
    (hstart : Separated first bs (encode (writeFields ((k, v) :: more)) ++ [closeObject]))
    (hmore : Members false (membersOf more) (behindField more) []) :
    Members first (membersOf ((k, v) :: more)) bs [] := by
  rw [encode_writeFields, encode_writeText] at hstart
  exact .member hstart (isText_written k _) rfl (hv.stands (endsNumber_behindField more)) hmore

theorem past_written (field : String × Json) (more : Fields) :
    past (encode (writeFields (field :: more)) ++ [closeObject]) =
      encode (writeFields (field :: more)) ++ [closeObject] := by
  rw [encode_writeFields, encode_writeText]
  rfl

theorem members_behindField {fields : Fields} (h : ∀ f ∈ fields, IsScalar f.2) :
    Members false (membersOf fields) (behindField fields) [] := by
  induction fields with
  | nil => exact .close rfl
  | cons field more ih =>
    obtain ⟨hv, hmore⟩ := List.forall_mem_cons.mp h
    exact member_written hv ⟨_, rfl, past_written field more⟩ (ih hmore)

theorem members_written {fields : Fields} (h : ∀ f ∈ fields, IsScalar f.2) :
    Members true (membersOf fields) (encode (writeFields fields) ++ [closeObject]) [] := by
  cases fields with
  | nil => exact .close rfl
  | cons field more =>
    obtain ⟨hv, hmore⟩ := List.forall_mem_cons.mp h
    exact member_written hv (past_written field more) (members_behindField hmore)

theorem ofString_write_object (fields : Fields) : Text.Utf8.ofString (write (.object fields)) =
    openObject :: (encode (writeFields fields) ++ [closeObject]) := by
  have hopen : String.utf8EncodeChar '\x7b' = [openObject] := by decide
  have hclose : String.utf8EncodeChar '\x7d' = [closeObject] := by decide
  rw [Text.Utf8.ofString, write, String.toList_ofList, writeChars, List.cons_append,
    Text.Utf8.encode_cons, Text.Utf8.encode_append, Text.Utf8.encode_singleton, hopen, hclose]
  rfl

theorem filter_membersOf_of_ne {key : String} {fields : Fields} (h : ∀ f ∈ fields, f.1 ≠ key) :
    (membersOf fields).filter (fun m => m.name == key) = [] := by
  induction fields with
  | nil => rfl
  | cons field more ih =>
    obtain ⟨hfield, hmore⟩ := List.forall_mem_cons.mp h
    rw [membersOf, List.filter_cons_of_neg (by simpa using hfield), ih hmore]

theorem filter_membersOf {key : String} {v : Json} {before after : Fields}
    (hbefore : ∀ f ∈ before, f.1 ≠ key) (hafter : ∀ f ∈ after, f.1 ≠ key) :
    (membersOf (before ++ (key, v) :: after)).filter (fun m => m.name == key) =
      [⟨key, encode (writeChars v) ++ behindField after, behindField after⟩] := by
  induction before with
  | nil =>
    rw [List.nil_append, membersOf, List.filter_cons_of_pos (by simp),
      filter_membersOf_of_ne hafter]
  | cons field before ih =>
    obtain ⟨hfield, hmore⟩ := List.forall_mem_cons.mp hbefore
    rw [List.cons_append, membersOf, List.filter_cons_of_neg (by simpa using hfield), ih hmore]

end Grammar

end RemoteNotes.Json
