import RemoteNotes.Text.Utf8

/-!
# Texts and their octets

A text is read back from its octets (`decode?_encode`), and texts with the same octets are the
same (`encode_inj`). The octets of a character are those of the ASCII character that it is, or are
not of ASCII at all.
-/

namespace RemoteNotes.Text.Utf8

theorem encode_cons (c : Char) (cs : List Char) :
    encode (c :: cs) = String.utf8EncodeChar c ++ encode cs := rfl

theorem encode_singleton (c : Char) : encode [c] = String.utf8EncodeChar c := List.append_nil _

theorem encode_append (cs ds : List Char) : encode (cs ++ ds) = encode cs ++ encode ds :=
  List.flatMap_append

theorem encode_inj {cs ds : List Char} : encode cs = encode ds ↔ cs = ds := by
  constructor
  · intro h
    have hbytes : cs.utf8Encode = ds.utf8Encode := List.toByteArray_inj.mpr h
    rw [← String.toByteArray_ofList, ← String.toByteArray_ofList, String.toByteArray_inj] at hbytes
    rw [← String.toList_ofList (l := cs), hbytes, String.toList_ofList]
  · intro h
    rw [h]

theorem ofString_inj {s t : String} : ofString s = ofString t ↔ s = t :=
  encode_inj.trans String.toList_inj

theorem utf8EncodeChar_ascii {c : Char} (h : c.toNat < 0x80) :
    String.utf8EncodeChar c = [UInt8.ofNat c.toNat] := if_pos (Nat.le_of_lt_succ h)

theorem le_of_mem_utf8EncodeChar {c : Char} (h : 0x80 ≤ c.toNat) :
    ∀ b ∈ String.utf8EncodeChar c, 0x80 ≤ b.toNat := by
  have hc : ¬c.val.toNat ≤ 127 := Nat.not_le.mpr h
  unfold String.utf8EncodeChar
  dsimp only
  rw [if_neg hc]
  split
  · simp
    omega
  · split
    · simp
      omega
    · simp
      omega

/-- An octet that stands for itself stands for one character. -/
theorem mem_encode_ascii {c : Char} (hc : c.toNat < 0x80) {cs : List Char} :
    UInt8.ofNat c.toNat ∈ encode cs ↔ c ∈ cs := by
  have hvalue {d : Char} (hd : d.toNat < 0x80) : (UInt8.ofNat d.toNat).toNat = d.toNat :=
    UInt8.toNat_ofNat_of_lt' (Nat.lt_trans hd (by decide))
  induction cs with
  | nil => simp [encode]
  | cons d cs ih =>
    rw [encode_cons, List.mem_append, List.mem_cons]
    refine or_congr ?_ ih
    rcases Nat.lt_or_ge d.toNat 0x80 with hd | hd
    · rw [utf8EncodeChar_ascii hd, List.mem_singleton]
      constructor
      · intro heq
        have htoNat := congrArg UInt8.toNat heq
        rw [hvalue hc, hvalue hd] at htoNat
        exact Char.toNat_inj.mp htoNat
      · intro heq
        rw [heq]
    · constructor
      · intro hmem
        have hlarge := le_of_mem_utf8EncodeChar hd _ hmem
        rw [hvalue hc] at hlarge
        omega
      · intro heq
        rw [heq] at hc
        omega

theorem length_encode_le {cs ds : List Char} (h : cs.Sublist ds) :
    (encode cs).length ≤ (encode ds).length := by
  induction h with
  | slnil => exact Nat.le_refl _
  | cons d _ ih =>
    rw [encode_cons, List.length_append]
    exact Nat.le_trans ih (Nat.le_add_left ..)
  | cons_cons d _ ih =>
    rw [encode_cons, encode_cons, List.length_append, List.length_append]
    exact Nat.add_le_add_left ih _

/-- A part of a text with as many octets is all of it. -/
theorem eq_of_sublist {cs ds : List Char} (h : cs.Sublist ds)
    (hlength : (encode ds).length ≤ (encode cs).length) : cs = ds := by
  induction h with
  | slnil => rfl
  | @cons cs ds d h ih =>
    have hle := length_encode_le h
    have hpos := d.utf8Size_pos
    rw [encode_cons, List.length_append, String.length_utf8EncodeChar] at hlength
    omega
  | cons_cons d _ ih =>
    rw [encode_cons, encode_cons, List.length_append, List.length_append] at hlength
    rw [ih (Nat.le_of_add_le_add_left hlength)]

theorem toNat_ofNat {n : Nat} (h : n < 256) : (UInt8.ofNat n).toNat = n :=
  UInt8.toNat_ofNat_of_lt' h

/-- The second octet of a character is one that its first octet allows. -/
theorem allowsSecond_of {lead second : Nat} (h : 0xC2 ≤ lead ∧ lead ≤ 0xF4)
    (hsecond : 0x80 ≤ second ∧ second ≤ 0xBF) (hE0 : lead = 0xE0 → 0xA0 ≤ second)
    (hED : lead = 0xED → second ≤ 0x9F) (hF0 : lead = 0xF0 → 0x90 ≤ second)
    (hF4 : lead = 0xF4 → second ≤ 0x8F) : allowsSecond lead second = true := by
  unfold allowsSecond
  repeat' split
  all_goals simp only [Bool.and_eq_true, decide_eq_true_eq, beq_iff_eq] at *
  all_goals omega

/-- What is written for a character is read as this character, whatever follows. -/
theorem front_utf8EncodeChar (c : Char) (rest : Octets) :
    front (String.utf8EncodeChar c ++ rest) = .char c rest := by
  have hvalid : c.toNat < 0xD800 ∨ 0xDFFF < c.toNat ∧ c.toNat < 0x110000 := c.valid
  have hchar {n : Nat} (h : n = c.toNat) : Char.ofNat n = c := by rw [h, Char.ofNat_toNat]
  have hval : c.val.toNat = c.toNat := rfl
  unfold String.utf8EncodeChar
  rw [hval]
  generalize c.toNat = n at *
  dsimp only
  split
  · have h0 := toNat_ofNat (n := n) (by omega)
    simp only [List.singleton_append, front, h0]
    rw [if_pos (by omega), hchar rfl]
  split
  · have h0 := toNat_ofNat (n := n / 64 % 32 + 192) (by omega)
    have h1 := toNat_ofNat (n := n % 64 + 128) (by omega)
    have hsecond : allowsSecond (n / 64 % 32 + 192) (n % 64 + 128) = true :=
      allowsSecond_of (by omega) (by omega) (by omega) (by omega) (by omega) (by omega)
    simp only [List.cons_append, List.nil_append, front, h0, h1, hsecond]
    rw [if_neg (by omega), if_neg (by decide), if_pos (by omega), hchar (by omega)]
  split
  · have h0 := toNat_ofNat (n := n / 4096 % 16 + 224) (by omega)
    have h1 := toNat_ofNat (n := n / 64 % 64 + 128) (by omega)
    have h2 := toNat_ofNat (n := n % 64 + 128) (by omega)
    have hsecond : allowsSecond (n / 4096 % 16 + 224) (n / 64 % 64 + 128) = true :=
      allowsSecond_of (by omega) (by omega) (by omega) (by omega) (by omega) (by omega)
    have hthird : isContinuation (n % 64 + 128) = true := by
      simp [isContinuation]
      omega
    simp only [List.cons_append, List.nil_append, front, h0, h1, h2, hsecond, hthird]
    rw [if_neg (by omega), if_neg (by decide), if_neg (by omega), if_neg (by decide),
      if_pos (by omega), hchar (by omega)]
  · have h0 := toNat_ofNat (n := n / 262144 % 8 + 240) (by omega)
    have h1 := toNat_ofNat (n := n / 4096 % 64 + 128) (by omega)
    have h2 := toNat_ofNat (n := n / 64 % 64 + 128) (by omega)
    have h3 := toNat_ofNat (n := n % 64 + 128) (by omega)
    have hsecond : allowsSecond (n / 262144 % 8 + 240) (n / 4096 % 64 + 128) = true :=
      allowsSecond_of (by omega) (by omega) (by omega) (by omega) (by omega) (by omega)
    have hthird : isContinuation (n / 64 % 64 + 128) = true := by
      simp [isContinuation]
      omega
    have hfourth : isContinuation (n % 64 + 128) = true := by
      simp [isContinuation]
      omega
    simp only [List.cons_append, List.nil_append, front, h0, h1, h2, h3, hsecond, hthird, hfourth]
    rw [if_neg (by omega), if_neg (by decide), if_neg (by omega), if_neg (by decide),
      if_neg (by omega), if_neg (by decide), hchar (by omega)]

theorem decode?_encode (cs : List Char) : decode? (encode cs) = some cs := by
  induction cs with
  | nil => rw [decode?]; rfl
  | cons c cs ih =>
    have hfront := front_utf8EncodeChar c (encode cs)
    rw [encode_cons, decode?]
    split <;> simp_all

end RemoteNotes.Text.Utf8
