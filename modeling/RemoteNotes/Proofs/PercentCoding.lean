import RemoteNotes.Http.Url
import RemoteNotes.Proofs.Utf8Coding

/-!
# Percent-encoding

A text that was encoded for a path is decoded as the text itself would be (`decode_encode`), and
that gives the octets of the text just if nothing in it reads as an encoded octet
(`decode_eq_encode_iff`).
-/

namespace RemoteNotes.Text

namespace Percent

open Http.Url (keptInPath)

-- ---------------------------------------------------------------------------
-- Decoding
-- ---------------------------------------------------------------------------

/-- Two hexadecimal digits stand at the front. -/
def StartsHex (cs : List Char) : Prop :=
  ∃ hi lo rest h l, cs = hi :: lo :: rest ∧ hexValue? hi = some h ∧ hexValue? lo = some l

theorem decode_hex {hi lo : Char} {h l : Nat} (hh : hexValue? hi = some h)
    (hl : hexValue? lo = some l) (rest : List Char) :
    decode ('%' :: hi :: lo :: rest) = UInt8.ofNat (h * 16 + l) :: decode rest := by
  rw [decode, if_pos rfl, hh, hl]

theorem decode_percent {cs : List Char} (h : ¬StartsHex cs) :
    decode ('%' :: cs) = 0x25 :: decode cs := by
  rw [decode.eq_def]
  dsimp only
  rw [if_pos rfl]
  split
  · split
    · next hh hl => exact absurd ⟨_, _, _, _, _, rfl, hh, hl⟩ h
    · rfl
  · rfl

theorem decode_of_ne {c : Char} (h : c ≠ '%') (cs : List Char) :
    decode (c :: cs) = String.utf8EncodeChar c ++ decode cs := by
  rw [decode.eq_def]
  exact if_neg h

/-- Induction along the reading of a text, by what stands at its front. -/
theorem decode_induction {motive : List Char → Prop} (nil : motive [])
    (hex : ∀ {hi lo : Char} {h l : Nat} {rest : List Char}, hexValue? hi = some h →
      hexValue? lo = some l → motive rest → motive ('%' :: hi :: lo :: rest))
    (percent : ∀ {cs : List Char}, ¬StartsHex cs → motive cs → motive ('%' :: cs))
    (other : ∀ {c : Char} {cs : List Char}, c ≠ '%' → motive cs → motive (c :: cs))
    (cs : List Char) : motive cs := by
  induction cs using decode.induct with
  | case1 => exact nil
  | case2 hi lo rest h l hl hh ih => exact hex hh hl ih
  | case3 hi lo rest hnot ih =>
    refine percent ?_ ih
    rintro ⟨_, _, _, h, l, heq, hh, hl⟩
    cases heq
    exact hnot h l hh hl
  | case4 rest hnot ih =>
    refine percent ?_ ih
    rintro ⟨hi, lo, rest, _, _, heq, -, -⟩
    exact hnot hi lo rest heq
  | case5 c cs hc ih => exact other hc ih

theorem hexValue?_upperHexDigit (n : Nat) (h : n < 16) :
    hexValue? (upperHexDigit n) = some n := by
  revert n
  decide

theorem decode_encodeOctet (b : UInt8) (rest : List Char) :
    decode (encodeOctet b ++ rest) = b :: decode rest := by
  have hb : b.toNat < 256 := UInt8.toNat_lt b
  have hoctet := decode_hex (hexValue?_upperHexDigit (b.toNat / 16) (by omega))
    (hexValue?_upperHexDigit (b.toNat % 16) (by omega)) rest
  refine hoctet.trans ?_
  rw [Nat.div_add_mod' b.toNat 16, UInt8.ofNat_toNat]

theorem decode_encodeOctets {keep : UInt8 → Bool} {bs : Utf8.Octets}
    (h : ∀ b ∈ bs, keep b = false) (rest : List Char) :
    decode (encodeOctets keep bs ++ rest) = bs ++ decode rest := by
  induction bs with
  | nil => rfl
  | cons b bs ih =>
    rw [encodeOctets, List.flatMap_cons, h b List.mem_cons_self, if_neg Bool.false_ne_true,
      List.append_assoc, decode_encodeOctet, List.cons_append]
    exact congrArg (b :: ·) (ih fun d hd => h d (List.mem_cons_of_mem b hd))

-- ---------------------------------------------------------------------------
-- Segments of paths
-- ---------------------------------------------------------------------------

/-- A character as it is written in a path. -/
def pathChar (c : Char) : List Char := encodeOctets keptInPath (String.utf8EncodeChar c)

theorem toList_encode (s : String) : (encode keptInPath s).toList = s.toList.flatMap pathChar := by
  simp only [encode, encodeOctets, Utf8.ofString, Utf8.encode, List.flatMap_assoc,
    String.toList_ofList]
  rfl

theorem lt_of_keptInPath {b : UInt8} (h : keptInPath b = true) : b.toNat < 0x80 := by
  have hvisible : Http.Url.isVisible b = true := by
    simp only [keptInPath, Http.Url.keptInFragment, Bool.and_eq_true] at h
    exact h.1.1
  have hle : b ≤ 0x7E := of_decide_eq_true (Bool.and_eq_true_iff.mp hvisible).2
  exact Nat.lt_succ_of_le (Nat.le_succ_of_le (UInt8.le_iff_toNat_le.mp hle))

theorem pathChar_kept {c : Char} (hc : c.toNat < 0x80)
    (h : keptInPath (UInt8.ofNat c.toNat) = true) : pathChar c = [c] := by
  have hoctet : (UInt8.ofNat c.toNat).toNat = c.toNat :=
    UInt8.toNat_ofNat_of_lt' (Nat.lt_trans hc (by decide))
  rw [pathChar, Utf8.utf8EncodeChar_ascii hc, encodeOctets, List.flatMap_singleton, if_pos h,
    hoctet, Char.ofNat_toNat]

/-- A character is kept, or all its octets are written by number. -/
theorem pathChar_cases (c : Char) :
    pathChar c = [c] ∨ ∀ b ∈ String.utf8EncodeChar c, keptInPath b = false := by
  rcases Nat.lt_or_ge c.toNat 0x80 with hc | hc
  · cases h : keptInPath (UInt8.ofNat c.toNat) with
    | true => exact .inl (pathChar_kept hc h)
    | false =>
      rw [Utf8.utf8EncodeChar_ascii hc]
      exact .inr (List.forall_mem_singleton.mpr h)
  · refine .inr fun b hb => ?_
    have hlarge := Utf8.le_of_mem_utf8EncodeChar hc b hb
    cases h : keptInPath b with
    | true => exact absurd (lt_of_keptInPath h) (Nat.not_lt.mpr hlarge)
    | false => rfl

theorem pathChar_head (c : Char) : pathChar c = [c] ∨ ∃ rest, pathChar c = '%' :: rest := by
  rcases pathChar_cases c with h | h
  · exact .inl h
  · have hne : String.utf8EncodeChar c ≠ [] := by
      intro hnil
      have hlength := String.length_utf8EncodeChar c
      rw [hnil] at hlength
      exact absurd c.utf8Size_pos (by simp [← hlength])
    obtain ⟨b, bs, hbs⟩ := List.exists_cons_of_ne_nil hne
    have hb := h b (hbs ▸ List.mem_cons_self)
    rw [pathChar, hbs, encodeOctets, List.flatMap_cons, hb, if_neg Bool.false_ne_true]
    exact .inr ⟨_, rfl⟩

theorem pathChar_percent : pathChar '%' = ['%'] := by
  decide

theorem hexValue?_ascii {c : Char} {n : Nat} (h : hexValue? c = some n) : c.toNat < 0x80 := by
  have hle {d e : Char} (hd : d ≤ e) : d.toNat ≤ e.toNat := hd
  unfold hexValue? at h
  split at h
  · next hdigit =>
    have hlast : c.toNat ≤ 0x39 := of_decide_eq_true (Bool.and_eq_true_iff.mp hdigit).2
    omega
  · split at h
    · next hletter =>
      exact Nat.lt_of_le_of_lt (hle hletter.2) (by decide)
    · split at h
      · next hletter =>
        exact Nat.lt_of_le_of_lt (hle hletter.2) (by decide)
      · cases h

theorem keptInPath_hex : ∀ n < 0x80, (hexValue? (Char.ofNat n)).isSome = true →
    keptInPath (UInt8.ofNat n) = true := by
  decide +kernel

theorem pathChar_hex {c : Char} {n : Nat} (h : hexValue? c = some n) : pathChar c = [c] := by
  have hc := hexValue?_ascii h
  refine pathChar_kept hc (keptInPath_hex c.toNat hc ?_)
  rw [Char.ofNat_toNat, h]
  rfl

theorem hexValue?_percent : hexValue? '%' = none := by
  decide

/-- Encoding makes no hexadecimal digits where there are none. -/
theorem startsHex_of_flatMap {cs : List Char} (h : StartsHex (cs.flatMap pathChar)) :
    StartsHex cs := by
  obtain ⟨hi, lo, rest, m, n, hcs, hhi, hlo⟩ := h
  cases cs with
  | nil => cases hcs
  | cons d ds =>
    rw [List.flatMap_cons] at hcs
    rcases pathChar_head d with hd | ⟨_, hd⟩ <;> rw [hd] at hcs
    · obtain ⟨rfl, hds⟩ := List.cons.inj hcs
      cases ds with
      | nil => cases hds
      | cons e es =>
        change pathChar e ++ es.flatMap pathChar = lo :: rest at hds
        rcases pathChar_head e with he | ⟨_, he⟩ <;> rw [he] at hds
        · obtain ⟨rfl, -⟩ := List.cons.inj hds
          exact ⟨d, e, es, m, n, rfl, hhi, hlo⟩
        · obtain ⟨rfl, -⟩ := List.cons.inj hds
          cases hexValue?_percent.symm.trans hlo
    · obtain ⟨rfl, -⟩ := List.cons.inj hcs
      cases hexValue?_percent.symm.trans hhi

/-- Percent signs are kept, so that encoding changes nothing for the one who decodes. -/
theorem decode_flatMap_pathChar (cs : List Char) : decode (cs.flatMap pathChar) = decode cs := by
  induction cs using decode_induction with
  | nil => rfl
  | @hex hi lo h l rest hh hl ih =>
    rw [decode_hex hh hl, List.flatMap_cons, List.flatMap_cons, List.flatMap_cons,
      pathChar_percent, pathChar_hex hh, pathChar_hex hl]
    exact (decode_hex hh hl _).trans (congrArg _ ih)
  | @percent cs hhex ih =>
    rw [decode_percent hhex, List.flatMap_cons, pathChar_percent]
    exact (decode_percent fun h => hhex (startsHex_of_flatMap h)).trans (congrArg _ ih)
  | @other c cs hc ih =>
    rw [decode_of_ne hc, List.flatMap_cons, ← ih]
    rcases pathChar_cases c with h | h
    · rw [h, List.singleton_append, decode_of_ne hc]
    · exact decode_encodeOctets h _

theorem decode_encode (s : String) : decode (encode keptInPath s).toList = decode s.toList := by
  rw [toList_encode, decode_flatMap_pathChar]

-- ---------------------------------------------------------------------------
-- Texts without encoded octets
-- ---------------------------------------------------------------------------

/-- Somewhere in a text a percent sign stands in front of two hexadecimal digits. -/
def HasEncodedOctet (cs : List Char) : Prop :=
  ∃ before rest, cs = before ++ '%' :: rest ∧ StartsHex rest

@[simp] theorem not_hasEncodedOctet_nil : ¬HasEncodedOctet [] := by
  rintro ⟨before, rest, heq, -⟩
  cases before <;> cases heq

theorem hasEncodedOctet_cons {c : Char} {cs : List Char} :
    HasEncodedOctet (c :: cs) ↔ (c = '%' ∧ StartsHex cs) ∨ HasEncodedOctet cs := by
  constructor
  · rintro ⟨before, rest, heq, hhex⟩
    cases before with
    | nil =>
      obtain ⟨rfl, rfl⟩ := List.cons.inj heq
      exact .inl ⟨rfl, hhex⟩
    | cons d before =>
      obtain ⟨rfl, rfl⟩ := List.cons.inj heq
      exact .inr ⟨before, rest, rfl, hhex⟩
  · rintro (⟨rfl, hhex⟩ | ⟨before, rest, rfl, hhex⟩)
    · exact ⟨[], cs, rfl, hhex⟩
    · exact ⟨c :: before, rest, rfl, hhex⟩

theorem length_decode_le (cs : List Char) : (decode cs).length ≤ (Utf8.encode cs).length := by
  induction cs using decode_induction with
  | nil => rw [decode]; exact Nat.zero_le _
  | @hex hi lo h l rest hh hl ih =>
    rw [decode_hex hh hl, Utf8.encode_cons, Utf8.encode_cons, Utf8.encode_cons]
    simp only [List.length_append, List.length_cons, String.length_utf8EncodeChar]
    have := Char.utf8Size_pos '%'
    omega
  | percent hhex ih =>
    rw [decode_percent hhex, Utf8.encode_cons]
    exact Nat.succ_le_succ ih
  | other hc ih =>
    rw [decode_of_ne hc, Utf8.encode_cons, List.length_append, List.length_append]
    exact Nat.add_le_add_left ih _

theorem length_decode_lt {cs : List Char} (h : HasEncodedOctet cs) :
    (decode cs).length < (Utf8.encode cs).length := by
  induction cs using decode_induction with
  | nil => exact absurd h not_hasEncodedOctet_nil
  | @hex hi lo _ _ rest hh hl ih =>
    have hrest := length_decode_le rest
    rw [decode_hex hh hl, Utf8.encode_cons, Utf8.encode_cons, Utf8.encode_cons]
    simp only [List.length_append, List.length_cons, String.length_utf8EncodeChar]
    have := Char.utf8Size_pos '%'
    have := hi.utf8Size_pos
    omega
  | percent hhex ih =>
    rcases hasEncodedOctet_cons.mp h with ⟨-, h⟩ | h
    · exact absurd h hhex
    · rw [decode_percent hhex, Utf8.encode_cons]
      exact Nat.succ_lt_succ (ih h)
  | other hc ih =>
    rcases hasEncodedOctet_cons.mp h with ⟨h, -⟩ | h
    · exact absurd h hc
    · rw [decode_of_ne hc, Utf8.encode_cons, List.length_append, List.length_append]
      exact Nat.add_lt_add_left (ih h) _

/-- A text is decoded to its own octets just if it has no encoded ones, which would be fewer. -/
theorem decode_eq_encode_iff {cs : List Char} :
    decode cs = Utf8.encode cs ↔ ¬HasEncodedOctet cs := by
  constructor
  · intro heq h
    have hlt := length_decode_lt h
    rw [heq] at hlt
    exact Nat.lt_irrefl _ hlt
  · intro h
    induction cs using decode_induction with
    | nil => rw [decode]; rfl
    | hex hh hl ih =>
      exact absurd (hasEncodedOctet_cons.mpr (.inl ⟨rfl, _, _, _, _, _, rfl, hh, hl⟩)) h
    | percent hhex ih =>
      rw [decode_percent hhex, ih fun h' => h (hasEncodedOctet_cons.mpr (.inr h'))]
      rfl
    | other hc ih =>
      rw [decode_of_ne hc, ih fun h' => h (hasEncodedOctet_cons.mpr (.inr h'))]
      rfl

/-- A slash is decoded to itself. -/
theorem slash_mem_decode {cs : List Char} (h : '/' ∈ cs) : 0x2F ∈ decode cs := by
  induction cs using decode_induction with
  | nil => cases h
  | @hex hi lo _ _ rest hh hl ih =>
    have hnot {c : Char} {n : Nat} (hc : hexValue? c = some n) : '/' ≠ c := by
      rintro rfl
      cases hc
    rw [decode_hex hh hl]
    refine List.mem_cons_of_mem _ (ih ?_)
    simpa [hnot hh, hnot hl] using h
  | percent hhex ih =>
    rw [decode_percent hhex]
    exact List.mem_cons_of_mem _ (ih (by simpa using h))
  | @other c cs hc ih =>
    rw [decode_of_ne hc, List.mem_append]
    rcases List.mem_cons.mp h with rfl | h
    · exact .inl (by decide)
    · exact .inr (ih h)

end Percent

end RemoteNotes.Text
