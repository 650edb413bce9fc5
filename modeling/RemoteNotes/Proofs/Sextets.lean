import RemoteNotes.Text.Base64

/-!
# Octets in symbols

Some symbols are read as octets just where these octets are written in them
(`decode?_eq_some_iff`), whatever is left of the octets at the end of the threes.
-/

namespace RemoteNotes.Text.Base64

open Utf8 (Octets)

variable {a : Alphabet} {bs : Octets} {ns : List Nat}

/-- The symbols of some octets by their numbers. -/
def sextets : Octets → List Nat
  | [] => []
  | [x] => [x.toNat / 4, x.toNat % 4 * 16]
  | [x, y] => [x.toNat / 4, x.toNat % 4 * 16 + y.toNat / 16, y.toNat % 16 * 4]
  | x :: y :: z :: rest =>
    x.toNat / 4 :: (x.toNat % 4 * 16 + y.toNat / 16) :: (y.toNat % 16 * 4 + z.toNat / 64) ::
      z.toNat % 64 :: sextets rest

theorem encode_eq (a : Alphabet) (bs : Octets) : encode a bs = (sextets bs).map a.symbol := by
  fun_induction sextets bs with
  | case1 => rfl
  | case2 => rfl
  | case3 => rfl
  | case4 x y z rest ih => simp only [encode, ih, List.map_cons]

-- ---------------------------------------------------------------------------
-- Groups of six bits
-- ---------------------------------------------------------------------------

theorem sextets_lt (bs : Octets) : ∀ n ∈ sextets bs, n < 64 := by
  fun_induction sextets bs with
  | case1 => simp
  | case2 x =>
    have hx := x.toNat_lt
    simp
    omega
  | case3 x y =>
    have hx := x.toNat_lt
    have hy := y.toNat_lt
    simp
    omega
  | case4 x y z rest ih =>
    have hx := x.toNat_lt
    have hy := y.toNat_lt
    have hz := z.toNat_lt
    simp only [List.forall_mem_cons]
    exact ⟨by omega, by omega, by omega, by omega, ih⟩

theorem ofNat_eq {n : Nat} {x : UInt8} (h : n = x.toNat) : UInt8.ofNat n = x := by
  rw [h, UInt8.ofNat_toNat]

theorem ofSextets?_sextets (bs : Octets) : ofSextets? (sextets bs) = some bs := by
  fun_induction sextets bs with
  | case1 => rfl
  | case2 x =>
    have hx : UInt8.ofNat (x.toNat / 4 * 4 + x.toNat % 4 * 16 / 16) = x := ofNat_eq (by omega)
    rw [ofSextets?, if_pos (by omega), hx]
  | case3 x y =>
    have hy := y.toNat_lt
    have hx' : UInt8.ofNat (x.toNat / 4 * 4 + (x.toNat % 4 * 16 + y.toNat / 16) / 16) = x :=
      ofNat_eq (by omega)
    have hy' : UInt8.ofNat ((x.toNat % 4 * 16 + y.toNat / 16) % 16 * 16 +
        y.toNat % 16 * 4 / 4) = y := ofNat_eq (by omega)
    rw [ofSextets?, if_pos (by omega), hx', hy']
  | case4 x y z rest ih =>
    have hy := y.toNat_lt
    have hz := z.toNat_lt
    rw [ofSextets?, ih, Option.map_some, ofNat_eq (x := x) (by omega), ofNat_eq (x := y) (by omega),
      ofNat_eq (x := z) (by omega)]

/-- Bits that are left over would be lost, and they are refused. -/
theorem eq_sextets (hns : ∀ n ∈ ns, n < 64) (h : ofSextets? ns = some bs) : ns = sextets bs := by
  have htoNat {n : Nat} (hn : n < 256) : (UInt8.ofNat n).toNat = n := UInt8.toNat_ofNat_of_lt' hn
  fun_induction ofSextets? ns generalizing bs with
  | case1 =>
    cases h
    rfl
  | case2 => cases h
  | case3 p q hq =>
    cases h
    simp only [List.forall_mem_cons] at hns
    simp only [sextets, htoNat (n := p * 4 + q / 16) (by omega), List.cons.injEq, and_true]
    omega
  | case4 => cases h
  | case5 p q r hr =>
    cases h
    simp only [List.forall_mem_cons] at hns
    simp only [sextets, htoNat (n := p * 4 + q / 16) (by omega),
      htoNat (n := q % 16 * 16 + r / 4) (by omega), List.cons.injEq, and_true]
    omega
  | case6 => cases h
  | case7 p q r s rest ih =>
    obtain ⟨tail, htail, rfl⟩ := Option.map_eq_some_iff.mp h
    simp only [List.forall_mem_cons] at hns
    obtain ⟨hp, hq, hr, hs, hrest⟩ := hns
    simp only [sextets, htoNat (n := p * 4 + q / 16) (by omega),
      htoNat (n := q % 16 * 16 + r / 4) (by omega), htoNat (n := r % 4 * 64 + s) (by omega),
      ← ih hrest htail, List.cons.injEq, and_true]
    omega

-- ---------------------------------------------------------------------------
-- Symbols
-- ---------------------------------------------------------------------------

/-- Each number is the value of its symbol. -/
def Alphabet.IsProper (a : Alphabet) : Prop := ∀ n < 64, a.value? (a.symbol n) = some n

instance (a : Alphabet) : Decidable a.IsProper :=
  inferInstanceAs (Decidable (∀ n < 64, a.value? (a.symbol n) = some n))

theorem urlSafe_isProper : urlSafe.IsProper := by decide

theorem symbol_of_value? {c : Char} {n : Nat} (h : a.value? c = some n) :
    n < 64 ∧ a.symbol n = c := by
  have hbounds {first last : Char} (h : first ≤ c ∧ c ≤ last) :
      first.toNat ≤ c.toNat ∧ c.toNat ≤ last.toNat := h
  have hchar {k m : Nat} (h : k + m = c.toNat) : Char.ofNat (k + m) = c := by
    rw [h, Char.ofNat_toNat]
  unfold Alphabet.value? at h
  unfold Alphabet.symbol
  split at h
  · next hc =>
    have hc : 0x41 ≤ c.toNat ∧ c.toNat ≤ 0x5A := hbounds hc
    cases h
    refine ⟨by omega, ?_⟩
    rw [if_pos (by omega), hchar (by omega)]
  split at h
  · next hc =>
    have hc : 0x61 ≤ c.toNat ∧ c.toNat ≤ 0x7A := hbounds hc
    cases h
    refine ⟨by omega, ?_⟩
    rw [if_neg (by omega), if_pos (by omega), hchar (by omega)]
  split at h
  · next hc =>
    have hc : 0x30 ≤ c.toNat ∧ c.toNat ≤ 0x39 := hbounds hc
    cases h
    refine ⟨by omega, ?_⟩
    rw [if_neg (by omega), if_neg (by omega), if_pos (by omega), hchar (by omega)]
  split at h
  · next hc =>
    cases h
    exact ⟨by decide, hc.symm⟩
  split at h
  · next hc =>
    cases h
    exact ⟨by decide, hc.symm⟩
  · cases h

theorem value?_eq_some_iff (ha : a.IsProper) {c : Char} {n : Nat} :
    a.value? c = some n ↔ n < 64 ∧ a.symbol n = c := by
  constructor
  · exact symbol_of_value?
  · rintro ⟨hn, rfl⟩
    exact ha n hn

theorem mapM_value?_eq_some_iff (ha : a.IsProper) {cs : List Char} :
    cs.mapM a.value? = some ns ↔ (∀ n ∈ ns, n < 64) ∧ cs = ns.map a.symbol := by
  induction cs generalizing ns with
  | nil =>
    simp only [List.mapM_nil, Option.pure_def, Option.some.injEq]
    constructor
    · rintro rfl
      simp
    · rintro ⟨-, h⟩
      exact (List.map_eq_nil_iff.mp h.symm).symm
  | cons c cs ih =>
    simp only [List.mapM_cons, Option.bind_eq_bind, Option.bind_eq_some_iff, Option.pure_def,
      Option.some.injEq, ih, value?_eq_some_iff ha]
    constructor
    · rintro ⟨n, ⟨hn, rfl⟩, ns, ⟨hns, rfl⟩, rfl⟩
      exact ⟨List.forall_mem_cons.mpr ⟨hn, hns⟩, rfl⟩
    · rintro ⟨hns, h⟩
      obtain ⟨n, ns, rfl, rfl, rfl⟩ := List.map_eq_cons_iff.mp h.symm
      obtain ⟨hn, hns⟩ := List.forall_mem_cons.mp hns
      exact ⟨n, ⟨hn, rfl⟩, ns, ⟨hns, rfl⟩, rfl⟩

theorem decode?_eq_some_iff (ha : a.IsProper) {cs : List Char} :
    decode? a cs = some bs ↔ cs = encode a bs := by
  unfold decode?
  simp only [Option.bind_eq_some_iff, mapM_value?_eq_some_iff ha, encode_eq]
  constructor
  · rintro ⟨ns, ⟨hns, rfl⟩, h⟩
    rw [eq_sextets hns h]
  · rintro rfl
    exact ⟨sextets bs, ⟨sextets_lt bs, rfl⟩, ofSextets?_sextets bs⟩

end RemoteNotes.Text.Base64
