/-!
# UTF-8

Text goes over the wire as octets. Reading is either strict, for text that has to be
well formed, or lenient: each longest piece of a sequence that breaks off becomes one
replacement character.
-/

namespace RemoteNotes.Text.Utf8

abbrev Octets := List UInt8

def encode (cs : List Char) : Octets := cs.flatMap String.utf8EncodeChar

def ofString (s : String) : Octets := encode s.toList

def replacement : Char := Char.ofNat 0xFFFD

/-- The sequences that start with the octet `lead` allow only these octets in second place:
no overlong forms, no surrogates and nothing past the last code point. -/
def allowsSecond (lead second : Nat) : Bool :=
  if 0xC2 ≤ lead && lead ≤ 0xDF then 0x80 ≤ second && second ≤ 0xBF
  else if lead == 0xE0 then 0xA0 ≤ second && second ≤ 0xBF
  else if lead == 0xED then 0x80 ≤ second && second ≤ 0x9F
  else if 0xE1 ≤ lead && lead ≤ 0xEF then 0x80 ≤ second && second ≤ 0xBF
  else if lead == 0xF0 then 0x90 ≤ second && second ≤ 0xBF
  else if 0xF1 ≤ lead && lead ≤ 0xF3 then 0x80 ≤ second && second ≤ 0xBF
  else if lead == 0xF4 then 0x80 ≤ second && second ≤ 0x8F
  else false

def isContinuation (b : Nat) : Bool := 0x80 ≤ b && b ≤ 0xBF

/-- What stands at the front of a list of octets: a character, or a sequence that breaks
off, and in both cases the octets behind it. -/
inductive Front
  | empty
  | char (c : Char) (rest : Octets)
  | broken (rest : Octets)

def front : Octets → Front
  | [] => .empty
  | b0 :: r0 =>
    let n0 := b0.toNat
    if n0 < 0x80 then .char (Char.ofNat n0) r0
    else match r0 with
      | [] => .broken []
      | b1 :: r1 =>
        let n1 := b1.toNat
        if !allowsSecond n0 n1 then .broken r0
        else if n0 < 0xE0 then .char (Char.ofNat ((n0 - 0xC0) * 64 + (n1 - 0x80))) r1
        else match r1 with
          | [] => .broken []
          | b2 :: r2 =>
            let n2 := b2.toNat
            if !isContinuation n2 then .broken r1
            else if n0 < 0xF0 then
              .char (Char.ofNat ((n0 - 0xE0) * 4096 + (n1 - 0x80) * 64 + (n2 - 0x80))) r2
            else match r2 with
              | [] => .broken []
              | b3 :: r3 =>
                let n3 := b3.toNat
                if !isContinuation n3 then .broken r2
                else .char (Char.ofNat ((n0 - 0xF0) * 262144 + (n1 - 0x80) * 4096
                  + (n2 - 0x80) * 64 + (n3 - 0x80))) r3

theorem length_lt_of_front_char {bs rest : Octets} {c : Char} (h : front bs = .char c rest) :
    rest.length < bs.length := by
  unfold front at h
  dsimp only at h
  repeat' split at h
  all_goals grind

theorem length_lt_of_front_broken {bs rest : Octets} (h : front bs = .broken rest) :
    rest.length < bs.length := by
  unfold front at h
  dsimp only at h
  repeat' split at h
  all_goals grind

/-- Well-formed octets as characters. -/
def decode? (bs : Octets) : Option (List Char) :=
  match h : front bs with
  | .empty => some []
  | .char c rest =>
    have := length_lt_of_front_char h
    (decode? rest).map (c :: ·)
  | .broken _ => none
termination_by bs.length

/-- Any octets as characters, with one replacement for each sequence that breaks off. -/
def decodeLossy (bs : Octets) : List Char :=
  match h : front bs with
  | .empty => []
  | .char c rest =>
    have := length_lt_of_front_char h
    c :: decodeLossy rest
  | .broken rest =>
    have := length_lt_of_front_broken h
    replacement :: decodeLossy rest
termination_by bs.length

def toStringLossy (bs : Octets) : String := String.ofList (decodeLossy bs)

end RemoteNotes.Text.Utf8
