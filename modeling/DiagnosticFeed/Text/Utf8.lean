/-!
# UTF-8

Decoding bytes that may not be valid. Well-formed byte sequences use the fewest bytes possible and
stand neither for surrogates nor for numbers beyond the last code point. A decoder that repairs
writes one replacement character for each maximal run of bytes that starts a well-formed sequence
without completing it, and for each byte that starts none.
-/

namespace DiagnosticFeed.Text

/-- How many bytes follow a lead byte, and the bounds of the first of them. -/
def leadByte? (b : Nat) : Option (Nat × Nat × Nat) :=
  if 0xC2 ≤ b && b ≤ 0xDF then some (1, 0x80, 0xBF)
  else if b == 0xE0 then some (2, 0xA0, 0xBF)
  else if b == 0xED then some (2, 0x80, 0x9F)
  else if 0xE1 ≤ b && b ≤ 0xEF then some (2, 0x80, 0xBF)
  else if b == 0xF0 then some (3, 0x90, 0xBF)
  else if 0xF1 ≤ b && b ≤ 0xF3 then some (3, 0x80, 0xBF)
  else if b == 0xF4 then some (3, 0x80, 0x8F)
  else none

/-- The payload of a lead byte with `n` bytes to follow. -/
def leadBits (n b : Nat) : Nat :=
  match n with
  | 1 => b % 32
  | 2 => b % 16
  | _ => b % 8

/-- A sequence in progress: how many bytes are owed, the bounds of the next one, and the bits read
so far. -/
structure Pending where
  owed : Nat
  low : Nat
  high : Nat
  bits : Nat

/-- The character that stands for bytes that are not well formed. -/
def replacement : Char := Char.ofNat 0xFFFD

/-- Decodes bytes, repairing what is not well formed. `none` in the output marks a repair. -/
def decodeFrom : Option Pending → List UInt8 → List (Option Char)
  | none, [] => []
  | some _, [] => [none]
  | state, b :: bs =>
    match state with
    | some p =>
      if p.low ≤ b.toNat && b.toNat ≤ p.high then
        let bits := p.bits * 64 + b.toNat % 64
        if p.owed ≤ 1 then some (Char.ofNat bits) :: decodeFrom none bs
        else decodeFrom (some ⟨p.owed - 1, 0x80, 0xBF, bits⟩) bs
      else none :: start b bs
    | none => start b bs
where
  /-- Decodes a byte that starts a sequence. -/
  start (b : UInt8) (bs : List UInt8) : List (Option Char) :=
    if b.toNat < 0x80 then some (Char.ofNat b.toNat) :: decodeFrom none bs
    else match leadByte? b.toNat with
      | some (n, low, high) => decodeFrom (some ⟨n, low, high, leadBits n b.toNat⟩) bs
      | none => none :: decodeFrom none bs

/-- The text of well-formed bytes. -/
def decode? (bytes : List UInt8) : Option String :=
  ((decodeFrom none bytes).mapM id).map String.ofList

/-- The text of any bytes, repaired where it is not well formed. -/
def decodeRepaired (bytes : List UInt8) : String :=
  String.ofList ((decodeFrom none bytes).map (·.getD replacement))

def encode (s : String) : List UInt8 :=
  s.toUTF8.toList

end DiagnosticFeed.Text
