/-!
# Base 64

Bytes as text: each group of four characters stands for three bytes, six bits a character. Equals
signs complete the last group and end the text. Characters that stand for no bits are passed over,
so the text may be broken into lines.
-/

namespace DiagnosticFeed.Text

/-- The bits that a character stands for. -/
def sextet? (c : Char) : Option Nat :=
  if 'A' ≤ c && c ≤ 'Z' then some (c.toNat - 65)
  else if 'a' ≤ c && c ≤ 'z' then some (c.toNat - 71)
  else if '0' ≤ c && c ≤ '9' then some (c.toNat + 4)
  else if c == '+' then some 62
  else if c == '/' then some 63
  else none

/-- The bytes that are whole in a group of at most four characters. -/
def groupBytes : List Nat → List UInt8
  | [a, b] => [UInt8.ofNat (a * 4 + b / 16)]
  | [a, b, c] => [UInt8.ofNat (a * 4 + b / 16), UInt8.ofNat (b % 16 * 16 + c / 4)]
  | [a, b, c, d] =>
    [UInt8.ofNat (a * 4 + b / 16), UInt8.ofNat (b % 16 * 16 + c / 4), UInt8.ofNat (c % 4 * 64 + d)]
  | _ => []

/-- The bytes of a text, behind a group that is not complete yet and the equals signs that followed
its last character. -/
def fromBase64From? (group : List Nat) (signs : Nat) : List Char → Option (List UInt8)
  | [] => if group.isEmpty then some [] else none
  | c :: cs =>
    if c == '=' then
      if group.length < 2 then fromBase64From? group signs cs
      else if 4 ≤ group.length + signs + 1 then some (groupBytes group)
      else fromBase64From? group (signs + 1) cs
    else
      match sextet? c with
      | none => fromBase64From? group signs cs
      | some n =>
        if group.length == 3 then
          (fromBase64From? [] 0 cs).map (groupBytes (group ++ [n]) ++ ·)
        else fromBase64From? (group ++ [n]) 0 cs

/-- The bytes of a text, if its last group is complete. -/
def fromBase64? (cs : List Char) : Option (List UInt8) :=
  fromBase64From? [] 0 cs

end DiagnosticFeed.Text
