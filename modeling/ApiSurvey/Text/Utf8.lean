/-!
# Decoding UTF-8 that may be damaged

Every maximal piece of bytes that cannot be continued to a character is read as one replacement
character. A piece is an ill-placed single byte, or the longest beginning of a well-formed sequence
that the next byte does not continue.
-/

namespace ApiSurvey.Text

/-- The character that stands for undecodable bytes. -/
def replacement : Char := Char.ofNat 0xfffd

/-- The number of bytes that follow a leading byte, with the range of the first of them; `none` for
a byte that opens no sequence. The narrowed ranges exclude overlong forms, surrogates and code
points above the last one. -/
def continuation (b : UInt8) : Option (Nat × UInt8 × UInt8) :=
  if b < 0x80 then some (0, 0x80, 0xbf)
  else if 0xc2 ≤ b && b ≤ 0xdf then some (1, 0x80, 0xbf)
  else if b == 0xe0 then some (2, 0xa0, 0xbf)
  else if b == 0xed then some (2, 0x80, 0x9f)
  else if 0xe1 ≤ b && b ≤ 0xef then some (2, 0x80, 0xbf)
  else if b == 0xf0 then some (3, 0x90, 0xbf)
  else if 0xf1 ≤ b && b ≤ 0xf3 then some (3, 0x80, 0xbf)
  else if b == 0xf4 then some (3, 0x80, 0x8f)
  else none

/-- The payload bits of a leading byte that is followed by `n` bytes. -/
def leadBits (n : Nat) (b : UInt8) : Nat :=
  match n with
  | 0 => b.toNat
  | 1 => b.toNat % 32
  | 2 => b.toNat % 16
  | _ => b.toNat % 8

/-- Reads up to `n` continuation bytes, the first of which lies between `low` and `high`. The
answer is the code point when all are there, and how many bytes were taken. -/
def takeContinuation : Nat → UInt8 → UInt8 → Nat → List UInt8 → Option Nat × Nat
  | 0, _, _, acc, _ => (some acc, 0)
  | _ + 1, _, _, _, [] => (none, 0)
  | n + 1, low, high, acc, b :: bs =>
      if low ≤ b && b ≤ high then
        let (code, taken) := takeContinuation n 0x80 0xbf (acc * 64 + b.toNat % 64) bs
        (code, taken + 1)
      else (none, 0)

/-- The first character of a byte sequence and how many bytes after the first belong to it. -/
def firstChar (b : UInt8) (bs : List UInt8) : Option Char × Nat :=
  match continuation b with
  | none => (none, 0)
  | some (n, low, high) =>
      let (code, taken) := takeContinuation n low high (leadBits n b) bs
      (code.map Char.ofNat, taken)

/-- The text of a byte sequence, one replacement character for each undecodable piece. -/
def decode : List UInt8 → List Char
  | [] => []
  | b :: bs =>
      let (c, taken) := firstChar b bs
      c.getD replacement :: decode (bs.drop taken)
termination_by bs => bs.length
decreasing_by
  simp only [List.length_drop, List.length_cons]
  omega

/-- The text of a byte array, one replacement character for each undecodable piece. -/
def decodeBytes (bytes : ByteArray) : String :=
  String.ofList (decode bytes.data.toList)

end ApiSurvey.Text
