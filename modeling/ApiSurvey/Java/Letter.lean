import ApiSurvey.Text.Utf8

/-!
# Letters of a source

A source is a sequence of bytes. The scanner sees it as letters: decoded characters that remember
how many bytes they take. A byte that belongs to no character is a letter of its own, so that it can
stand in comments and literals.
-/

namespace ApiSurvey.Java

/-- A character of a source with its width in bytes. -/
structure Letter where
  char : Char
  width : Nat
  deriving DecidableEq, Repr, Inhabited

def letters : List UInt8 → List Letter
  | [] => []
  | b :: bs =>
      match Text.firstChar b bs with
      | (some c, taken) => ⟨c, taken + 1⟩ :: letters (bs.drop taken)
      | (none, _) => ⟨Text.replacement, 1⟩ :: letters bs
termination_by bs => bs.length
decreasing_by
  all_goals
    simp only [List.length_drop, List.length_cons]
    omega

/-- A place in a source: the letters that follow, the bytes before it and its line. -/
structure Cursor where
  rest : List Letter
  offset : Nat := 0
  /-- Lines are counted from 1 and end at a line feed only. -/
  line : Nat := 1
  deriving Repr, Inhabited

namespace Cursor

/-- The place `n` letters further on. -/
def advance (c : Cursor) : Nat → Cursor
  | 0 => c
  | n + 1 =>
      match c.rest with
      | [] => c
      | l :: rest =>
          advance ⟨rest, c.offset + l.width, if l.char == '\n' then c.line + 1 else c.line⟩ n

/-- The first place of a source; a byte order mark in front is passed over. -/
def start (bytes : ByteArray) : Cursor :=
  let c : Cursor := { rest := letters bytes.data.toList }
  match c.rest with
  | l :: _ => if l.char.toNat == 0xfeff then c.advance 1 else c
  | [] => c

end Cursor

end ApiSurvey.Java
