/-!
# Lines of a text

Lines end at the line feed, the carriage return (a following line feed belongs to it), the
vertical and form feeds, the file, group and record separators, the next-line control and the line
and paragraph separators. A final line break opens no further line.
-/

namespace ApiSurvey.Text

/-- A character that ends a line. -/
def isLineBreak (c : Char) : Bool :=
  let n := c.toNat
  (10 ≤ n && n ≤ 13) || (28 ≤ n && n ≤ 30) || n == 0x85 || n == 0x2028 || n == 0x2029

/-- The lines of a text without their line breaks. -/
def lines : List Char → List (List Char)
  | [] => []
  | '\r' :: '\n' :: cs => [] :: lines cs
  | c :: cs =>
      if isLineBreak c then [] :: lines cs
      else
        match lines cs with
        | [] => [[c]]
        | l :: ls => (c :: l) :: ls

end ApiSurvey.Text
