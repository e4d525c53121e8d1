/-!
# Capital letters

Capital forms within the Latin alphabet. Letters whose capital form lies outside `A`–`Z` stay as
they are, which is enough to compare a text with a word of plain capitals.
-/

namespace ApiSurvey.Text

/-- The capital form of a letter when it consists of letters `A`–`Z`: the small letters, the
dotless i, the long s, the sharp s and the Latin ligatures. -/
def capital (c : Char) : List Char :=
  match c.toNat with
  | 0xdf => ['S', 'S']
  | 0x131 => ['I']
  | 0x17f => ['S']
  | 0xfb00 => ['F', 'F']
  | 0xfb01 => ['F', 'I']
  | 0xfb02 => ['F', 'L']
  | 0xfb03 => ['F', 'F', 'I']
  | 0xfb04 => ['F', 'F', 'L']
  | 0xfb05 => ['S', 'T']
  | 0xfb06 => ['S', 'T']
  | _ => [c.toUpper]

def capitals (s : String) : String :=
  String.ofList (s.toList.flatMap capital)

end ApiSurvey.Text
