/-!
# Blank characters

Blanks are the white space of every script together with the four information separators. Trimming
and splitting into words go by this set. Main statement: trimming never lengthens a text.
-/

namespace ApiSurvey.Text

/-- White space, the information separators and the next-line control. -/
def isBlank (c : Char) : Bool :=
  let n := c.toNat
  (9 ≤ n && n ≤ 13) || (28 ≤ n && n ≤ 32) || n == 0x85 || n == 0xa0 || n == 0x1680 ||
    (0x2000 ≤ n && n ≤ 0x200a) || n == 0x2028 || n == 0x2029 || n == 0x202f || n == 0x205f ||
    n == 0x3000

def trimStart (cs : List Char) : List Char :=
  cs.dropWhile isBlank

def trimEnd (cs : List Char) : List Char :=
  (cs.reverse.dropWhile isBlank).reverse

def trim (cs : List Char) : List Char :=
  trimEnd (trimStart cs)

theorem length_dropWhile_le {α : Type} (p : α → Bool) (xs : List α) :
    (xs.dropWhile p).length ≤ xs.length :=
  (List.dropWhile_suffix p).length_le

theorem length_trim_le (cs : List Char) : (trim cs).length ≤ cs.length := by
  have h₁ := length_dropWhile_le isBlank (trimStart cs).reverse
  have h₂ := length_dropWhile_le isBlank cs
  simp only [trim, trimEnd, trimStart, List.length_reverse] at *
  omega

/-- The maximal runs of characters that are not blank, in order. -/
def words (cs : List Char) : List (List Char) :=
  match _h : trimStart cs with
  | [] => []
  | c :: rest =>
      (c :: rest.takeWhile (!isBlank ·)) :: words (rest.dropWhile (!isBlank ·))
termination_by cs.length
decreasing_by
  have h₁ := length_dropWhile_le (!isBlank ·) rest
  have h₂ := length_dropWhile_le isBlank cs
  simp only [trimStart] at _h
  rw [_h] at h₂
  simp only [List.length_cons] at h₂
  omega

/-- The text with every run of blanks replaced by one space and none at its ends. -/
def collapse (cs : List Char) : List Char :=
  [' '].intercalate (words cs)

def collapseBlanks (s : String) : String :=
  String.ofList (collapse s.toList)

def trimBlanks (s : String) : String :=
  String.ofList (trim s.toList)

end ApiSurvey.Text
