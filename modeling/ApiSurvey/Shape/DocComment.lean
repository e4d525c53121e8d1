import ApiSurvey.Text.Blank
import ApiSurvey.Text.Lines

/-!
# Documentation comments

The summary of a documentation comment is its first line that says something. A leading star of a
line is decoration, and a line that starts with `@` ends the description.
-/

namespace ApiSurvey.Shape

open Text

def withoutOpening (cs : List Char) : List Char :=
  if "/**".toList.isPrefixOf cs then cs.drop 3 else cs

def withoutClosing (cs : List Char) : List Char :=
  if "*/".toList.isSuffixOf cs then cs.take (cs.length - 2) else cs

/-- A trimmed line without its decoration. -/
def lineText (line : List Char) : List Char :=
  match trim line with
  | '*' :: rest => trim rest
  | text => text

/-- The first line that is not empty, unless a line that starts with `@` comes before it. -/
def firstLine : List (List Char) → List Char
  | [] => []
  | line :: rest =>
      match lineText line with
      | [] => firstLine rest
      | '@' :: _ => []
      | text => text

/-- The summary of a comment, delimiters included in the comment's text. -/
def summary (doc : String) : String :=
  String.ofList (firstLine (lines (withoutClosing (withoutOpening (trim doc.toList)))))

end ApiSurvey.Shape
