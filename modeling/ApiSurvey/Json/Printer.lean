import ApiSurvey.Json.Basic
import ApiSurvey.Text.Quoted

/-!
# Written documents

A document is written with one entry a line, indented by its depth. Empty arrays and objects stand
on one line. Inside a text only the quote, the backslash and the controls are escaped.
-/

namespace ApiSurvey.Json

/-- How a character is written inside a text. -/
def escapedChar (c : Char) : List Char :=
  match c with
  | '"' => ['\\', '"']
  | '\\' => ['\\', '\\']
  | '\n' => ['\\', 'n']
  | '\r' => ['\\', 'r']
  | '\t' => ['\\', 't']
  | '\x08' => ['\\', 'b']
  | '\x0c' => ['\\', 'f']
  | c => if c.toNat < 0x20 then '\\' :: 'u' :: Text.hexDigits 4 c.toNat else [c]

def writtenString (s : String) : List Char :=
  '"' :: s.toList.flatMap escapedChar ++ ['"']

/-- A new line, indented to a depth. -/
def newLine (indent depth : Nat) : List Char :=
  '\n' :: List.replicate (indent * depth) ' '

mutual

/-- A value written at a depth. -/
def written (indent depth : Nat) : Json → List Char
  | .null => "null".toList
  | .bool true => "true".toList
  | .bool false => "false".toList
  | .number n => (toString n).toList
  | .string s => writtenString s
  | .array [] => ['[', ']']
  | .array (item :: items) =>
      '[' :: newLine indent (depth + 1) ++ written indent (depth + 1) item ++
        writtenItems indent (depth + 1) items ++ newLine indent depth ++ [']']
  | .object [] => ['\x7b', '\x7d']
  | .object ((name, value) :: fields) =>
      '\x7b' :: newLine indent (depth + 1) ++ writtenString name ++ [':', ' '] ++
        written indent (depth + 1) value ++ writtenFields indent (depth + 1) fields ++
        newLine indent depth ++ ['\x7d']

/-- The further items of an array. -/
def writtenItems (indent depth : Nat) : List Json → List Char
  | [] => []
  | item :: items =>
      ',' :: newLine indent depth ++ written indent depth item ++ writtenItems indent depth items

/-- The further fields of an object. -/
def writtenFields (indent depth : Nat) : List (String × Json) → List Char
  | [] => []
  | (name, value) :: fields =>
      ',' :: newLine indent depth ++ writtenString name ++ [':', ' '] ++
        written indent depth value ++ writtenFields indent depth fields

end

def render (indent : Nat) (j : Json) : String :=
  String.ofList (written indent 0 j)

end ApiSurvey.Json
