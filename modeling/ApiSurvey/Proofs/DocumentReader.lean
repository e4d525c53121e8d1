import ApiSurvey.Json.Basic

/-!
# Reading documents

A reader of document text. The text is cut into tokens, and the tokens are put together while the
arrays and objects that are still open wait on a stack. The reader is strict: blanks stand between
tokens only, a comma stands between two entries only, a text holds no bare control character, and
nothing follows the document. Numbers are whole. A field that is given twice keeps its first place
and its last value.
-/

namespace ApiSurvey.Json

inductive Token where
  | openArray
  | closeArray
  | openObject
  | closeObject
  | comma
  | colon
  | text (value : String)
  /-- A value written as a word: `null`, a truth value or a number. -/
  | word (value : Json)

/-! ## Tokens -/

def isBlank (c : Char) : Bool :=
  c == ' ' || c == '\n' || c == '\r' || c == '\t'

/-- The token that a character is by itself. -/
def mark? (c : Char) : Option Token :=
  match c with
  | '[' => some .openArray
  | ']' => some .closeArray
  | '\x7b' => some .openObject
  | '\x7d' => some .closeObject
  | ',' => some .comma
  | ':' => some .colon
  | _ => none

/-- A whole number without sign; a zero stands in front only by itself. -/
def natural? (digits : List Char) : Option Nat :=
  if digits ≠ [] ∧ digits.all Char.isDigit ∧ (digits = ['0'] ∨ digits.head? ≠ some '0') then
    some (Nat.ofDigitChars 10 digits 0)
  else none

def number? (cs : List Char) : Option Int :=
  match cs with
  | '-' :: digits => (natural? digits).map fun n ↦ -(n : Int)
  | digits => (natural? digits).map fun n ↦ (n : Int)

def word? (cs : List Char) : Option Json :=
  if cs = "null".toList then some .null
  else if cs = "true".toList then some (.bool true)
  else if cs = "false".toList then some (.bool false)
  else (number? cs).map .number

def hexDigit? (c : Char) : Option Nat :=
  if '0' ≤ c ∧ c ≤ '9' then some (c.toNat - '0'.toNat)
  else if 'a' ≤ c ∧ c ≤ 'f' then some (c.toNat - 'a'.toNat + 10)
  else if 'A' ≤ c ∧ c ≤ 'F' then some (c.toNat - 'A'.toNat + 10)
  else none

/-- The number that hexadecimal digits stand for. -/
def hexNumber? (digits : List Char) : Option Nat :=
  digits.foldlM (fun n c ↦ (hexDigit? c).map (n * 16 + ·)) 0

/-- The character that a backslash and a letter stand for. -/
def letterEscape? (c : Char) : Option Char :=
  match c with
  | '"' => some '"'
  | '\\' => some '\\'
  | '/' => some '/'
  | 'b' => some '\x08'
  | 'f' => some '\x0c'
  | 'n' => some '\n'
  | 'r' => some '\r'
  | 't' => some '\t'
  | _ => none

/-- What is written between the quotes of a text. A character beyond the first plane may be given by
a pair of surrogates; a surrogate by itself is no character. -/
def unescape : List Char → Option (List Char)
  | [] => some []
  | '\\' :: 'u' :: a :: b :: c :: d :: rest =>
      match hexNumber? [a, b, c, d] with
      | none => none
      | some code =>
          if code < 0xd800 ∨ 0xe000 ≤ code then (unescape rest).map (Char.ofNat code :: ·)
          else if 0xdc00 ≤ code then none
          else
            match rest with
            | '\\' :: 'u' :: a :: b :: c :: d :: rest =>
                match hexNumber? [a, b, c, d] with
                | none => none
                | some low =>
                    if 0xdc00 ≤ low ∧ low < 0xe000 then
                      let both := 0x10000 + (code - 0xd800) * 0x400 + (low - 0xdc00)
                      (unescape rest).map (Char.ofNat both :: ·)
                    else none
            | _ => none
  | '\\' :: c :: rest => (letterEscape? c).bind fun e ↦ (unescape rest).map (e :: ·)
  | c :: rest =>
      if c = '"' ∨ c = '\\' ∨ c.toNat < 0x20 then none else (unescape rest).map (c :: ·)

/-- Where the reader is: between tokens, or inside a token of which some characters are read. -/
inductive Mode where
  | between
  | word (raw : List Char)
  | text (raw : List Char)
  /-- Inside a text, after a backslash. -/
  | escape (raw : List Char)

/-- Reads a character between tokens and goes on with the rest. -/
def start (c : Char) (next : Mode → Option (List Token)) : Option (List Token) :=
  if isBlank c then next .between
  else
    match mark? c with
    | some token => (next .between).map (token :: ·)
    | none => if c = '"' then next (.text []) else next (.word [c])

def tokens : List Char → Mode → Option (List Token)
  | [], mode =>
      match mode with
      | .between => some []
      | .word raw => (word? raw).map fun j ↦ [.word j]
      | .text _ => none
      | .escape _ => none
  | c :: rest, mode =>
      match mode with
      | .between => start c (tokens rest)
      | .word raw =>
          if isBlank c ∨ (mark? c).isSome then
            (word? raw).bind fun j ↦ (start c (tokens rest)).map (.word j :: ·)
          else tokens rest (.word (raw ++ [c]))
      | .text raw =>
          if c = '"' then
            (unescape raw).bind fun cs ↦
              (tokens rest .between).map (.text (String.ofList cs) :: ·)
          else if c = '\\' then tokens rest (.escape (raw ++ [c]))
          else tokens rest (.text (raw ++ [c]))
      | .escape raw => tokens rest (.text (raw ++ [c]))

/-! ## Putting tokens together -/

/-- An array or object that is still open, with what it holds already; in an object, a name waits
for its value. -/
inductive Frame where
  | array (items : List Json)
  | object (fields : List (String × Json)) (name : String)

/-- What comes next, below the frames that are open. -/
inductive Progress where
  | value (frames : List Frame)
  | firstItem (frames : List Frame)
  | firstField (frames : List Frame)
  | field (frames : List Frame) (fields : List (String × Json))
  | colon (frames : List Frame) (fields : List (String × Json)) (name : String)
  /-- A value is complete. -/
  | done (frames : List Frame) (value : Json)

/-- The fields with one more, or with the value of one replaced. -/
def putField (fields : List (String × Json)) (name : String) (value : Json) :
    List (String × Json) :=
  if name ∈ fields.map (·.1) then
    fields.map fun field ↦ if field.1 = name then (name, value) else field
  else fields ++ [(name, value)]

def beginValue (frames : List Frame) : Token → Option Progress
  | .word value => some (.done frames value)
  | .text value => some (.done frames (.string value))
  | .openArray => some (.firstItem frames)
  | .openObject => some (.firstField frames)
  | _ => none

def advance : Progress → Token → Option Progress
  | .value frames, token => beginValue frames token
  | .firstItem frames, .closeArray => some (.done frames (.array []))
  | .firstItem frames, token => beginValue (.array [] :: frames) token
  | .firstField frames, .closeObject => some (.done frames (.object []))
  | .firstField frames, .text name => some (.colon frames [] name)
  | .field frames fields, .text name => some (.colon frames fields name)
  | .colon frames fields name, .colon => some (.value (.object fields name :: frames))
  | .done (.array items :: frames) value, .comma =>
      some (.value (.array (items ++ [value]) :: frames))
  | .done (.array items :: frames) value, .closeArray =>
      some (.done frames (.array (items ++ [value])))
  | .done (.object fields name :: frames) value, .comma =>
      some (.field frames (putField fields name value))
  | .done (.object fields name :: frames) value, .closeObject =>
      some (.done frames (.object (putField fields name value)))
  | _, _ => none

def Progress.result? : Progress → Option Json
  | .done [] j => some j
  | _ => none

def ofTokens (ts : List Token) : Option Json :=
  (ts.foldlM advance (.value [])).bind Progress.result?

def read (text : String) : Option Json :=
  (tokens text.toList .between).bind ofTokens

end ApiSurvey.Json
