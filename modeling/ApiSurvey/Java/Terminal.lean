import ApiSurvey.Java.Pattern
import ApiSurvey.Text.Identifier
import ApiSurvey.Text.Quoted

/-!
# Terminals

The tokens of the language. Which tokens are looked for depends on what may come next: a word is a
keyword only where that keyword may stand, and a closing angle bracket is cut off a shift operator
where a list of type arguments may end. Of the tokens looked for the longest wins.
-/

namespace ApiSurvey.Java

/-- A kind of token. -/
inductive Terminal where
  | word (text : String)
  /-- An operator or a separator. -/
  | sign (text : String)
  /-- One `>` that closes a list of type arguments, also at the start of `>>`. -/
  | closeAngle
  | identifier
  | number
  | character
  | stringText
  | escape
  | blockText
  /-- An escape of a text block that stands for a character. -/
  | blockEscape
  /-- An escape of a text block that stands for nothing. -/
  | droppedEscape
  deriving DecidableEq, Repr, Inhabited, Hashable

namespace Terminal

/-- The tokens inside a literal, before which no blanks or comments are passed over. -/
def isInner : Terminal → Bool
  | .stringText | .escape | .blockText | .blockEscape | .droppedEscape => true
  | _ => false

/-- The tokens that carry content of their own; keywords and signs do not. -/
def isNamed : Terminal → Bool
  | .word _ | .sign _ | .closeAngle | .droppedEscape => false
  | _ => true

end Terminal

namespace Scan

open Pattern

/-- The letters of the identifier or keyword at the start. -/
def wordRun : List Letter → List Letter
  | [] => []
  | l :: ls =>
      let c := l.char
      if c == '_' || c == '$' || Text.isIdentifierStart c then
        l :: ls.takeWhile fun l ↦
          let c := l.char
          c == '_' || c == '$' || c.toNat == 0xa2 || Text.isIdentifierContinue c
      else []

def textOf (ls : List Letter) : String :=
  String.ofList (ls.map (·.char))

def startsWith : List Char → List Letter → Bool
  | [], _ => true
  | _ :: _, [] => false
  | c :: cs, l :: ls => l.char == c && startsWith cs ls

def digit : Pattern := .one Char.isDigit

def octalDigit : Pattern := oneOf "01234567"

def hexDigit : Pattern := oneOf "0123456789abcdefABCDEF"

def underscore : Pattern := oneOf "_"

/-- The sign of an exponent, which may be absent. -/
def sign : Pattern := optional (oneOf "+-")

/-- The letter behind a long whole number, which may be absent. -/
def longMark : Pattern := optional (oneOf "lL")

def floatMark : Pattern := oneOf "fFdD"

def digitGroups : Pattern := separated (repeated digit) underscore

def hexGroups : Pattern := separated (repeated hexDigit) underscore

/-- Zero, or digits that do not start with zero. -/
def wholeDigits : Pattern :=
  anyOf [oneOf "0",
    sequence [oneOf "123456789",
      optional (.seq (optional underscore) (separated (repeated digit) (repeated underscore)))]]

/-- An exponent behind one of the letters of `mark`. -/
def exponent (mark : String) : Pattern :=
  sequence [oneOf mark, sign, digitGroups]

/-- Whole and floating-point numbers in every base. -/
def number : Pattern :=
  anyOf
    [.seq wholeDigits longMark,
     sequence [oneOf "0", oneOf "xX", hexGroups, longMark],
     sequence [oneOf "0", optional (oneOf "oO"), separated (repeated octalDigit) underscore, longMark],
     sequence [oneOf "0", oneOf "bB", separated (repeated (oneOf "01")) underscore, longMark],
     sequence [digitGroups, oneOf ".", optional digitGroups, optional (exponent "eE"),
       optional floatMark],
     sequence [oneOf ".", digitGroups, optional (exponent "eE"), optional floatMark],
     sequence [wholeDigits, exponent "eEpP", optional floatMark],
     sequence [wholeDigits, optional (exponent "eEpP"), floatMark],
     sequence [oneOf "0", oneOf "xX",
       anyOf [.seq hexGroups (optional (oneOf ".")),
         sequence [optional hexGroups, oneOf ".", hexGroups]],
       optional (sequence [oneOf "eEpP", sign, wholeDigits, optional floatMark])]]

def apostrophe : Char := Text.singleQuote

/-- A character literal on one line, of any number of characters. -/
def character : Pattern :=
  let plain : Pattern := .one fun c ↦ c != apostrophe && c != '\\' && c != '\n' && c != '\x00'
  let escaped : Pattern := .seq (oneOf "\\") (.one (· != '\x00'))
  sequence [.one (· == apostrophe), repeated (.alt plain escaped), .one (· == apostrophe)]

/-- An escape of more than two characters: octal, hexadecimal or by code point. -/
def longEscape : Pattern :=
  anyOf
    [sequence [octalDigit, octalDigit, optional octalDigit],
     sequence [oneOf "x", hexDigit, hexDigit],
     sequence [oneOf "u", hexDigit, hexDigit, hexDigit, hexDigit],
     sequence [oneOf "u", oneOf "\x7b", repeated hexDigit, oneOf "\x7d"]]

def escape : Pattern :=
  let single : Pattern := .one fun c ↦ !"xu".toList.contains c && c != '\x00'
  .seq (oneOf "\\") (.alt single longEscape)

def blockEscape : Pattern :=
  .seq (oneOf "\\") (.alt (.one ("bfnrts\x27\"\\".toList.contains ·)) longEscape)

/-- Any other escape of a text block. -/
def droppedEscape : Pattern :=
  .seq (oneOf "\\") (.one fun c ↦ !"bfnrts\x27\"\\".toList.contains c && c != '\x00')

/-- How many letters from the start are in a class. -/
def runLength (inClass : Char → Bool) (ls : List Letter) : Nat :=
  (ls.takeWhile fun l ↦ inClass l.char).length

/-- A run of plain characters of a text block; one that starts with a quote runs to the next
quote. -/
def blockTextLength : List Letter → Nat
  | [] => 0
  | l :: ls =>
      if l.char == '"' then 1 + runLength (fun c ↦ c != '"' && c != '\x00') ls
      else runLength (fun c ↦ c != '"' && c != '\\' && c != '\x00') (l :: ls)

/-- The length of a token at the start of the letters; `run` is the word that stands there. Length
zero counts as no match. -/
def length? (run : String) (runSize : Nat) (ls : List Letter) : Terminal → Option Nat
  | .word text => if text == run then some runSize else none
  | .sign text => if startsWith text.toList ls then some text.length else none
  | .closeAngle => if startsWith ['>'] ls then some 1 else none
  | .identifier => some runSize
  | .number => number.longest ls
  | .character => character.longest ls
  | .stringText => some (runLength (fun c ↦ c != '"' && c != '\\' && c != '\x00') ls)
  | .escape => escape.longest ls
  | .blockText => some (blockTextLength ls)
  | .blockEscape => blockEscape.longest ls
  | .droppedEscape => droppedEscape.longest ls

/-- The tokens at the start of the letters among those looked for, each with its length. A keyword
hides the identifier of the same text, a sign hides an escape of the same length, and all but the
closing angle bracket must be of the greatest length. -/
def tokens (wanted : List Terminal) (ls : List Letter) : List (Terminal × Nat) :=
  let run := wordRun ls
  let text := textOf run
  let size := run.length
  let found := wanted.filterMap fun t ↦
    ((length? text size ls t).filter (0 < ·)).map (t, ·)
  let longest := found.foldl (fun n (t, m) ↦ if t == .closeAngle then n else max n m) 0
  let isSign := fun t ↦ match t with
    | Terminal.sign _ => true
    | _ => false
  let keyword := found.any fun (t, _) ↦ t == .word text
  let signWins := found.any fun (t, m) ↦ isSign t && m == longest
  found.filter fun (t, m) ↦
    t == .closeAngle ||
      (m == longest && !(t == .identifier && keyword) && !(t.isInner && signWins))

/-- The length of the comment at the start. -/
def commentLength? : List Letter → Option Nat
  | ⟨'/', _⟩ :: ⟨'/', _⟩ :: ls => some (2 + runLength (fun c ↦ c != '\n' && c != '\x00') ls)
  | ⟨'/', _⟩ :: ⟨'*', _⟩ :: ls => (closing 2 ls)
  | _ => none
where
  /-- The length up to the first closing delimiter. -/
  closing (taken : Nat) : List Letter → Option Nat
    | ⟨'*', _⟩ :: ⟨'/', _⟩ :: _ => some (taken + 2)
    | l :: ls => if l.char == '\x00' then none else closing (taken + 1) ls
    | [] => none

def isSpace (c : Char) : Bool :=
  c == ' ' || (9 ≤ c.toNat && c.toNat ≤ 13)

/-- Passes over blanks and comments: the spans of the comments, last first, and the place where
the next token starts. The number of rounds is bounded by the letters left. -/
def skip : Nat → List (Cursor × Cursor) → Cursor → List (Cursor × Cursor) × Cursor
  | 0, comments, c => (comments, c)
  | rounds + 1, comments, c =>
      let c := c.advance (runLength isSpace c.rest)
      match commentLength? c.rest with
      | some n =>
          let stop := c.advance n
          skip rounds ((c, stop) :: comments) stop
      | none => (comments, c)

end Scan

end ApiSurvey.Java
