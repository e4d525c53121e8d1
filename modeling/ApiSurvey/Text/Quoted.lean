import ApiSurvey.Text.Printable

/-!
# Quoted text

A text in quotes, on one line and in visible characters: single quotes are used unless the text
holds one and no double quote; backslash and the quote in use are escaped, the common controls have
a letter, and every other character without a visible form is written by its code point.
-/

namespace ApiSurvey.Text

/-- The lower-case hexadecimal digits of `n`, `width` of them. -/
def hexDigits (width n : Nat) : List Char :=
  match width with
  | 0 => []
  | w + 1 => hexDigits w (n / 16) ++ [Nat.digitChar (n % 16)]

/-- How a character is written between quotes `quote`. -/
def quotedChar (quote c : Char) : List Char :=
  if c == quote || c == '\\' then ['\\', c]
  else if c == '\n' then ['\\', 'n']
  else if c == '\r' then ['\\', 'r']
  else if c == '\t' then ['\\', 't']
  else if isPrintable c then [c]
  else
    let n := c.toNat
    if n < 0x100 then '\\' :: 'x' :: hexDigits 2 n
    else if n < 0x10000 then '\\' :: 'u' :: hexDigits 4 n
    else '\\' :: 'U' :: hexDigits 8 n

def singleQuote : Char := '\x27'

def quoted (s : String) : String :=
  let cs := s.toList
  let quote := if cs.contains singleQuote && !cs.contains '"' then '"' else singleQuote
  String.ofList (quote :: cs.flatMap (quotedChar quote) ++ [quote])

end ApiSurvey.Text
