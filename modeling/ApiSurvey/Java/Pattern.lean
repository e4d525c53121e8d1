import ApiSurvey.Java.Letter

/-!
# Patterns of tokens

Regular patterns over letters, matched by what remains to be matched after each letter. The length
of a match is that of the longest one.
-/

namespace ApiSurvey.Java

inductive Pattern where
  | never
  | done
  | one (inClass : Char → Bool)
  | seq (first second : Pattern)
  | alt (first second : Pattern)
  | many (pattern : Pattern)

namespace Pattern

/-- Whether the empty text matches. -/
def nullable : Pattern → Bool
  | .never => false
  | .done => true
  | .one _ => false
  | .seq a b => a.nullable && b.nullable
  | .alt a b => a.nullable || b.nullable
  | .many _ => true

/-- A sequence, without parts that cannot change it. -/
def andThen : Pattern → Pattern → Pattern
  | .never, _ => .never
  | .done, b => b
  | _, .never => .never
  | a, b => .seq a b

/-- An alternative, without parts that cannot change it. -/
def orElse : Pattern → Pattern → Pattern
  | .never, b => b
  | a, .never => a
  | a, b => .alt a b

/-- What remains to be matched after a character. -/
def after (c : Char) : Pattern → Pattern
  | .never => .never
  | .done => .never
  | .one inClass => if inClass c then .done else .never
  | .seq a b =>
      let rest := (a.after c).andThen b
      if a.nullable then rest.orElse (b.after c) else rest
  | .alt a b => (a.after c).orElse (b.after c)
  | .many a => (a.after c).andThen (.many a)

/-- Whether no text at all matches, seen without looking inside. -/
def isNever : Pattern → Bool
  | .never => true
  | _ => false

/-- The length of the longest match at the start, when `taken` letters are matched already and the
longest match so far is `best`. -/
def longestFrom (taken : Nat) (best : Option Nat) (p : Pattern) : List Letter → Option Nat
  | [] => if p.nullable then some taken else best
  | l :: ls =>
      if p.isNever then best
      else longestFrom (taken + 1) (if p.nullable then some taken else best) (p.after l.char) ls

def longest (p : Pattern) (ls : List Letter) : Option Nat :=
  longestFrom 0 none p ls

def sequence (ps : List Pattern) : Pattern :=
  ps.foldr .seq .done

def anyOf (ps : List Pattern) : Pattern :=
  ps.foldr .alt .never

def oneOf (chars : String) : Pattern :=
  .one fun c ↦ chars.toList.contains c

def optional (p : Pattern) : Pattern :=
  .alt .done p

def repeated (p : Pattern) : Pattern :=
  .seq p (.many p)

/-- One or more repetitions with separators between them. -/
def separated (p sep : Pattern) : Pattern :=
  .seq p (.many (.seq sep p))

end Pattern

end ApiSurvey.Java
