import ApiSurvey.Text.Split

/-!
# Paths

A path in normal form: repeated and trailing slashes and the component `.` are dropped, `..` is
kept because a link may stand before it. Exactly two leading slashes form a root of their own.
-/

namespace ApiSurvey

/-- A path: its root, which is empty for a relative path, and its components. -/
structure Path where
  root : String := ""
  parts : List String := []
  deriving DecidableEq, Repr, Inhabited

namespace Path

/-- The components of a path text: what stands between slashes, empty ones and `.` left out. -/
def components (s : String) : List String :=
  ((Text.pieces '/' s.toList).map String.ofList).filter fun part ↦ part != "" && part != "."

def rootOf (s : String) : String :=
  match (s.toList.takeWhile (· == '/')).length with
  | 0 => ""
  | 2 => "//"
  | _ => "/"

/-- The normal form of a path text. -/
def ofString (s : String) : Path :=
  { root := rootOf s, parts := components s }

/-- The text of a path; the empty relative path is `.`. -/
def toString (p : Path) : String :=
  if p.root.isEmpty && p.parts.isEmpty then "."
  else p.root ++ "/".intercalate p.parts

/-- The last component, empty when there is none. -/
def name (p : Path) : String :=
  p.parts.getLastD ""

/-- A file name without its last extension; a name that starts or ends with its last dot is all
stem. -/
def stemOf (name : String) : String :=
  let cs := name.toList
  let before := Text.beforeLast '.' cs
  let after := Text.afterLast '.' cs
  if before.isEmpty || after.isEmpty then name else String.ofList before

def stem (p : Path) : String :=
  stemOf p.name

def parent (p : Path) : Path :=
  { p with parts := p.parts.dropLast }

/-- A path text below another, as the texts are joined: no normal form is taken. -/
def join (base name : String) : String :=
  match base.toList.getLast? with
  | none => name
  | some '/' => base ++ name
  | some _ => base ++ "/" ++ name

end Path

end ApiSurvey
