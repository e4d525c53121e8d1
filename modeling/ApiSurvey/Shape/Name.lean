import ApiSurvey.TypeExpr.Basic

/-!
# Names of data shapes

A data shape is a payload class, known by the ending of its name: `UserDto`, `LoginRequest`. The
names that a type expression mentions are collected in the order of their first mention, an
expression before its arguments.
-/

namespace ApiSurvey.Shape

/-- The endings of payload class names. -/
def defaultSuffixes : List String :=
  ["Dto", "DTO", "Req", "Res", "Request", "Response"]

/-- Whether a name has one of the endings; upper and lower case differ. -/
def isShapeName (suffixes : List String) (name : String) : Bool :=
  suffixes.any fun suffix ↦ suffix.toList.isSuffixOf name.toList

/-- Adds a name at the end of a list unless it is there already. -/
def insertNew (names : List String) (name : String) : List String :=
  if names.contains name then names else names ++ [name]

/-- Adds the payload names of a type expression to those found so far. -/
def collectNames (suffixes : List String) (expr : List Char) (found : List String) : List String :=
  let name := String.ofList (TypeExpr.className expr)
  let found := if isShapeName suffixes name then insertNew found name else found
  (TypeExpr.arguments expr).attach.foldl
    (fun found argument ↦ collectNames suffixes argument.1 found) found
termination_by expr.length
decreasing_by exact TypeExpr.length_lt_of_mem_arguments argument.2

/-- The payload names mentioned anywhere in a type expression, each once. -/
def mentionedNames (suffixes : List String) (expr : String) : List String :=
  collectNames suffixes expr.toList []

/-- The mentioned payload names that are not known yet. -/
def unknownNames (suffixes : List String) (known : List String) (expr : String) : List String :=
  (mentionedNames suffixes expr).filter (!known.contains ·)

/-- The payload names that some types mention and that are not known, each once. -/
def missingNames (suffixes known types : List String) : List String :=
  types.foldl (fun names type ↦ (unknownNames suffixes known type).foldl insertNew names) []

end ApiSurvey.Shape
