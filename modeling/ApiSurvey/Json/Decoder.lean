import ApiSurvey.Json.Basic

/-!
# Decoding document values

A field is looked up under its name in the document and then under a second name; an absent field
takes its default or is an error. Fields that nobody asks for are ignored.
-/

namespace ApiSurvey

/-- Why a value does not fit. -/
inductive DecodeError where
  /-- A field without a default is absent. -/
  | missing (field : String)
  /-- The value is of another sort than expected. -/
  | unfit (expected : String)
  deriving DecidableEq, Repr

def DecodeError.message : DecodeError → String
  | .missing field => "no " ++ field
  | .unfit expected => "not a " ++ expected

abbrev Decoder (α : Type) := Json → Except DecodeError α

namespace Decoder

def string : Decoder String
  | .string s => .ok s
  | _ => .error (.unfit "text")

def bool : Decoder Bool
  | .bool b => .ok b
  | _ => .error (.unfit "truth value")

def int : Decoder Int
  | .number n => .ok n
  | _ => .error (.unfit "number")

/-- An array, item by item. -/
def list {α : Type} (item : Decoder α) : Decoder (List α)
  | .array items => items.mapM item
  | _ => .error (.unfit "array")

/-- The fields of an object, values as they are. -/
def entries : Decoder (List (String × Json))
  | .object fields => .ok fields
  | _ => .error (.unfit "object")

/-- A text out of a closed set. -/
def choice {α : Type} (expected : String) (ofString? : String → Option α) : Decoder α
  | .string s =>
      match ofString? s with
      | some a => .ok a
      | none => .error (.unfit expected)
  | _ => .error (.unfit expected)

/-- The value under the first of two names that is there. -/
def lookup? (name second : String) (fs : List (String × Json)) : Option Json :=
  (fs.lookup name).or (fs.lookup second)

def need {α : Type} (name second : String) (d : Decoder α) (fs : List (String × Json)) :
    Except DecodeError α :=
  match lookup? name second fs with
  | some value => d value
  | none => .error (.missing name)

def withDefault {α : Type} (name second : String) (d : Decoder α) (default : α)
    (fs : List (String × Json)) : Except DecodeError α :=
  match lookup? name second fs with
  | some value => d value
  | none => .ok default

end Decoder

end ApiSurvey
