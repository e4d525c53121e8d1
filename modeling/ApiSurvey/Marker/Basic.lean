import ApiSurvey.Json.Basic

/-!
# Markers

A marker is an annotation of a declaration. Markers are classified by their simple name, once; the
rest of the program asks only for kinds. What a marker says is in its arguments, of which string
literals and arrays of them can be read.
-/

namespace ApiSurvey

/-- What a marker means to the survey. -/
inductive MarkerKind where
  /-- The class handles requests. -/
  | controller
  /-- The method handles requests of one fixed verb. -/
  | verbMapping
  /-- The class or method handles requests of the verb given in the arguments. -/
  | requestMapping
  | requestBody
  | pathVariable
  | requestHeader
  | requestParam
  | valid
  /-- A constraint that also makes the field required. -/
  | requiredConstraint
  /-- Makes the field required without being a constraint. -/
  | required
  | constraint
  /-- Carries a description of a field. -/
  | schema
  /-- Carries a description of a field, in the older form. -/
  | apiModelProperty
  | other
  deriving DecidableEq, Repr, Inhabited

namespace MarkerKind

/-- The recognised simple names. -/
def byName : List (String × MarkerKind) :=
  [("RestController", .controller), ("Controller", .controller),
   ("GetMapping", .verbMapping), ("PostMapping", .verbMapping), ("PutMapping", .verbMapping),
   ("DeleteMapping", .verbMapping), ("PatchMapping", .verbMapping),
   ("RequestMapping", .requestMapping), ("RequestBody", .requestBody),
   ("PathVariable", .pathVariable), ("RequestHeader", .requestHeader),
   ("RequestParam", .requestParam), ("Valid", .valid),
   ("NotNull", .requiredConstraint), ("NotBlank", .requiredConstraint),
   ("NotEmpty", .requiredConstraint), ("Required", .required),
   ("Size", .constraint), ("Min", .constraint), ("Max", .constraint), ("Email", .constraint),
   ("Pattern", .constraint), ("DecimalMin", .constraint), ("DecimalMax", .constraint),
   ("Digits", .constraint), ("Future", .constraint), ("Past", .constraint),
   ("AssertTrue", .constraint), ("AssertFalse", .constraint),
   ("Schema", .schema), ("ApiModelProperty", .apiModelProperty)]

/-- The kind of the marker with a simple name. -/
def ofName (name : String) : MarkerKind :=
  (byName.lookup name).getD .other

/-- Kinds that make a method a handler. -/
def isMapping : MarkerKind → Bool
  | .verbMapping | .requestMapping => true
  | _ => false

/-- Kinds that say where a parameter comes from. -/
def isBinding : MarkerKind → Bool
  | .requestBody | .pathVariable | .requestHeader | .requestParam => true
  | _ => false

/-- Kinds that constrain a value. -/
def isValidation : MarkerKind → Bool
  | .valid | .requiredConstraint | .constraint => true
  | _ => false

/-- Kinds that make a field required. -/
def isRequiring : MarkerKind → Bool
  | .requiredConstraint | .required => true
  | _ => false

end MarkerKind

structure Argument where
  text : String
  string : Option String := none
  items : List Argument := []
  /-- Whether the argument is an array, whatever its entries. -/
  isArray : Bool := false
  deriving Repr, Inhabited

namespace Argument

/-- The literal, or the first literal of an array. -/
def firstString (a : Argument) : Option String :=
  if a.isArray then a.items.findSome? (·.string) else a.string

mutual

/-- The argument in a document: arrays entry by entry, literals by value, all else by source
text. -/
def toJson : Argument → Json
  | ⟨text, string, items, isArray⟩ =>
      if isArray then .array (toJsonList items) else .string (string.getD text)

/-- The entries of an array in a document. -/
def toJsonList : List Argument → List Json
  | [] => []
  | item :: items => toJson item :: toJsonList items

end

end Argument

/-- A marker: its simple name and its arguments by key. -/
structure Marker where
  name : String
  /-- A single argument without a key stands under `value`. -/
  arguments : List (String × Argument) := []
  deriving Repr, Inhabited

namespace Marker

/-- The kind of a marker depends on its name alone. -/
def kind (m : Marker) : MarkerKind :=
  .ofName m.name

def argument? (m : Marker) (key : String) : Option Argument :=
  m.arguments.lookup key

/-- The first literal found under the keys, tried in order; empty when there is none. -/
def stringAt (m : Marker) (keys : List String) : String :=
  (keys.findSome? fun key ↦ (m.argument? key).bind Argument.firstString).getD ""

def metadata (m : Marker) : List (String × Json) :=
  m.arguments.map fun (key, a) ↦ (key, a.toJson)

def firstOf (test : MarkerKind → Bool) (markers : List Marker) : Option Marker :=
  markers.find? fun m ↦ test m.kind

def hasKind (kind : MarkerKind) (markers : List Marker) : Bool :=
  markers.any fun m ↦ m.kind == kind

/-- Adds the entry of an unrecognised marker unless its name has one. -/
def addUnrecognized (entries : List (String × Json)) (m : Marker) : List (String × Json) :=
  if m.kind == .other && (entries.lookup m.name).isNone then
    entries ++ [(m.name, .object m.metadata)]
  else entries

/-- The unrecognised markers with their arguments, by name; the first of a name counts. -/
def unrecognized (markers : List Marker) : List (String × Json) :=
  markers.foldl addUnrecognized []

end Marker

end ApiSurvey
