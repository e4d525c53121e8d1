import ApiSurvey.Declaration
import ApiSurvey.Route.Basic
import ApiSurvey.Text.Blank
import ApiSurvey.Text.Capital
import ApiSurvey.Text.Split

/-!
# Routes of a class

How a class declaration is read as a route group: which methods are handlers, which verb and path
they answer and where their parameters come from.
-/

namespace ApiSurvey

/-- What a fixed-verb marker calls its verb: its name without the ending `Mapping`, in capitals. -/
def Verb.wordOfName (name : String) : String :=
  Text.capitals (String.ofList (name.toList.take (name.length - "Mapping".length)))

/-- What an argument calls a verb: the last part of its text, in capitals. -/
def Verb.wordOfArgument (a : Argument) : String :=
  Text.capitals (Text.trimBlanks (Text.lastPart '.' a.text))

/-- The verb that a fixed-verb marker names. -/
def Verb.ofMappingName (name : String) : Verb :=
  (Verb.ofString? (Verb.wordOfName name)).getD .get

/-- The verb that an argument names, in whatever case. -/
def Verb.ofArgument (a : Argument) : Verb :=
  (Verb.ofString? (Verb.wordOfArgument a)).getD .get

/-- The verb of a mapping marker. Of several verbs in an array the first counts; without a usable
one the verb is `GET`. -/
def Verb.ofMapping (mapping : Option Marker) : Verb :=
  match mapping with
  | none => .get
  | some m =>
      if m.kind == .verbMapping then Verb.ofMappingName m.name
      else
        match m.argument? "method" with
        | none => .get
        | some a =>
            if a.isArray then
              match a.items with
              | [] => .get
              | item :: _ => Verb.ofArgument item
            else Verb.ofArgument a

/-- The path of a mapping marker, from `value` or else from `path`. -/
def mappingPath (mapping : Option Marker) : String :=
  match mapping with
  | none => ""
  | some m => m.stringAt ["value", "path"]

/-- The location of a parameter: body before path before header, and query when none is named. -/
def Location.ofMarkers (markers : List Marker) : Location :=
  if Marker.hasKind .requestBody markers then .body
  else if Marker.hasKind .pathVariable markers then .path
  else if Marker.hasKind .requestHeader markers then .header
  else .query

def Parameter.ofDecl (p : ParamDecl) : Parameter :=
  { name := p.name
    type := p.type
    location := .ofMarkers p.markers
    required := p.markers.any fun m ↦ m.kind == .requestBody || m.kind == .pathVariable
    validations :=
      (p.markers.filter fun m ↦ m.kind.isBinding || m.kind.isValidation).map (·.name) }

/-- The marker that makes a method a handler. -/
def MethodDecl.mapping? (m : MethodDecl) : Option Marker :=
  Marker.firstOf MarkerKind.isMapping m.markers

/-- Whether a method answers requests. -/
def MethodDecl.isHandler (m : MethodDecl) : Bool :=
  m.mapping?.isSome

def Handler.ofDecl (m : MethodDecl) : Handler :=
  { methodName := m.name
    verb := .ofMapping m.mapping?
    path := mappingPath m.mapping?
    parameters := m.parameters.map Parameter.ofDecl
    returnType := m.returnType
    exceptions := m.throws
    line := m.line
    annotations := Marker.unrecognized m.markers }

def RouteGroup.ofClass (package : String) (c : ClassDecl) : RouteGroup :=
  { name := c.name
    package := package
    path := mappingPath (Marker.firstOf (· == .requestMapping) c.markers)
    handlers := (c.methods.filter MethodDecl.isHandler).map Handler.ofDecl
    annotations := Marker.unrecognized c.markers }

end ApiSurvey
