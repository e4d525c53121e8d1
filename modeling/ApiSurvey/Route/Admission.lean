import ApiSurvey.Json.Decoder
import ApiSurvey.Route.OfClass

/-!
# Records that a catalog admits

A declaration says by texts which verb a handler answers and where a parameter comes from. A record
is admitted when these texts are among those that a catalog can hold, in which case it is the record
that is read off the declaration.
-/

namespace ApiSurvey

/-- The verbs that the arguments of a mapping may name. -/
def knownVerbs : List String :=
  ["GET", "POST", "PUT", "PATCH", "DELETE", "OPTIONS", "HEAD", "TRACE"]

/-- The text of the verb that an argument names; a word that names none counts as `GET`. -/
def Verb.textOfArgument (a : Argument) : String :=
  if knownVerbs.contains (wordOfArgument a) then wordOfArgument a else "GET"

/-- The text of the verb of a mapping marker. The name of a fixed-verb marker is taken at its
word. -/
def Verb.textOfMapping (mapping : Option Marker) : String :=
  match mapping with
  | none => "GET"
  | some m =>
      if m.kind == .verbMapping then wordOfName m.name
      else
        match m.argument? "method" with
        | none => "GET"
        | some a =>
            if a.isArray then
              match a.items with
              | [] => "GET"
              | item :: _ => textOfArgument item
            else textOfArgument a

/-- The kinds of marker that say where a parameter comes from, the strongest first. -/
def Location.byKind : List (MarkerKind × String) :=
  [(.requestBody, "body"), (.pathVariable, "path"), (.requestHeader, "header")]

/-- The text of the location of a parameter. -/
def Location.textOfMarkers (markers : List Marker) : String :=
  ((byKind.find? fun entry ↦ Marker.hasKind entry.1 markers).map (·.2)).getD "query"

def Parameter.accept (p : ParamDecl) : Except DecodeError Parameter := do
  let location ← Decoder.choice "location" Location.ofString?
    (.string (Location.textOfMarkers p.markers))
  return { Parameter.ofDecl p with location := location }

def Handler.accept (m : MethodDecl) : Except DecodeError Handler := do
  let parameters ← m.parameters.mapM Parameter.accept
  let verb ← Decoder.choice "verb" Verb.ofString? (.string (Verb.textOfMapping m.mapping?))
  return { Handler.ofDecl m with verb := verb, parameters := parameters }

/-- The route group of a class, unless one of its handlers is not admitted. -/
def RouteGroup.accept (package : String) (c : ClassDecl) : Except DecodeError RouteGroup := do
  let handlers ← (c.methods.filter MethodDecl.isHandler).mapM Handler.accept
  return { RouteGroup.ofClass package c with handlers := handlers }

end ApiSurvey
