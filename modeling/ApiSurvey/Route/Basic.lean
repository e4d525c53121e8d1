import ApiSurvey.Json.Basic

/-!
# Routes

Handlers answer requests of one verb on one path; a route group is the set of handlers of one
class, under a common path.
-/

namespace ApiSurvey

inductive Verb where
  | get
  | post
  | put
  | patch
  | delete
  | options
  | head
  | trace
  deriving DecidableEq, Repr, Inhabited

namespace Verb

def all : List Verb :=
  [.get, .post, .put, .patch, .delete, .options, .head, .trace]

/-- The verb in capitals, as it is sent. -/
def toString : Verb → String
  | .get => "GET"
  | .post => "POST"
  | .put => "PUT"
  | .patch => "PATCH"
  | .delete => "DELETE"
  | .options => "OPTIONS"
  | .head => "HEAD"
  | .trace => "TRACE"

/-- The verb written in capitals. -/
def ofString? (s : String) : Option Verb :=
  all.find? fun v ↦ v.toString == s

end Verb

/-- Where the value of a parameter is taken from. -/
inductive Location where
  | body
  | path
  | header
  | query
  deriving DecidableEq, Repr, Inhabited

namespace Location

def all : List Location :=
  [.body, .path, .header, .query]

def toString : Location → String
  | .body => "body"
  | .path => "path"
  | .header => "header"
  | .query => "query"

def ofString? (s : String) : Option Location :=
  all.find? fun l ↦ l.toString == s

end Location

/-- Unrecognised markers, by name and in the order of their declaration. -/
abbrev Annotations := List (String × Json)

structure Parameter where
  name : String
  type : String
  location : Location := .query
  required : Bool := false
  validations : List String := []
  deriving Repr, BEq, Inhabited

/-- A method that answers requests. -/
structure Handler where
  methodName : String
  verb : Verb := .get
  path : String := ""
  parameters : List Parameter := []
  returnType : String := ""
  exceptions : List String := []
  line : Int := 0
  annotations : Annotations := []
  deriving Repr, BEq, Inhabited

/-- The handlers of one class, under a common path. -/
structure RouteGroup where
  name : String
  package : String := ""
  path : String := ""
  handlers : List Handler := []
  annotations : Annotations := []
  deriving Repr, BEq, Inhabited

namespace Handler

/-- The types through which a handler exchanges payloads: its body parameters, then what it
returns. -/
def payloadTypes (h : Handler) : List String :=
  (h.parameters.filter (·.location == .body)).map (·.type) ++
    if h.returnType.isEmpty then [] else [h.returnType]

end Handler

def RouteGroup.payloadTypes (g : RouteGroup) : List String :=
  g.handlers.flatMap Handler.payloadTypes

/-- A path below another, joined by exactly one slash; the empty path on both sides is the root. -/
def joinRoute (base path : String) : String :=
  if base.isEmpty then if path.isEmpty then "/" else path
  else if path.isEmpty then base
  else
    let before := (base.toList.reverse.dropWhile (· == '/')).reverse
    let after := path.toList.dropWhile (· == '/')
    String.ofList (before ++ ['/'] ++ after)

end ApiSurvey
