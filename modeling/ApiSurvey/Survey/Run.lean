import ApiSurvey.Catalog.Basic
import ApiSurvey.Route.Admission
import ApiSurvey.Shape.OfClass
import ApiSurvey.Shape.Source
import ApiSurvey.Survey.Placeholder

/-!
# Runs

A run surveys the files of a directory tree or of a list. Each file is surveyed on its own and adds
to the collection only when all of it succeeded; a file that fails adds nothing and stops nothing.
-/

namespace ApiSurvey

inductive Status where
  | processed
  | skipped
  | failed
  deriving DecidableEq, Repr, Inhabited

/-- What became of a file, with the number of route groups and new data shapes it gave. -/
structure Outcome where
  path : String
  status : Status
  controllers : Nat := 0
  shapes : Nat := 0
  message : String := ""
  deriving DecidableEq, Repr, Inhabited

structure Yield where
  groups : List RouteGroup := []
  shapes : List DataShape := []
  deriving Inhabited

namespace Survey

/-- The payload classes that a route group mentions and that are known neither to the collection
nor to the file so far. -/
def missingFor (l : Locator) (known : List String) (y : Yield) (group : RouteGroup) :
    List String :=
  Shape.missingNames l.settings.suffixes (known ++ y.shapes.map (·.className)) group.payloadTypes

/-- Adds what the `n`-th declaration yields. A route group brings placeholders for the payload
classes that are still missing. -/
def addDeclaration (t : FileTree) (l : Locator) (mishap? : Stage → Option Failure)
    (known : List String) (path package : String) (n : Nat) (y : Yield)
    (declaration : Role × ClassDecl) : Attempt Yield :=
  let (role, c) := declaration
  match role with
  | .dataShape => do
      Attempt.pass (mishap? (.extracting n))
      return { y with shapes := y.shapes ++ [DataShape.ofClass path c] }
  | .routable => do
      Attempt.pass (mishap? (.extracting n))
      let group ← Attempt.ofAdmission (RouteGroup.accept package c)
      Attempt.pass (mishap? (.resolving n))
      let added ← placeAll t l (fun name ↦ mishap? (.locating n name)) (missingFor l known y group)
      return { groups := y.groups ++ [group], shapes := y.shapes ++ added }

/-- Adds what declarations yield, the first of which is the `n`-th of its file. -/
def addDeclarations (t : FileTree) (l : Locator) (mishap? : Stage → Option Failure)
    (known : List String) (path package : String) (n : Nat) (y : Yield) :
    List (Role × ClassDecl) → Attempt Yield
  | [] => return y
  | declaration :: others => do
      let y ← addDeclaration t l mishap? known path package n y declaration
      addDeclarations t l mishap? known path package (n + 1) y others

/-- What the declarations of a file yield. -/
def yieldOfUnit (t : FileTree) (l : Locator) (mishap? : Stage → Option Failure)
    (known : List String) (path : String) (unit : SourceUnit) : Attempt Yield := do
  Attempt.pass (mishap? .classifying)
  addDeclarations t l mishap? known path unit.package 0 {}
    (surveyed l.settings.suffixes path unit.classes)

/-- What a file yields, when the classes `known` are known already. -/
def yieldOfFile (t : FileTree) (parser : Parser) (l : Locator) (mishaps : Mishaps)
    (known : List String) (path : String) : Attempt Yield := do
  let (_, unit) ← parser.unitOfFile t path
  Attempt.pass (mishaps path .reading)
  yieldOfUnit t l (mishaps path) known path unit

/-- Adds what a file yields to a collection, or nothing when it failed. -/
def absorb (c : Collection) (path : String) (result : Except Failure Yield) :
    Collection × Outcome :=
  match result with
  | .ok y =>
      let (next, added) := (y.groups.foldl Collection.addGroup c).addShapes y.shapes
      (next,
        { path := path, status := .processed, controllers := y.groups.length, shapes := added })
  | .error e => (c, { path := path, status := .failed, message := e.message })

def failureRecord (path : String) (e : Failure) : LogRecord :=
  if e.isForeseen then ⟨.warning, "pipeline", "Skipping " ++ path ++ ": " ++ e.message⟩
  else ⟨.error, "pipeline", "Unexpected error while extracting " ++ path⟩

/-- The state of a run between two files. -/
structure State where
  collection : Collection := {}
  outcomes : List Outcome := []
  log : List LogRecord := []
  deriving Inhabited

def surveyFile (t : FileTree) (parser : Parser) (l : Locator) (mishaps : Mishaps) (s : State)
    (path : String) : State :=
  let path := (Path.ofString path).toString
  let made := yieldOfFile t parser l mishaps s.collection.shapeNames path
  let (collection, outcome) := absorb s.collection path made.value
  let complaint := match made.value with
    | .ok _ => []
    | .error e => [failureRecord path e]
  { collection := collection
    outcomes := s.outcomes ++ [outcome]
    log := s.log ++ made.log ++ complaint }

def surveyFiles (t : FileTree) (parser : Parser) (l : Locator) (mishaps : Mishaps) (s : State)
    (paths : List String) : State :=
  paths.foldl (surveyFile t parser l mishaps) s

/-- Why a listed file is not surveyed; `none` when it is. -/
def refusal? (t : FileTree) (extension path : String) : Option String :=
  if !extension.toList.isSuffixOf path.toList then some ("not a " ++ extension ++ " file")
  else if !t.isFile path then some "file does not exist"
  else none

inductive Scope where
  /-- The marked source files below a directory. -/
  | directory (root : String)
  | files (paths : List String)
  deriving DecidableEq, Repr

/-- The scope given by an optional root and an optional list, exactly one of which must be there. -/
def Scope.choose (root : Option String) (files : Option (List String)) :
    Except ConfigurationError Scope :=
  match root, files with
  | some root, none => .ok (.directory root)
  | none, some files => .ok (.files files)
  | _, _ => .error .sourceChoice

def Scope.mode : Scope → String
  | .directory _ => "directory"
  | .files _ => "files"

/-- A list of files split into those surveyed, in order, and the outcomes and records of those
refused. -/
def sortOut (t : FileTree) (extension : String) (paths : List String) : List String × State :=
  let refused := paths.filterMap fun p ↦ (refusal? t extension p).map (p, ·)
  (paths.filter fun p ↦ (refusal? t extension p).isNone,
    { outcomes := refused.map fun (p, reason) ↦
        { path := p, status := .skipped, message := reason }
      log := refused.map fun (p, reason) ↦
        ⟨.warning, "pipeline", "Skipping " ++ p ++ ": " ++ reason⟩ })

/-- The files of a scope and the state in which the first is surveyed. -/
def begin (t : FileTree) (settings : Settings) : Scope → List String × State
  | .directory root =>
      let paths := t.scan settings.extension settings.pathMarker root
      let message := "Found " ++ toString paths.length ++ " candidate files under " ++
        (Path.ofString root).toString
      (paths, { log := [⟨.info, "pipeline", message⟩] })
  | .files paths => sortOut t settings.extension paths

/-- Where payload classes are looked for: where the settings say, else where the survey takes
place. -/
def searchRoot (t : FileTree) (settings : Settings) (scope : Scope) : String :=
  let root := match settings.searchRoot.filter (!·.isEmpty), scope with
    | some root, _ => root
    | none, .directory root => root
    | none, .files _ => t.currentPath
  (Path.ofString root).toString

/-- What goes wrong in a run by itself: no payload class can be located when the files below the
search root cannot be listed. -/
def troubles (t : FileTree) (settings : Settings) (scope : Scope) : Mishaps :=
  fun _ stage ↦
    match stage with
    | .locating _ _ => Locator.listing? t (searchRoot t settings scope)
    | _ => none

/-- The locator of a run. The files do not change during a run, so they are listed at its start. -/
def locator (t : FileTree) (settings : Settings) (scope : Scope) : Locator :=
  Locator.prepare t { searchRoot := some (searchRoot t settings scope), settings := settings }

end Survey

structure Run where
  mode : String
  catalog : Catalog
  outcomes : List Outcome
  log : List LogRecord
  deriving Inhabited

namespace Run

def count (r : Run) (status : Status) : Nat :=
  (r.outcomes.filter (·.status == status)).length

def tally (r : Run) : String :=
  "processed=" ++ toString (r.count .processed) ++ ", skipped=" ++ toString (r.count .skipped) ++
    ", failed=" ++ toString (r.count .failed)

def totals (r : Run) : String :=
  toString r.catalog.totalMethods ++ " methods in " ++ toString r.catalog.controllers.length ++
    " controllers, " ++ toString r.catalog.totalShapes ++ " data shapes"

def closing (r : Run) : List LogRecord :=
  let warning : LogRecord :=
    ⟨.warning, "pipeline", "No files were processed; the result is empty"⟩
  (if r.count .processed == 0 then [warning] else []) ++
    [⟨.info, "pipeline", "Extracted " ++ r.totals ++ " (" ++ r.tally ++ ")"⟩]

/-- A run in which mishaps may stop the survey of a file at any stage. -/
def ofScope (t : FileTree) (parser : Parser) (settings : Settings) (extractedAt : String)
    (scope : Survey.Scope) (mishaps : Mishaps) : Run :=
  let (paths, start) := Survey.begin t settings scope
  let finish := Survey.surveyFiles t parser (Survey.locator t settings scope) mishaps start paths
  let run : Run :=
    { mode := scope.mode
      catalog := finish.collection.toCatalog extractedAt
      outcomes := finish.outcomes
      log := finish.log }
  { run with log := run.log ++ run.closing }

/-- A run in which nothing goes wrong but what its own files and settings cause. -/
def plain (t : FileTree) (parser : Parser) (settings : Settings) (extractedAt : String)
    (scope : Survey.Scope) : Run :=
  .ofScope t parser settings extractedAt scope (Survey.troubles t settings scope)

end Run

end ApiSurvey
