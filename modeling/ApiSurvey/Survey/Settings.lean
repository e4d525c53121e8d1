import ApiSurvey.Shape.Name

/-!
# Settings of a survey

The environment supplies defaults, the command line overrides them.
-/

namespace ApiSurvey

/-- Environment variables by name. -/
abbrev Environment := List (String × String)

/-- A variable that is set and not empty. -/
def Environment.nonempty? (env : Environment) (name : String) : Option String :=
  (env.lookup name).filter (!·.isEmpty)

structure Settings where
  /-- The ending of source file names. -/
  extension : String := ".java"
  /-- A piece of text that the path of a scanned file must hold. -/
  pathMarker : String := "controller"
  /-- The directory in which an unlocated payload class is assumed. -/
  estimatedDir : String := "src/main/java/com/example/dto"
  /-- The endings of payload class names. -/
  suffixes : List String := Shape.defaultSuffixes
  /-- Where payload classes are looked for; by default where the survey takes place. -/
  searchRoot : Option String := none
  deriving DecidableEq, Repr, Inhabited

namespace Settings

def ofEnvironment (env : Environment) : Settings :=
  let defaults : Settings := {}
  { pathMarker := (env.nonempty? "RESTSCAN_PATH_MARKER").getD defaults.pathMarker
    estimatedDir := (env.nonempty? "RESTSCAN_ESTIMATED_DTO_DIR").getD defaults.estimatedDir }

/-- Settings that replace others where they are given. -/
structure Overrides where
  extension : Option String := none
  pathMarker : Option String := none
  estimatedDir : Option String := none
  suffixes : Option (List String) := none
  searchRoot : Option String := none
  deriving Repr, Inhabited

def override (s : Settings) (o : Overrides) : Settings :=
  { extension := o.extension.getD s.extension
    pathMarker := o.pathMarker.getD s.pathMarker
    estimatedDir := o.estimatedDir.getD s.estimatedDir
    suffixes := o.suffixes.getD s.suffixes
    searchRoot := o.searchRoot.or s.searchRoot }

def fileName (s : Settings) (className : String) : String :=
  className ++ s.extension

/-- The path at which an unlocated payload class is assumed. -/
def estimatedPath (s : Settings) (className : String) : String :=
  let dir := (s.estimatedDir.toList.reverse.dropWhile (· == '/')).reverse
  String.ofList dir ++ "/" ++ s.fileName className

end Settings

end ApiSurvey
