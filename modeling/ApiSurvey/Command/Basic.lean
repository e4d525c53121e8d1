import ApiSurvey.Catalog.Document
import ApiSurvey.Command.Arguments
import ApiSurvey.Command.Table
import ApiSurvey.Survey.Run

/-!
# The command

What the command prints and writes, as a function of its arguments, its environment and the files
it finds.
-/

namespace ApiSurvey.Command

inductive Refusal where
  /-- Not exactly one of a directory and a list of files was given. -/
  | sourceChoice
  | notDirectory (path : String)
  deriving DecidableEq, Repr

def Refusal.message : Refusal → String
  | .sourceChoice => "Pass either --src or one or more --file options"
  | .notDirectory path => "Source path is not a directory: " ++ path

inductive Ending where
  /-- The arguments are no command. -/
  | misuse
  | refused (why : Refusal)
  /-- A path cannot be used: no home directory for it, or nothing can be written there. -/
  | broken
  /-- The lines printed, whether nothing was surveyed, the file written and what the run reports. -/
  | done (output : List String) (warned : Bool) (written : Option (String × String))
      (log : List LogRecord)

def Ending.code : Ending → Nat
  | .misuse => 2
  | .refused _ => 2
  | .broken => 1
  | .done .. => 0

/-- The surroundings of a command. -/
structure Surroundings where
  environment : Environment := []
  files : FileTree
  /-- The directory that a leading `~` stands for. -/
  home : String
  time : String
  parser : Parser := {}

/-- A path with a leading `~` replaced by the home directory; there is no other user's home. -/
def expandHome (home : String) (path : String) : Option String :=
  let p := Path.ofString path
  match p.root, p.parts with
  | "", "~" :: rest =>
      let base := Path.ofString home
      some ({ base with parts := base.parts ++ rest } : Path).toString
  | "", first :: _ => if first.toList.head? == some '~' then none else some p.toString
  | _, _ => some p.toString

def scopeOf (s : Surroundings) (o : Options) : Except Ending Survey.Scope :=
  match o.src, o.files with
  | some src, [] =>
      match expandHome s.home src with
      | none => .error .broken
      | some root =>
          if s.files.isOverlong (Path.ofString root).toString then .error .broken
          else if s.files.isDirectory root then .ok (.directory root)
          else .error (.refused (.notDirectory root))
  | none, file :: files => .ok (.files (file :: files))
  | _, _ => .error (.refused .sourceChoice)

def settingsOf (s : Surroundings) (o : Options) : Settings :=
  (Settings.ofEnvironment s.environment).override
    { searchRoot := o.searchRoot, pathMarker := o.pathMarker }

def routeTable (c : Catalog) : Table :=
  { columns := [("METHOD", .left), ("PATH", .left), ("HANDLER", .left), ("LINE", .right)]
    rows := c.controllers.flatMap fun g ↦ g.handlers.map fun h ↦
      [h.verb.toString, joinRoute g.path h.path, g.name ++ "." ++ h.methodName,
       toString h.line] }

/-- The table of data shapes, by class name. -/
def shapeTable (c : Catalog) : Table :=
  { columns := [("CLASS", .left), ("FIELDS", .right), ("FILE", .left)]
    rows := (c.shapes.mergeSort fun a b ↦ nameLE a.className b.className).map fun s ↦
      [s.className, toString s.fields.length, s.filePath] }

/-- What a run of the document command prints and writes. -/
def documentEnding (s : Surroundings) (o : Options) (r : Run) (warned : Bool) : Ending :=
  let text := r.catalog.render 2
  match o.out.filter (!·.isEmpty) with
  | none => .done [text] warned none r.log
  | some out =>
      match expandHome s.home out with
      | none => .broken
      | some path =>
          if (s.files.write path text.toUTF8).isNone then .broken
          else
            .done
              ["Extraction completed", "Found " ++ r.totals, "Files: " ++ r.tally,
               "Output written to: " ++ path]
              warned (some (path, text)) r.log

def perform (s : Surroundings) (action : Action) (o : Options) : Ending :=
  match scopeOf s o with
  | .error ending => ending
  | .ok scope =>
      let r := Run.plain s.files s.parser (settingsOf s o) s.time scope
      let warned := r.count .processed == 0
      match action with
      | .extract => documentEnding s o r warned
      | .endpoints =>
          .done (("Routes: " ++ toString r.catalog.totalMethods) :: (routeTable r.catalog).lines)
            warned none r.log
      | .shapes =>
          .done
            (("Data shapes: " ++ toString r.catalog.totalShapes) :: (shapeTable r.catalog).lines)
            warned none r.log

def run (s : Surroundings) (args : List String) : Ending :=
  match readCommand args with
  | none => .misuse
  | some (action, o) => perform s action o

end ApiSurvey.Command
