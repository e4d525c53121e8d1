import ApiSurvey.Java.Parse
import ApiSurvey.Java.Reader
import ApiSurvey.Survey.Attempt

/-!
# Reading a source file

A file is read, its tree is made, and a tree with errors is refused with the line of the first one.
-/

namespace ApiSurvey

/-- A parser of source files. What it does depends on the path and the content of a file alone. -/
structure Parser where
  /-- The kind and text of a breakdown that happens before the file is even read. -/
  breakdown? : String → Option (String × String) := fun _ ↦ none
  tree : String → ByteArray → Java.Node := fun _ source ↦ Java.parse source

instance : Inhabited Parser := ⟨{}⟩

/-- Refuses a tree that is marked as holding an error. -/
def soundTree (origin : String) (tree : Java.Node)
    (marked : Java.Node → Bool := Java.Node.hasError) : Except Failure Java.Node :=
  if marked tree then .error (.syntaxError origin (tree.firstErrorLine? marked)) else .ok tree

/-- The declarations of a source that is not a file. -/
def unitOfSource (origin : String) (source : ByteArray) : Except Failure SourceUnit :=
  (soundTree origin (Java.parse source)).map (Java.readUnit source)

/-- Reads the file at a path that is in normal form: its size and its declarations. -/
def Parser.unitOfFile (parser : Parser) (t : FileTree) (path : String) :
    Attempt (Nat × SourceUnit) :=
  match parser.breakdown? path with
  | some (kind, text) => ⟨.error (.breakdown kind text), []⟩
  | none =>
      match t.read path with
      | .error e => ⟨.error (.unreadable path e), []⟩
      | .ok source =>
          let message := "Parsing " ++ path ++ " (" ++ toString source.size ++ " bytes)"
          let unit := (soundTree path (parser.tree path source)).map fun tree ↦
            (source.size, Java.readUnit source tree)
          ⟨unit, [⟨.debug, "java.parser", message⟩]⟩

end ApiSurvey
