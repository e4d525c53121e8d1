import ApiSurvey.FileTree.Walk
import ApiSurvey.Survey.Failure
import ApiSurvey.Survey.Log

/-!
# Locating payload classes

A payload class is looked for by the name of its file. The files below the search root are listed
once, when the first class is looked for; whether the file is still there is asked each time. A class
that is not found is assumed in the estimated directory. The files cannot be listed, and no class be
located, when the text of the search root is too long to be looked up.
-/

namespace ApiSurvey

/-- A locator: where it looks, and the files it listed. -/
structure Locator where
  searchRoot : Option String
  settings : Settings
  /-- The first path for each file name, once listed. -/
  files : Option (List (String × String)) := none
  deriving Inhabited

namespace Locator

/-- The files below the search root; none when there is no such directory. -/
def listFiles (t : FileTree) (l : Locator) : List (String × String) :=
  match l.searchRoot with
  | some root => if t.isDirectory root then t.index l.settings.extension root else []
  | none => []

/-- What goes wrong when the files below a search root are to be listed. -/
def listing? (t : FileTree) (root : String) : Option Failure :=
  if t.isOverlong root then some (.breakdown "OSError" (PathError.nameTooLong.report root))
  else none

/-- What goes wrong when a class is looked for; nothing once the files are listed. -/
def trouble? (t : FileTree) (l : Locator) : Option Failure :=
  if l.files.isSome then none else l.searchRoot.bind (listing? t)

/-- The locator with its files listed; a list made earlier is kept. -/
def prepare (t : FileTree) (l : Locator) : Locator :=
  { l with files := some (l.files.getD (l.listFiles t)) }

/-- The path of a class's file, among the files listed. -/
def found? (t : FileTree) (l : Locator) (className : String) : Option String :=
  ((l.files.getD []).lookup (l.settings.fileName className)).filter t.isFile

/-- The path of a class: that of its file, or an estimate, which is reported. -/
def pathOf (t : FileTree) (l : Locator) (className : String) : String × List LogRecord :=
  match l.found? t className with
  | some path => (path, [])
  | none =>
      let estimate := l.settings.estimatedPath className
      let message := l.settings.fileName className ++ " not found under " ++
        l.searchRoot.getD "None" ++ "; using " ++ estimate
      (estimate, [⟨.debug, "references", message⟩])

/-- Looks a class up, listing the files first if that was not done before. -/
def locate (t : FileTree) (l : Locator) (className : String) :
    Except Failure (String × Locator) :=
  match l.trouble? t with
  | some e => .error e
  | none =>
      let l := l.prepare t
      .ok ((l.pathOf t className).1, l)

end Locator

end ApiSurvey
