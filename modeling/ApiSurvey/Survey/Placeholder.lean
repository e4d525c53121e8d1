import ApiSurvey.Shape.Basic
import ApiSurvey.Shape.Name
import ApiSurvey.Survey.Locator
import ApiSurvey.Survey.Source

/-!
# Placeholders

A payload class that handlers mention and that is not known yet is represented by a data shape
without fields.
-/

namespace ApiSurvey.Survey

/-- A data shape without fields for a class, at the path where it is located. -/
def placeholder (t : FileTree) (l : Locator) (className : String) : Logged DataShape :=
  let (path, log) := l.pathOf t className
  ⟨{ className := className, filePath := path }, log⟩

/-- The placeholders for the missing payload classes of some types. -/
def placeholders (t : FileTree) (l : Locator) (known types : List String) :
    Logged (List DataShape) :=
  let made := (Shape.missingNames l.settings.suffixes known types).map (placeholder t l)
  ⟨made.map (·.value), made.flatMap (·.log)⟩

/-- The placeholders for some classes, located one after the other. -/
def placeAll (t : FileTree) (l : Locator) (mishap? : String → Option Failure) :
    List String → Attempt (List DataShape)
  | [] => return []
  | className :: others => do
      Attempt.pass (mishap? className)
      let shape ← Attempt.ofLogged (placeholder t l className)
      let shapes ← placeAll t l mishap? others
      return shape :: shapes

/-- The placeholders by a locator that may not have listed its files yet, and the locator as it is
afterwards: the files are listed when the first class is looked for. -/
def placeholdersBy (t : FileTree) (l : Locator) (known types : List String) :
    Except Failure (List DataShape × Locator) :=
  if (Shape.missingNames l.settings.suffixes known types).isEmpty then .ok ([], l)
  else
    match l.trouble? t with
    | some e => .error e
    | none =>
        let ready := l.prepare t
        .ok ((placeholders t ready known types).value, ready)

end ApiSurvey.Survey
