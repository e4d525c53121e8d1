import ApiSurvey.Declaration
import ApiSurvey.FileTree.Path
import ApiSurvey.Shape.Name

/-!
# What a declaration is surveyed as

A file whose name is a payload name holds data shapes only. In every other file the classes marked
as controllers hold routes, and the rest is passed over.
-/

namespace ApiSurvey

inductive Role where
  | routable
  | dataShape
  deriving DecidableEq, Repr

/-- Whether a file holds data shapes, by its name alone. -/
def Shape.isShapeFile (suffixes : List String) (path : String) : Bool :=
  isShapeName suffixes (Path.ofString path).stem

/-- The role of a declaration; `none` when it is passed over. -/
def ClassDecl.role? (inShapeFile : Bool) (c : ClassDecl) : Option Role :=
  if inShapeFile then some .dataShape
  else if Marker.hasKind .controller c.markers then some .routable
  else none

/-- The declarations of a file that are surveyed, with their roles. -/
def surveyed (suffixes : List String) (path : String) (classes : List ClassDecl) :
    List (Role × ClassDecl) :=
  classes.filterMap fun c ↦ (c.role? (Shape.isShapeFile suffixes path)).map (·, c)

end ApiSurvey
