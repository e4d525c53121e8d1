import ApiSurvey.Declaration
import ApiSurvey.Shape.Basic
import ApiSurvey.Shape.DocComment
import ApiSurvey.TypeExpr.Basic

/-!
# The data shape of a class

How a class declaration is read as a data shape: one field for each field statement, described by
its markers or its documentation comment.
-/

namespace ApiSurvey

/-- The text of the first marker of a kind under a key, unless it is empty. -/
def Marker.textOf? (kind : MarkerKind) (key : String) (markers : List Marker) : Option String :=
  (Marker.firstOf (· == kind) markers).bind fun m ↦
    let text := m.stringAt [key]
    if text.isEmpty then none else some text

/-- The description of a field: from its schema marker, else from the older form of it, else the
summary of its documentation comment. -/
def FieldDecl.description (f : FieldDecl) : String :=
  (Marker.textOf? .schema "description" f.markers).getD <|
    (Marker.textOf? .apiModelProperty "value" f.markers).getD <|
      Shape.summary f.doc

/-- Reads a field statement; of several names it describes the first. -/
def ShapeField.ofDecl? (f : FieldDecl) : Option ShapeField :=
  match f.names with
  | [] => none
  | name :: _ =>
      if name.isEmpty then none
      else some
        { name := name
          type := String.ofList (TypeExpr.normalForm f.type.toList)
          validations := (f.markers.filter (·.kind.isValidation)).map (·.name)
          description := f.description
          required := f.markers.any (·.kind.isRequiring) }

def DataShape.ofClass (filePath : String) (c : ClassDecl) : DataShape :=
  { className := c.name
    fields := c.fields.filterMap ShapeField.ofDecl?
    filePath := filePath
    annotations := Marker.unrecognized c.markers }

end ApiSurvey
