import ApiSurvey.Marker.Basic

/-!
# Declarations

What the survey keeps of a source file: its package and its classes and interfaces, each with its
own methods and fields.
-/

namespace ApiSurvey

structure ParamDecl where
  name : String
  type : String
  markers : List Marker := []
  deriving Repr, Inhabited

structure MethodDecl where
  name : String
  returnType : String
  parameters : List ParamDecl := []
  throws : List String := []
  markers : List Marker := []
  line : Nat := 0
  deriving Repr, Inhabited

/-- A field statement, which may declare several names. -/
structure FieldDecl where
  names : List String
  /-- The element type: array brackets are left out. -/
  type : String
  markers : List Marker := []
  /-- The documentation comment right before the statement, or nothing. -/
  doc : String := ""
  deriving Repr, Inhabited

/-- The two kinds of type declaration that are surveyed. -/
inductive ClassKind where
  | classType
  | interfaceType
  deriving DecidableEq, Repr, Inhabited

structure ClassDecl where
  name : String
  kind : ClassKind := .classType
  markers : List Marker := []
  methods : List MethodDecl := []
  fields : List FieldDecl := []
  line : Nat := 0
  deriving Repr, Inhabited

/-- A source file: an outer class stands before those nested in it. -/
structure SourceUnit where
  package : String
  classes : List ClassDecl
  deriving Repr, Inhabited

end ApiSurvey
