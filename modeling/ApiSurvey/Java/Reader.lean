import ApiSurvey.Declaration
import ApiSurvey.Java.Tree
import ApiSurvey.Text.Blank
import ApiSurvey.Text.Split

/-!
# Declarations of a tree

Reads the classes and interfaces of a syntax tree, wherever they stand, with the methods and fields
that are direct members of their bodies. Text is cut out of the source by the spans of the tree.
-/

namespace ApiSurvey.Java

namespace Node

def text (source : ByteArray) (n : Node) : String :=
  Text.decodeBytes (source.extract n.span.start n.span.stop)

/-- The source text of a node, blanks collapsed; nothing when there is no node. -/
def typeText (source : ByteArray) (n : Option Node) : String :=
  match n with
  | some n => Text.collapseBlanks (n.text source)
  | none => ""

/-- The source text of a node; nothing when there is no node. -/
def textOr (source : ByteArray) (n : Option Node) : String :=
  match n with
  | some n => n.text source
  | none => ""

end Node

/-- What a two-character escape stands for: a control, or the character itself. -/
def escapedChar (c : Char) : Char :=
  match c with
  | 'n' => '\n'
  | 't' => '\t'
  | 'r' => '\r'
  | 'b' => '\x08'
  | 'f' => '\x0c'
  | '0' => '\x00'
  | c => c

/-- The value of an escape; a longer one stays as it is written. -/
def escapeValue (text : String) : String :=
  match text.toList with
  | [_, c] => String.ofList [escapedChar c]
  | _ => text

/-- The text between the quotes of a literal. -/
def unquoted (text : String) : String :=
  let cs := text.toList
  let width := if "\"\"\"".toList.isPrefixOf cs then 3 else 1
  if cs.length < 2 * width then ""
  else String.ofList ((cs.take (cs.length - width)).drop width)

/-- The value of one part of a string literal; `none` for what is no part of the value. -/
def literalPart? (source : ByteArray) (n : Node) : Option String :=
  match n.kind with
  | .token .stringText | .token .blockText => some (n.text source)
  | .token .escape | .token .blockEscape => some (escapeValue (n.text source))
  | _ => none

def stringValue (source : ByteArray) (n : Node) : String :=
  match n.children.filterMap (literalPart? source) with
  | [] => unquoted (n.text source)
  | parts => String.join parts

mutual

def readArgument (source : ByteArray) : Node → Argument
  | ⟨kind, part, span, children⟩ =>
      let n : Node := ⟨kind, part, span, children⟩
      match kind with
      | .construct .stringLiteral => { text := n.text source, string := some (stringValue source n) }
      | .construct .elementArray =>
          { text := n.text source, items := readItems source children, isArray := true }
      | _ => { text := n.text source }

/-- Reads the entries of an array: every named child that is no comment. -/
def readItems (source : ByteArray) : List Node → List Argument
  | [] => []
  | n :: ns =>
      if n.isNamed && !n.isComment then readArgument source n :: readItems source ns
      else readItems source ns

end

/-- Adds an argument unless its key has one. -/
def addArgument (arguments : List (String × Argument)) (key : String) (a : Argument) :
    List (String × Argument) :=
  if (arguments.lookup key).isSome then arguments else arguments ++ [(key, a)]

/-- Adds what one child of an argument list says: a pair under its key, any other value under
`value`. -/
def readListed (source : ByteArray) (arguments : List (String × Argument)) (n : Node) :
    List (String × Argument) :=
  if n.is .elementPair then
    match n.childAs? .value with
    | some value =>
        let key := Node.textOr source (n.childAs? .key)
        if key.isEmpty then arguments else addArgument arguments key (readArgument source value)
    | none => arguments
  else if n.isComment then arguments
  else addArgument arguments "value" (readArgument source n)

/-- Reads an annotation; only the last part of its name counts. -/
def readMarker (source : ByteArray) (n : Node) : Marker :=
  let listed := match n.childAs? .arguments with
    | some list => list.namedChildren
    | none => []
  { name := Text.lastPart '.' (Node.textOr source (n.childAs? .name))
    arguments := listed.foldl (readListed source) [] }

/-- Reads the annotations among the modifiers of a declaration. -/
def readMarkers (source : ByteArray) (n : Node) : List Marker :=
  match n.child? .modifiers with
  | some modifiers => (modifiers.children.filter (·.is .annotationUse)).map (readMarker source)
  | none => []

/-- Reads a parameter; `none` for anything else in a parameter list. -/
def readParam? (source : ByteArray) (n : Node) : Option ParamDecl :=
  if n.is .formalParameter then
    some
      { name := Node.textOr source (n.childAs? .name)
        type := Node.typeText source (n.childAs? .type) ++
          Node.typeText source (n.childAs? .dimensions)
        markers := readMarkers source n }
  else if n.is .spreadParameter then
    let type := n.namedChildren.find? fun c ↦ !c.is .modifiers && !c.is .variableDeclarator
    some
      { name := Node.textOr source ((n.child? .variableDeclarator).bind (·.childAs? .name))
        type := Node.typeText source type
        markers := readMarkers source n }
  else none

def readMethod (source : ByteArray) (n : Node) : MethodDecl :=
  let parameters := match n.childAs? .parameters with
    | some list => list.children.filterMap (readParam? source)
    | none => []
  let throws := match n.child? .throwsClause with
    | some clause => clause.namedChildren.map fun t ↦ Node.typeText source (some t)
    | none => []
  { name := Node.textOr source (n.childAs? .name)
    returnType := Node.typeText source (n.childAs? .type)
    parameters := parameters
    throws := throws
    markers := readMarkers source n
    line := n.span.line }

/-- The text of a documentation comment; nothing for any other node. -/
def docText (source : ByteArray) (n : Option Node) : String :=
  match n with
  | some n =>
      let text := n.text source
      if n.isComment && "/**".toList.isPrefixOf text.toList then text else ""
  | none => ""

/-- Reads a field statement, given the member before it. -/
def readField (source : ByteArray) (previous : Option Node) (n : Node) : FieldDecl :=
  let type := (n.childAs? .type).bind fun t ↦
    if t.is .arrayType then t.childAs? .element else some t
  { names := (n.childrenAs .declarator).map fun d ↦ Node.textOr source (d.childAs? .name)
    type := Node.typeText source type
    markers := readMarkers source n
    doc := docText source previous }

/-- Reads the field statements among the members of a body, each with the member before it. -/
def readFields (source : ByteArray) (previous : Option Node) : List Node → List FieldDecl
  | [] => []
  | n :: ns =>
      let rest := readFields source (some n) ns
      if n.is .fieldDeclaration || n.is .constantDeclaration then
        readField source previous n :: rest
      else rest

def readClass (source : ByteArray) (n : Node) : ClassDecl :=
  let members := match n.childAs? .body with
    | some body => body.namedChildren
    | none => []
  { name := Node.textOr source (n.childAs? .name)
    kind := if n.is .interfaceDeclaration then .interfaceType else .classType
    markers := readMarkers source n
    methods := (members.filter (·.is .methodDeclaration)).map (readMethod source)
    fields := readFields source none members
    line := n.span.line }

mutual

/-- The class and interface declarations of a tree, an outer one before those inside it. -/
def typeDeclarations : Node → List Node
  | ⟨kind, part, span, children⟩ =>
      let n : Node := ⟨kind, part, span, children⟩
      let inner := typeDeclarationsIn children
      if n.is .classDeclaration || n.is .interfaceDeclaration then n :: inner else inner

def typeDeclarationsIn : List Node → List Node
  | [] => []
  | n :: ns => typeDeclarations n ++ typeDeclarationsIn ns

end

/-- The package that a file declares; nothing when it declares none. -/
def packageName (source : ByteArray) (root : Node) : String :=
  Node.textOr source ((root.child? .packageDeclaration).bind (·.child? .qualifiedName))

def readUnit (source : ByteArray) (root : Node) : SourceUnit :=
  { package := packageName source root
    classes := (typeDeclarations root).map (readClass source) }

end ApiSurvey.Java
