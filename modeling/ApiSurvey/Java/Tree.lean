import ApiSurvey.Java.Construct
import ApiSurvey.Java.Terminal

/-!
# Syntax trees

A tree keeps every token and comment of its source. A comment belongs to the innermost construct
that has tokens on both sides of it. What could not be read is an error node, and a token that is
absent at the end a missing node; a tree without either is sound. The search for the first error
looks only into subtrees that hold one.
-/

namespace ApiSurvey.Java

/-- What a node is. -/
inductive NodeKind where
  | construct (c : Construct)
  | token (t : Terminal)
  | comment
  /-- Text that fits nowhere. -/
  | error
  /-- A token that should stand here. -/
  | missing
  deriving DecidableEq, Repr, Inhabited

/-- A stretch of the source in bytes, with the line on which it starts. -/
structure Span where
  start : Nat
  stop : Nat
  line : Nat
  deriving DecidableEq, Repr, Inhabited

structure Node where
  kind : NodeKind
  /-- The part it plays in its parent. -/
  part : Option Part := none
  span : Span
  children : List Node := []
  deriving Repr, Inhabited

namespace Node

def is (c : Construct) (n : Node) : Bool :=
  n.kind == .construct c

def isComment (n : Node) : Bool :=
  n.kind == .comment

/-- Constructs, comments and tokens with content are named; keywords and signs are not. -/
def isNamed (n : Node) : Bool :=
  match n.kind with
  | .token t => t.isNamed
  | .missing => false
  | _ => true

def namedChildren (n : Node) : List Node :=
  n.children.filter isNamed

def childAs? (part : Part) (n : Node) : Option Node :=
  n.children.find? (·.part == some part)

def childrenAs (part : Part) (n : Node) : List Node :=
  n.children.filter (·.part == some part)

def child? (c : Construct) (n : Node) : Option Node :=
  n.children.find? (·.is c)

/-- Whether a node itself marks an error. -/
def isFault (n : Node) : Bool :=
  n.kind == .error || n.kind == .missing

mutual

/-- Whether a tree holds an error or a missing token. -/
def hasError : Node → Bool
  | ⟨kind, _, _, children⟩ => kind == .error || kind == .missing || anyError children

def anyError : List Node → Bool
  | [] => false
  | n :: ns => hasError n || anyError ns

end

mutual

/-- The line of the first error, looking only into subtrees that are marked as holding one. Zero
stands for "not found", and the search goes on with the next subtree. -/
def firstErrorLine (marked : Node → Bool) : Node → Nat
  | ⟨kind, _, span, children⟩ =>
      if kind == .error || kind == .missing then span.line else firstErrorLineIn marked children

def firstErrorLineIn (marked : Node → Bool) : List Node → Nat
  | [] => 0
  | n :: ns =>
      if marked n then
        let line := firstErrorLine marked n
        if line == 0 then firstErrorLineIn marked ns else line
      else firstErrorLineIn marked ns

end

/-- The line of the first error, unless the search finds none. -/
def firstErrorLine? (n : Node) (marked : Node → Bool := hasError) : Option Nat :=
  let line := n.firstErrorLine marked
  if line == 0 then none else some line

mutual

/-- All nodes of a tree, a node before its children. -/
def preorder : Node → List Node
  | ⟨kind, part, span, children⟩ => ⟨kind, part, span, children⟩ :: preorderList children

def preorderList : List Node → List Node
  | [] => []
  | n :: ns => preorder n ++ preorderList ns

end

end Node

end ApiSurvey.Java
