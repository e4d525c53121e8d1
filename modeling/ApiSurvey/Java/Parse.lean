import ApiSurvey.Java.Chart
import ApiSurvey.Java.Grammar

/-!
# From source to tree

Every source has a tree. The tree of a source outside the language holds one error node, at the
place where the source stops being the beginning of a program, or one missing node when it ends too
early.
-/

namespace ApiSurvey.Java

def rootNode (size : Nat) (children : List Node) : Node :=
  { kind := .construct .program, span := ⟨0, size, 1⟩, children := children }

def parse (source : ByteArray) : Node :=
  match Chart.read Grammar.table (Cursor.start source) with
  | .complete nodes => rootNode source.size nodes
  | .stuck place =>
      let next := place.advance 1
      rootNode source.size
        [{ kind := .error, span := ⟨place.offset, next.offset, place.line⟩ }]
  | .unfinished place =>
      rootNode source.size
        [{ kind := .missing, span := ⟨place.offset, place.offset, place.line⟩ }]

end ApiSurvey.Java
