import ApiSurvey.Java.Construct
import ApiSurvey.Java.Terminal

/-!
# Rules of a grammar

A rule says of which parts a construct consists, in the manner of a regular expression. A set of
rules is laid out as a table of states, one for each place at which a symbol stands in a rule: a
state stands for "just past that symbol", and a further state for the start of each construct.
-/

namespace ApiSurvey.Java

/-- What stands at a place of a rule. -/
inductive Symbol where
  | terminal (t : Terminal)
  | construct (c : Construct)
  deriving DecidableEq, Repr, Inhabited

def Symbol.terminal? : Symbol → Option Terminal
  | .terminal t => some t
  | .construct _ => none

def Symbol.construct? : Symbol → Option Construct
  | .terminal _ => none
  | .construct c => some c

/-- The right-hand side of a rule. -/
inductive Rule where
  | empty
  | symbol (s : Symbol) (part : Option Part)
  | seq (first second : Rule)
  | alt (first second : Rule)
  /-- One or more repetitions. -/
  | repeated (rule : Rule)
  deriving Inhabited

namespace Rule

/-- A token by its text: a keyword when it is made of letters, a sign otherwise. -/
def literal (text : String) : Rule :=
  let isWord := text.toList.all fun c ↦ c.isAlpha || c == '_'
  .symbol (.terminal (if isWord then .word text else .sign text)) none

instance : Coe String Rule := ⟨literal⟩
instance : Coe Terminal Rule := ⟨fun t ↦ .symbol (.terminal t) none⟩
instance : Coe Construct Rule := ⟨fun c ↦ .symbol (.construct c) none⟩

def sequence (rules : List Rule) : Rule :=
  rules.foldr .seq .empty

def anyOf : List Rule → Rule
  | [] => .empty
  | [r] => r
  | r :: rs => .alt r (anyOf rs)

def optional (r : Rule) : Rule :=
  .alt .empty r

def many (r : Rule) : Rule :=
  optional (.repeated r)

/-- One or more repetitions with separators between them. -/
def separated (r : Rule) (separator : String) : Rule :=
  .seq r (many (.seq separator r))

def as (part : Part) : Rule → Rule
  | .symbol s _ => .symbol s (some part)
  | r => r

end Rule

/-- The places of a rule, numbered, with those that can come first, last and after one another. -/
structure Sketch where
  nullable : Bool := true
  first : List Nat := []
  last : List Nat := []
  follow : List (Nat × Nat) := []
  places : List (Symbol × Option Part) := []
  deriving Inhabited

/-- All pairs of a number of one list and one of another. -/
def pairs (xs ys : List Nat) : List (Nat × Nat) :=
  xs.flatMap fun x ↦ ys.map (x, ·)

/-- The places of a rule, numbered from `base`. -/
def Rule.sketch (base : Nat) : Rule → Sketch
  | .empty => {}
  | .symbol s part =>
      { nullable := false, first := [base], last := [base], places := [(s, part)] }
  | .seq a b =>
      let x := a.sketch base
      let y := b.sketch (base + x.places.length)
      { nullable := x.nullable && y.nullable
        first := if x.nullable then x.first ++ y.first else x.first
        last := if y.nullable then y.last ++ x.last else y.last
        follow := pairs x.last y.first ++ x.follow ++ y.follow
        places := x.places ++ y.places }
  | .alt a b =>
      let x := a.sketch base
      let y := b.sketch (base + x.places.length)
      { nullable := x.nullable || y.nullable
        first := x.first ++ y.first
        last := x.last ++ y.last
        follow := x.follow ++ y.follow
        places := x.places ++ y.places }
  | .repeated a =>
      let x := a.sketch base
      { x with follow := pairs x.last x.first ++ x.follow }

/-- What can happen at a state: a token or a construct is read and leads to another state, or the
construct is complete. -/
structure State where
  /-- The construct that is being read. -/
  owner : Construct
  /-- The part that the symbol just read plays in it. -/
  part : Option Part
  /-- Numbers of terminals with the states they lead to. -/
  scans : List (Nat × Nat)
  /-- Numbers of constructs with the states they lead to. -/
  calls : List (Nat × Nat)
  /-- Whether the construct may end here. -/
  final : Bool
  deriving Inhabited

structure Table where
  terminals : Array Terminal
  states : Array State
  /-- The state at the start of a construct, by the construct's number. -/
  starts : Array Nat

namespace Table

/-- The sketches of all constructs, numbered one after the other. -/
def sketches (rule : Construct → Rule) : List (Construct × Nat × Sketch) :=
  (Construct.all.foldl (fun (base, out) c ↦
    let s := (rule c).sketch base
    (base + s.places.length, (c, base, s) :: out)) (0, [])).2.reverse

/-- Lays the rules of a grammar out as a table. -/
def ofRules (rule : Construct → Rule) : Table :=
  let all := sketches rule
  let places : Array (Symbol × Option Part) := (all.flatMap fun (_, _, s) ↦ s.places).toArray
  let terminals := (places.toList.filterMap fun (s, _) ↦ s.terminal?).eraseDups
  let next := all.foldl (fun (next : Array (List Nat)) (_, _, s) ↦
    s.follow.foldl (fun next (a, b) ↦ next.modify a (b :: ·)) next)
    (Array.replicate places.size [])
  let symbolAt := fun (i : Nat) ↦ (places[i]?).map (·.1)
  let scansTo := fun (successors : List Nat) ↦ successors.filterMap fun i ↦
    ((symbolAt i).bind Symbol.terminal?).map fun t ↦ (terminals.idxOf t, i)
  let callsTo := fun (successors : List Nat) ↦ successors.filterMap fun i ↦
    ((symbolAt i).bind Symbol.construct?).map fun c ↦ (c.ctorIdx, i)
  let inner := all.flatMap fun (c, base, s) ↦ s.places.zipIdx.map fun ((_, part), i) ↦
    let successors := (next.getD (base + i) []).eraseDups
    { owner := c, part := part, scans := scansTo successors, calls := callsTo successors,
      final := s.last.contains (base + i) : State }
  let outer := all.map fun (c, _, s) ↦
    { owner := c, part := none, scans := scansTo s.first, calls := callsTo s.first,
      final := s.nullable : State }
  { terminals := terminals.toArray
    states := (inner ++ outer).toArray
    starts := ((List.range all.length).map (places.size + ·)).toArray }

end Table

end ApiSurvey.Java
