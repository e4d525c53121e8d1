import ApiSurvey.Java.Rule
import ApiSurvey.Java.Tree
import Std.Data.HashSet

/-!
# Chart parsing

All ways to read a source are followed side by side, from left to right. A column holds what is
being read at one place of the source: items, each a state of the table with the column in which its
construct began, and for every construct the items that wait for it. Only tokens that some item can
use are looked for. When no item can go on, the place reached is where the source stops being the
beginning of any program. Of several readings of one stretch the first found is kept.
-/

namespace ApiSurvey.Java

/-- A construct that is being read. -/
structure Item where
  /-- The state reached in its rule. -/
  state : Nat
  /-- The column in which it began. -/
  origin : Nat
  /-- The nodes read so far, last first. -/
  parts : List Node
  deriving Inhabited

/-- One place of the source, with the items that wait for a construct to end, by the construct's
number. Their states are those that they reach then. -/
structure Column where
  cursor : Cursor
  waiting : Array (List Item)
  deriving Inhabited

namespace Node

/-- A node over a non-empty list of children. -/
def spanning (c : Construct) (first : Node) (rest : List Node) : Node :=
  let last := rest.getLastD first
  { kind := .construct c
    span := ⟨first.span.start, last.span.stop, first.span.line⟩
    children := first :: rest }

/-- The nodes of a finished construct, last first. Comments in front of its first token are left
to the construct around it. -/
def finish (c : Construct) (parts : List Node) : List Node :=
  match c.visibility with
  | .spliced => parts
  | .collapsing =>
      if (parts.filter (!·.isComment)).length ≤ 1 then parts else wrap parts
  | .node => wrap parts
where
  /-- Comments in front, then the node. -/
  wrap (parts : List Node) : List Node :=
    let forward := parts.reverse
    let comments := forward.takeWhile isComment
    match forward.dropWhile isComment with
    | [] => parts
    | first :: rest => spanning c first rest :: comments.reverse

/-- Gives nodes a part to play; comments play none. -/
def inPart (part : Option Part) (nodes : List Node) : List Node :=
  match part with
  | none => nodes
  | some p => nodes.map fun n ↦ if n.isComment then n else { n with part := some p }

end Node

namespace Chart

variable (table : Table)

/-- What is known of the column in progress. -/
structure Progress where
  seen : Std.HashSet Nat := {}
  /-- Items that wait for a construct, by its number. -/
  waiting : Array (List Item)
  /-- Items that wait for a token, by the terminal's number. -/
  wanting : Array (List Item)
  /-- The nodes of a program that ends here, last first. -/
  accepted : Option (List Node) := none

/-- Adds an item to the agenda unless its state and origin were met before. -/
def push (item : Item) (agenda : List Item) (p : Progress) : List Item × Progress :=
  let key := item.origin * table.states.size + item.state
  if p.seen.contains key then (agenda, p)
  else (item :: agenda, { p with seen := p.seen.insert key })

/-- An item that waits for a construct: the construct is begun unless it was begun here before. -/
def expect (here : Nat) (construct : Nat) (item : Item) (agenda : List Item) (p : Progress) :
    List Item × Progress :=
  let p := { p with waiting := p.waiting.modify construct (item :: ·) }
  match table.starts[construct]? with
  | some start => push table { state := start, origin := here, parts := [] } agenda p
  | none => (agenda, p)

/-- A construct has ended: every item that waited for it where it began goes on. -/
def resume (columns : Array Column) (owner : Construct) (item : Item) (agenda : List Item)
    (p : Progress) : List Item × Progress :=
  match columns[item.origin]? with
  | none => (agenda, p)
  | some column =>
      let nodes := Node.finish owner item.parts
      (column.waiting.getD owner.ctorIdx []).foldl (fun (agenda, p) waiter ↦
        let part := (table.states[waiter.state]?).bind (·.part)
        push table { waiter with parts := Node.inPart part nodes ++ waiter.parts } agenda p)
        (agenda, p)

/-- Works off the agenda of a column. Each step takes one item that was not met before, so the
number of steps is bounded by the number of pairs of a state and a column. -/
def saturate (columns : Array Column) : Nat → List Item → Progress → Progress
  | 0, _, p => p
  | _, [], p => p
  | steps + 1, item :: agenda, p =>
      match table.states[item.state]? with
      | none => saturate columns steps agenda p
      | some state =>
          let p := state.scans.foldl (fun p (t, next) ↦
            { p with wanting := p.wanting.modify t ({ item with state := next } :: ·) }) p
          let (agenda, p) := state.calls.foldl (fun (agenda, p) (c, next) ↦
            expect table columns.size c { item with state := next } agenda p) (agenda, p)
          let (agenda, p) :=
            if state.final then
              if state.owner == .program then
                (agenda, { p with accepted := p.accepted.or (some item.parts) })
              else resume table columns state.owner item agenda p
            else (agenda, p)
          saturate columns steps agenda p

def spanOf (start stop : Cursor) : Span :=
  ⟨start.offset, stop.offset, start.line⟩

def commentNode (place : Cursor × Cursor) : Node :=
  { kind := .comment, span := spanOf place.1 place.2 }

/-- The items that go on over a token, with the comments in front of it, last first. -/
def scanned (p : Progress) (comments : List Node) (start stop : Cursor) (terminal : Terminal) :
    List Item :=
  let leaf : Node := { kind := .token terminal, span := spanOf start stop }
  let number := table.terminals.idxOf terminal
  (p.wanting.getD number []).map fun item ↦
    let part := (table.states[item.state]?).bind (·.part)
    { item with parts := Node.inPart part [leaf] ++ comments ++ item.parts }

/-- Places that are still to be visited, in the order of the source, with their items. -/
abbrev Pending := List (Cursor × List Item)

def schedule (place : Cursor) (items : List Item) : Pending → Pending
  | [] => [(place, items)]
  | (other, more) :: pending =>
      if place.offset < other.offset then (place, items) :: (other, more) :: pending
      else if place.offset == other.offset then (other, more ++ items) :: pending
      else (other, more) :: schedule place items pending

/-- How reading ended. -/
inductive Verdict where
  | complete (nodes : List Node)
  /-- The text at this place fits nowhere. -/
  | stuck (place : Cursor)
  /-- The source ends too early; the place is the end of its last token. -/
  | unfinished (place : Cursor)

/-- Visits the places of a source in order. Every place visited lies further on than the one
before, so the number of further visits is bounded by the letters of the source. -/
def visit (visits : Nat) (cursor : Cursor) (items : List Item) (pending : Pending)
    (columns : Array Column) : Verdict :=
  let empty : Progress :=
    { waiting := Array.replicate table.starts.size []
      wanting := Array.replicate table.terminals.size [] }
  let (agenda, p) := items.foldl (fun (agenda, p) item ↦ push table item agenda p) ([], empty)
  let p := saturate table columns (table.states.size * (columns.size + 1)) agenda p
  let columns := columns.push { cursor := cursor, waiting := p.waiting }
  let wanted := (table.terminals.zip p.wanting).toList.filterMap fun (t, items) ↦
    if items.isEmpty then none else some t
  let (comments, start) :=
    if wanted.any Terminal.isInner then ([], cursor)
    else Scan.skip (cursor.rest.length + 1) [] cursor
  let comments := comments.map commentNode
  match start.rest, p.accepted with
  | [], some parts => .complete (comments ++ parts).reverse
  | [], none => .unfinished cursor
  | _ :: _, _ =>
      let pending := (Scan.tokens wanted start.rest).foldl (fun pending (t, n) ↦
        let stop := start.advance n
        schedule stop (scanned table p comments start stop t) pending) pending
      match visits, pending with
      | visits + 1, (cursor, items) :: pending => visit visits cursor items pending columns
      | _, _ => .stuck start

def read (start : Cursor) : Verdict :=
  let first := (table.starts[Construct.program.ctorIdx]?).getD 0
  visit table start.rest.length start [{ state := first, origin := 0, parts := [] }] [] #[]

end Chart

end ApiSurvey.Java
