import ApiSurvey.Java.Parse
import ApiSurvey.Proofs.TreePlaces

/-!
# What a reading gives

The chart makes nodes of tokens, comments and finished constructs only. Main statement: whatever
the rules of the grammar, the nodes of a complete reading hold no fault, and every line in them, or
the line of the place at which an incomplete reading ends, is counted from 1. The invariant says
this of all nodes that the items of a chart have read; each operation of the chart keeps it, and so
do the work on one place of the source and the visits of all places.
-/

namespace ApiSurvey.Java

/-! ## Places of a source -/

namespace Cursor

theorem line_le_advance (c : Cursor) (n : Nat) : c.line ≤ (c.advance n).line := by
  induction n generalizing c with
  | zero => exact Nat.le_refl _
  | succ n ih =>
      rw [advance]
      split
      · exact Nat.le_refl _
      · refine Nat.le_trans ?_ (ih _)
        dsimp only
        split
        · exact Nat.le_succ _
        · exact Nat.le_refl _

theorem line_start_pos (bytes : ByteArray) : 0 < (start bytes).line := by
  unfold start
  dsimp only
  split
  · split
    · exact Nat.lt_of_lt_of_le Nat.one_pos (line_le_advance { rest := _ } 1)
    · exact Nat.one_pos
  · exact Nat.one_pos

end Cursor

/-- Passing over blanks and comments, no place met is on an earlier line. -/
theorem line_skip {line : Nat} (rounds : Nat) {comments : List (Cursor × Cursor)} {c : Cursor}
    (hcomments : ∀ x ∈ comments, line ≤ x.1.line) (hc : line ≤ c.line) :
    (∀ x ∈ (Scan.skip rounds comments c).1, line ≤ x.1.line) ∧
      line ≤ (Scan.skip rounds comments c).2.line := by
  induction rounds generalizing comments c with
  | zero => exact ⟨hcomments, hc⟩
  | succ rounds ih =>
      have hnext := Nat.le_trans hc (c.line_le_advance (Scan.runLength Scan.isSpace c.rest))
      rw [Scan.skip]
      dsimp only
      split
      · refine ih (List.forall_mem_cons.mpr ⟨?_, hcomments⟩) ?_
        · exact hnext
        · exact Nat.le_trans hnext (Cursor.line_le_advance _ _)
      · exact ⟨hcomments, hnext⟩

/-! ## Nodes -/

namespace Node

variable {n : Node} {ns : List Node}

/-- A tree in which there is no fault and every line is counted from 1. -/
def Clean (root : Node) : Prop :=
  ∀ n ∈ root.preorder, n.isFault = false ∧ 0 < n.span.line

theorem clean_iff :
    n.Clean ↔ (n.isFault = false ∧ 0 < n.span.line) ∧ ∀ c ∈ n.children, c.Clean :=
  forall_mem_preorder_iff

theorem Clean.line_pos (h : n.Clean) : 0 < n.span.line :=
  (clean_iff.mp h).1.2

theorem clean_spanOf {kind : NodeKind} (hkind : kind ≠ .error ∧ kind ≠ .missing) {start : Cursor}
    (hstart : 0 < start.line) (stop : Cursor) :
    Clean { kind := kind, span := Chart.spanOf start stop } := by
  refine clean_iff.mpr ⟨⟨?_, hstart⟩, fun c hc ↦ absurd hc List.not_mem_nil⟩
  simp [isFault, hkind]

theorem clean_spanning (c : Construct) {first : Node} {rest : List Node} (hfirst : first.Clean)
    (hrest : ∀ m ∈ rest, m.Clean) : (spanning c first rest).Clean := by
  refine clean_iff.mpr ⟨⟨rfl, hfirst.line_pos⟩, ?_⟩
  exact List.forall_mem_cons.mpr ⟨hfirst, hrest⟩

theorem clean_wrap (c : Construct) (h : ∀ m ∈ ns, m.Clean) : ∀ m ∈ finish.wrap c ns, m.Clean := by
  have hforward : ∀ m ∈ ns.reverse, m.Clean := fun m hm ↦ h m (List.mem_reverse.mp hm)
  unfold finish.wrap
  dsimp only
  split
  · exact h
  · rename_i first rest hsplit
    have hinner : ∀ m ∈ first :: rest, m.Clean := fun m hm ↦
      hforward m ((List.dropWhile_sublist _).subset (hsplit ▸ hm))
    obtain ⟨hfirst, hrest⟩ := List.forall_mem_cons.mp hinner
    refine List.forall_mem_cons.mpr ⟨clean_spanning c hfirst hrest, fun m hm ↦ ?_⟩
    exact hforward m ((List.takeWhile_sublist _).subset (List.mem_reverse.mp hm))

theorem clean_finish (c : Construct) (h : ∀ m ∈ ns, m.Clean) : ∀ m ∈ finish c ns, m.Clean := by
  unfold finish
  split
  · exact h
  · split
    · exact h
    · exact clean_wrap c h
  · exact clean_wrap c h

theorem clean_inPart (part : Option Part) (h : ∀ m ∈ ns, m.Clean) :
    ∀ m ∈ inPart part ns, m.Clean := by
  cases part with
  | none => exact h
  | some p =>
      intro m hm
      obtain ⟨inner, hinner, rfl⟩ := List.mem_map.mp hm
      split
      · exact h inner hinner
      · have hclean := clean_iff.mp (h inner hinner)
        exact clean_iff.mpr hclean

end Node

/-! ## Items -/

/-- An item all of whose nodes are clean. -/
def Item.Clean (item : Item) : Prop :=
  ∀ n ∈ item.parts, n.Clean

namespace Chart

variable {table : Table} {columns : Array Column} {item : Item} {items agenda : List Item}
  {p : Progress}

/-- All items that wait, whatever they wait for. -/
def ItemsClean (waiting : Array (List Item)) : Prop :=
  ∀ items ∈ waiting, ∀ item ∈ items, item.Clean

theorem itemsClean_replicate (n : Nat) : ItemsClean (Array.replicate n []) := by
  intro items hitems item hitem
  obtain ⟨-, rfl⟩ := Array.mem_replicate.mp hitems
  exact absurd hitem List.not_mem_nil

theorem ItemsClean.modify {waiting : Array (List Item)} (h : ItemsClean waiting)
    (hitem : item.Clean) (i : Nat) : ItemsClean (waiting.modify i (item :: ·)) := by
  intro items hitems
  obtain ⟨j, hj⟩ := Array.mem_iff_getElem?.mp hitems
  rw [Array.getElem?_modify] at hj
  split at hj
  · obtain ⟨others, hothers, rfl⟩ := Option.map_eq_some_iff.mp hj
    exact List.forall_mem_cons.mpr ⟨hitem, h others (Array.mem_of_getElem? hothers)⟩
  · exact h items (Array.mem_of_getElem? hj)

theorem ItemsClean.getD {waiting : Array (List Item)} (h : ItemsClean waiting) (i : Nat) :
    ∀ item ∈ waiting.getD i [], item.Clean := by
  rw [Array.getD_eq_getD_getElem?]
  cases hi : waiting[i]? with
  | none => exact fun item hitem ↦ absurd hitem List.not_mem_nil
  | some items => exact h items (Array.mem_of_getElem? hi)

/-- What is known of a column, when all nodes in it are clean. -/
structure Progress.Clean (p : Progress) : Prop where
  waiting : ItemsClean p.waiting
  wanting : ItemsClean p.wanting
  accepted : ∀ parts ∈ p.accepted, ∀ n ∈ parts, n.Clean

/-- An agenda and what is known of its column. -/
structure WorkClean (work : List Item × Progress) : Prop where
  agenda : ∀ item ∈ work.1, item.Clean
  progress : work.2.Clean

/-! ## Work on one place -/

theorem WorkClean.push (h : WorkClean (agenda, p)) (hitem : item.Clean) :
    WorkClean (push table item agenda p) := by
  unfold Chart.push
  dsimp only
  split
  · exact h
  · refine ⟨List.forall_mem_cons.mpr ⟨hitem, h.agenda⟩, ?_⟩
    exact ⟨h.progress.waiting, h.progress.wanting, h.progress.accepted⟩

theorem WorkClean.expect (h : WorkClean (agenda, p)) (hitem : item.Clean) (here construct : Nat) :
    WorkClean (expect table here construct item agenda p) := by
  have hwaiting : Progress.Clean { p with waiting := p.waiting.modify construct (item :: ·) } :=
    ⟨h.progress.waiting.modify hitem construct, h.progress.wanting, h.progress.accepted⟩
  unfold Chart.expect
  dsimp only
  split
  · exact WorkClean.push ⟨h.agenda, hwaiting⟩ fun n hn ↦ absurd hn List.not_mem_nil
  · exact ⟨h.agenda, hwaiting⟩

theorem WorkClean.resume (h : WorkClean (agenda, p)) (hitem : item.Clean)
    (hcolumns : ∀ column ∈ columns, ItemsClean column.waiting) (owner : Construct) :
    WorkClean (resume table columns owner item agenda p) := by
  unfold Chart.resume
  split
  · exact h
  · rename_i column hcolumn
    have hnodes := Node.clean_finish owner hitem
    have hwaiting := (hcolumns column (Array.mem_of_getElem? hcolumn)).getD owner.ctorIdx
    refine List.foldlRecOn _ _ h ?_
    rintro ⟨agenda, p⟩ hwork waiter hwaiter
    exact hwork.push
      (List.forall_mem_append.mpr ⟨Node.clean_inPart _ hnodes, hwaiting waiter hwaiter⟩)

theorem WorkClean.scans (h : WorkClean (agenda, p)) (hitem : item.Clean)
    (scans : List (Nat × Nat)) :
    WorkClean (agenda, scans.foldl (fun p (t, next) ↦
      { p with wanting := p.wanting.modify t ({ item with state := next } :: ·) }) p) := by
  refine ⟨h.agenda, List.foldlRecOn scans _ h.progress ?_⟩
  rintro p hp ⟨t, next⟩ -
  -- another state, but the same nodes
  have hnext : Item.Clean { item with state := next } := hitem
  exact ⟨hp.waiting, hp.wanting.modify hnext t, hp.accepted⟩

theorem WorkClean.calls (table : Table) (h : WorkClean (agenda, p)) (hitem : item.Clean)
    (here : Nat) (calls : List (Nat × Nat)) :
    WorkClean (calls.foldl (fun (agenda, p) (c, next) ↦
      Chart.expect table here c { item with state := next } agenda p) (agenda, p)) := by
  refine List.foldlRecOn calls _ h ?_
  rintro ⟨agenda, p⟩ hwork ⟨c, next⟩ -
  have hnext : Item.Clean { item with state := next } := hitem
  exact hwork.expect hnext here c

theorem WorkClean.ending (h : WorkClean (agenda, p)) (hitem : item.Clean)
    (hcolumns : ∀ column ∈ columns, ItemsClean column.waiting) (state : State) :
    WorkClean (
      if state.final then
        if state.owner == .program then
          (agenda, { p with accepted := p.accepted.or (some item.parts) })
        else Chart.resume table columns state.owner item agenda p
      else (agenda, p)) := by
  split
  · split
    · refine ⟨h.agenda, h.progress.waiting, h.progress.wanting, ?_⟩
      intro parts hparts
      rcases Option.or_eq_some_iff.mp hparts with hparts | ⟨-, hparts⟩
      · exact h.progress.accepted parts hparts
      · exact Option.some.inj hparts ▸ hitem
    · exact h.resume hitem hcolumns state.owner
  · exact h

/-- Each step works off one item: what it waits for, what it begins, and what goes on with it. -/
theorem saturate_clean (hcolumns : ∀ column ∈ columns, ItemsClean column.waiting) (steps : Nat)
    (h : WorkClean (agenda, p)) : (saturate table columns steps agenda p).Clean := by
  induction steps generalizing agenda p with
  | zero => exact h.progress
  | succ steps ih =>
      cases agenda with
      | nil => exact h.progress
      | cons item agenda =>
          obtain ⟨hitem, hagenda⟩ := List.forall_mem_cons.mp h.agenda
          have hrest : WorkClean (agenda, p) := ⟨hagenda, h.progress⟩
          rw [saturate]
          split
          · exact ih hrest
          · rename_i state hstate
            have hbegun := (hrest.scans hitem state.scans).calls table hitem columns.size state.calls
            exact ih (hbegun.ending hitem hcolumns state)

theorem workClean_begin (hitems : ∀ item ∈ items, item.Clean)
    (hwork : items.foldl (fun (agenda, p) item ↦ push table item agenda p)
      ([], { waiting := Array.replicate table.starts.size []
             wanting := Array.replicate table.terminals.size [] }) = (agenda, p)) :
    WorkClean (agenda, p) := by
  rw [← hwork]
  refine List.foldlRecOn items _ ?_ ?_
  · refine ⟨fun item hitem ↦ absurd hitem List.not_mem_nil, ?_⟩
    refine ⟨itemsClean_replicate _, itemsClean_replicate _, fun parts hparts ↦ ?_⟩
    cases hparts
  · rintro ⟨agenda, p⟩ hwork item hitem
    exact hwork.push (hitems item hitem)

/-! ## Visits of all places -/

theorem clean_scanned (hp : p.Clean) {comments : List Node} (hcomments : ∀ n ∈ comments, n.Clean)
    {start : Cursor} (hstart : 0 < start.line) (stop : Cursor) (terminal : Terminal) :
    ∀ item ∈ scanned table p comments start stop terminal, item.Clean := by
  intro item hitem
  obtain ⟨waiter, hwaiter, rfl⟩ := List.mem_map.mp hitem
  have hleaf : ∀ n ∈ [({ kind := .token terminal, span := spanOf start stop } : Node)], n.Clean :=
    List.forall_mem_singleton.mpr (Node.clean_spanOf (by simp) hstart stop)
  refine List.forall_mem_append.mpr ⟨?_, hp.wanting.getD _ waiter hwaiter⟩
  exact List.forall_mem_append.mpr ⟨Node.clean_inPart _ hleaf, hcomments⟩

/-- Places to be visited with clean items, on lines counted from 1. -/
def PendingClean (pending : Pending) : Prop :=
  ∀ x ∈ pending, 0 < x.1.line ∧ ∀ item ∈ x.2, item.Clean

theorem PendingClean.schedule {pending : Pending} (h : PendingClean pending) {place : Cursor}
    (hplace : 0 < place.line) (hitems : ∀ item ∈ items, item.Clean) :
    PendingClean (schedule place items pending) := by
  induction pending with
  | nil => exact List.forall_mem_singleton.mpr ⟨hplace, hitems⟩
  | cons first pending ih =>
      obtain ⟨other, more⟩ := first
      obtain ⟨⟨hother, hmore⟩, hpending⟩ := List.forall_mem_cons.mp h
      rw [Chart.schedule]
      split
      · exact List.forall_mem_cons.mpr ⟨⟨hplace, hitems⟩, h⟩
      · split
        · have hboth := List.forall_mem_append.mpr ⟨hmore, hitems⟩
          exact List.forall_mem_cons.mpr ⟨⟨hother, hboth⟩, hpending⟩
        · exact List.forall_mem_cons.mpr ⟨⟨hother, hmore⟩, ih hpending⟩

theorem PendingClean.scan {pending : Pending} (h : PendingClean pending) (hp : p.Clean)
    {comments : List Node} (hcomments : ∀ n ∈ comments, n.Clean) {start : Cursor}
    (hstart : 0 < start.line) (tokens : List (Terminal × Nat)) :
    PendingClean (tokens.foldl (fun pending (t, n) ↦
      Chart.schedule (start.advance n) (scanned table p comments start (start.advance n) t)
        pending) pending) := by
  refine List.foldlRecOn tokens _ h ?_
  rintro pending hpending ⟨t, n⟩ -
  exact hpending.schedule (Nat.lt_of_lt_of_le hstart (start.line_le_advance n))
    (clean_scanned hp hcomments hstart _ t)

/-- The comments in front of a token, and the place where the token starts. -/
theorem clean_comments {cursor start : Cursor} (hcursor : 0 < cursor.line) {isInner : Bool}
    {rounds : Nat} {comments : List (Cursor × Cursor)}
    (hskip : (if isInner then ([], cursor) else Scan.skip rounds [] cursor) = (comments, start)) :
    (∀ n ∈ comments.map commentNode, n.Clean) ∧ 0 < start.line := by
  have hlines : (∀ x ∈ comments, 0 < x.1.line) ∧ 0 < start.line := by
    split at hskip
    · obtain ⟨rfl, rfl⟩ := Prod.mk.inj hskip
      exact ⟨fun x hx ↦ absurd hx List.not_mem_nil, hcursor⟩
    · have hskipped := line_skip rounds (fun x hx ↦ absurd hx List.not_mem_nil) hcursor
      rwa [hskip] at hskipped
  refine ⟨fun n hn ↦ ?_, hlines.2⟩
  obtain ⟨place, hplace, rfl⟩ := List.mem_map.mp hn
  exact Node.clean_spanOf (by simp) (hlines.1 place hplace) place.2

/-- The nodes of a complete reading are clean, and any other ends at a place whose line is counted
from 1. -/
def Verdict.Clean : Verdict → Prop
  | .complete nodes => ∀ n ∈ nodes, n.Clean
  | .stuck place => 0 < place.line
  | .unfinished place => 0 < place.line

/-- A visit keeps clean what waits, now and at later places, and so does every run of visits. -/
theorem visit_clean (visits : Nat) {cursor : Cursor} (hcursor : 0 < cursor.line)
    (hitems : ∀ item ∈ items, item.Clean) {pending : Pending} (hpending : PendingClean pending)
    (hcolumns : ∀ column ∈ columns, ItemsClean column.waiting) :
    (visit table visits cursor items pending columns).Clean := by
  fun_induction visit table visits cursor items pending columns with
  | case1 =>
      -- the source ends here, and so may a program
      rename_i hwork p _ _ _ hskip _ parts haccepted _
      have hp : p.Clean := saturate_clean hcolumns _ (workClean_begin hitems hwork)
      have hnodes := List.forall_mem_append.mpr
        ⟨(clean_comments hcursor hskip).1, hp.accepted parts haccepted⟩
      exact fun n hn ↦ hnodes n (List.mem_reverse.mp hn)
  | case2 => exact hcursor
  | case3 =>
      -- tokens were found, and some place is still to be visited
      rename_i hwork p _ _ _ _ hskip _ _ _ _ after _ next items _ hnext ih
      have hp : p.Clean := saturate_clean hcolumns _ (workClean_begin hitems hwork)
      obtain ⟨hcomments, hstart⟩ := clean_comments hcursor hskip
      have hafter : PendingClean after := hpending.scan hp hcomments hstart _
      rw [hnext] at hafter
      obtain ⟨⟨hline, hitems⟩, hrest⟩ := List.forall_mem_cons.mp hafter
      refine ih hline hitems hrest ?_
      intro column hcolumn
      rcases Array.mem_push.mp hcolumn with hcolumn | rfl
      · exact hcolumns column hcolumn
      · exact hp.waiting
  | case4 =>
      rename_i hskip _ _ _ _ _ _
      exact (clean_comments hcursor hskip).2

theorem read_clean {start : Cursor} (hstart : 0 < start.line) : (read table start).Clean := by
  refine visit_clean _ hstart ?_ (fun x hx ↦ absurd hx List.not_mem_nil) ?_
  · exact List.forall_mem_singleton.mpr fun n hn ↦ absurd hn List.not_mem_nil
  · intro column hcolumn
    simp at hcolumn

end Chart

end ApiSurvey.Java
