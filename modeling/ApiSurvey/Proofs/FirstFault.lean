import ApiSurvey.Proofs.Readings
import ApiSurvey.Survey.Source

/-!
# The first error of a tree

A node bears a mark when it is a fault or a child of it bears the mark. Main statement: in a tree
marked so, the search for the first error, which passes over subtrees without the mark, finds the
line of the first fault of the whole tree in pre-order; the tree is refused exactly when there is a
fault anywhere in it, and always with that line. The induction is over the tree, and for the
children of a node over their list: a subtree without the mark holds no fault, and one with the mark
is never left empty-handed, since lines are counted from 1.
-/

namespace ApiSurvey.Java.Node

variable {marked : Node → Bool} {n c : Node}

/-- Nodes of the tree bear the mark when they are faults or have a child that bears it. -/
def MarkedBy (root : Node) (marked : Node → Bool) : Prop :=
  ∀ n ∈ root.preorder, marked n = true ↔ n.isFault = true ∨ ∃ c ∈ n.children, marked c = true

/-- Lines are counted from 1. -/
def CountsLines (root : Node) : Prop :=
  ∀ n ∈ root.preorder, 0 < n.span.line

theorem MarkedBy.child (h : n.MarkedBy marked) (hc : c ∈ n.children) : c.MarkedBy marked :=
  fun m hm ↦ h m (mem_preorder_of_child hc hm)

theorem countsLines_iff :
    n.CountsLines ↔ 0 < n.span.line ∧ ∀ c ∈ n.children, c.CountsLines :=
  forall_mem_preorder_iff

theorem anyError_eq_any (ns : List Node) : anyError ns = ns.any hasError := by
  induction ns with
  | nil => rfl
  | cons n ns ih => rw [anyError, ih, List.any_cons]

theorem markedBy_hasError (root : Node) : root.MarkedBy hasError := by
  rintro ⟨kind, part, span, children⟩ -
  simp [hasError, anyError_eq_any, isFault]

/-- A node bears the mark exactly when there is a fault in its tree. -/
theorem MarkedBy.iff_exists_fault (h : n.MarkedBy marked) :
    marked n = true ↔ ∃ m ∈ n.preorder, m.isFault = true := by
  induction n using induction with
  | node n ih =>
      rw [h n (self_mem_preorder n)]
      constructor
      · rintro (hfault | ⟨c, hc, hmark⟩)
        · exact ⟨n, self_mem_preorder n, hfault⟩
        · obtain ⟨m, hm, hfault⟩ := (ih c hc (h.child hc)).mp hmark
          exact ⟨m, mem_preorder_of_child hc hm, hfault⟩
      · rintro ⟨m, hm, hfault⟩
        rcases mem_preorder_iff.mp hm with rfl | ⟨c, hc, hm⟩
        · exact .inl hfault
        · exact .inr ⟨c, hc, (ih c hc (h.child hc)).mpr ⟨m, hm, hfault⟩⟩

theorem MarkedBy.eq_isSome (h : n.MarkedBy marked) :
    marked n = (n.preorder.find? isFault).isSome := by
  rw [Bool.eq_iff_iff, List.find?_isSome]
  exact h.iff_exists_fault

theorem firstErrorLine_eq (marked : Node → Bool) (n : Node) :
    n.firstErrorLine marked =
      if n.isFault then n.span.line else firstErrorLineIn marked n.children := by
  cases n
  rfl

/-- The first of several siblings with a fault in it decides. -/
theorem firstErrorLineIn_eq {ns : List Node}
    (hmarks : ∀ c ∈ ns, marked c = (c.preorder.find? isFault).isSome)
    (hlines : ∀ c ∈ ns, c.CountsLines)
    (hsearch : ∀ c ∈ ns, c.firstErrorLine marked =
      (c.preorder.find? isFault).elim 0 (·.span.line)) :
    firstErrorLineIn marked ns = ((preorderList ns).find? isFault).elim 0 (·.span.line) := by
  induction ns with
  | nil => rfl
  | cons c ns ih =>
      rw [List.forall_mem_cons] at hmarks hlines hsearch
      have hrest := ih hmarks.2 hlines.2 hsearch.2
      rw [firstErrorLineIn, preorderList, List.find?_append, hmarks.1, hsearch.1]
      cases hfound : c.preorder.find? isFault with
      | none => exact hrest
      | some m =>
          have hpos := hlines.1 m (List.mem_of_find?_eq_some hfound)
          simp [Nat.ne_of_gt hpos]

/-- The search that passes over unmarked subtrees finds what a search of the whole tree finds. -/
theorem MarkedBy.firstErrorLine_eq_find (h : n.MarkedBy marked) (hlines : n.CountsLines) :
    n.firstErrorLine marked = (n.preorder.find? isFault).elim 0 (·.span.line) := by
  induction n using induction with
  | node n ih =>
      have hinner := firstErrorLineIn_eq (fun c hc ↦ (h.child hc).eq_isSome)
        (countsLines_iff.mp hlines).2
        fun c hc ↦ ih c hc (h.child hc) ((countsLines_iff.mp hlines).2 c hc)
      rw [firstErrorLine_eq, preorder_eq, List.find?_cons]
      cases n.isFault with
      | true => rfl
      | false => exact hinner

theorem MarkedBy.firstErrorLine?_eq_find (h : n.MarkedBy marked) (hlines : n.CountsLines) :
    n.firstErrorLine? marked = (n.preorder.find? isFault).map (·.span.line) := by
  rw [firstErrorLine?, h.firstErrorLine_eq_find hlines]
  cases hfound : n.preorder.find? isFault with
  | none => rfl
  | some m =>
      have hpos := hlines m (List.mem_of_find?_eq_some hfound)
      simp [Nat.ne_of_gt hpos]

/-- A search below a mark is never left empty-handed. -/
theorem MarkedBy.exists_first_fault (h : n.MarkedBy marked) (hlines : n.CountsLines)
    (hmark : marked n = true) :
    ∃ m, n.preorder.find? isFault = some m ∧ n.firstErrorLine marked = m.span.line ∧
      n.firstErrorLine marked ≠ 0 := by
  rw [h.eq_isSome] at hmark
  obtain ⟨m, hm⟩ := Option.isSome_iff_exists.mp hmark
  have hline := h.firstErrorLine_eq_find hlines
  rw [hm, Option.elim_some] at hline
  have hpos := hlines m (List.mem_of_find?_eq_some hm)
  exact ⟨m, hm, hline, hline ▸ Nat.ne_of_gt hpos⟩

end ApiSurvey.Java.Node

namespace ApiSurvey

open Java

variable {root : Node} {marked : Node → Bool}

/-- A tree is refused for its first fault. -/
theorem soundTree_eq (h : root.MarkedBy marked) (hlines : root.CountsLines) (origin : String) :
    soundTree origin root marked =
      (root.preorder.find? Node.isFault).elim (.ok root)
        fun n ↦ .error (.syntaxError origin (some n.span.line)) := by
  rw [soundTree, h.eq_isSome, h.firstErrorLine?_eq_find hlines]
  cases root.preorder.find? Node.isFault with
  | none => rfl
  | some n => rfl

theorem soundTree_eq_error_iff (h : root.MarkedBy marked) (hlines : root.CountsLines)
    (origin : String) (e : Failure) :
    soundTree origin root marked = .error e ↔
      ∃ n, root.preorder.find? Node.isFault = some n ∧
        e = .syntaxError origin (some n.span.line) := by
  rw [soundTree_eq h hlines]
  cases root.preorder.find? Node.isFault with
  | none => simp
  | some n => simp [eq_comm]

theorem soundTree_eq_ok_iff (h : root.MarkedBy marked) (hlines : root.CountsLines)
    (origin : String) :
    soundTree origin root marked = .ok root ↔ ∀ n ∈ root.preorder, n.isFault = false := by
  have hnone : root.preorder.find? Node.isFault = none ↔ ∀ n ∈ root.preorder, n.isFault = false := by
    simp
  rw [soundTree_eq h hlines, ← hnone]
  cases root.preorder.find? Node.isFault with
  | none => simp
  | some n => simp

/-! ## Trees of sources -/

theorem countsLines_parse (source : ByteArray) : (parse source).CountsLines := by
  have hread : (Chart.read Grammar.table (Cursor.start source)).Clean :=
    Chart.read_clean (Cursor.line_start_pos source)
  have hleaf : ∀ kind span, 0 < span.line → Node.CountsLines { kind := kind, span := span } :=
    fun kind span hline ↦ Node.countsLines_iff.mpr ⟨hline, by simp⟩
  unfold parse
  generalize Chart.read Grammar.table (Cursor.start source) = verdict at hread ⊢
  refine Node.countsLines_iff.mpr ?_
  cases verdict with
  | complete nodes => exact ⟨Nat.one_pos, fun n hn m hm ↦ (hread n hn m hm).2⟩
  | stuck place =>
      refine ⟨Nat.one_pos, fun n hn ↦ ?_⟩
      exact List.mem_singleton.mp hn ▸ hleaf _ _ hread
  | unfinished place =>
      refine ⟨Nat.one_pos, fun n hn ↦ ?_⟩
      exact List.mem_singleton.mp hn ▸ hleaf _ _ hread

/-- A source is refused unless it can be read to its end, and then for the line on which reading
stopped. -/
theorem soundTree_parse (origin : String) (source : ByteArray) :
    soundTree origin (parse source) =
      match Chart.read Grammar.table (Cursor.start source) with
      | .complete _ => .ok (parse source)
      | .stuck place => .error (.syntaxError origin (some place.line))
      | .unfinished place => .error (.syntaxError origin (some place.line)) := by
  have hread : (Chart.read Grammar.table (Cursor.start source)).Clean :=
    Chart.read_clean (Cursor.line_start_pos source)
  rw [soundTree_eq (Node.markedBy_hasError _) (countsLines_parse source)]
  unfold parse
  generalize Chart.read Grammar.table (Cursor.start source) = verdict at hread ⊢
  cases verdict with
  | complete nodes =>
      have hsound : (rootNode source.size nodes).preorder.find? Node.isFault = none := by
        refine List.find?_eq_none.mpr (Node.forall_mem_preorder_iff.mpr ⟨Bool.false_ne_true, ?_⟩)
        intro n hn m hm
        simp [(hread n hn m hm).1]
      rw [hsound, Option.elim_none]
  | stuck place => rfl
  | unfinished place => rfl

/-! ## Refused trees -/

/-- What becomes of a tree: it is refused exactly when there is a fault anywhere in it, else it is
given back, and a failure carries the line of the first fault in pre-order, which the search finds. -/
structure FaultReported (origin : String) (root : Node) (marked : Node → Bool) : Prop where
  found : marked root = true → ∃ n, root.preorder.find? Node.isFault = some n ∧
    root.firstErrorLine marked = n.span.line ∧ root.firstErrorLine marked ≠ 0
  carried : ∀ e, soundTree origin root marked = .error e →
    ∃ n, root.preorder.find? Node.isFault = some n ∧ e = .syntaxError origin (some n.span.line)
  refused : (∃ e, soundTree origin root marked = .error e) ↔
    ∃ n ∈ root.preorder, n.isFault = true
  kept : soundTree origin root marked = .ok root ↔ ∀ n ∈ root.preorder, n.isFault = false

/-- Every tree with lines counted from 1, marked as its faults demand, is refused for its first
fault or sound; and so is the tree of every source, by the marks that are computed. -/
theorem first_fault_reported (origin : String) :
    (∀ root marked, root.MarkedBy marked → root.CountsLines →
      FaultReported origin root marked) ∧
      ∀ source, FaultReported origin (parse source) Node.hasError := by
  have hreported : ∀ root marked, root.MarkedBy marked → root.CountsLines →
      FaultReported origin root marked := by
    intro root marked hmarked hlines
    have herror := soundTree_eq_error_iff hmarked hlines origin
    refine ⟨hmarked.exists_first_fault hlines, fun e ↦ (herror e).mp, ?_,
      soundTree_eq_ok_iff hmarked hlines origin⟩
    rw [← List.find?_isSome, Option.isSome_iff_exists]
    constructor
    · rintro ⟨e, he⟩
      obtain ⟨n, hn, -⟩ := (herror e).mp he
      exact ⟨n, hn⟩
    · rintro ⟨n, hn⟩
      exact ⟨_, (herror _).mpr ⟨n, hn, rfl⟩⟩
  refine ⟨hreported, fun source ↦ ?_⟩
  exact hreported (parse source) Node.hasError (Node.markedBy_hasError _) (countsLines_parse source)

/-- A class with a sound field and one that lacks its semicolon, before a stray brace: the failure
carries line 3, where the token is missing, and not line 4. -/
theorem first_fault_reported_before_stray_brace :
    let field := fun (start stop line : Nat) (children : List Node) ↦
      ({ kind := .construct .fieldDeclaration, span := ⟨start, stop, line⟩
         children := children } : Node)
    let body : Node :=
      { kind := .construct .classBody, span := ⟨8, 28, 1⟩
        children := [field 12 18 2 [], field 21 26 3 [{ kind := .missing, span := ⟨26, 26, 3⟩ }]] }
    let root : Node :=
      { kind := .construct .program, span := ⟨0, 29, 1⟩
        children :=
          [{ kind := .construct .classDeclaration, span := ⟨0, 28, 1⟩, children := [body] },
            { kind := .error, span := ⟨28, 29, 4⟩ }] }
    root.MarkedBy Node.hasError ∧ root.CountsLines ∧
      FaultReported "A.java" root Node.hasError ∧
        soundTree "A.java" root = .error (.syntaxError "A.java" (some 3)) := by
  intro field body root
  have hmarked := Node.markedBy_hasError root
  have hlines : root.CountsLines := by
    unfold Node.CountsLines
    decide
  exact ⟨hmarked, hlines, (first_fault_reported "A.java").1 root _ hmarked hlines, rfl⟩

end ApiSurvey
