import ApiSurvey.Java.Tree
import Mathlib.Data.List.Basic

/-!
# Places in a tree

A place lists the indices of children on the way down from the root, so that two nodes that look
alike are told apart. Main statements: the places of a tree are listed once each, a node before
those below it and otherwise from left to right, and the nodes at them are the tree in pre-order.
In a tree whose children stand one after another inside their parent, of two places in this order
the first is above the second or its text ends before that of the second begins.
-/

namespace ApiSurvey.Java.Node

/-- A property of all trees that each has when its children have it. -/
theorem induction {P : Node → Prop} (node : ∀ n, (∀ c ∈ n.children, P c) → P n) (n : Node) : P n :=
  node n fun c _ ↦ induction node c
termination_by sizeOf n
decreasing_by
  rename_i hc
  have hlt := List.sizeOf_lt_of_mem hc
  obtain ⟨kind, part, span, children⟩ := n
  simp only [mk.sizeOf_spec]
  simp only at hlt
  omega

/-- The node at a place. -/
def at? : Node → List Nat → Option Node
  | n, [] => some n
  | n, i :: p => n.children[i]?.bind (·.at? p)

mutual

/-- The places of a tree in pre-order. -/
def places : Node → List (List Nat)
  | ⟨_, _, _, children⟩ => [] :: placesFrom 0 children

/-- The places below the children of a node, the first of which is the `i`-th. -/
def placesFrom (i : Nat) : List Node → List (List Nat)
  | [] => []
  | n :: ns => n.places.map (i :: ·) ++ placesFrom (i + 1) ns

end

theorem places_eq (n : Node) : n.places = [] :: placesFrom 0 n.children := by
  cases n
  rfl

theorem preorder_eq (n : Node) : n.preorder = n :: preorderList n.children := by
  cases n
  rfl

theorem preorderList_eq_flatMap (ns : List Node) : preorderList ns = ns.flatMap preorder := by
  induction ns with
  | nil => rfl
  | cons n ns ih => rw [preorderList, List.flatMap_cons, ih]

@[simp] theorem at?_nil (n : Node) : n.at? [] = some n := rfl

theorem at?_cons (n : Node) (i : Nat) (p : List Nat) :
    n.at? (i :: p) = n.children[i]?.bind (·.at? p) := rfl

theorem at?_append (n : Node) (p q : List Nat) : n.at? (p ++ q) = (n.at? p).bind (·.at? q) := by
  induction p generalizing n with
  | nil => rfl
  | cons i p ih =>
      rw [List.cons_append, at?_cons, at?_cons, Option.bind_assoc]
      congr 1
      funext c
      exact ih c

/-! ## Places in pre-order -/

theorem mem_placesFrom {i : Nat} {ns : List Node} {p : List Nat} :
    p ∈ placesFrom i ns ↔ ∃ j q n, ns[j]? = some n ∧ q ∈ n.places ∧ p = (i + j) :: q := by
  induction ns generalizing i with
  | nil => simp [placesFrom]
  | cons n ns ih =>
      rw [placesFrom, List.mem_append, List.mem_map, ih]
      constructor
      · rintro (⟨q, hq, rfl⟩ | ⟨j, q, m, hm, hq, rfl⟩)
        · exact ⟨0, q, n, rfl, hq, rfl⟩
        · exact ⟨j + 1, q, m, by simpa using hm, hq, by congr 1; omega⟩
      · rintro ⟨j, q, m, hm, hq, rfl⟩
        cases j with
        | zero =>
            obtain rfl : n = m := by simpa using hm
            exact .inl ⟨q, hq, rfl⟩
        | succ j => exact .inr ⟨j, q, m, by simpa using hm, hq, by congr 1; omega⟩

theorem mem_places {n : Node} {p : List Nat} : p ∈ n.places ↔ ∃ m, n.at? p = some m := by
  induction p generalizing n with
  | nil => simp [places_eq]
  | cons i p ih =>
      rw [places_eq, List.mem_cons, mem_placesFrom]
      simp only [reduceCtorEq, false_or, Nat.zero_add, List.cons.injEq, at?_cons,
        Option.bind_eq_some_iff]
      constructor
      · rintro ⟨j, q, c, hc, hq, rfl, rfl⟩
        obtain ⟨m, hm⟩ := ih.mp hq
        exact ⟨m, c, hc, hm⟩
      · rintro ⟨m, c, hc, hm⟩
        exact ⟨i, p, c, hc, ih.mpr ⟨m, hm⟩, rfl, rfl⟩

theorem pairwise_placesFrom {ns : List Node} (i : Nat)
    (h : ∀ n ∈ ns, n.places.Pairwise (· < ·)) : (placesFrom i ns).Pairwise (· < ·) := by
  induction ns generalizing i with
  | nil => exact List.Pairwise.nil
  | cons n ns ih =>
      rw [placesFrom, List.pairwise_append, List.pairwise_map]
      refine ⟨?_, ih (i + 1) fun m hm ↦ h m (List.mem_cons_of_mem _ hm), ?_⟩
      · exact (h n List.mem_cons_self).imp fun hlt ↦ List.cons_lt_cons_iff.mpr (.inr ⟨rfl, hlt⟩)
      · intro p hp q hq
        obtain ⟨p, -, rfl⟩ := List.mem_map.mp hp
        obtain ⟨j, q, -, -, -, rfl⟩ := mem_placesFrom.mp hq
        exact List.cons_lt_cons_iff.mpr (.inl (by omega))

/-- No place is listed twice: each comes before all that follow it. -/
theorem pairwise_places (n : Node) : n.places.Pairwise (· < ·) := by
  induction n using induction with
  | node n ih =>
      rw [places_eq, List.pairwise_cons]
      refine ⟨?_, pairwise_placesFrom 0 ih⟩
      intro p hp
      obtain ⟨j, q, -, -, -, rfl⟩ := mem_placesFrom.mp hp
      exact List.nil_lt_cons _ _

theorem map_at?_placesFrom {n : Node} (before : List Node) {ns : List Node}
    (hn : n.children = before ++ ns) (h : ∀ c ∈ ns, c.places.map c.at? = c.preorder.map some) :
    (placesFrom before.length ns).map n.at? = (preorderList ns).map some := by
  induction ns generalizing before with
  | nil => rfl
  | cons c ns ih =>
      have hc : n.children[before.length]? = some c := by simp [hn]
      have hfirst : (n.at? ∘ fun p ↦ before.length :: p) = c.at? := by
        funext p
        simp [at?_cons, hc]
      have hrest := ih (before ++ [c]) (by simp [hn])
        fun d hd ↦ h d (List.mem_cons_of_mem _ hd)
      rw [placesFrom, preorderList, List.map_append, List.map_append, List.map_map, hfirst,
        h c List.mem_cons_self]
      simpa using hrest

/-- The nodes at the places of a tree are its nodes in pre-order. -/
theorem map_at?_places (n : Node) : n.places.map n.at? = n.preorder.map some := by
  induction n using induction with
  | node n ih =>
      rw [places_eq, preorder_eq, List.map_cons, List.map_cons, at?_nil]
      congr 1
      exact map_at?_placesFrom [] rfl ih

/-! ## Source order -/

theorem mem_preorder {n m : Node} : m ∈ n.preorder ↔ ∃ p, n.at? p = some m := by
  have hsome : some m ∈ n.places.map n.at? ↔ m ∈ n.preorder := by
    rw [map_at?_places]
    simp
  rw [← hsome, List.mem_map]
  constructor
  · rintro ⟨p, -, hp⟩
    exact ⟨p, hp⟩
  · rintro ⟨p, hp⟩
    exact ⟨p, mem_places.mpr ⟨m, hp⟩, hp⟩

theorem mem_preorder_iff {n m : Node} :
    m ∈ n.preorder ↔ m = n ∨ ∃ c ∈ n.children, m ∈ c.preorder := by
  rw [preorder_eq, preorderList_eq_flatMap, List.mem_cons, List.mem_flatMap]

theorem self_mem_preorder (n : Node) : n ∈ n.preorder :=
  mem_preorder_iff.mpr (.inl rfl)

theorem mem_preorder_of_child {n c m : Node} (hc : c ∈ n.children) (hm : m ∈ c.preorder) :
    m ∈ n.preorder := by
  obtain ⟨i, hi⟩ := List.mem_iff_getElem?.mp hc
  obtain ⟨p, hp⟩ := mem_preorder.mp hm
  refine mem_preorder.mpr ⟨i :: p, ?_⟩
  rw [at?_cons, hi]
  exact hp

/-- All nodes of a tree have a property when its root has it and all nodes below its children. -/
theorem forall_mem_preorder_iff {P : Node → Prop} {n : Node} :
    (∀ m ∈ n.preorder, P m) ↔ P n ∧ ∀ c ∈ n.children, ∀ m ∈ c.preorder, P m := by
  constructor
  · intro h
    exact ⟨h n (self_mem_preorder n), fun c hc m hm ↦ h m (mem_preorder_of_child hc hm)⟩
  · rintro ⟨hn, hchildren⟩ m hm
    rcases mem_preorder_iff.mp hm with rfl | ⟨c, hc, hm⟩
    · exact hn
    · exact hchildren c hc m hm

/-- The children of each node stand one after another inside it. -/
def LaidOut (root : Node) : Prop :=
  ∀ n ∈ root.preorder,
    (∀ c ∈ n.children, n.span.start ≤ c.span.start ∧ c.span.stop ≤ n.span.stop) ∧
      n.children.Pairwise (·.span.stop ≤ ·.span.start)

theorem LaidOut.child {n c : Node} (h : n.LaidOut) (hc : c ∈ n.children) : c.LaidOut :=
  fun m hm ↦ h m (mem_preorder_of_child hc hm)

theorem LaidOut.children {n : Node} (h : n.LaidOut) :
    (∀ c ∈ n.children, n.span.start ≤ c.span.start ∧ c.span.stop ≤ n.span.stop) ∧
      n.children.Pairwise (·.span.stop ≤ ·.span.start) :=
  h n (mem_preorder.mpr ⟨[], rfl⟩)

/-- A node stands inside those above it. -/
theorem LaidOut.inside {n m : Node} (h : n.LaidOut) {p : List Nat} (hm : n.at? p = some m) :
    n.span.start ≤ m.span.start ∧ m.span.stop ≤ n.span.stop := by
  induction p generalizing n with
  | nil =>
      obtain rfl : n = m := by simpa using hm
      exact ⟨Nat.le_refl _, Nat.le_refl _⟩
  | cons i p ih =>
      obtain ⟨c, hc, hm⟩ := Option.bind_eq_some_iff.mp hm
      have hmem := List.mem_of_getElem? hc
      have hbelow := ih (h.child hmem) hm
      have hchild := h.children.1 c hmem
      omega

/-- Of two places in order, the first is above the second or its text ends first. -/
theorem LaidOut.isPrefix_or_stop_le {n a b : Node} (h : n.LaidOut) {p q : List Nat} (hlt : p < q)
    (ha : n.at? p = some a) (hb : n.at? q = some b) :
    p <+: q ∨ a.span.stop ≤ b.span.start := by
  induction p generalizing n q with
  | nil => exact .inl (List.nil_prefix)
  | cons i p ih =>
      cases q with
      | nil => exact absurd hlt (List.not_lt_nil _)
      | cons j q =>
          obtain ⟨c, hc, ha⟩ := Option.bind_eq_some_iff.mp ha
          obtain ⟨d, hd, hb⟩ := Option.bind_eq_some_iff.mp hb
          rcases List.cons_lt_cons_iff.mp hlt with hij | ⟨rfl, hbelow⟩
          · have horder : c.span.stop ≤ d.span.start := by
              obtain ⟨hi, rfl⟩ := List.getElem?_eq_some_iff.mp hc
              obtain ⟨hj, rfl⟩ := List.getElem?_eq_some_iff.mp hd
              exact List.pairwise_iff_getElem.mp h.children.2 i j hi hj hij
            have hleft := (h.child (List.mem_of_getElem? hc)).inside ha
            have hright := (h.child (List.mem_of_getElem? hd)).inside hb
            exact .inr (by omega)
          · obtain rfl : c = d := Option.some.inj (hc.symm.trans hd)
            have hsame := ih (h.child (List.mem_of_getElem? hc)) hbelow ha hb
            rw [List.cons_prefix_cons]
            exact hsame.imp_left fun hprefix ↦ ⟨rfl, hprefix⟩

end ApiSurvey.Java.Node
