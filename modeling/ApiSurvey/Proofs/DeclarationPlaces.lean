import ApiSurvey.Proofs.Extraction
import ApiSurvey.Proofs.TreePlaces
import ApiSurvey.Proofs.YieldContent
import Mathlib.Data.List.Nodup

/-!
# Declarations and members by their places

Declarations are found by a walk through the whole tree, members only in the body of their own
declaration. Main statement: the records of a unit belong one by one to the places of classes and
interfaces, outer before inner and otherwise in source order; the methods and fields of a record
belong to the direct members of that very body, so that each is read once and under its owner; and
the handlers of a file that holds no data shapes belong to the methods with a mapping that are
direct members of controllers.
-/

namespace ApiSurvey.Java

namespace Node

variable {root n : Node} {test : Node → Bool} {p q : List Nat}

/-- The places of the nodes that pass a test, in pre-order. -/
def placesOf (test : Node → Bool) (root : Node) : List (List Nat) :=
  root.places.filter fun p ↦ (root.at? p).any test

theorem mem_placesOf : p ∈ root.placesOf test ↔ ∃ n, root.at? p = some n ∧ test n = true := by
  rw [placesOf, List.mem_filter, mem_places, Option.any_eq_true]
  constructor
  · rintro ⟨-, n, hn, htest⟩
    exact ⟨n, hn, htest⟩
  · rintro ⟨n, hn, htest⟩
    exact ⟨⟨n, hn⟩, n, hn, htest⟩

theorem pairwise_placesOf (test : Node → Bool) (root : Node) :
    (root.placesOf test).Pairwise (· < ·) :=
  (pairwise_places root).filter _

theorem map_at?_placesOf (test : Node → Bool) (root : Node) :
    (root.placesOf test).map root.at? = (root.preorder.filter test).map some := by
  have hsplit : (root.places.map root.at?).filter (fun m ↦ m.any test) =
      (root.placesOf test).map root.at? := List.filter_map
  rw [← hsplit, map_at?_places, List.filter_map]
  rfl

/-! ## Members of a body -/

/-- The place of the body of the declaration at a place. -/
def bodyPlace? (root : Node) (p : List Nat) : Option (List Nat) :=
  (root.at? p).bind fun n ↦
    (n.children.findIdx? (·.part == some .body)).map fun i ↦ p ++ [i]

/-- The node at the second place is a direct member of the body of the node at the first. -/
def IsMemberOf (root : Node) (p q : List Nat) : Prop :=
  ∃ b j, root.bodyPlace? p = some b ∧ q = b ++ [j]

def childPlaces (test : Node → Bool) (root : Node) (b : List Nat) : List (List Nat) :=
  (root.at? b).elim [] fun body ↦ (body.children.findIdxs test).map fun j ↦ b ++ [j]

/-- The places of the direct members that pass a test, in order. -/
def memberPlaces (test : Node → Bool) (root : Node) (p : List Nat) : List (List Nat) :=
  (root.bodyPlace? p).elim [] (root.childPlaces test)

/-- The named node before the node at a place, among the children of the same node. -/
def before? (root : Node) (q : List Nat) : Option Node :=
  (root.at? q.dropLast).bind fun parent ↦
    ((parent.children.take (q.getLastD 0)).filter isNamed).getLast?

theorem at?_append_singleton (hn : root.at? p = some n) (j : Nat) :
    root.at? (p ++ [j]) = n.children[j]? := by
  rw [at?_append, hn, Option.bind_some, at?_cons]
  exact Option.bind_fun_some _

theorem bind_at?_bodyPlace? (hn : root.at? p = some n) :
    (root.bodyPlace? p).bind root.at? = n.childAs? .body := by
  rw [bodyPlace?, hn, Option.bind_some, Option.bind_map, childAs?,
    List.find?_eq_bind_findIdx?_getElem?]
  congr 1
  funext i
  exact at?_append_singleton hn i

theorem mem_childPlaces {b : List Nat} :
    q ∈ root.childPlaces test b ↔ ∃ j m, q = b ++ [j] ∧ root.at? q = some m ∧ test m = true := by
  unfold childPlaces
  cases hb : root.at? b with
  | none =>
      simp only [Option.elim_none, List.not_mem_nil, false_iff]
      rintro ⟨j, m, rfl, hm, -⟩
      rw [at?_append, hb] at hm
      cases hm
  | some body =>
      rw [Option.elim_some, List.mem_map]
      constructor
      · rintro ⟨j, hj, rfl⟩
        obtain ⟨hlt, htest⟩ := List.mem_findIdxs_iff_exists_getElem_pos.mp hj
        exact ⟨j, body.children[j], rfl, by simp [at?_append_singleton hb, hlt], htest⟩
      · rintro ⟨j, m, rfl, hm, htest⟩
        rw [at?_append_singleton hb] at hm
        obtain ⟨hlt, rfl⟩ := List.getElem?_eq_some_iff.mp hm
        exact ⟨j, List.mem_findIdxs_iff_exists_getElem_pos.mpr ⟨hlt, htest⟩, rfl⟩

theorem mem_memberPlaces :
    q ∈ root.memberPlaces test p ↔
      root.IsMemberOf p q ∧ ∃ m, root.at? q = some m ∧ test m = true := by
  unfold memberPlaces IsMemberOf
  cases root.bodyPlace? p with
  | none => simp
  | some b =>
      rw [Option.elim_some, mem_childPlaces]
      constructor
      · rintro ⟨j, m, hq, hm⟩
        exact ⟨⟨b, j, rfl, hq⟩, m, hm⟩
      · rintro ⟨⟨b', j, hb, hq⟩, m, hm⟩
        cases hb
        exact ⟨j, m, hq, hm⟩

/-- A member has one owner, two steps above it. -/
theorem IsMemberOf.owner (h : root.IsMemberOf p q) : p = q.dropLast.dropLast := by
  obtain ⟨b, j, hb, rfl⟩ := h
  obtain ⟨n, -, hb⟩ := Option.bind_eq_some_iff.mp hb
  obtain ⟨i, -, rfl⟩ := Option.map_eq_some_iff.mp hb
  rw [List.dropLast_concat, List.dropLast_concat]

theorem ne_of_lt (h : p < q) : p ≠ q := by
  rintro rfl
  exact List.lt_irrefl p h

theorem append_singleton_lt {b : List Nat} {i j : Nat} (h : i < j) : b ++ [i] < b ++ [j] := by
  induction b with
  | nil => exact List.cons_lt_cons_iff.mpr (.inl h)
  | cons k b ih => exact List.cons_lt_cons_iff.mpr (.inr ⟨rfl, ih⟩)

theorem pairwise_memberPlaces (test : Node → Bool) (root : Node) (p : List Nat) :
    (root.memberPlaces test p).Pairwise (· < ·) := by
  unfold memberPlaces
  cases root.bodyPlace? p with
  | none => exact List.Pairwise.nil
  | some b =>
      rw [Option.elim_some, childPlaces]
      cases root.at? b with
      | none => exact List.Pairwise.nil
      | some body => exact List.pairwise_findIdxs.map _ fun _ _ ↦ append_singleton_lt

/-- Whatever members are looked for, none is found twice over all owners. -/
theorem nodup_flatMap_memberPlaces (test : Node → Bool) {owners : List (List Nat)}
    (h : owners.Nodup) : (owners.flatMap (root.memberPlaces test)).Nodup := by
  rw [List.nodup_flatMap]
  constructor
  · intro p _
    apply (pairwise_memberPlaces test root p).imp
    exact ne_of_lt
  · apply h.imp
    intro p p' hne q hq hq'
    have howner := (mem_memberPlaces.mp hq).1.owner
    have howner' := (mem_memberPlaces.mp hq').1.owner
    exact hne (howner.trans howner'.symm)

/-- A list holds, once each, the members that pass a test of all nodes that pass another; the owner
of a member stands two steps above it. -/
structure ListsMembersOnce (root : Node) (owner test : Node → Bool) (members : List (List Nat)) :
    Prop where
  nodup : members.Nodup
  mem_iff : ∀ q, q ∈ members ↔
    root.IsMemberOf q.dropLast.dropLast q ∧
      (∃ n, root.at? q.dropLast.dropLast = some n ∧ owner n = true) ∧
      ∃ m, root.at? q = some m ∧ test m = true

theorem listsMembersOnce (root : Node) (owner test : Node → Bool) :
    root.ListsMembersOnce owner test
      ((root.placesOf owner).flatMap (root.memberPlaces test)) := by
  constructor
  · apply nodup_flatMap_memberPlaces
    apply (pairwise_placesOf owner root).imp
    exact ne_of_lt
  · intro q
    rw [List.mem_flatMap]
    constructor
    · rintro ⟨p, hp, hq⟩
      obtain ⟨hmember, hm⟩ := mem_memberPlaces.mp hq
      have howner := hmember.owner
      subst howner
      exact ⟨hmember, mem_placesOf.mp hp, hm⟩
    · rintro ⟨hmember, hn, hm⟩
      exact ⟨_, mem_placesOf.mpr hn, mem_memberPlaces.mpr ⟨hmember, hm⟩⟩

def bodyChildren (n : Node) : List Node :=
  (n.childAs? .body).elim [] (·.children)

/-- The members of a declaration without a body are none, those of any other the children of one
node. -/
theorem memberPlaces_cases (hn : root.at? p = some n) :
    (n.bodyChildren = [] ∧ ∀ test, root.memberPlaces test p = []) ∨
      ∃ b body, root.at? b = some body ∧ n.bodyChildren = body.children ∧
        ∀ test, root.memberPlaces test p = (body.children.findIdxs test).map fun j ↦ b ++ [j] := by
  have hbody := bind_at?_bodyPlace? hn
  unfold bodyChildren memberPlaces
  rw [← hbody]
  cases root.bodyPlace? p with
  | none => exact .inl ⟨rfl, fun _ ↦ rfl⟩
  | some b =>
      rw [Option.bind_some]
      unfold childPlaces
      cases hb : root.at? b with
      | none => exact .inl ⟨rfl, fun _ ↦ by rw [Option.elim_some, hb]; rfl⟩
      | some body => exact .inr ⟨b, body, hb, rfl, fun _ ↦ by rw [Option.elim_some, hb]; rfl⟩

theorem map_getElem?_findIdxs (test : Node → Bool) (before ns : List Node) :
    (ns.findIdxs test before.length).map ((before ++ ns)[·]?) = (ns.filter test).map some := by
  induction ns generalizing before with
  | nil => rfl
  | cons n ns ih =>
      have hrest := ih (before ++ [n])
      rw [List.length_append, List.length_singleton, List.append_assoc, List.singleton_append]
        at hrest
      rw [List.findIdxs_cons, List.filter_cons]
      split
      · rw [List.map_cons, List.map_cons, hrest]
        simp
      · exact hrest

theorem map_at?_memberPlaces (test : Node → Bool) (hn : root.at? p = some n) :
    (root.memberPlaces test p).map root.at? = (n.bodyChildren.filter test).map some := by
  rcases memberPlaces_cases hn with ⟨hchildren, hplaces⟩ | ⟨b, body, hb, hchildren, hplaces⟩
  · rw [hchildren, hplaces]
    rfl
  · rw [hchildren, hplaces, List.map_map]
    have hall := map_getElem?_findIdxs test [] body.children
    rw [List.nil_append, List.length_nil] at hall
    rw [← hall]
    apply List.map_congr_left
    intro j _
    exact at?_append_singleton hb j

theorem map_at?_flatMap_memberPlaces (owner test : Node → Bool) (root : Node) :
    ((root.placesOf owner).flatMap (root.memberPlaces test)).map root.at? =
      ((root.preorder.filter owner).flatMap fun n ↦ n.bodyChildren.filter test).map some := by
  have hplaces := map_at?_placesOf owner root
  -- only the agreement of places and nodes, one by one, carries the induction
  generalize root.placesOf owner = owners at hplaces ⊢
  generalize root.preorder.filter owner = nodes at hplaces ⊢
  induction owners generalizing nodes with
  | nil =>
      obtain rfl : nodes = [] := by simpa using hplaces.symm
      rfl
  | cons p owners ih =>
      cases nodes with
      | nil => cases hplaces
      | cons n nodes =>
          obtain ⟨hn, hplaces⟩ := List.cons.inj hplaces
          rw [List.flatMap_cons, List.flatMap_cons, List.map_append, List.map_append,
            ih nodes hplaces, map_at?_memberPlaces test hn]

theorem isNamed_of_is {c : Construct} (h : n.is c = true) : n.isNamed = true := by
  have hkind : n.kind = .construct c := by simpa [is] using h
  simp [isNamed, hkind]

end Node

/-! ## Records -/

variable {source : ByteArray} {root n : Node} {p : List Nat}

def isTypeDeclaration (n : Node) : Bool :=
  n.is .classDeclaration || n.is .interfaceDeclaration

def isField (n : Node) : Bool :=
  n.is .fieldDeclaration || n.is .constantDeclaration

theorem isNamed_of_isField (h : isField n = true) : n.isNamed = true := by
  rcases (Bool.or_eq_true ..).mp h with h | h <;> exact Node.isNamed_of_is h

theorem typeDeclarationsIn_eq_flatMap (ns : List Node) :
    typeDeclarationsIn ns = ns.flatMap typeDeclarations := by
  induction ns with
  | nil => rfl
  | cons n ns ih => rw [typeDeclarationsIn, List.flatMap_cons, ih]

theorem typeDeclarations_eq (n : Node) :
    typeDeclarations n =
      (if isTypeDeclaration n then [n] else []) ++ n.children.flatMap typeDeclarations := by
  rw [← typeDeclarationsIn_eq_flatMap]
  cases n
  rw [typeDeclarations, isTypeDeclaration]
  split <;> rfl

/-- The walk for declarations keeps the classes and interfaces of the tree in pre-order. -/
theorem typeDeclarations_eq_filter (n : Node) :
    typeDeclarations n = n.preorder.filter isTypeDeclaration := by
  induction n using Node.induction with
  | node n ih =>
      rw [typeDeclarations_eq, Node.preorder_eq, Node.preorderList_eq_flatMap, List.filter_cons,
        List.filter_flatMap, List.flatMap_congr ih]
      split <;> rfl

theorem map_classes (source : ByteArray) (root : Node) :
    (readUnit source root).classes.map some =
      (root.placesOf isTypeDeclaration).map fun p ↦ (root.at? p).map (readClass source) := by
  have hnodes := congrArg (List.map (Option.map (readClass source)))
    (Node.map_at?_placesOf isTypeDeclaration root)
  rw [List.map_map, List.map_map, ← typeDeclarations_eq_filter] at hnodes
  rw [readUnit, List.map_map]
  exact hnodes.symm

theorem methods_readClass (source : ByteArray) (n : Node) :
    (readClass source n).methods =
      (n.bodyChildren.filter (·.is .methodDeclaration)).map (readMethod source) := by
  have hnamed : (n.bodyChildren.filter Node.isNamed).filter (·.is .methodDeclaration) =
      n.bodyChildren.filter (·.is .methodDeclaration) := by
    rw [List.filter_filter]
    apply List.filter_congr
    intro m _
    cases hm : m.is .methodDeclaration with
    | false => rfl
    | true => exact Node.isNamed_of_is hm
  rw [← hnamed, readClass, Node.bodyChildren]
  cases n.childAs? .body <;> rfl

theorem fields_readClass (source : ByteArray) (n : Node) :
    (readClass source n).fields =
      readFields source none (n.bodyChildren.filter Node.isNamed) := by
  rw [readClass, Node.bodyChildren]
  cases n.childAs? .body <;> rfl

theorem map_methods (source : ByteArray) (hn : root.at? p = some n) :
    (readClass source n).methods.map some =
      (root.memberPlaces (·.is .methodDeclaration) p).map fun q ↦
        (root.at? q).map (readMethod source) := by
  have hnodes := congrArg (List.map (Option.map (readMethod source)))
    (Node.map_at?_memberPlaces (·.is .methodDeclaration) hn)
  rw [List.map_map, List.map_map] at hnodes
  rw [methods_readClass, List.map_map]
  exact hnodes.symm

/-- Field statements are read with the named node before them, wherever reading starts. -/
theorem map_readFields (source : ByteArray) (before ns : List Node) :
    (readFields source (before.filter Node.isNamed).getLast? (ns.filter Node.isNamed)).map some =
      (ns.findIdxs isField before.length).map fun j ↦
        (before ++ ns)[j]?.map
          (readField source (((before ++ ns).take j).filter Node.isNamed).getLast?) := by
  induction ns generalizing before with
  | nil => rfl
  | cons n ns ih =>
      -- `before` grows by one node at each step, so that the places stay those in the whole list
      have hrest := ih (before ++ [n])
      rw [List.length_append, List.length_singleton, List.append_assoc, List.singleton_append,
        List.filter_append] at hrest
      rw [List.findIdxs_cons, List.filter_cons]
      cases hnamed : n.isNamed with
      | false =>
          have hfield : isField n = false := by
            by_contra hfield
            rw [isNamed_of_isField (by simpa using hfield)] at hnamed
            cases hnamed
          rw [if_neg (by simp), hfield, if_neg (by simp), ← hrest]
          simp [hnamed]
      | true =>
          have hlast :
              (before.filter Node.isNamed ++ [n].filter Node.isNamed).getLast? = some n := by
            simp [hnamed]
          rw [hlast] at hrest
          rw [if_pos rfl, readFields]
          cases hfield : isField n with
          | false =>
              have hno : (n.is .fieldDeclaration || n.is .constantDeclaration) = false := hfield
              rw [hno, if_neg (by simp), if_neg (by simp)]
              exact hrest
          | true =>
              have hyes : (n.is .fieldDeclaration || n.is .constantDeclaration) = true := hfield
              rw [hyes, if_pos rfl, if_pos rfl, List.map_cons, List.map_cons, hrest]
              simp

theorem map_fields (source : ByteArray) (hn : root.at? p = some n) :
    (readClass source n).fields.map some =
      (root.memberPlaces isField p).map fun q ↦
        (root.at? q).map (readField source (root.before? q)) := by
  rw [fields_readClass]
  rcases Node.memberPlaces_cases hn with ⟨hchildren, hplaces⟩ | ⟨b, body, hb, hchildren, hplaces⟩
  · rw [hchildren, hplaces]
    rfl
  · have hall := map_readFields source [] body.children
    rw [hchildren, hplaces, List.map_map]
    refine hall.trans (List.map_congr_left fun j _ ↦ ?_)
    simp [Node.before?, hb, Node.at?_append_singleton hb]

/-! ## Handlers -/

/-- A declaration whose annotations make it a controller. -/
def isController (source : ByteArray) (n : Node) : Bool :=
  isTypeDeclaration n && Marker.hasKind .controller (readMarkers source n)

/-- A method whose annotations make it a handler. -/
def answersRequests (source : ByteArray) (n : Node) : Bool :=
  n.is .methodDeclaration && (readMarkers source n).any (·.kind.isMapping)

/-- The places of the methods that answer requests and are direct members of controllers. -/
def handlerPlaces (source : ByteArray) (root : Node) : List (List Nat) :=
  (root.placesOf (isController source)).flatMap (root.memberPlaces (answersRequests source))

theorem isHandler_readMethod (source : ByteArray) (n : Node) :
    (readMethod source n).isHandler = (readMarkers source n).any (·.kind.isMapping) := by
  rw [MethodDecl.isHandler, MethodDecl.mapping?, Marker.firstOf, Bool.eq_iff_iff,
    List.find?_isSome, List.any_eq_true]
  rfl

theorem handlers_ofClass (package : String) (source : ByteArray) (n : Node) :
    (RouteGroup.ofClass package (readClass source n)).handlers =
      (n.bodyChildren.filter (answersRequests source)).map
        (Handler.ofDecl ∘ readMethod source) := by
  have hfilter : (n.bodyChildren.filter (·.is .methodDeclaration)).filter
      (MethodDecl.isHandler ∘ readMethod source) =
        n.bodyChildren.filter (answersRequests source) := by
    rw [List.filter_filter]
    apply List.filter_congr
    intro m _
    rw [Function.comp_apply, isHandler_readMethod, answersRequests, Bool.and_comm]
  change ((readClass source n).methods.filter MethodDecl.isHandler).map Handler.ofDecl = _
  rw [methods_readClass, List.filter_map, hfilter, List.map_map]

theorem decide_role?_eq_routable (source : ByteArray) (n : Node) :
    decide ((readClass source n).role? false = some .routable) =
      Marker.hasKind .controller (readMarkers source n) := by
  change decide ((if Marker.hasKind .controller (readMarkers source n) then some Role.routable
    else none) = some .routable) = _
  cases Marker.hasKind .controller (readMarkers source n) <;> rfl

/-- The handlers of a file that holds no data shapes belong one by one to the methods that answer
requests and are direct members of controllers. -/
theorem map_handlers (source : ByteArray) (root : Node) {suffixes : List String} {path : String}
    (h : Shape.isShapeFile suffixes path = false) :
    ((Survey.groupsOfUnit suffixes path (readUnit source root)).flatMap (·.handlers)).map some =
      (handlerPlaces source root).map fun q ↦
        (root.at? q).map (Handler.ofDecl ∘ readMethod source) := by
  have hnodes := congrArg (List.map (Option.map (Handler.ofDecl ∘ readMethod source)))
    (Node.map_at?_flatMap_memberPlaces (isController source) (answersRequests source) root)
  rw [List.map_map, List.map_map] at hnodes
  have hcontrollers : ((typeDeclarations root).filter fun n ↦
      decide ((readClass source n).role? false = some .routable)) =
        root.preorder.filter (isController source) := by
    rw [typeDeclarations_eq_filter, List.filter_filter]
    apply List.filter_congr
    intro n _
    rw [decide_role?_eq_routable, isController, Bool.and_comm]
  have hhandlers : (Survey.groupsOfUnit suffixes path (readUnit source root)).flatMap (·.handlers) =
      ((root.preorder.filter (isController source)).flatMap fun n ↦
        n.bodyChildren.filter (answersRequests source)).map
          (Handler.ofDecl ∘ readMethod source) := by
    rw [Survey.groupsOfUnit, h, readUnit, List.filter_map, List.map_map, List.flatMap_map,
      List.map_flatMap, ← hcontrollers]
    congr 1
    funext n
    exact handlers_ofClass _ source n
  rw [hhandlers, List.map_map]
  exact hnodes.symm

/-- The record of the declaration at a place lists the direct members of its body, in source
order. -/
structure RecordsMembers (source : ByteArray) (root : Node) (p : List Nat) (c : ClassDecl) :
    Prop where
  methods : c.methods.map some =
    (root.memberPlaces (·.is .methodDeclaration) p).map fun q ↦
      (root.at? q).map (readMethod source)
  fields : c.fields.map some =
    (root.memberPlaces isField p).map fun q ↦
      (root.at? q).map (readField source (root.before? q))
  inOrder : ∀ test, (root.memberPlaces test p).Pairwise (· < ·)

/-- The handlers of a yield belong one by one to the methods that answer requests and are direct
members of controllers. -/
structure CountsHandlers (source : ByteArray) (root : Node) (y : Yield) : Prop where
  handlers : (y.groups.flatMap (·.handlers)).map some =
    (handlerPlaces source root).map fun q ↦ (root.at? q).map (Handler.ofDecl ∘ readMethod source)
  total : (y.groups.flatMap (·.handlers)).length = (handlerPlaces source root).length

theorem countsHandlers_of_yield {source : ByteArray} {root : Node} {t : FileTree} {l : Locator}
    {mishap? : Stage → Option Failure} {known : List String} {path : String} {y : Yield}
    (hfile : Shape.isShapeFile l.settings.suffixes path = false)
    (hy : (Survey.yieldOfUnit t l mishap? known path (readUnit source root)).value = .ok y) :
    CountsHandlers source root y := by
  have hgroups : y.groups =
      Survey.groupsOfUnit l.settings.suffixes path (readUnit source root) := by
    rw [Survey.value_yieldOfUnit] at hy
    rw [← eq_of_settle_eq_ok hy, Survey.groups_undisturbedYield]
  have hhandlers := map_handlers source root hfile
  rw [← hgroups] at hhandlers
  refine ⟨hhandlers, ?_⟩
  simpa using congrArg List.length hhandlers

/-- Every class and interface of a tree is read once, an outer one before those inside it and
otherwise in source order; every method and field statement is read once, under the class or
interface whose body it is a direct member of, and in source order; members of other bodies are not
read. The handlers of a file that holds no data shapes are the methods that answer requests and are
direct members of controllers, each counted once. -/
theorem declarations_read_once (source : ByteArray) (root : Node) :
    (readUnit source root).classes.map some =
        (root.placesOf isTypeDeclaration).map (fun p ↦ (root.at? p).map (readClass source)) ∧
      (root.placesOf isTypeDeclaration).Pairwise (· < ·) ∧
      (∀ p, p ∈ root.placesOf isTypeDeclaration ↔
        ∃ n, root.at? p = some n ∧ isTypeDeclaration n = true) ∧
      (root.LaidOut → ∀ p q a b, p < q → root.at? p = some a → root.at? q = some b →
        p <+: q ∨ a.span.stop ≤ b.span.start) ∧
      (∀ p n, root.at? p = some n → RecordsMembers source root p (readClass source n)) ∧
      (∀ test, root.ListsMembersOnce isTypeDeclaration test
        ((root.placesOf isTypeDeclaration).flatMap (root.memberPlaces test))) ∧
      root.ListsMembersOnce (isController source) (answersRequests source)
        (handlerPlaces source root) ∧
      ∀ (t : FileTree) (l : Locator) (known : List String) (path : String),
        Shape.isShapeFile l.settings.suffixes path = false →
        (∃ y, (Survey.yieldOfUnit t l (Mishaps.none path) known path (readUnit source root)).value =
          .ok y) ∧
        ∀ mishap? y,
          (Survey.yieldOfUnit t l mishap? known path (readUnit source root)).value = .ok y →
          CountsHandlers source root y := by
  refine ⟨map_classes source root, Node.pairwise_placesOf _ root, fun p ↦ Node.mem_placesOf,
    ?_, ?_, Node.listsMembersOnce root _, Node.listsMembersOnce root _ _, ?_⟩
  · intro hlaid p q a b hlt ha hb
    exact hlaid.isPrefix_or_stop_le hlt ha hb
  · intro p n hn
    exact ⟨map_methods source hn, map_fields source hn,
      fun test ↦ Node.pairwise_memberPlaces test root p⟩
  · intro t l known path hfile
    constructor
    · refine ⟨Survey.undisturbedYield t l known path (readUnit source root), ?_⟩
      rw [Survey.value_yieldOfUnit, Survey.findSome?_none]
      rfl
    · intro mishap? y hy
      exact countsHandlers_of_yield hfile hy

/-- A controller with a nested controller and a nested enumeration, each with a method that has a
mapping: the outer and the nested controller have one handler each. -/
theorem declarations_read_once_of_nested :
    let source : ByteArray := ("@Controller class A \x7b @GetMapping void f() \x7b\x7d " ++
      "@Controller class B \x7b @GetMapping void g() \x7b\x7d \x7d " ++
      "enum E \x7b ; @GetMapping void h() \x7b\x7d \x7d \x7d").toUTF8
    let name (start stop : Nat) : Node :=
      { kind := .construct .simpleName, part := some .name, span := ⟨start, stop, 1⟩ }
    let marked (start stop : Nat) : Node :=
      { kind := .construct .modifiers, span := ⟨start, stop, 1⟩
        children := [{ kind := .construct .annotationUse, span := ⟨start, stop, 1⟩
                       children := [name (start + 1) stop] }] }
    let method (start mark stop : Nat) : Node :=
      { kind := .construct .methodDeclaration, span := ⟨start, stop, 1⟩
        children := [marked start mark, name (mark + 6) (mark + 7)] }
    let body (c : Construct) (start stop : Nat) (members : List Node) : Node :=
      { kind := .construct c, part := some .body, span := ⟨start, stop, 1⟩, children := members }
    let b : Node :=
      { kind := .construct .classDeclaration, span := ⟨46, 93, 1⟩
        children := [marked 46 57, name 64 65, body .classBody 66 93 [method 68 79 91]] }
    let e : Node :=
      { kind := .construct .enumDeclaration, span := ⟨94, 130, 1⟩
        children := [name 99 100, body .enumBody 101 130 [
          { kind := .construct .enumBodyDeclarations, span := ⟨103, 128, 1⟩
            children := [method 105 116 128] }]] }
    let a : Node :=
      { kind := .construct .classDeclaration, span := ⟨0, 132, 1⟩
        children := [marked 0 11, name 18 19, body .classBody 20 132 [method 22 33 45, b, e]] }
    let root : Node := { kind := .construct .program, span := ⟨0, 132, 1⟩, children := [a] }
    let t : FileTree := { root := .directory [] }
    let l : Locator := { searchRoot := some "/", settings := {} }
    root.LaidOut ∧ Shape.isShapeFile l.settings.suffixes "A.java" = false ∧
      root.placesOf isTypeDeclaration = [[0], [0, 2, 1]] ∧
      (readUnit source root).classes.map some =
        [some (readClass source a), some (readClass source b)] ∧
      ([0] <+: [0, 2, 1] ∨ a.span.stop ≤ b.span.start) ∧
      RecordsMembers source root [0, 2, 1] (readClass source b) ∧
      handlerPlaces source root = [[0, 2, 0], [0, 2, 1, 2, 0]] ∧
      ∃ y, (Survey.yieldOfUnit t l (Mishaps.none "A.java") [] "A.java"
          (readUnit source root)).value = .ok y ∧
        (y.groups.flatMap (·.handlers)).length = 2 := by
  intro source name marked method body b e a root t l
  have hlaid : root.LaidOut := by
    unfold Node.LaidOut
    decide
  have hfile : Shape.isShapeFile l.settings.suffixes "A.java" = false := by decide
  have hplaces : root.placesOf isTypeDeclaration = [[0], [0, 2, 1]] := by decide
  have hhandlers : handlerPlaces source root = [[0, 2, 0], [0, 2, 1, 2, 0]] := by decide +kernel
  obtain ⟨hclasses, -, -, horder, hmembers, -, -, hyield⟩ := declarations_read_once source root
  obtain ⟨⟨y, hy⟩, hcounts⟩ := hyield t l [] "A.java" hfile
  have htotal := (hcounts _ y hy).total
  rw [hhandlers] at htotal
  rw [hplaces] at hclasses
  exact ⟨hlaid, hfile, hplaces, hclasses, horder hlaid _ _ a b (by decide) rfl rfl,
    hmembers [0, 2, 1] b rfl, hhandlers, y, hy, htotal⟩

end ApiSurvey.Java
