import ApiSurvey.Java.Reader
import ApiSurvey.Proofs.TreePlaces
import Mathlib.Data.List.Forall2

/-!
# Trees with one more comment

A comment put into a source, with blanks around it, moves what follows and is a child of the
innermost node that it stands in. Main statements: a node that the comment does not interrupt keeps
its text, and whatever test tells the children of a node apart by kind and part finds the same
children in the same order, unless it lets comments pass.
-/

namespace ApiSurvey.Java

/-- A comment put into a source before the byte at an offset, with blanks around it. -/
structure Remark where
  offset : Nat
  lead : ByteArray
  body : ByteArray
  trail : ByteArray
  /-- The line on which the comment starts. -/
  line : Nat

namespace Remark

def inserted (r : Remark) : ByteArray :=
  r.lead ++ r.body ++ r.trail

def into (r : Remark) (source : ByteArray) : ByteArray :=
  source.extract 0 r.offset ++ r.inserted ++ source.extract r.offset source.size

def comment (r : Remark) : Node :=
  { kind := .comment
    span := ⟨r.offset + r.lead.size, r.offset + r.lead.size + r.body.size, r.line⟩ }

/-- The comment stands before or after a node, not inside it. -/
def Avoids (r : Remark) (n : Node) : Prop :=
  n.span.stop ≤ r.offset ∨ r.offset ≤ n.span.start

instance (r : Remark) (n : Node) : Decidable (r.Avoids n) :=
  inferInstanceAs (Decidable (_ ∨ _))

/-- A node is the innermost that the comment stands in. -/
def StandsIn (r : Remark) (n : Node) : Prop :=
  ¬r.Avoids n ∧ ∀ c ∈ n.children, r.Avoids c

instance (r : Remark) (n : Node) : Decidable (r.StandsIn n) :=
  inferInstanceAs (Decidable (_ ∧ _))

/-- A node is what another was before the comment was put in, its children apart. The line may be
another. -/
structure SameHead (r : Remark) (n n' : Node) : Prop where
  kind : n'.kind = n.kind
  part : n'.part = n.part
  start : n'.span.start =
    if r.offset ≤ n.span.start then n.span.start + r.inserted.size else n.span.start
  stop : n'.span.stop =
    if r.offset < n.span.stop then n.span.stop + r.inserted.size else n.span.stop

/-- A tree and the tree with the comment in it, where the comment is a child of the innermost node
that it stands in. -/
inductive Copied (r : Remark) : Node → Node → Prop
  | plain {n n' : Node} (head : SameHead r n n') (outside : ¬r.StandsIn n)
      (children : List.Forall₂ (Copied r) n.children n'.children) : Copied r n n'
  | remarked {n n' : Node} (head : SameHead r n n') (inside : ¬r.Avoids n)
      {before after before' after' : List Node}
      (split : n.children = before ++ after) (split' : n'.children = before' ++ r.comment :: after')
      (left : List.Forall₂ (Copied r) before before')
      (right : List.Forall₂ (Copied r) after after')
      (ends : ∀ c ∈ before, c.span.stop ≤ r.offset)
      (starts : ∀ c ∈ after, r.offset ≤ c.span.start ∧ r.offset < c.span.stop) : Copied r n n'

@[simp] theorem is_comment (r : Remark) (c : Construct) : r.comment.is c = false := rfl

@[simp] theorem isNamed_comment (r : Remark) : r.comment.isNamed = true := rfl

@[simp] theorem isComment_comment (r : Remark) : r.comment.isComment = true := rfl

variable {r : Remark} {n n' : Node} {source : ByteArray}

/-! ## Texts -/

theorem toList_extract (a : ByteArray) (i j : Nat) :
    (a.extract i j).data.toList = (a.data.toList.take j).drop i := by
  rw [ByteArray.data_extract, Array.toList_extract, List.extract_eq_take_drop, List.drop_take]

theorem toList_into (r : Remark) (source : ByteArray) :
    (r.into source).data.toList = source.data.toList.take r.offset ++ r.inserted.data.toList ++
      source.data.toList.drop r.offset := by
  have hall : source.data.toList.take source.size = source.data.toList :=
    List.take_of_length_le (Nat.le_refl _)
  rw [into, ByteArray.toList_data_append, ByteArray.toList_data_append, toList_extract,
    toList_extract, hall, List.drop_zero]

/-- A stretch of a list that lies on one side of what is put in stays as it is. -/
theorem drop_take_insert {α : Type} (l inserted : List α) {offset start stop : Nat}
    (hoffset : offset ≤ l.length) (h : stop ≤ offset ∨ offset ≤ start) :
    ((l.take offset ++ inserted ++ l.drop offset).take
        (if offset < stop then stop + inserted.length else stop)).drop
      (if offset ≤ start then start + inserted.length else start) = (l.take stop).drop start := by
  have hlength : (l.take offset).length = offset := by
    rw [List.length_take, Nat.min_eq_left hoffset]
  rcases Nat.lt_or_ge start stop with hlt | hempty
  · rcases h with hstop | hstart
    · rw [if_neg (by omega), if_neg (by omega), List.append_assoc,
        List.take_append_of_le_length (by omega), List.take_take, Nat.min_eq_left hstop]
    · have hfront : (l.take offset ++ inserted).length = offset + inserted.length := by
        rw [List.length_append, hlength]
      have hplace : offset + (start + inserted.length - (offset + inserted.length)) = start := by
        omega
      rw [if_pos hstart, if_pos (by omega), List.drop_take, List.drop_take, List.drop_append,
        List.drop_eq_nil_of_le (by omega), List.nil_append, hfront, List.drop_drop, hplace,
        Nat.add_sub_add_right]
  · -- an empty stretch, wherever it lies
    have hmoved : (if offset < stop then stop + inserted.length else stop) ≤
        if offset ≤ start then start + inserted.length else start := by
      split <;> split <;> omega
    rw [List.drop_eq_nil_of_le (Nat.le_trans (List.length_take_le ..) hmoved),
      List.drop_eq_nil_of_le (Nat.le_trans (List.length_take_le ..) hempty)]

/-- A node that the comment does not interrupt keeps its text. -/
theorem SameHead.text_eq (h : SameHead r n n') (havoids : r.Avoids n)
    (hoffset : r.offset ≤ source.size) : n'.text (r.into source) = n.text source := by
  have hstretch := drop_take_insert source.data.toList r.inserted.data.toList hoffset havoids
  unfold Node.text Text.decodeBytes
  rw [toList_extract, toList_extract, toList_into, h.start, h.stop]
  exact congrArg (fun bytes ↦ String.ofList (Text.decode bytes)) hstretch

theorem text_comment (r : Remark) (hoffset : r.offset ≤ source.size) :
    r.comment.text (r.into source) = Text.decodeBytes r.body := by
  have hfront : (source.data.toList.take r.offset ++ r.lead.data.toList).length =
      r.offset + r.lead.size := by
    rw [List.length_append, List.length_take]
    exact congrArg (· + r.lead.size) (Nat.min_eq_left hoffset)
  have hsplit : (r.into source).data.toList =
      (source.data.toList.take r.offset ++ r.lead.data.toList) ++ r.body.data.toList ++
        (r.trail.data.toList ++ source.data.toList.drop r.offset) := by
    rw [toList_into, inserted, ByteArray.toList_data_append, ByteArray.toList_data_append]
    simp only [List.append_assoc]
  have hbody : ((r.into source).data.toList.take (r.offset + r.lead.size + r.body.size)).drop
      (r.offset + r.lead.size) = r.body.data.toList := by
    rw [hsplit, List.take_left' (by rw [List.length_append, hfront]; rfl), List.drop_left' hfront]
  unfold Node.text Text.decodeBytes
  rw [toList_extract]
  exact congrArg (fun bytes ↦ String.ofList (Text.decode bytes)) hbody

/-! ## Children -/

variable {β : Type}

theorem Copied.head (h : Copied r n n') : SameHead r n n' := by
  cases h with
  | plain head => exact head
  | remarked head => exact head

theorem standsIn_of_split {before after : List Node} (hinside : ¬r.Avoids n)
    (hsplit : n.children = before ++ after) (hends : ∀ c ∈ before, c.span.stop ≤ r.offset)
    (hstarts : ∀ c ∈ after, r.offset ≤ c.span.start ∧ r.offset < c.span.stop) : r.StandsIn n := by
  refine ⟨hinside, ?_⟩
  intro c hc
  rw [hsplit] at hc
  rcases List.mem_append.mp hc with hc | hc
  · exact .inl (hends c hc)
  · exact .inr (hstarts c hc).1

/-- The children of a copy are copies in the same order, but for the comment. -/
theorem Copied.exists_copies (h : Copied r n n') :
    ∃ copies, List.Forall₂ (Copied r) n.children copies ∧
      (n'.children = copies ∨ ∃ before after, copies = before ++ after ∧
        n'.children = before ++ r.comment :: after) := by
  cases h with
  | plain _ _ children => exact ⟨_, children, .inl rfl⟩
  | remarked _ _ split split' left right =>
      rw [split]
      exact ⟨_, List.rel_append left right, .inr ⟨_, _, rfl, split'⟩⟩

theorem flatMap_eq_of_forall₂ {f f' : Node → List β} {l l' : List Node}
    (h : List.Forall₂ (Copied r) l l') (hf : ∀ c ∈ l, ∀ c', Copied r c c' → f' c' = f c) :
    l'.flatMap f' = l.flatMap f := by
  induction h with
  | nil => rfl
  | cons hcopy _ ih =>
      rw [List.flatMap_cons, List.flatMap_cons, hf _ List.mem_cons_self _ hcopy,
        ih fun c hc ↦ hf c (List.mem_cons_of_mem _ hc)]

/-- What is gathered from the children is the same when nothing is gathered from comments. -/
theorem Copied.flatMap_children {f f' : Node → List β} (h : Copied r n n')
    (hcomment : f' r.comment = []) (hf : ∀ c ∈ n.children, ∀ c', Copied r c c' → f' c' = f c) :
    n'.children.flatMap f' = n.children.flatMap f := by
  obtain ⟨copies, hcopies, hchildren | ⟨before, after, hsplit, hchildren⟩⟩ := h.exists_copies
  · rw [hchildren]
    exact flatMap_eq_of_forall₂ hcopies hf
  · have hskip : n'.children.flatMap f' = copies.flatMap f' := by
      rw [hchildren, hsplit, List.flatMap_append, List.flatMap_append, List.flatMap_cons, hcomment,
        List.nil_append]
    rw [hskip]
    exact flatMap_eq_of_forall₂ hcopies hf

theorem Copied.filterMap_children {f f' : Node → Option β} (h : Copied r n n')
    (hcomment : f' r.comment = none) (hf : ∀ c ∈ n.children, ∀ c', Copied r c c' → f' c' = f c) :
    n'.children.filterMap f' = n.children.filterMap f := by
  rw [List.filterMap_eq_flatMap_toList, List.filterMap_eq_flatMap_toList]
  apply h.flatMap_children
  · rw [hcomment]
    rfl
  · intro c hc c' hcopy
    rw [hf c hc c' hcopy]

/-- A test that looks at kind and part only. -/
def ByHead (test : Node → Bool) : Prop :=
  ∀ c c' : Node, c'.kind = c.kind → c'.part = c.part → test c' = test c

theorem Copied.test_eq {test : Node → Bool} (htest : ByHead test) (h : Copied r n n') :
    test n' = test n :=
  htest n n' h.head.kind h.head.part

theorem map_filter_eq_of_forall₂ {test : Node → Bool} {f f' : Node → β} {l l' : List Node}
    (h : List.Forall₂ (Copied r) l l') (htest : ByHead test)
    (hf : ∀ c ∈ l.filter test, ∀ c', Copied r c c' → f' c' = f c) :
    (l'.filter test).map f' = (l.filter test).map f := by
  induction h with
  | nil => rfl
  | @cons c c' _ _ hcopy _ ih =>
      rw [List.filter_cons] at hf
      rw [List.filter_cons, List.filter_cons, hcopy.test_eq htest]
      split
      · rename_i hpass
        rw [if_pos hpass] at hf
        rw [List.map_cons, List.map_cons, hf c List.mem_cons_self c' hcopy,
          ih fun d hd ↦ hf d (List.mem_cons_of_mem _ hd)]
      · rename_i hfail
        rw [if_neg hfail] at hf
        exact ih hf

/-- What is read of the children that pass a test is the same, unless the test lets the comment
pass. -/
theorem Copied.map_filter_children {test : Node → Bool} {f f' : Node → β} (h : Copied r n n')
    (htest : ByHead test) (hcomment : test r.comment = false)
    (hf : ∀ c ∈ n.children.filter test, ∀ c', Copied r c c' → f' c' = f c) :
    (n'.children.filter test).map f' = (n.children.filter test).map f := by
  obtain ⟨copies, hcopies, hchildren | ⟨before, after, hsplit, hchildren⟩⟩ := h.exists_copies
  · rw [hchildren]
    exact map_filter_eq_of_forall₂ hcopies htest hf
  · have hskip : n'.children.filter test = copies.filter test := by
      rw [hchildren, hsplit, List.filter_append, List.filter_append, List.filter_cons, hcomment]
      rfl
    rw [hskip]
    exact map_filter_eq_of_forall₂ hcopies htest hf

theorem find?_rel_of_forall₂ {test : Node → Bool} {l l' : List Node}
    (h : List.Forall₂ (Copied r) l l') (htest : ByHead test) :
    Option.Rel (Copied r) (l.find? test) (l'.find? test) := by
  induction h with
  | nil => exact .none
  | @cons c c' _ _ hcopy _ ih =>
      rw [List.find?_cons, List.find?_cons, hcopy.test_eq htest]
      cases test c with
      | true => exact .some hcopy
      | false => exact ih

/-- The child that a test finds first is the same, unless the test lets the comment pass. -/
theorem Copied.find?_children {test : Node → Bool} (h : Copied r n n') (htest : ByHead test)
    (hcomment : test r.comment = false) :
    Option.Rel (Copied r) (n.children.find? test) (n'.children.find? test) := by
  obtain ⟨copies, hcopies, hchildren | ⟨before, after, hsplit, hchildren⟩⟩ := h.exists_copies
  · rw [hchildren]
    exact find?_rel_of_forall₂ hcopies htest
  · have hskip : n'.children.find? test = copies.find? test := by
      rw [hchildren, hsplit, List.find?_append, List.find?_append, List.find?_cons, hcomment]
    rw [hskip]
    exact find?_rel_of_forall₂ hcopies htest

theorem byHead_is (c : Construct) : ByHead (Node.is c) := by
  intro n n' hkind _
  simp only [Node.is, hkind]

theorem byHead_isNamed : ByHead Node.isNamed := by
  intro n n' hkind _
  simp only [Node.isNamed, hkind]

theorem byHead_isComment : ByHead Node.isComment := by
  intro n n' hkind _
  simp only [Node.isComment, hkind]

theorem Copied.childAs? (h : Copied r n n') (part : Part) :
    Option.Rel (Copied r) (n.childAs? part) (n'.childAs? part) := by
  apply h.find?_children
  · intro c c' _ hpart
    simp only [hpart]
  · rfl

theorem Copied.child? (h : Copied r n n') (c : Construct) :
    Option.Rel (Copied r) (n.child? c) (n'.child? c) :=
  h.find?_children (byHead_is c) rfl

theorem rel_bind {o o' : Option Node} {f : Node → Option Node} (h : Option.Rel (Copied r) o o')
    (hf : ∀ c c', Copied r c c' → Option.Rel (Copied r) (f c) (f c')) :
    Option.Rel (Copied r) (o.bind f) (o'.bind f) := by
  cases h with
  | none => exact .none
  | some hcopy => exact hf _ _ hcopy

theorem cases_of_rel {o o' : Option Node} (h : Option.Rel (Copied r) o o') :
    (o = none ∧ o' = none) ∨ ∃ c c', o = some c ∧ o' = some c' ∧ Copied r c c' := by
  cases h with
  | none => exact .inl ⟨rfl, rfl⟩
  | some hcopy => exact .inr ⟨_, _, rfl, rfl, hcopy⟩

/-! ## Every tree has a copy -/

mutual

/-- A tree with the comment put in, all lines left as they were. -/
def put (r : Remark) : Node → Node
  | ⟨kind, part, span, children⟩ =>
      { kind := kind
        part := part
        span :=
          { start := if r.offset ≤ span.start then span.start + r.inserted.size else span.start
            stop := if r.offset < span.stop then span.stop + r.inserted.size else span.stop
            line := span.line }
        children := putAll r (r.StandsIn ⟨kind, part, span, children⟩) children }

/-- Children with the comment put in, where it is to stand among them ahead of the first that ends
behind the offset. -/
def putAll (r : Remark) (among : Bool) : List Node → List Node
  | [] => if among then [r.comment] else []
  | c :: cs =>
      if among && r.offset < c.span.stop then r.comment :: put r c :: putAll r false cs
      else put r c :: putAll r among cs

end

theorem children_put (r : Remark) (n : Node) :
    (r.put n).children = putAll r (r.StandsIn n) n.children := by
  cases n
  rfl

theorem sameHead_put (r : Remark) (n : Node) : SameHead r n (r.put n) := by
  cases n
  exact ⟨rfl, rfl, rfl, rfl⟩

theorem forall₂_putAll_false {cs : List Node} (h : ∀ c ∈ cs, Copied r c (r.put c)) :
    List.Forall₂ (Copied r) cs (putAll r false cs) := by
  induction cs with
  | nil => exact .nil
  | cons c cs ih =>
      rw [putAll]
      exact .cons (h c List.mem_cons_self) (ih fun d hd ↦ h d (List.mem_cons_of_mem _ hd))

theorem exists_split_putAll {cs : List Node} (h : ∀ c ∈ cs, Copied r c (r.put c))
    (havoids : ∀ c ∈ cs, r.Avoids c) (hordered : cs.Pairwise (·.span.stop ≤ ·.span.start))
    (hspans : ∀ c ∈ cs, c.span.start ≤ c.span.stop) :
    ∃ before after before' after', cs = before ++ after ∧
      putAll r true cs = before' ++ r.comment :: after' ∧
      List.Forall₂ (Copied r) before before' ∧ List.Forall₂ (Copied r) after after' ∧
      (∀ c ∈ before, c.span.stop ≤ r.offset) ∧
      ∀ c ∈ after, r.offset ≤ c.span.start ∧ r.offset < c.span.stop := by
  induction cs with
  | nil => exact ⟨[], [], [], [], rfl, rfl, .nil, .nil, by simp, by simp⟩
  | cons c cs ih =>
      have hrest : ∀ d ∈ cs, Copied r d (r.put d) := fun d hd ↦ h d (List.mem_cons_of_mem _ hd)
      rw [List.pairwise_cons] at hordered
      rw [putAll]
      by_cases hbehind : r.offset < c.span.stop
      · -- the comment stands ahead of this child, and so ahead of all that follow
        have hstart : r.offset ≤ c.span.start :=
          (havoids c List.mem_cons_self).resolve_left (by omega)
        refine ⟨[], c :: cs, [], r.put c :: putAll r false cs, rfl, ?_, .nil,
          .cons (h c List.mem_cons_self) (forall₂_putAll_false hrest), by simp, ?_⟩
        · rw [if_pos (by simpa using hbehind)]
          rfl
        · intro d hd
          rcases List.mem_cons.mp hd with rfl | hd
          · exact ⟨hstart, hbehind⟩
          · have hafter := hordered.1 d hd
            have hspan := hspans d (List.mem_cons_of_mem _ hd)
            omega
      · obtain ⟨before, after, before', after', hsplit, hput, hleft, hright, hends, hstarts⟩ :=
          ih hrest (fun d hd ↦ havoids d (List.mem_cons_of_mem _ hd)) hordered.2
            fun d hd ↦ hspans d (List.mem_cons_of_mem _ hd)
        refine ⟨c :: before, after, r.put c :: before', after', by rw [hsplit]; rfl, ?_,
          .cons (h c List.mem_cons_self) hleft, hright, ?_, hstarts⟩
        · rw [if_neg (by simpa using hbehind), hput]
          rfl
        · intro d hd
          rcases List.mem_cons.mp hd with rfl | hd
          · omega
          · exact hends d hd

/-- In a tree whose children stand one after another inside their parent, a comment can be put in
anywhere. -/
theorem copied_put (r : Remark) (hlaid : n.LaidOut)
    (hspans : ∀ m ∈ n.preorder, m.span.start ≤ m.span.stop) : Copied r n (r.put n) := by
  induction n using Node.induction with
  | node n ih =>
      have hchildren : ∀ c ∈ n.children, Copied r c (r.put c) := fun c hc ↦
        ih c hc (hlaid.child hc) fun m hm ↦ hspans m (Node.mem_preorder_of_child hc hm)
      have hself : ∀ c : Node, c ∈ c.preorder := fun c ↦ Node.mem_preorder.mpr ⟨[], rfl⟩
      by_cases hstands : r.StandsIn n
      · obtain ⟨before, after, before', after', hsplit, hput, hleft, hright, hends, hstarts⟩ :=
          exists_split_putAll hchildren hstands.2 hlaid.children.2 fun c hc ↦
            hspans c (Node.mem_preorder_of_child hc (hself c))
        refine .remarked (sameHead_put r n) hstands.1 hsplit ?_ hleft hright hends hstarts
        rw [children_put, decide_eq_true hstands, hput]
      · refine .plain (sameHead_put r n) hstands ?_
        rw [children_put, decide_eq_false hstands]
        exact forall₂_putAll_false hchildren

end Remark

end ApiSurvey.Java
