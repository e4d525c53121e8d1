import ApiSurvey.Proofs.DeclarationPlaces
import ApiSurvey.Proofs.RemarkedMarkers
import Mathlib.Data.List.TakeWhile

/-!
# Methods around a comment

How the records of methods change when a comment is put into a source, outside the texts of names,
types and argument expressions. Main statement: they stay as they are, their lines apart, unless the
comment stands in a throws clause or ahead of the type of a parameter of variable length. Readers of
markers, arguments, arrays and parameter lists pass over comments; the readers of throws clauses and
of those types take any named node, and so the comment is read as a type.
-/

namespace ApiSurvey

/-! ## What a method record says -/

def ParamDecl.content (whole : Bool) (p : ParamDecl) : ParamDecl :=
  { p with markers := p.markers.map (Marker.content whole) }

/-- What a method record says, its line apart. -/
def MethodDecl.content (whole : Bool) (m : MethodDecl) : MethodDecl :=
  { m with
    parameters := m.parameters.map (ParamDecl.content whole)
    markers := m.markers.map (Marker.content whole)
    line := 0 }

theorem ParamDecl.content_true (p : ParamDecl) : p.content true = p := by
  obtain ⟨name, type, markers⟩ := p
  have hmarkers : Marker.content true = id := funext Marker.content_true
  simp [content, hmarkers]

theorem MethodDecl.content_true (m : MethodDecl) : m.content true = { m with line := 0 } := by
  have hmarkers : Marker.content true = id := funext Marker.content_true
  have hparameters : ParamDecl.content true = id := funext ParamDecl.content_true
  simp [content, hmarkers, hparameters]

namespace Java

namespace Node

/-- Whether a child of a parameter of variable length is taken for its type when it comes first. -/
def mayBeType (n : Node) : Bool :=
  n.isNamed && (!n.is .modifiers && !n.is .variableDeclarator)

def spreadType? (n : Node) : Option Node :=
  n.children.find? mayBeType

def paramTexts (whole : Bool) (n : Node) : List Node :=
  if n.is .formalParameter then
    (n.childAs? .name).toList ++ (n.childAs? .type).toList ++ (n.childAs? .dimensions).toList ++
      markersTexts whole n
  else if n.is .spreadParameter then
    ((n.child? .variableDeclarator).bind (·.childAs? .name)).toList ++
      n.spreadType?.toList ++ markersTexts whole n
  else []

/-- The nodes whose texts a method is read from: names, types and argument expressions. -/
def methodTexts (whole : Bool) (n : Node) : List Node :=
  (n.childAs? .name).toList ++ (n.childAs? .type).toList ++
    ((n.childAs? .parameters).elim [] (·.children)).flatMap (paramTexts whole) ++
    ((n.child? .throwsClause).elim [] (·.namedChildren)) ++ markersTexts whole n

end Node

namespace Remark

variable {r : Remark} {n n' : Node} {source : ByteArray} {whole : Bool}

/-! ## Parameters -/

/-- What the comment reads like where a type is read. -/
def wording (r : Remark) : String :=
  Text.collapseBlanks (Text.decodeBytes r.body)

theorem typeText_comment (r : Remark) (hoffset : r.offset ≤ source.size) :
    Node.typeText (r.into source) (some r.comment) = r.wording :=
  congrArg Text.collapseBlanks (r.text_comment hoffset)

/-- The comment stands in a parameter of variable length, ahead of its type. -/
def HidesType (r : Remark) (n : Node) : Prop :=
  n.is .formalParameter = false ∧ n.is .spreadParameter = true ∧ r.StandsIn n ∧
    ∀ type ∈ n.spreadType?, r.offset < type.span.stop

instance (r : Remark) (n : Node) : Decidable (r.HidesType n) :=
  inferInstanceAs (Decidable (_ ∧ _ ∧ _ ∧ _))

/-- What is read of a parameter with the comment in the source: the comment for the type that it
hides. -/
def paramAround? (r : Remark) (source : ByteArray) (n : Node) : Option ParamDecl :=
  (readParam? source n).map fun p ↦ if r.HidesType n then { p with type := r.wording } else p

theorem byHead_mayBeType : ByHead Node.mayBeType := by
  intro c c' hkind hpart
  rw [Node.mayBeType, Node.mayBeType, byHead_isNamed c c' hkind hpart,
    byHead_is _ c c' hkind hpart, byHead_is _ c c' hkind hpart]

theorem find?_namedChildren (n : Node) :
    n.namedChildren.find? (fun c ↦ !c.is .modifiers && !c.is .variableDeclarator) =
      n.spreadType? := by
  rw [Node.namedChildren, List.find?_filter, Node.spreadType?]
  congr 1
  funext c
  rw [Bool.decide_and, Bool.decide_eq_true, Bool.decide_eq_true]
  rfl

/-- A comment ahead of the type of a parameter of variable length is read in its place. -/
theorem typeText_spread (hoffset : r.offset ≤ source.size) (h : Copied r n n')
    (havoids : ∀ c ∈ n.spreadType?.toList, r.Avoids c) :
    Node.typeText (r.into source) n'.spreadType? =
      if r.StandsIn n ∧ ∀ type ∈ n.spreadType?, r.offset < type.span.stop then r.wording
      else Node.typeText source n.spreadType? := by
  unfold Node.spreadType? at *
  cases h with
  | plain _ outside children =>
      rw [if_neg fun hboth ↦ outside hboth.1]
      exact typeText_eq hoffset (find?_rel_of_forall₂ children byHead_mayBeType) havoids
  | remarked _ inside split split' left right ends starts =>
      have hstands := standsIn_of_split inside split ends starts
      have hcomment : r.comment.mayBeType = true := rfl
      -- the comment comes first unless the type stands before it
      rw [split, List.find?_append] at havoids ⊢
      rw [split', List.find?_append, List.find?_cons, hcomment]
      rcases cases_of_rel (find?_rel_of_forall₂ left byHead_mayBeType) with
        ⟨hnone, hnone'⟩ | ⟨c, c', hc, hc', hcopy⟩
      · rw [hnone, hnone', Option.none_or, Option.none_or, if_pos]
        · exact typeText_comment r hoffset
        · refine ⟨hstands, ?_⟩
          intro type htype
          exact (starts type (List.mem_of_find?_eq_some htype)).2
      · rw [hc, Option.some_or] at havoids ⊢
        rw [hc', Option.some_or, if_neg]
        · exact typeText_eq hoffset (.some hcopy) havoids
        · rintro ⟨-, hbehind⟩
          have hends := ends c (List.mem_of_find?_eq_some hc)
          have hstarts := hbehind c rfl
          omega

theorem readParam?_formal (source : ByteArray) (h : n.is .formalParameter = true) :
    readParam? source n = some
      { name := Node.textOr source (n.childAs? .name)
        type := Node.typeText source (n.childAs? .type) ++
          Node.typeText source (n.childAs? .dimensions)
        markers := readMarkers source n } := by
  rw [readParam?, if_pos h]

theorem readParam?_spread (source : ByteArray) (hformal : n.is .formalParameter = false)
    (hspread : n.is .spreadParameter = true) :
    readParam? source n = some
      { name := Node.textOr source ((n.child? .variableDeclarator).bind (·.childAs? .name))
        type := Node.typeText source n.spreadType?
        markers := readMarkers source n } := by
  rw [readParam?, hformal, if_neg (by simp), if_pos hspread, find?_namedChildren]

theorem readParam?_other (source : ByteArray) (hformal : n.is .formalParameter = false)
    (hspread : n.is .spreadParameter = false) : readParam? source n = none := by
  rw [readParam?, hformal, hspread]
  rfl

/-- A parameter says the same, but for a type that the comment hides. -/
theorem content_readParam? (hoffset : r.offset ≤ source.size) (h : Copied r n n')
    (havoids : ∀ c ∈ n.paramTexts whole, r.Avoids c) :
    (readParam? (r.into source) n').map (ParamDecl.content whole) =
      (r.paramAround? source n).map (ParamDecl.content whole) := by
  have hformal' := h.test_eq (byHead_is .formalParameter)
  have hspread' := h.test_eq (byHead_is .spreadParameter)
  unfold Node.paramTexts at havoids
  cases hformal : n.is .formalParameter with
  | true =>
      rw [hformal, if_pos rfl] at havoids
      have hname := textOr_eq hoffset (h.childAs? .name) fun c hc ↦ havoids c (by simp [hc])
      have htype := typeText_eq hoffset (h.childAs? .type) fun c hc ↦ havoids c (by simp [hc])
      have hdimensions := typeText_eq hoffset (h.childAs? .dimensions) fun c hc ↦
        havoids c (by simp [hc])
      have hmarkers := content_readMarkers hoffset h fun c hc ↦
        havoids c (List.mem_append_right _ hc)
      have hshown : ¬r.HidesType n := fun hhides ↦ by
        rw [hhides.1] at hformal
        cases hformal
      rw [paramAround?, readParam?_formal source hformal,
        readParam?_formal _ (hformal'.trans hformal), Option.map_some, Option.map_some,
        Option.map_some, if_neg hshown, ParamDecl.content, ParamDecl.content, hname, htype,
        hdimensions, hmarkers]
  | false =>
      cases hspread : n.is .spreadParameter with
      | false =>
          rw [paramAround?, readParam?_other source hformal hspread,
            readParam?_other _ (hformal'.trans hformal) (hspread'.trans hspread)]
          rfl
      | true =>
          rw [hformal, hspread, if_neg (by simp), if_pos rfl] at havoids
          have hname := textOr_eq hoffset
            (rel_bind (h.child? .variableDeclarator) fun _ _ hcopy ↦ hcopy.childAs? .name)
            fun c hc ↦ havoids c (by simp [hc])
          have hhides : r.HidesType n ↔
              r.StandsIn n ∧ ∀ type ∈ n.spreadType?, r.offset < type.span.stop := by
            rw [HidesType, hformal, hspread]
            simp
          have htype := typeText_spread hoffset h fun c hc ↦ havoids c (by simp [hc])
          have hmarkers := content_readMarkers hoffset h fun c hc ↦
            havoids c (List.mem_append_right _ hc)
          rw [paramAround?, readParam?_spread source hformal hspread,
            readParam?_spread _ (hformal'.trans hformal) (hspread'.trans hspread), Option.map_some,
            Option.map_some, Option.map_some, ParamDecl.content, hname, htype, hmarkers,
            if_congr hhides rfl rfl]
          split <;> rfl

/-! ## Methods -/

def typeTexts (source : ByteArray) (types : List Node) : List String :=
  types.map fun t ↦ Node.typeText source (some t)

/-- What is read of a throws clause with the comment in the source: a comment that stands in the
clause is one more type, between those before and those after it. -/
def clauseAround (r : Remark) (source : ByteArray) (clause : Node) : List String :=
  if r.StandsIn clause then
    typeTexts source (clause.namedChildren.takeWhile (·.span.stop ≤ r.offset)) ++
      r.wording :: typeTexts source (clause.namedChildren.dropWhile (·.span.stop ≤ r.offset))
  else typeTexts source clause.namedChildren

def throwsAround (r : Remark) (source : ByteArray) (n : Node) : List String :=
  (n.child? .throwsClause).elim [] (r.clauseAround source)

def paramsAround (r : Remark) (source : ByteArray) (n : Node) : List ParamDecl :=
  ((n.childAs? .parameters).elim [] (·.children)).filterMap (r.paramAround? source)

/-- What is read of a method with the comment in the source. -/
def methodAround (r : Remark) (source : ByteArray) (n : Node) : MethodDecl :=
  { readMethod source n with
    parameters := r.paramsAround source n
    throws := r.throwsAround source n }

theorem throws_readMethod (source : ByteArray) (n : Node) :
    (readMethod source n).throws =
      (n.child? .throwsClause).elim [] fun clause ↦ typeTexts source clause.namedChildren := by
  rw [readMethod]
  cases n.child? .throwsClause <;> rfl

theorem parameters_readMethod (source : ByteArray) (n : Node) :
    (readMethod source n).parameters =
      ((n.childAs? .parameters).elim [] (·.children)).filterMap (readParam? source) := by
  rw [readMethod]
  cases n.childAs? .parameters <;> rfl

theorem typeTexts_eq_of_forall₂ (hoffset : r.offset ≤ source.size) {l l' : List Node}
    (h : List.Forall₂ (Copied r) l l') (havoids : ∀ c ∈ l.filter Node.isNamed, r.Avoids c) :
    typeTexts (r.into source) (l'.filter Node.isNamed) =
      typeTexts source (l.filter Node.isNamed) := by
  apply map_filter_eq_of_forall₂ h byHead_isNamed
  intro c hc c' hcopy
  exact typeText_eq hoffset (.some hcopy) (by simpa using havoids c hc)

/-- A comment that stands in a throws clause is read as one more type. -/
theorem typeTexts_clause (hoffset : r.offset ≤ source.size) (h : Copied r n n')
    (havoids : ∀ c ∈ n.namedChildren, r.Avoids c) :
    typeTexts (r.into source) n'.namedChildren = r.clauseAround source n := by
  unfold clauseAround
  unfold Node.namedChildren at *
  cases h with
  | plain _ outside children =>
      rw [if_neg outside]
      exact typeTexts_eq_of_forall₂ hoffset children havoids
  | @remarked _ _ _ inside before after before' after' split split' left right ends starts =>
      -- the offset splits the types where the comment splits them
      have hbefore : ∀ c ∈ before.filter Node.isNamed, decide (c.span.stop ≤ r.offset) = true := by
        intro c hc
        exact decide_eq_true (ends c (List.mem_filter.mp hc).1)
      have hafter : ∀ c ∈ after.filter Node.isNamed, ¬decide (c.span.stop ≤ r.offset) = true := by
        intro c hc hstop
        have hstarts := (starts c (List.mem_filter.mp hc).1).2
        have hends := of_decide_eq_true hstop
        omega
      rw [split, List.filter_append] at havoids
      have hleft := typeTexts_eq_of_forall₂ hoffset left fun c hc ↦
        havoids c (List.mem_append_left _ hc)
      have hright := typeTexts_eq_of_forall₂ hoffset right fun c hc ↦
        havoids c (List.mem_append_right _ hc)
      rw [if_pos (standsIn_of_split inside split ends starts), split, split', List.filter_append,
        List.filter_append, List.filter_cons_of_pos (isNamed_comment r),
        List.takeWhile_append_of_pos hbefore, List.dropWhile_append_of_pos hbefore,
        List.takeWhile_eq_nil_iff.mpr fun _ ↦ hafter _ (List.getElem_mem _),
        List.dropWhile_eq_self_iff.mpr fun _ ↦ hafter _ (List.getElem_mem _), List.append_nil,
        ← hleft, ← hright, ← typeText_comment r hoffset]
      exact List.map_append

theorem throws_around (hoffset : r.offset ≤ source.size) (h : Copied r n n')
    (havoids : ∀ c ∈ (n.child? .throwsClause).elim [] (·.namedChildren), r.Avoids c) :
    (readMethod (r.into source) n').throws = r.throwsAround source n := by
  rw [throws_readMethod, throwsAround]
  rcases cases_of_rel (h.child? .throwsClause) with ⟨hnone, hnone'⟩ | ⟨c, c', hc, hc', hcopy⟩
  · rw [hnone, hnone', Option.elim_none, Option.elim_none]
  · rw [hc, Option.elim_some] at havoids
    rw [hc, hc', Option.elim_some, Option.elim_some]
    exact typeTexts_clause hoffset hcopy havoids

theorem content_parameters (hoffset : r.offset ≤ source.size) (h : Copied r n n')
    (havoids : ∀ c ∈ ((n.childAs? .parameters).elim [] (·.children)).flatMap
      (Node.paramTexts whole), r.Avoids c) :
    (readMethod (r.into source) n').parameters.map (ParamDecl.content whole) =
      (r.paramsAround source n).map (ParamDecl.content whole) := by
  rw [parameters_readMethod, paramsAround]
  rcases cases_of_rel (h.childAs? .parameters) with ⟨hnone, hnone'⟩ | ⟨c, c', hc, hc', hcopy⟩
  · rw [hnone, hnone', Option.elim_none, List.filterMap_nil, List.filterMap_nil]
  · rw [hc, Option.elim_some] at havoids
    rw [hc, hc', Option.elim_some, Option.elim_some, List.map_filterMap, List.map_filterMap]
    apply hcopy.filterMap_children
    · rw [readParam?_other _ (is_comment r _) (is_comment r _)]
      rfl
    · intro p hp p' hparam
      exact content_readParam? hoffset hparam fun m hm ↦
        havoids m (List.mem_flatMap.mpr ⟨p, hp, hm⟩)

theorem content_readMethod (hoffset : r.offset ≤ source.size) (h : Copied r n n')
    (havoids : ∀ c ∈ n.methodTexts whole, r.Avoids c) :
    (readMethod (r.into source) n').content whole =
      (r.methodAround source n).content whole := by
  unfold Node.methodTexts at havoids
  have hname : (readMethod (r.into source) n').name = (readMethod source n).name :=
    textOr_eq hoffset (h.childAs? .name) fun c hc ↦ havoids c (by simp [hc])
  have htype : (readMethod (r.into source) n').returnType = (readMethod source n).returnType :=
    typeText_eq hoffset (h.childAs? .type) fun c hc ↦ havoids c (by simp [hc])
  have hparameters := content_parameters hoffset h fun c hc ↦
    havoids c (List.mem_append_left _ (List.mem_append_left _ (List.mem_append_right _ hc)))
  have hthrows := throws_around hoffset h fun c hc ↦
    havoids c (List.mem_append_left _ (List.mem_append_right _ hc))
  have hmarkers : (readMethod (r.into source) n').markers.map (Marker.content whole) =
      (readMethod source n).markers.map (Marker.content whole) :=
    content_readMarkers hoffset h fun c hc ↦ havoids c (List.mem_append_right _ hc)
  rw [MethodDecl.content, MethodDecl.content, hname, htype, hparameters, hthrows, hmarkers]
  rfl

/-- The comment is read as a type of the method: it stands in the throws clause, or it hides the
type of a parameter. -/
def ReadAsType (r : Remark) (n : Node) : Prop :=
  (∃ clause ∈ n.child? .throwsClause, r.StandsIn clause) ∨
    ∃ list ∈ n.childAs? .parameters, ∃ p ∈ list.children, r.HidesType p

instance (r : Remark) (n : Node) : Decidable (r.ReadAsType n) :=
  inferInstanceAs (Decidable (_ ∨ _))

theorem methodAround_of_not_readAsType (source : ByteArray) (h : ¬r.ReadAsType n) :
    r.methodAround source n = readMethod source n := by
  obtain ⟨hthrows, hparameters⟩ := not_or.mp h
  have hsame : r.throwsAround source n = (readMethod source n).throws := by
    rw [throws_readMethod, throwsAround]
    cases hclause : n.child? .throwsClause with
    | none => rfl
    | some clause => exact if_neg fun hstands ↦ hthrows ⟨clause, hclause, hstands⟩
  have hshown : r.paramsAround source n = (readMethod source n).parameters := by
    rw [parameters_readMethod, paramsAround]
    cases hlist : n.childAs? .parameters with
    | none => rfl
    | some list =>
        apply List.filterMap_congr
        intro p hp
        have hp' : ¬r.HidesType p := fun hhides ↦ hparameters ⟨list, hlist, p, hp, hhides⟩
        unfold paramAround?
        simp [hp']
  rw [methodAround, hsame, hshown]

theorem throws_methodAround (source : ByteArray) {clause : Node}
    (hclause : n.child? .throwsClause = some clause) (hstands : r.StandsIn clause) :
    ∃ before after, (readMethod source n).throws = before ++ after ∧
      (r.methodAround source n).throws = before ++ r.wording :: after := by
  refine ⟨typeTexts source (clause.namedChildren.takeWhile (·.span.stop ≤ r.offset)),
    typeTexts source (clause.namedChildren.dropWhile (·.span.stop ≤ r.offset)), ?_, ?_⟩
  · rw [throws_readMethod, hclause, Option.elim_some, typeTexts, typeTexts, typeTexts,
      ← List.map_append, List.takeWhile_append_dropWhile]
  · change r.throwsAround source n = _
    rw [throwsAround, hclause, Option.elim_some, clauseAround, if_pos hstands]

/-! ## Units -/

def methodNodes (n : Node) : List Node :=
  n.bodyChildren.filter (·.is .methodDeclaration)

theorem content_methods (hoffset : r.offset ≤ source.size) (h : Copied r n n')
    (havoids : ∀ m ∈ methodNodes n, ∀ c ∈ m.methodTexts whole, r.Avoids c) :
    (readClass (r.into source) n').methods.map (MethodDecl.content whole) =
      (methodNodes n).map fun m ↦ (r.methodAround source m).content whole := by
  rw [methods_readClass, List.map_map]
  unfold methodNodes Node.bodyChildren at *
  rcases cases_of_rel (h.childAs? .body) with ⟨hnone, hnone'⟩ | ⟨b, b', hb, hb', hcopy⟩
  · rw [hnone, hnone', Option.elim_none, List.filter_nil, List.map_nil, List.map_nil]
  · rw [hb, Option.elim_some] at havoids
    rw [hb, hb', Option.elim_some, Option.elim_some]
    apply hcopy.map_filter_children (byHead_is _) (is_comment r _)
    intro m hm m' hmethod
    exact content_readMethod hoffset hmethod (havoids m hm)

/-- What is read of the declarations of a tree is the same when it is the same of each. -/
theorem map_typeDeclarations {β : Type} {f f' : Node → β} (h : Copied r n n')
    (hf : ∀ c ∈ typeDeclarations n, ∀ c', Copied r c c' → f' c' = f c) :
    (typeDeclarations n').map f' = (typeDeclarations n).map f := by
  induction n using Node.induction generalizing n' with
  | node n ih =>
      have htest : ByHead isTypeDeclaration := by
        intro c c' hkind hpart
        rw [isTypeDeclaration, isTypeDeclaration, byHead_is _ c c' hkind hpart,
          byHead_is _ c c' hkind hpart]
      rw [typeDeclarations_eq] at hf
      rw [typeDeclarations_eq n, typeDeclarations_eq n', List.map_append, List.map_append,
        List.map_flatMap, List.map_flatMap, h.test_eq htest]
      congr 1
      · split
        · rename_i hdeclares
          rw [if_pos hdeclares] at hf
          rw [List.map_singleton, List.map_singleton, hf n (by simp) n' h]
        · rfl
      · apply h.flatMap_children
        · rfl
        · intro c hc c' hcopy
          exact ih c hc hcopy fun d hd ↦
            hf d (List.mem_append_right _ (List.mem_flatMap.mpr ⟨c, hc, hd⟩))

theorem exists_mem_methodAround (source : ByteArray) {list p : Node}
    (hlist : n.childAs? .parameters = some list) (hp : p ∈ list.children) (hhides : r.HidesType p) :
    ∃ q ∈ (r.methodAround source n).parameters, q.type = r.wording := by
  obtain ⟨q, hq, htype⟩ : ∃ q, r.paramAround? source p = some q ∧ q.type = r.wording := by
    rw [paramAround?, readParam?_spread source hhides.1 hhides.2.1, Option.map_some,
      if_pos hhides]
    exact ⟨_, rfl, rfl⟩
  refine ⟨q, ?_, htype⟩
  change q ∈ r.paramsAround source n
  rw [paramsAround, hlist]
  exact List.mem_filterMap.mpr ⟨p, hp, hq⟩

/-- A comment outside the texts of names, types and argument expressions leaves every method record
of a unit as it is, its line apart, unless it stands in a throws clause or ahead of the type of a
parameter of variable length: there it is read as a type. Where it stands in an array of arguments,
the text of the array is left out of the comparison. -/
theorem methods_read_around (r : Remark) (source : ByteArray) (hoffset : r.offset ≤ source.size)
    {root root' : Node} (h : Copied r root root') (whole : Bool)
    (havoids : ∀ c ∈ typeDeclarations root, ∀ m ∈ methodNodes c, ∀ t ∈ m.methodTexts whole,
      r.Avoids t) :
    ((∀ c ∈ typeDeclarations root, ∀ m ∈ methodNodes c, ¬r.ReadAsType m) →
        ((readUnit (r.into source) root').classes.map fun c ↦
            c.methods.map (MethodDecl.content whole)) =
          (readUnit source root).classes.map fun c ↦ c.methods.map (MethodDecl.content whole)) ∧
      ((readUnit (r.into source) root').classes.map fun c ↦
          c.methods.map (MethodDecl.content whole)) =
        (typeDeclarations root).map (fun c ↦ (methodNodes c).map fun m ↦
          (r.methodAround source m).content whole) ∧
      (∀ m clause, m.child? .throwsClause = some clause → r.StandsIn clause →
        ∃ before after, (readMethod source m).throws = before ++ after ∧
          (r.methodAround source m).throws = before ++ r.wording :: after) ∧
      (∀ m list p, m.childAs? .parameters = some list → p ∈ list.children → r.HidesType p →
        ∃ q ∈ (r.methodAround source m).parameters, q.type = r.wording) ∧
      ∀ m : MethodDecl, m.content true = { m with line := 0 } := by
  have haround : ((readUnit (r.into source) root').classes.map fun c ↦
        c.methods.map (MethodDecl.content whole)) =
      (typeDeclarations root).map fun c ↦ (methodNodes c).map fun m ↦
        (r.methodAround source m).content whole := by
    rw [readUnit, List.map_map]
    apply map_typeDeclarations h
    intro c hc c' hcopy
    exact content_methods hoffset hcopy (havoids c hc)
  refine ⟨?_, haround, fun m clause ↦ throws_methodAround source,
    fun m list p ↦ exists_mem_methodAround source, MethodDecl.content_true⟩
  intro hinvisible
  rw [haround, readUnit, List.map_map]
  apply List.map_congr_left
  intro c hc
  rw [Function.comp_apply, methods_readClass, List.map_map]
  apply List.map_congr_left
  intro m hm
  rw [Function.comp_apply, methodAround_of_not_readAsType source (hinvisible c hc m hm)]

/-- A comment in a list of parameters is not seen; in the throws clause of the same method it is
read as a type. -/
theorem methods_read_around_of_two_comments :
    let source : ByteArray := "class C \x7b void f(int x) throws A, B \x7b\x7d \x7d".toUTF8
    let harmless : Remark := ⟨17, .empty, "/* c */".toUTF8, " ".toUTF8, 1⟩
    let taken : Remark := ⟨33, " ".toUTF8, "/* c */".toUTF8, .empty, 1⟩
    let leaf (c : Construct) (part : Option Part) (start stop : Nat) : Node :=
      { kind := .construct c, part := part, span := ⟨start, stop, 1⟩ }
    let parameters : Node :=
      { kind := .construct .formalParameters, part := some .parameters, span := ⟨16, 23, 1⟩
        children := [{ kind := .construct .formalParameter, span := ⟨17, 22, 1⟩
                       children := [leaf .primitiveType (some .type) 17 20,
                         leaf .simpleName (some .name) 21 22] }] }
    let clause : Node :=
      { kind := .construct .throwsClause, span := ⟨24, 35, 1⟩
        children := [leaf .simpleName none 31 32, leaf .simpleName none 34 35] }
    let method : Node :=
      { kind := .construct .methodDeclaration, span := ⟨10, 38, 1⟩
        children := [leaf .primitiveType (some .type) 10 14, leaf .simpleName (some .name) 15 16,
          parameters, clause, leaf .block (some .body) 36 38] }
    let root : Node :=
      { kind := .construct .program, span := ⟨0, 40, 1⟩
        children := [{ kind := .construct .classDeclaration, span := ⟨0, 40, 1⟩
                       children := [leaf .simpleName (some .name) 6 7,
                         { kind := .construct .classBody, part := some .body, span := ⟨8, 40, 1⟩
                           children := [method] }] }] }
    Copied harmless root (harmless.put root) ∧ Copied taken root (taken.put root) ∧
      ((readUnit (harmless.into source) (harmless.put root)).classes.map fun c ↦
          c.methods.map (MethodDecl.content true)) =
        ((readUnit source root).classes.map fun c ↦ c.methods.map (MethodDecl.content true)) ∧
      (∃ before after, (readMethod source method).throws = before ++ after ∧
        (taken.methodAround source method).throws = before ++ taken.wording :: after) ∧
      ((readUnit (taken.into source) (taken.put root)).classes.flatMap fun c ↦
        c.methods.map (·.throws)) = [["A", "/* c */", "B"]] := by
  intro source harmless taken leaf parameters clause method root
  have hlaid : root.LaidOut := by
    unfold Node.LaidOut
    decide
  have hspans : ∀ m ∈ root.preorder, m.span.start ≤ m.span.stop := by decide
  have hharmless := copied_put harmless hlaid hspans
  have htaken := copied_put taken hlaid hspans
  obtain ⟨hsame, -⟩ := methods_read_around harmless source (by decide +kernel) hharmless true
    (by decide +kernel)
  obtain ⟨-, -, hthrows, -⟩ := methods_read_around taken source (by decide +kernel) htaken true
    (by decide +kernel)
  exact ⟨hharmless, htaken, hsame (by decide +kernel),
    hthrows method clause rfl (by decide +kernel), by decide +kernel⟩

end Remark

end Java

end ApiSurvey
