import ApiSurvey.Proofs.RemarkedTrees

/-!
# Annotations around a comment

How arguments and markers change when a comment is put into a source outside the texts that they
are read from. Main statement: the markers of a declaration stay as they are; the text of an array
of arguments shows a comment that stands in it and is compared only where it has none.
-/

namespace ApiSurvey

/-! ## What a marker says -/

namespace Argument

mutual

/-- An argument; without the texts of its arrays unless these count. -/
def content (whole : Bool) : Argument → Argument
  | ⟨text, string, items, isArray⟩ =>
      ⟨if whole || !isArray then text else "", string, contents whole items, isArray⟩

def contents (whole : Bool) : List Argument → List Argument
  | [] => []
  | a :: as => content whole a :: contents whole as

end

mutual

theorem content_true : ∀ a : Argument, a.content true = a
  | ⟨text, string, items, isArray⟩ => by
      rw [content, contents_true items]
      rfl

theorem contents_true : ∀ as : List Argument, contents true as = as
  | [] => rfl
  | a :: as => by
      rw [contents, content_true a, contents_true as]

end

theorem contents_eq_map (whole : Bool) (as : List Argument) :
    contents whole as = as.map (content whole) := by
  induction as with
  | nil => rfl
  | cons a as ih => rw [contents, List.map_cons, ih]

/-- An argument under its key. -/
def entryContent (whole : Bool) (e : String × Argument) : String × Argument :=
  (e.1, e.2.content whole)

theorem entryContent_true (e : String × Argument) : entryContent true e = e := by
  rw [entryContent, content_true]

end Argument

def Marker.content (whole : Bool) (m : Marker) : Marker :=
  { m with arguments := m.arguments.map (Argument.entryContent whole) }

theorem Marker.content_true (m : Marker) : m.content true = m := by
  have hentries : Argument.entryContent true = id := funext Argument.entryContent_true
  simp [content, hentries]

namespace Java

/-! ## The texts that are read -/

namespace Node

/-- An entry of an array or of a list of arguments. -/
def isEntry (n : Node) : Bool :=
  n.isNamed && !n.isComment

mutual

/-- The nodes whose texts an argument is read from, arrays among them if their texts count. -/
def argumentTexts (whole : Bool) : Node → List Node
  | ⟨kind, part, span, children⟩ =>
      let n : Node := ⟨kind, part, span, children⟩
      match kind with
      | .construct .stringLiteral => n :: children
      | .construct .elementArray => (if whole then [n] else []) ++ entryTexts whole children
      | _ => [n]

def entryTexts (whole : Bool) : List Node → List Node
  | [] => []
  | n :: ns => (if n.isEntry then argumentTexts whole n else []) ++ entryTexts whole ns

end

def listedTexts (whole : Bool) (n : Node) : List Node :=
  if n.is .elementPair then
    (n.childAs? .value).elim [] fun value ↦
      (n.childAs? .key).toList ++ argumentTexts whole value
  else if n.isComment then []
  else argumentTexts whole n

def markerTexts (whole : Bool) (n : Node) : List Node :=
  (n.childAs? .name).toList ++
    ((n.childAs? .arguments).elim [] (·.namedChildren)).flatMap (listedTexts whole)

def markersTexts (whole : Bool) (n : Node) : List Node :=
  (n.child? .modifiers).elim [] fun modifiers ↦
    (modifiers.children.filter (·.is .annotationUse)).flatMap (markerTexts whole)

end Node

/-! ## Reading around the comment -/

namespace Remark

variable {r : Remark} {n n' : Node} {source : ByteArray} {whole : Bool}

theorem textOr_eq (hoffset : r.offset ≤ source.size) {o o' : Option Node}
    (h : Option.Rel (Copied r) o o') (havoids : ∀ c ∈ o.toList, r.Avoids c) :
    Node.textOr (r.into source) o' = Node.textOr source o := by
  cases h with
  | none => rfl
  | some hcopy => exact hcopy.head.text_eq (havoids _ (by simp)) hoffset

theorem typeText_eq (hoffset : r.offset ≤ source.size) {o o' : Option Node}
    (h : Option.Rel (Copied r) o o') (havoids : ∀ c ∈ o.toList, r.Avoids c) :
    Node.typeText (r.into source) o' = Node.typeText source o := by
  cases h with
  | none => rfl
  | some hcopy =>
      exact congrArg Text.collapseBlanks (hcopy.head.text_eq (havoids _ (by simp)) hoffset)

/-! ### Arguments -/

theorem byHead_isEntry : ByHead Node.isEntry := by
  intro c c' hkind hpart
  rw [Node.isEntry, Node.isEntry, byHead_isNamed c c' hkind hpart,
    byHead_isComment c c' hkind hpart]

@[simp] theorem isEntry_comment (r : Remark) : r.comment.isEntry = false := by
  rw [Node.isEntry, isComment_comment, Bool.not_true, Bool.and_false]

theorem readItems_eq (source : ByteArray) (ns : List Node) :
    readItems source ns = ns.filterMap fun n ↦
      if n.isEntry then some (readArgument source n) else none := by
  induction ns with
  | nil => rfl
  | cons n ns ih =>
      rw [readItems, List.filterMap_cons, ih]
      change (if n.isEntry = true then _ else _) = _
      cases n.isEntry <;> rfl

theorem mem_entryTexts {ns : List Node} {m : Node} :
    m ∈ Node.entryTexts whole ns ↔ ∃ n ∈ ns, n.isEntry = true ∧ m ∈ n.argumentTexts whole := by
  induction ns with
  | nil => simp [Node.entryTexts]
  | cons n ns ih =>
      rw [Node.entryTexts, List.mem_append, ih]
      cases hentry : n.isEntry <;> simp [hentry]

theorem readArgument_literal (source : ByteArray) (h : n.kind = .construct .stringLiteral) :
    readArgument source n =
      { text := n.text source, string := some (stringValue source n) } := by
  cases n
  cases h
  rfl

theorem readArgument_array (source : ByteArray) (h : n.kind = .construct .elementArray) :
    readArgument source n =
      { text := n.text source, items := readItems source n.children, isArray := true } := by
  cases n
  cases h
  rfl

theorem readArgument_other (source : ByteArray) (hliteral : n.kind ≠ .construct .stringLiteral)
    (harray : n.kind ≠ .construct .elementArray) :
    readArgument source n = { text := n.text source } := by
  cases n
  rw [readArgument]
  · exact hliteral
  · exact harray

theorem argumentTexts_literal (whole : Bool) (h : n.kind = .construct .stringLiteral) :
    n.argumentTexts whole = n :: n.children := by
  cases n
  cases h
  rfl

theorem argumentTexts_array (whole : Bool) (h : n.kind = .construct .elementArray) :
    n.argumentTexts whole =
      (if whole then [n] else []) ++ Node.entryTexts whole n.children := by
  cases n
  cases h
  rfl

theorem argumentTexts_other (whole : Bool) (hliteral : n.kind ≠ .construct .stringLiteral)
    (harray : n.kind ≠ .construct .elementArray) : n.argumentTexts whole = [n] := by
  cases n
  rw [Node.argumentTexts]
  · exact hliteral
  · exact harray

theorem stringValue_eq (hoffset : r.offset ≤ source.size) (h : Copied r n n')
    (havoids : ∀ c ∈ n :: n.children, r.Avoids c) :
    stringValue (r.into source) n' = stringValue source n := by
  have hparts : n'.children.filterMap (literalPart? (r.into source)) =
      n.children.filterMap (literalPart? source) := by
    apply h.filterMap_children
    · rfl
    · intro c hc c' hcopy
      unfold literalPart?
      rw [hcopy.head.kind,
        hcopy.head.text_eq (havoids c (List.mem_cons_of_mem _ hc)) hoffset]
  unfold stringValue
  rw [hparts, h.head.text_eq (havoids n List.mem_cons_self) hoffset]

theorem content_readArgument (hoffset : r.offset ≤ source.size) (h : Copied r n n')
    (havoids : ∀ c ∈ n.argumentTexts whole, r.Avoids c) :
    (readArgument (r.into source) n').content whole = (readArgument source n).content whole := by
  induction n using Node.induction generalizing n' with
  | node n ih =>
      by_cases hliteral : n.kind = .construct .stringLiteral
      · rw [argumentTexts_literal whole hliteral] at havoids
        rw [readArgument_literal source hliteral,
          readArgument_literal _ (h.head.kind.trans hliteral), stringValue_eq hoffset h havoids,
          h.head.text_eq (havoids n List.mem_cons_self) hoffset]
      by_cases harray : n.kind = .construct .elementArray
      · rw [argumentTexts_array whole harray] at havoids
        have hitems : (readItems (r.into source) n'.children).map (Argument.content whole) =
            (readItems source n.children).map (Argument.content whole) := by
          rw [readItems_eq, readItems_eq, List.map_filterMap, List.map_filterMap]
          apply h.filterMap_children
          · rw [isEntry_comment]
            rfl
          · intro c hc c' hcopy
            rw [hcopy.test_eq byHead_isEntry]
            cases hentry : c.isEntry with
            | false => rfl
            | true =>
                have hitem := ih c hc hcopy fun m hm ↦
                  havoids m (List.mem_append_right _ (mem_entryTexts.mpr ⟨c, hc, hentry, hm⟩))
                exact congrArg some hitem
        rw [readArgument_array source harray, readArgument_array _ (h.head.kind.trans harray),
          Argument.content, Argument.content, Argument.contents_eq_map, Argument.contents_eq_map,
          hitems]
        -- the array's own text may show the comment
        cases whole with
        | false => simp
        | true => rw [h.head.text_eq (havoids n List.mem_cons_self) hoffset]
      · rw [argumentTexts_other whole hliteral harray] at havoids
        rw [readArgument_other source hliteral harray, readArgument_other _ (h.head.kind ▸ hliteral)
          (h.head.kind ▸ harray), h.head.text_eq (havoids n List.mem_cons_self) hoffset]

/-- An argument under a key; nothing under an empty key. -/
def keyed? (key : String) (a : Argument) : Option (String × Argument) :=
  if key.isEmpty then none else some (key, a)

/-- What one child of an argument list says, under its key. -/
def listedArgument? (source : ByteArray) (n : Node) : Option (String × Argument) :=
  if n.is .elementPair then
    (n.childAs? .value).elim none fun value ↦
      keyed? (Node.textOr source (n.childAs? .key)) (readArgument source value)
  else if n.isComment then none
  else some ("value", readArgument source n)

/-- Adds an entry under its key unless the key has one. -/
def addEntry (arguments : List (String × Argument)) (e : String × Argument) :
    List (String × Argument) :=
  addArgument arguments e.1 e.2

theorem readListed_eq (source : ByteArray) (arguments : List (String × Argument)) (n : Node) :
    readListed source arguments n =
      (listedArgument? source n).elim arguments (addEntry arguments) := by
  unfold readListed listedArgument?
  cases n.is .elementPair with
  | true =>
      cases n.childAs? .value with
      | none => rfl
      | some value =>
          simp only [Option.elim_some, if_true, keyed?]
          cases (Node.textOr source (n.childAs? .key)).isEmpty <;> rfl
  | false => cases n.isComment <;> rfl

theorem arguments_readMarker (source : ByteArray) (n : Node) :
    (readMarker source n).arguments =
      (((n.childAs? .arguments).elim [] (·.namedChildren)).filterMap
        (listedArgument? source)).foldl addEntry [] := by
  have hfold : ∀ (listed : List Node) (arguments : List (String × Argument)),
      listed.foldl (readListed source) arguments =
        (listed.filterMap (listedArgument? source)).foldl addEntry arguments := by
    intro listed
    induction listed with
    | nil =>
        intro arguments
        rfl
    | cons c listed ih =>
        intro arguments
        rw [List.foldl_cons, ih, readListed_eq, List.filterMap_cons]
        cases listedArgument? source c <;> rfl
  rw [readMarker]
  cases n.childAs? .arguments with
  | none => rfl
  | some list => exact hfold _ _

theorem map_keyed? (whole : Bool) (key : String) (a : Argument) :
    (keyed? key a).map (Argument.entryContent whole) = keyed? key (a.content whole) := by
  unfold keyed?
  split <;> rfl

theorem isSome_lookup_map (whole : Bool) (arguments : List (String × Argument)) (key : String) :
    ((arguments.map (Argument.entryContent whole)).lookup key).isSome =
      (arguments.lookup key).isSome := by
  induction arguments with
  | nil => rfl
  | cons e arguments ih =>
      rw [List.map_cons, List.lookup_cons, List.lookup_cons, Argument.entryContent]
      cases key == e.1 with
      | true => rfl
      | false => exact ih

theorem map_foldl_addEntry (whole : Bool) (entries arguments : List (String × Argument)) :
    (entries.foldl addEntry arguments).map (Argument.entryContent whole) =
      (entries.map (Argument.entryContent whole)).foldl addEntry
        (arguments.map (Argument.entryContent whole)) := by
  induction entries generalizing arguments with
  | nil => rfl
  | cons e entries ih =>
      rw [List.foldl_cons, ih, List.map_cons, List.foldl_cons]
      congr 1
      rw [addEntry, addEntry, addArgument, addArgument, Argument.entryContent, isSome_lookup_map]
      split
      · rfl
      · rw [List.map_append]
        rfl

theorem listedArgument?_comment (r : Remark) (source : ByteArray) :
    listedArgument? source r.comment = none := by
  rw [listedArgument?, is_comment, if_neg Bool.false_ne_true, isComment_comment, if_pos rfl]

theorem content_listedArgument? (hoffset : r.offset ≤ source.size) (h : Copied r n n')
    (havoids : ∀ c ∈ n.listedTexts whole, r.Avoids c) :
    (listedArgument? (r.into source) n').map (Argument.entryContent whole) =
      (listedArgument? source n).map (Argument.entryContent whole) := by
  unfold listedArgument?
  unfold Node.listedTexts at havoids
  rw [h.test_eq (byHead_is _), h.test_eq byHead_isComment]
  cases hpair : n.is .elementPair with
  | true =>
      rw [hpair, if_pos rfl] at havoids
      rw [if_pos rfl, if_pos rfl]
      rcases cases_of_rel (h.childAs? .value) with ⟨hnone, hnone'⟩ | ⟨v, v', hv, hv', hcopy⟩
      · rw [hnone, hnone', Option.elim_none, Option.elim_none]
      · rw [hv, Option.elim_some] at havoids
        have hkey := textOr_eq hoffset (h.childAs? .key) fun c hc ↦
          havoids c (List.mem_append_left _ hc)
        have hvalue := content_readArgument hoffset hcopy fun c hc ↦
          havoids c (List.mem_append_right _ hc)
        rw [hv, hv', Option.elim_some, Option.elim_some, map_keyed?, map_keyed?, hkey, hvalue]
  | false =>
      rw [hpair, if_neg (by simp)] at havoids
      cases hcomment : n.isComment with
      | true => rfl
      | false =>
          rw [hcomment, if_neg (by simp)] at havoids
          have hargument := content_readArgument hoffset h havoids
          simp [Argument.entryContent, hargument]

theorem content_readMarker (hoffset : r.offset ≤ source.size) (h : Copied r n n')
    (havoids : ∀ c ∈ n.markerTexts whole, r.Avoids c) :
    (readMarker (r.into source) n').content whole = (readMarker source n).content whole := by
  have hname := textOr_eq hoffset (h.childAs? .name) fun c hc ↦
    havoids c (List.mem_append_left _ hc)
  have hentries : (((n'.childAs? .arguments).elim [] (·.namedChildren)).filterMap
        (listedArgument? (r.into source))).map (Argument.entryContent whole) =
      (((n.childAs? .arguments).elim [] (·.namedChildren)).filterMap
        (listedArgument? source)).map (Argument.entryContent whole) := by
    rcases cases_of_rel (h.childAs? .arguments) with ⟨hnone, hnone'⟩ | ⟨l, l', hl, hl', hcopy⟩
    · rw [hnone, hnone', Option.elim_none, List.filterMap_nil, List.filterMap_nil]
    · rw [hl, hl', Option.elim_some, Option.elim_some, Node.namedChildren, Node.namedChildren,
        List.map_filterMap, List.map_filterMap, List.filterMap_filter, List.filterMap_filter]
      apply hcopy.filterMap_children
      · rw [isNamed_comment, if_pos rfl, listedArgument?_comment, Option.map_none]
      · intro c hc c' hlisted
        rw [hlisted.test_eq byHead_isNamed]
        cases hnamed : c.isNamed with
        | false => rfl
        | true =>
            apply content_listedArgument? hoffset hlisted
            intro m hm
            apply havoids m
            rw [Node.markerTexts, hl]
            exact List.mem_append_right _
              (List.mem_flatMap.mpr ⟨c, List.mem_filter.mpr ⟨hc, hnamed⟩, hm⟩)
  have harguments : (readMarker (r.into source) n').arguments.map (Argument.entryContent whole) =
      (readMarker source n).arguments.map (Argument.entryContent whole) := by
    rw [arguments_readMarker, arguments_readMarker, map_foldl_addEntry, map_foldl_addEntry,
      hentries]
  have hsimple : (readMarker (r.into source) n').name = (readMarker source n).name :=
    congrArg (Text.lastPart '.') hname
  unfold Marker.content
  rw [hsimple]
  exact congrArg (Marker.mk _) harguments

theorem content_readMarkers (hoffset : r.offset ≤ source.size) (h : Copied r n n')
    (havoids : ∀ c ∈ n.markersTexts whole, r.Avoids c) :
    (readMarkers (r.into source) n').map (Marker.content whole) =
      (readMarkers source n).map (Marker.content whole) := by
  unfold readMarkers
  rcases cases_of_rel (h.child? .modifiers) with ⟨hnone, hnone'⟩ | ⟨l, l', hl, hl', hcopy⟩
  · rw [hnone, hnone']
  · rw [Node.markersTexts, hl, Option.elim_some] at havoids
    rw [hl, hl', List.map_map, List.map_map]
    apply hcopy.map_filter_children (byHead_is _) (is_comment r _)
    intro c hc c' hmarker
    exact content_readMarker hoffset hmarker fun m hm ↦
      havoids m (List.mem_flatMap.mpr ⟨c, hc, hm⟩)

end Remark

end Java

end ApiSurvey
