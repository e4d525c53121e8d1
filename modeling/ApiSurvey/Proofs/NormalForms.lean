import ApiSurvey.Proofs.TypeLayers

/-!
# Normal forms of written types

Main statements: the angle brackets of a written type are balanced; and the normal form of a written
type is again a written type, except that for lists, sets and optionals a comma below the first
argument can cut through it.
-/

namespace ApiSurvey.TypeExpr

open Text

/-! ## Qualifiers of normal forms -/

/-- The steps of a built-in package are left out; of other packages nothing is left. -/
def shortQualifier : List Word → List Word
  | first :: second :: rest =>
      if first.text = "java".toList ∧ second.text ∈ ["lang".toList, "util".toList] then rest else []
  | _ => []

theorem qualified_cons (w : Word) (qualifier : List Word) (name : Word) :
    qualified (w :: qualifier) name = w.text ++ '.' :: qualified qualifier name := by
  simp [qualified]

/-- A text with a dot starts a qualified name when it starts step by step. -/
theorem prefix_qualified_iff {step more : List Char} (hstep : '.' ∉ step) (qualifier : List Word)
    (name : Word) :
    step ++ '.' :: more <+: qualified qualifier name ↔
      ∃ w rest, qualifier = w :: rest ∧ w.text = step ∧ more <+: qualified rest name := by
  constructor
  · rintro ⟨after, hafter⟩
    cases qualifier with
    | nil =>
        have hdot : '.' ∈ name.text := by
          have hmem : '.' ∈ step ++ '.' :: more ++ after := by simp
          rw [hafter] at hmem
          simpa [qualified] using hmem
        exact absurd hdot (name.notMem (by decide))
    | cons w qualifier =>
        have hdot : '.' ∉ w.text := w.notMem (by decide)
        rw [qualified_cons, List.append_assoc, List.cons_append] at hafter
        have hfirst := congrArg (beforeFirst '.') hafter
        have hrest := congrArg (afterFirst '.') hafter
        rw [beforeFirst_append_cons hstep, beforeFirst_append_cons hdot] at hfirst
        rw [afterFirst_append_cons hstep, afterFirst_append_cons hdot] at hrest
        exact ⟨w, qualifier, rfl, hfirst.symm, after, hrest⟩
  · rintro ⟨w, rest, rfl, rfl, after, hafter⟩
    refine ⟨after, ?_⟩
    rw [qualified_cons, ← hafter, List.append_assoc, List.cons_append]

/-- The text of a built-in package, of which the second step is given. -/
def packageOf (second : List Char) : List Char :=
  "java".toList ++ '.' :: (second ++ '.' :: [])

theorem packageOf_prefix_iff {second : List Char} (hsecond : '.' ∉ second) (qualifier : List Word)
    (name : Word) :
    packageOf second <+: qualified qualifier name ↔
      ∃ v w rest, qualifier = v :: w :: rest ∧ v.text = "java".toList ∧ w.text = second := by
  rw [packageOf, prefix_qualified_iff (by decide)]
  constructor
  · rintro ⟨v, others, rfl, hv, hothers⟩
    obtain ⟨w, rest, rfl, hw, -⟩ := (prefix_qualified_iff hsecond others name).mp hothers
    exact ⟨v, w, rest, rfl, hv, hw⟩
  · rintro ⟨v, w, rest, rfl, hv, hw⟩
    refine ⟨v, w :: rest, rfl, hv, ?_⟩
    exact (prefix_qualified_iff hsecond _ name).mpr ⟨w, rest, rfl, hw, List.nil_prefix⟩

theorem shortName_qualified (qualifier : List Word) (name : Word) :
    shortName (qualified qualifier name) = qualified (shortQualifier qualifier) name := by
  have hpackages : builtinPackages = ["lang".toList, "util".toList].map packageOf := by decide
  have hdots : ∀ second ∈ ["lang".toList, "util".toList], '.' ∉ second := by decide
  unfold shortName
  cases hfind : builtinPackages.find? (·.isPrefixOf (qualified qualifier name)) with
  | some package =>
      have hmem := List.mem_of_find?_eq_some hfind
      have hstart := List.find?_some hfind
      have hprefix := List.isPrefixOf_iff_prefix.mp hstart
      rw [hpackages] at hmem
      obtain ⟨second, hsecond, rfl⟩ := List.mem_map.mp hmem
      obtain ⟨v, w, rest, rfl, hv, rfl⟩ :=
        (packageOf_prefix_iff (hdots second hsecond) qualifier name).mp hprefix
      have hshort : shortQualifier (v :: w :: rest) = rest := if_pos ⟨hv, hsecond⟩
      have hwhole : qualified (v :: w :: rest) name = packageOf w.text ++ qualified rest name := by
        rw [qualified_cons, qualified_cons, hv]
        simp [packageOf]
      rw [hshort, hwhole]
      exact List.drop_left
  | none =>
      have hnone := List.find?_eq_none.mp hfind
      have hshort : shortQualifier qualifier = [] := by
        unfold shortQualifier
        split
        · rename_i v w rest
          apply if_neg
          rintro ⟨hv, hw⟩
          have hprefix := (packageOf_prefix_iff (hdots _ hw) (v :: w :: rest) name).mpr
            ⟨v, w, rest, rfl, hv, rfl⟩
          have hbuiltin : packageOf w.text ∈ builtinPackages :=
            hpackages ▸ List.mem_map_of_mem hw
          exact hnone _ hbuiltin (List.isPrefixOf_iff_prefix.mpr hprefix)
        · rfl
      rw [hshort]
      exact unqualified_qualified qualifier name

/-! ## The type that a normal form writes -/

def Header.short (h : Header) : Header :=
  { qualifier := shortQualifier h.qualifier, name := h.name }

@[simp] theorem Header.short_text (h : Header) :
    h.short.text = qualified (shortQualifier h.qualifier) h.name := by
  simp [Header.text, Header.short]

theorem Header.beforeFirst_comma {h : Header} (hleads : ∀ lead ∈ h.leads, ',' ∉ lead.text)
    (more : List Char) :
    beforeFirst ',' (h.text ++ '<' :: more) = h.text ++ '<' :: beforeFirst ',' more := by
  rw [beforeFirst_append_of_notMem (Header.comma_notMem hleads)]
  rfl

def collectionNames : List (List Char) :=
  ["List".toList, "Set".toList, "Optional".toList]

namespace WrittenType

/-- A type written with its own name only. -/
def simple : WrittenType → WrittenType
  | .wildcard _ _ _ => .wildcard {} [] {}
  | .plain header => .plain { name := header.name }
  | .generic header _ _ _ => .plain { name := header.name }

theorem text_simple (t : WrittenType) : t.simple.text = t.ownName := by
  cases t <;> simp [simple, text, ownName, Header.text, qualified]

/-- The type that stands for an absent argument. -/
def object : WrittenType :=
  .plain { name := { text := "Object".toList } }

/-- A map from texts to anything. -/
def stringMap : WrittenType :=
  .generic { name := { text := "Map".toList } } {}
    [.plain { name := { text := "String".toList } },
      .plain { before := { text := [' '] }, name := { text := "Object".toList } }] {}

/-- The type in the form in which fields are documented. -/
def normalized : WrittenType → WrittenType
  | .wildcard _ _ _ => .wildcard {} [] {}
  | .plain header => .plain header.short
  | .generic header _ arguments _ =>
      if header.short.text ∈ collectionNames then
        .generic header.short {} [(arguments.head?.map simple).getD object] {}
      else if header.short.text = "Map".toList then stringMap
      else .plain header.short

/-- A type keeps its name when it is cut at its first comma: the comma stands neither in front of
the name, nor between an opening bracket and the first closing one. -/
structure KeepsName (t : WrittenType) : Prop where
  leads : ∀ lead ∈ t.ownLeads, ',' ∉ lead.text
  closed : '<' ∈ beforeFirst ',' t.text → '>' ∈ beforeFirst ',' t.text

theorem KeepsName.beforeFirst_generic {header : Header} {inner : Blanks}
    {arguments : List WrittenType} {closing : Closing}
    (h : (generic header inner arguments closing).KeepsName) :
    ∃ more, beforeFirst ',' (generic header inner arguments closing).text =
      header.text ++ '<' :: more ∧ '>' ∈ more := by
  have hclosed := h.closed
  rw [text, Header.beforeFirst_comma h.leads] at hclosed ⊢
  have hclose := hclosed (by simp)
  rw [List.mem_append, List.mem_cons] at hclose
  refine ⟨_, rfl, (hclose.resolve_left ?_).resolve_left (by decide)⟩
  exact header.bracket_notMem (by simp)

theorem KeepsName.className_beforeFirst {t : WrittenType} (h : t.KeepsName) :
    className (beforeFirst ',' t.text) = t.ownName := by
  cases t with
  | wildcard before leads after =>
      have hcomma : ',' ∉ (wildcard before leads after).text :=
        comma_notMem_wildcard before after h.leads
      rw [beforeFirst_of_notMem hcomma, className_text]
  | plain header =>
      rw [text, beforeFirst_of_notMem (Header.comma_notMem h.leads), header.className_text]
      rfl
  | generic header inner arguments closing =>
      obtain ⟨more, hcut, hclose⟩ := h.beforeFirst_generic
      rw [hcut, className_open header hclose]
      rfl

theorem trim_beforeFirst_ne_nil {t : WrittenType} (hleads : ∀ lead ∈ t.ownLeads, ',' ∉ lead.text) :
    trim (beforeFirst ',' t.text) ≠ [] := by
  cases t with
  | wildcard before leads after =>
      have hcomma : ',' ∉ (wildcard before leads after).text :=
        comma_notMem_wildcard before after hleads
      rw [beforeFirst_of_notMem hcomma]
      exact trim_text_ne_nil _
  | plain header =>
      rw [text, beforeFirst_of_notMem (Header.comma_notMem hleads)]
      exact trim_text_ne_nil (.plain header)
  | generic header inner arguments closing =>
      rw [text, Header.beforeFirst_comma hleads]
      exact trim_ne_nil (c := '<') (by simp) (by decide)

/-- When the type is a collection with arguments, the first of these keeps its name. -/
def FirstKept : WrittenType → Prop
  | .generic header _ arguments _ =>
      header.short.text ∈ collectionNames → ∀ first ∈ arguments.head?, first.KeepsName
  | _ => True

end WrittenType

theorem normalForm_of_not_isGeneric {cs : List Char} (hne : cs ≠ [])
    (hplain : isGeneric cs = false) : normalForm cs = shortName (head cs) := by
  have hempty : cs.isEmpty = false := by simpa using hne
  unfold normalForm
  rw [hempty, hplain]
  rfl

theorem normalForm_of_isGeneric {cs name : List Char} (hgeneric : isGeneric cs = true)
    (hname : shortName (head cs) = name) :
    normalForm cs =
      if name ∈ collectionNames then
        name ++ '<' :: (((arguments cs).head?.map className).getD fallback ++ ['>'])
      else if name = "Map".toList then "Map<String, Object>".toList
      else name := by
  have hempty : cs.isEmpty = false := by
    simpa using List.ne_nil_of_mem (mem_of_isGeneric hgeneric).1
  have htest : ["List".toList, "Set".toList, "Optional".toList].contains name = true ↔
      name ∈ collectionNames := List.contains_iff_mem
  unfold normalForm
  rw [hempty, hgeneric, hname]
  simp only [Bool.not_true, Bool.false_eq_true, if_false, htest, beq_iff_eq]
  by_cases hcollection : name ∈ collectionNames
  · rw [if_pos hcollection, if_pos hcollection]
    cases (arguments cs).head? <;> simp
  · rw [if_neg hcollection, if_neg hcollection]

theorem normalForm_trim {cs : List Char} (hne : trim cs ≠ []) :
    normalForm (trim cs) = normalForm cs := by
  obtain ⟨b, b', hcs⟩ := exists_eq_around_trim cs
  have hgeneric : isGeneric cs = isGeneric (trim cs) := by rw [hcs, isGeneric_around, ← hcs]
  have hhead : head cs = head (trim cs) := by rw [hcs, head_around, ← hcs]
  have harguments : arguments cs = arguments (trim cs) := by rw [hcs, arguments_around, ← hcs]
  have hcsne : cs ≠ [] := by
    rintro rfl
    exact hne rfl
  cases htrim : isGeneric (trim cs) with
  | false =>
      rw [normalForm_of_not_isGeneric hne htrim,
        normalForm_of_not_isGeneric hcsne (hgeneric.trans htrim), hhead]
  | true =>
      rw [normalForm_of_isGeneric htrim rfl,
        normalForm_of_isGeneric (hgeneric.trans htrim) (congrArg shortName hhead), harguments]

theorem head?_commaList {cs : List Char} (h : trim (beforeFirst ',' cs) ≠ []) :
    (commaList cs).head? = some (trim (beforeFirst ',' cs)) := by
  have hfirst : ∀ a, ',' ∉ a → trim a ≠ [] → commaList a = [trim a] := by
    intro a ha hne
    rw [commaList_of_notMem ha]
    simp [hne]
  by_cases hcomma : ',' ∈ cs
  · obtain ⟨a, b, rfl, ha⟩ := List.eq_append_cons_of_mem hcomma
    rw [beforeFirst_append_cons ha] at h ⊢
    rw [commaList_append_cons, hfirst a ha h]
    rfl
  · rw [beforeFirst_of_notMem hcomma] at h ⊢
    rw [hfirst cs hcomma h]
    rfl

theorem beforeFirst_intercalate (text : List Char) (texts : List (List Char)) :
    beforeFirst ',' ([','].intercalate (text :: texts)) = beforeFirst ',' text := by
  cases texts with
  | nil => rw [List.intercalate_singleton]
  | cons text' texts =>
      rw [List.intercalate_cons_cons, List.append_assoc, List.singleton_append]
      by_cases hcomma : ',' ∈ text
      · rw [beforeFirst_append_of_mem hcomma]
      · rw [beforeFirst_append_cons hcomma, beforeFirst_of_notMem hcomma]

namespace WrittenType

/-- What is read as the first argument may be shorter than the first argument. -/
theorem className_head?_arguments {t first : WrittenType} (hfirst : first ∈ t.arguments.head?)
    (hne : trim (beforeFirst ',' first.text) ≠ []) :
    (TypeExpr.arguments t.text).head?.map className =
      some (className (beforeFirst ',' first.text)) := by
  obtain ⟨others, hothers⟩ := List.head?_eq_some_iff.mp hfirst
  have hcut := beforeFirst_intercalate first.text (others.map text)
  have hhead := head?_commaList (hcut ▸ hne)
  rw [arguments_text, hothers, List.map_cons, hhead, hcut, Option.map_some, className_trim hne]

/-- The name of the element is that of the first argument. -/
theorem element_eq {t : WrittenType} (h : ∀ first ∈ t.arguments.head?, first.KeepsName) :
    ((TypeExpr.arguments t.text).head?.map className).getD fallback =
      (t.arguments.head?.map ownName).getD fallback := by
  cases harguments : t.arguments.head? with
  | none =>
      rw [arguments_text, List.head?_eq_none_iff.mp harguments]
      rfl
  | some first =>
      have hfirst := h first harguments
      rw [className_head?_arguments harguments (trim_beforeFirst_ne_nil hfirst.leads),
        hfirst.className_beforeFirst]
      rfl

theorem shortName_head_generic (header : Header) (inner : Blanks) (arguments : List WrittenType)
    (closing : Closing) :
    shortName (head (generic header inner arguments closing).text) = header.short.text := by
  rw [text, head_open header (by simp), shortName_qualified, Header.short_text]

theorem isGeneric_generic (header : Header) (inner : Blanks) (arguments : List WrittenType)
    (closing : Closing) : isGeneric (generic header inner arguments closing).text = true :=
  isGeneric_open header (by simp)

theorem normalForm_collection {header : Header} {arguments : List WrittenType}
    (hcollection : header.short.text ∈ collectionNames)
    (hfirst : ∀ first ∈ arguments.head?, first.KeepsName) (inner : Blanks)
    (closing : Closing) :
    normalForm (generic header inner arguments closing).text =
      header.short.text ++ '<' :: ((arguments.head?.map ownName).getD fallback ++ ['>']) := by
  have helement := element_eq (t := generic header inner arguments closing) hfirst
  rw [normalForm_of_isGeneric (isGeneric_generic ..) (shortName_head_generic ..),
    if_pos hcollection, helement]
  rfl

theorem normalForm_text {t : WrittenType} (h : t.FirstKept) :
    normalForm t.text = t.normalized.text := by
  cases t with
  | wildcard before leads after =>
      have hplain := isGeneric_of_notMem (bracket_notMem_wildcard before leads after (by simp))
      have hhead : head (wildcard before leads after).text = ['?'] := by
        rw [head, hplain]
        exact bare_wildcard before leads after
      rw [normalForm_of_not_isGeneric (text_ne_nil _) hplain, hhead]
      rfl
  | plain header =>
      have hplain := isGeneric_of_notMem (header.bracket_notMem (by simp))
      rw [text, normalForm_of_not_isGeneric header.text_ne_nil hplain, header.head_text,
        shortName_qualified]
      exact header.short_text.symm
  | generic header inner arguments closing =>
      rw [normalized]
      by_cases hcollection : header.short.text ∈ collectionNames
      · have helement : ((arguments.head?.map simple).getD object).text =
            (arguments.head?.map ownName).getD fallback := by
          cases arguments with
          | nil => rfl
          | cons first others => exact first.text_simple
        rw [normalForm_collection hcollection (h hcollection), if_pos hcollection, text, texts,
          texts, helement]
        simp [Closing.text]
      · rw [normalForm_of_isGeneric (isGeneric_generic ..) (shortName_head_generic ..),
          if_neg hcollection, if_neg hcollection]
        by_cases hmap : header.short.text = "Map".toList
        · rw [if_pos hmap, if_pos hmap]
          decide
        · rw [if_neg hmap, if_neg hmap]
          rfl

end WrittenType

/-! ## Balanced brackets -/

/-- Whether all angle brackets are closed in turn, when some are open already. -/
def isBalanced : Nat → List Char → Bool
  | depth, [] => depth == 0
  | depth, '<' :: cs => isBalanced (depth + 1) cs
  | 0, '>' :: _ => false
  | depth + 1, '>' :: cs => isBalanced depth cs
  | depth, _ :: cs => isBalanced depth cs

/-- A text that closes what it opens and nothing else. -/
def Neutral (cs : List Char) : Prop :=
  ∀ depth rest, isBalanced depth (cs ++ rest) = isBalanced depth rest

theorem neutral_of_notMem {cs : List Char} (hopen : '<' ∉ cs) (hclose : '>' ∉ cs) :
    Neutral cs := by
  intro depth rest
  induction cs with
  | nil => rfl
  | cons c cs ih =>
      rw [List.mem_cons, not_or] at hopen hclose
      have hstep : isBalanced depth (c :: (cs ++ rest)) = isBalanced depth (cs ++ rest) := by
        rw [isBalanced]
        · exact fun heq ↦ hopen.1 heq.symm
        · exact fun _ heq ↦ hclose.1 heq.symm
        · exact fun _ _ heq ↦ hclose.1 heq.symm
      rw [List.cons_append, hstep, ih hopen.2 hclose.2]

theorem Neutral.append {a b : List Char} (ha : Neutral a) (hb : Neutral b) : Neutral (a ++ b) := by
  intro depth rest
  rw [List.append_assoc, ha, hb]

theorem Neutral.enclosed {cs : List Char} (h : Neutral cs) : Neutral ('<' :: (cs ++ ['>'])) := by
  intro depth rest
  have hopen : isBalanced depth ('<' :: (cs ++ '>' :: rest)) =
      isBalanced (depth + 1) (cs ++ '>' :: rest) := by
    rw [isBalanced]
  have hclose : isBalanced (depth + 1) ('>' :: rest) = isBalanced depth rest := by
    rw [isBalanced]
  rw [List.cons_append, List.append_assoc, List.singleton_append, hopen, h, hclose]

theorem neutral_blanks (b : Blanks) : Neutral b.text :=
  neutral_of_notMem (b.notMem (by decide)) (b.notMem (by decide))

theorem Closing.neutral (closing : Closing) : Neutral closing.text :=
  neutral_of_notMem (closing.notMem (by decide) (by decide))
    (closing.notMem (by decide) (by decide))

theorem Header.neutral (h : Header) : Neutral h.text :=
  neutral_of_notMem (h.bracket_notMem (by simp)) (h.bracket_notMem (by simp))

namespace WrittenType

theorem neutral (t : WrittenType) : Neutral t.text := by
  induction t using WrittenType.induction with
  | wildcard before leads after =>
      exact neutral_of_notMem (bracket_notMem_wildcard before leads after (by simp))
        (bracket_notMem_wildcard before leads after (by simp))
  | plain header => exact header.neutral
  | generic header inner arguments closing ih =>
      have hcomma : Neutral [','] := neutral_of_notMem (by decide) (by decide)
      have hcontent : Neutral ([','].intercalate (texts arguments)) := by
        apply intercalate_induction (neutral_of_notMem (by simp) (by simp))
        · intro a b ha hb
          simpa using (ha.append hcomma).append hb
        rw [texts_eq_map]
        intro text htext
        obtain ⟨t, ht, rfl⟩ := List.mem_map.mp htext
        exact ih t ht
      have henclosed := ((neutral_blanks inner).append hcontent).enclosed
      have hlayer := (header.neutral.append henclosed).append closing.neutral
      simpa [text] using hlayer

theorem isBalanced_text (t : WrittenType) : isBalanced 0 t.text = true := by
  have h := t.neutral 0 []
  rw [List.append_nil] at h
  exact h

/-- The normal form of a type is a type, and its brackets are balanced; that of a collection has the
name of the first argument between its brackets. -/
theorem normalForm_writes_type (t : WrittenType) (h : t.FirstKept) :
    normalForm t.text = t.normalized.text ∧ isBalanced 0 (normalForm t.text) = true ∧
      ∀ header inner arguments closing, t = .generic header inner arguments closing →
        header.short.text ∈ collectionNames →
          normalForm t.text = header.short.text ++
            '<' :: ((arguments.head?.map ownName).getD "Object".toList ++ ['>']) := by
  have hform := normalForm_text h
  refine ⟨hform, ?_, ?_⟩
  · rw [hform]
    exact t.normalized.isBalanced_text
  · rintro header inner arguments closing rfl hcollection
    exact normalForm_collection hcollection (h hcollection) inner closing

/-- A list of maps with keys of a given type. -/
def mapList (key : WrittenType) : WrittenType :=
  .generic { name := { text := "List".toList } } {}
    [.generic { name := { text := "Map".toList } } {}
      [key, .plain { before := { text := [' '] }, name := { text := "UserDto".toList } }] {}] {}

def stringType : WrittenType :=
  .plain { name := { text := "String".toList } }

example : String.ofList (mapList stringType).text = "List<Map<String, UserDto>>" := by decide

theorem normalForm_mapList :
    normalForm (mapList stringType).text = "List<Map<String>".toList := by
  have hcut : TypeExpr.arguments (mapList stringType).text =
      ["Map<String".toList, "UserDto>".toList] := by decide
  have hfirst : className "Map<String".toList = "Map<String".toList :=
    className_of_afterLead?_eq_none rfl rfl rfl
  have hname : shortName (head (mapList stringType).text) = "List".toList :=
    (shortName_head_generic ..).trans (by decide)
  rw [normalForm_of_isGeneric (by decide) hname, if_pos (by decide), hcut, List.head?_cons,
    Option.map_some, hfirst]
  decide

/-- The comma after the first key leaves a bracket open. -/
theorem not_forall_isBalanced :
    ¬∀ t : WrittenType, isBalanced 0 (normalForm t.text) = true := by
  intro h
  have hbalanced := h (mapList stringType)
  rw [normalForm_mapList] at hbalanced
  revert hbalanced
  decide

theorem normalForm_writes_type_mapList :
    let lists : WrittenType := .generic { name := { text := "List".toList } } {} [stringType] {}
    String.ofList (mapList lists).text = "List<Map<List<String>, UserDto>>" ∧
      (mapList lists).FirstKept ∧ normalForm (mapList lists).text = "List<Map>".toList := by
  intro lists
  have hkept : (mapList lists).FirstKept := by
    rintro - _ ⟨⟩
    exact ⟨by simp, by decide⟩
  refine ⟨by decide, hkept, ?_⟩
  rw [(normalForm_writes_type (mapList lists) hkept).1]
  decide

end WrittenType

end ApiSurvey.TypeExpr
