import ApiSurvey.Proofs.TextCutting
import ApiSurvey.TypeExpr.Basic

/-!
# Types as they are written

A type is a tree of names. It is written with its arguments between angle brackets and commas
between them, with blanks around these, with annotations and wildcard bounds in front of a name, and
with the brackets of arrays after its own. Main statements: dropping the blanks around a name and
what stands in front of it leaves the qualified name, and what follows its last dot is the name.
-/

namespace ApiSurvey.TypeExpr

open Text

/-! ## The parts of a written type -/

/-- A character that can stand in a name. -/
def isNameChar (c : Char) : Bool :=
  !(isBlank c || ['.', '<', '>', ',', '@', '?', '(', ')'].contains c)

structure Word where
  text : List Char
  ne_nil : text ≠ [] := by decide
  all_nameChar : text.all isNameChar = true := by decide

theorem Word.nameChars (w : Word) : ∀ c ∈ w.text, isNameChar c = true :=
  List.all_eq_true.mp w.all_nameChar

structure Gap extends Blanks where
  ne_nil : text ≠ [] := by decide

/-- The name of an annotation, dots included. -/
structure MarkerName where
  text : List Char
  ne_nil : text ≠ [] := by decide
  all_inName : (text.all fun c ↦ isWordChar c || c == '.') = true := by decide

theorem MarkerName.inName (name : MarkerName) :
    ∀ c ∈ name.text, (isWordChar c || c == '.') = true :=
  List.all_eq_true.mp name.all_inName

/-- What stands between the brackets of an annotation. -/
structure MarkerText where
  text : List Char
  closing_notMem : ')' ∉ text := by decide
  bracket_notMem : '<' ∉ text ∧ '>' ∉ text := by decide

/-- What can stand in front of a name. -/
inductive Lead where
  | marker (name : MarkerName) (after : Gap)
  | markerWith (name : MarkerName) (arguments : MarkerText) (after : Blanks)
  | bound (inner : Gap) (lower : Bool) (after : Gap)

def boundWord (lower : Bool) : List Char :=
  if lower then "super".toList else "extends".toList

def Lead.text : Lead → List Char
  | .marker name after => '@' :: (name.text ++ after.text)
  | .markerWith name arguments after =>
      '@' :: (name.text ++ '(' :: (arguments.text ++ ')' :: after.text))
  | .bound inner lower after => '?' :: (inner.text ++ (boundWord lower ++ after.text))

def qualified (qualifier : List Word) (name : Word) : List Char :=
  qualifier.flatMap (·.text ++ ['.']) ++ name.text

/-- A name with what stands in front of it and the blanks around it. -/
structure Header where
  before : Blanks := {}
  leads : List Lead := []
  qualifier : List Word := []
  name : Word
  after : Blanks := {}

def Header.text (h : Header) : List Char :=
  h.before.text ++ (h.leads.flatMap Lead.text ++ qualified h.qualifier h.name) ++ h.after.text

def isArrayBracket (c : Char) : Bool :=
  c == '[' || c == ']'

/-- The brackets of an array. -/
structure Dimension where
  inner : Blanks := {}
  after : Blanks := {}

def Dimension.text (d : Dimension) : List Char :=
  '[' :: (d.inner.text ++ ']' :: d.after.text)

/-- What can stand after the arguments of a type. -/
structure Closing where
  before : Blanks := {}
  dimensions : List Dimension := []

def Closing.text (closing : Closing) : List Char :=
  closing.before.text ++ closing.dimensions.flatMap Dimension.text

/-- A type in one of the layouts in which it can be written. -/
inductive WrittenType where
  | wildcard (before : Blanks) (leads : List Lead) (after : Blanks)
  | plain (header : Header)
  | generic (header : Header) (inner : Blanks) (arguments : List WrittenType) (closing : Closing)

namespace WrittenType

mutual

def text : WrittenType → List Char
  | .wildcard before leads after =>
      before.text ++ (leads.flatMap Lead.text ++ ['?']) ++ after.text
  | .plain header => header.text
  | .generic header inner arguments closing =>
      header.text ++
        '<' :: (inner.text ++ [','].intercalate (texts arguments) ++ '>' :: closing.text)

def texts : List WrittenType → List (List Char)
  | [] => []
  | t :: others => text t :: texts others

end

mutual

/-- The unqualified names of a type, its own before those of its arguments. -/
def names : WrittenType → List (List Char)
  | .wildcard _ _ _ => [['?']]
  | .plain header => [header.name.text]
  | .generic header _ arguments _ => header.name.text :: allNames arguments

def allNames : List WrittenType → List (List Char)
  | [] => []
  | t :: others => names t ++ allNames others

end

def arguments : WrittenType → List WrittenType
  | .wildcard _ _ _ => []
  | .plain _ => []
  | .generic _ _ arguments _ => arguments

/-- What stands in front of the type's own name. -/
def ownLeads : WrittenType → List Lead
  | .wildcard _ leads _ => leads
  | .plain header => header.leads
  | .generic header _ _ _ => header.leads

/-- The unqualified name of the type itself. -/
def ownName : WrittenType → List Char
  | .wildcard _ _ _ => ['?']
  | .plain header => header.name.text
  | .generic header _ _ _ => header.name.text

section

variable (header : Header) (before inner after : Blanks) (leads : List Lead) (ts : List WrittenType)
  (closing : Closing)

@[simp] theorem arguments_wildcard : (wildcard before leads after).arguments = [] := rfl

@[simp] theorem arguments_plain : (plain header).arguments = [] := rfl

@[simp] theorem arguments_generic : (generic header inner ts closing).arguments = ts := rfl

@[simp] theorem ownLeads_wildcard : (wildcard before leads after).ownLeads = leads := rfl

@[simp] theorem ownLeads_plain : (plain header).ownLeads = header.leads := rfl

@[simp] theorem ownLeads_generic : (generic header inner ts closing).ownLeads = header.leads := rfl

end

theorem texts_eq_map (ts : List WrittenType) : texts ts = ts.map text := by
  induction ts with
  | nil => rfl
  | cons t ts ih => rw [texts, ih, List.map_cons]

theorem allNames_eq_flatMap (ts : List WrittenType) : allNames ts = ts.flatMap names := by
  induction ts with
  | nil => rfl
  | cons t ts ih => rw [allNames, ih, List.flatMap_cons]

theorem names_eq_cons (t : WrittenType) : t.names = t.ownName :: t.arguments.flatMap names := by
  cases t with
  | wildcard before leads after => rfl
  | plain header => rfl
  | generic header inner arguments closing => rw [names, allNames_eq_flatMap]; rfl

/-- What holds of wildcards and plain names, and of a generic type if it holds of its arguments,
holds of every type. -/
@[elab_as_elim]
theorem induction {P : WrittenType → Prop}
    (wildcard : ∀ before leads after, P (.wildcard before leads after))
    (plain : ∀ header, P (.plain header))
    (generic : ∀ header inner arguments closing, (∀ t ∈ arguments, P t) →
      P (.generic header inner arguments closing)) : ∀ t, P t
  | .wildcard before leads after => wildcard before leads after
  | .plain header => plain header
  | .generic header inner arguments closing =>
      generic header inner arguments closing fun t _ ↦ induction wildcard plain generic t
termination_by t => sizeOf t
decreasing_by
  rename_i h
  have hless := List.sizeOf_lt_of_mem h
  simp only [WrittenType.generic.sizeOf_spec]
  omega

end WrittenType

/-! ## Which characters the parts hold -/

variable {c sep : Char} {rest : List Char}

theorem isBlank_of_isNameChar (h : isNameChar c = true) : isBlank c = false := by
  rw [isNameChar, Bool.not_eq_true', Bool.or_eq_false_iff] at h
  exact h.1

theorem ne_of_isNameChar (hc : isNameChar c = true) (hsep : isNameChar sep = false) : c ≠ sep := by
  rintro rfl
  rw [hc] at hsep
  cases hsep

theorem Word.notMem (w : Word) (h : isNameChar sep = false) : sep ∉ w.text := by
  intro hmem
  exact ne_of_isNameChar (w.nameChars sep hmem) h rfl

theorem Gap.exists_cons (g : Gap) : ∃ c cs, g.text = c :: cs ∧ isBlank c = true := by
  obtain ⟨c, cs, hcs⟩ := List.exists_cons_of_ne_nil g.ne_nil
  refine ⟨c, cs, hcs, g.blank c ?_⟩
  rw [hcs]
  exact List.mem_cons_self

theorem Closing.isBlank_or_isArrayBracket (closing : Closing) :
    ∀ c ∈ closing.text, isBlank c = true ∨ isArrayBracket c = true := by
  intro c hc
  rw [Closing.text, List.mem_append, List.mem_flatMap] at hc
  rcases hc with hc | ⟨d, -, hc⟩
  · exact .inl (closing.before.blank c hc)
  · rw [Dimension.text, List.mem_cons, List.mem_append, List.mem_cons] at hc
    rcases hc with rfl | hc | rfl | hc
    · exact .inr rfl
    · exact .inl (d.inner.blank c hc)
    · exact .inr rfl
    · exact .inl (d.after.blank c hc)

theorem Closing.notMem (closing : Closing) (hblank : isBlank sep = false)
    (hbracket : isArrayBracket sep = false) : sep ∉ closing.text := by
  intro hmem
  have heither := closing.isBlank_or_isArrayBracket sep hmem
  simp [hblank, hbracket] at heither

theorem bracket_notMem_leads (leads : List Lead) (hsep : sep ∈ ['<', '>']) :
    sep ∉ leads.flatMap Lead.text := by
  have hsep : sep = '<' ∨ sep = '>' := List.mem_pair.mp hsep
  have hblank : isBlank sep = false := by
    rcases hsep with rfl | rfl <;> decide
  have hname : (isWordChar sep || sep == '.') = false := by
    rcases hsep with rfl | rfl <;> decide
  have hword : ∀ lower, sep ∉ boundWord lower := by
    intro lower
    rcases hsep with rfl | rfl <;> cases lower <;> decide
  have hmarks : sep ≠ '@' ∧ sep ≠ '?' ∧ sep ≠ '(' ∧ sep ≠ ')' := by
    rcases hsep with rfl | rfl <;> decide
  obtain ⟨hat, hask, hopen, hclose⟩ := hmarks
  have hmarker : ∀ name : MarkerName, sep ∉ name.text := by
    intro name hmem
    rw [name.inName sep hmem] at hname
    cases hname
  intro hmem
  obtain ⟨lead, -, hlead⟩ := List.mem_flatMap.mp hmem
  cases lead with
  | marker name after =>
      simp [Lead.text, hat, hmarker name, after.notMem hblank] at hlead
  | markerWith name arguments after =>
      have hfree : sep ∉ arguments.text := by
        rcases hsep with rfl | rfl
        · exact arguments.bracket_notMem.1
        · exact arguments.bracket_notMem.2
      simp [Lead.text, hat, hopen, hclose, hmarker name, hfree, after.notMem hblank] at hlead
  | bound inner lower after =>
      simp [Lead.text, hask, hword lower, inner.notMem hblank, after.notMem hblank] at hlead

theorem notMem_qualified (qualifier : List Word) (name : Word) (h : isNameChar sep = false)
    (hdot : sep ≠ '.') : sep ∉ qualified qualifier name := by
  simp [qualified, Word.notMem _ h, hdot]

theorem Header.bracket_notMem (h : Header) (hsep : sep ∈ ['<', '>']) : sep ∉ h.text := by
  have hblank : isBlank sep = false := by
    rcases List.mem_pair.mp hsep with rfl | rfl <;> decide
  have hname : isNameChar sep = false ∧ sep ≠ '.' := by
    rcases List.mem_pair.mp hsep with rfl | rfl <;> decide
  simp [Header.text, bracket_notMem_leads h.leads hsep, h.before.notMem hblank,
    h.after.notMem hblank, notMem_qualified h.qualifier h.name hname.1 hname.2]

theorem Header.comma_notMem {h : Header} (hleads : ∀ lead ∈ h.leads, ',' ∉ lead.text) :
    ',' ∉ h.text := by
  have hbefore : ',' ∉ h.before.text := h.before.notMem (by decide)
  have hafter : ',' ∉ h.after.text := h.after.notMem (by decide)
  have hfront : ',' ∉ h.leads.flatMap Lead.text := by simpa using hleads
  have hname : ',' ∉ qualified h.qualifier h.name := notMem_qualified _ _ (by decide) (by decide)
  simp [Header.text, hbefore, hafter, hname, hfront]

theorem WrittenType.comma_notMem_wildcard (before after : Blanks) {leads : List Lead}
    (hleads : ∀ lead ∈ leads, ',' ∉ lead.text) : ',' ∉ (wildcard before leads after).text := by
  have hbefore : ',' ∉ before.text := before.notMem (by decide)
  have hafter : ',' ∉ after.text := after.notMem (by decide)
  have hfront : ',' ∉ leads.flatMap Lead.text := by simpa using hleads
  simp [text, hbefore, hafter, hfront]

/-- A qualified name starts with a character of a name. -/
theorem exists_qualified_eq_cons (qualifier : List Word) (name : Word) :
    ∃ c cs, qualified qualifier name = c :: cs ∧ isNameChar c = true := by
  have hword : ∀ (w : Word) (more : List Char),
      ∃ c cs, w.text ++ more = c :: cs ∧ isNameChar c = true := by
    intro w more
    obtain ⟨c, cs, hcs⟩ := List.exists_cons_of_ne_nil w.ne_nil
    refine ⟨c, cs ++ more, by rw [hcs, List.cons_append], w.nameChars c ?_⟩
    rw [hcs]
    exact List.mem_cons_self
  cases qualifier with
  | nil => simpa [qualified] using hword name []
  | cons w qualifier =>
      obtain ⟨c, cs, hcs, hc⟩ := hword w ('.' :: qualified qualifier name)
      refine ⟨c, cs, ?_, hc⟩
      rw [← hcs]
      simp [qualified]

theorem isBlank_getLast?_qualified (qualifier : List Word) (name : Word) (before : List Char) :
    ∀ c ∈ (before ++ qualified qualifier name).getLast?, isBlank c = false := by
  intro c hc
  rw [qualified, List.getLast?_append, List.getLast?_append,
    List.getLast?_eq_some_getLast name.ne_nil] at hc
  have hlast : name.text.getLast name.ne_nil = c := by simpa using hc
  have hmem : c ∈ name.text := hlast ▸ List.getLast_mem name.ne_nil
  exact isBlank_of_isNameChar (name.nameChars c hmem)

/-! ## Leads are dropped -/

theorem afterWord?_append (word : List Char) (g : Gap) (rest : List Char) :
    afterWord? word (word ++ (g.text ++ rest)) = some (trimStart rest) := by
  obtain ⟨c, cs, hcs, hc⟩ := g.exists_cons
  have hcut : isBlank c = true → trimStart (cs ++ rest) = trimStart rest := by
    intro hc
    have hwhole := trimStart_append g.toBlanks rest
    rw [hcs, List.cons_append, trimStart, List.dropWhile_cons_of_pos hc] at hwhole
    exact hwhole
  rw [afterWord?, if_pos (List.isPrefixOf_iff_prefix.mpr (List.prefix_append ..)),
    List.drop_left, hcs, List.cons_append]
  simp only [hc, if_true, hcut hc]

theorem takeWhile_markerName (name : MarkerName) (rest : List Char) :
    ((name.text ++ rest).takeWhile fun c ↦ isWordChar c || c == '.').isEmpty = false := by
  rw [List.takeWhile_append_of_pos name.inName]
  simp [name.ne_nil]

theorem afterAnnotation?_marker (name : MarkerName) (g : Gap) (rest : List Char) :
    afterAnnotation? ('@' :: (name.text ++ (g.text ++ rest))) = some (trimStart rest) := by
  obtain ⟨c, cs, hcs, hc⟩ := g.exists_cons
  have hname : (isWordChar c || c == '.') = false := by
    have hdot : c ≠ '.' := by
      rintro rfl
      revert hc
      decide
    simp [isWordChar_of_isBlank hc, hdot]
  have hdrop : (name.text ++ (g.text ++ rest)).dropWhile (fun c ↦ isWordChar c || c == '.') =
      g.text ++ rest := by
    rw [List.dropWhile_append_of_pos name.inName, hcs, List.cons_append,
      List.dropWhile_cons_of_neg (by simp [hname])]
  have hopen : ∀ more, g.text ++ rest ≠ '(' :: more := by
    intro more heq
    rw [hcs, List.cons_append] at heq
    rw [(List.cons.inj heq).1] at hc
    revert hc
    decide
  -- `hopen` rules the bracketed list out
  simp only [afterAnnotation?, takeWhile_markerName, hdrop, Bool.false_eq_true, if_false]
  rw [trimStart_append]

theorem afterAnnotation?_markerWith (name : MarkerName) (arguments : MarkerText)
    (rest : List Char) :
    afterAnnotation? ('@' :: (name.text ++ '(' :: (arguments.text ++ ')' :: rest))) =
      some (trimStart rest) := by
  have hopen : (name.text ++ '(' :: (arguments.text ++ ')' :: rest)).dropWhile
      (fun c ↦ isWordChar c || c == '.') = '(' :: (arguments.text ++ ')' :: rest) := by
    rw [List.dropWhile_append_of_pos name.inName, List.dropWhile_cons_of_neg (by decide)]
  have hclose := bne_of_notMem arguments.closing_notMem
  have hdrop : (arguments.text ++ ')' :: rest).dropWhile (· != ')') = ')' :: rest := by
    rw [List.dropWhile_append_of_pos hclose, List.dropWhile_cons_of_neg (by simp)]
  simp only [afterAnnotation?, takeWhile_markerName, hopen, hdrop, Bool.false_eq_true, if_false]

theorem afterBound?_bound (inner : Gap) (lower : Bool) (after : Gap) (rest : List Char) :
    afterBound? ('?' :: (inner.text ++ (boundWord lower ++ (after.text ++ rest)))) =
      some (trimStart rest) := by
  have hask := afterWord?_append ['?'] inner (boundWord lower ++ (after.text ++ rest))
  have htrim : trimStart (boundWord lower ++ (after.text ++ rest)) =
      boundWord lower ++ (after.text ++ rest) := by
    cases lower <;> rfl
  have hword := afterWord?_append (boundWord lower) after rest
  rw [List.singleton_append, htrim] at hask
  rw [afterBound?, hask, Option.bind_some]
  cases lower with
  | false => exact congrArg (Option.or · _) hword
  | true =>
      have hextends : afterWord? "extends".toList (boundWord true ++ (after.text ++ rest)) = none :=
        rfl
      rw [hextends, Option.none_or]
      exact hword

theorem afterLead?_text_append (lead : Lead) (rest : List Char) :
    afterLead? (lead.text ++ rest) = some (trimStart rest) := by
  cases lead with
  | marker name after =>
      have hmarker := afterAnnotation?_marker name after rest
      simp only [afterLead?, Lead.text, List.cons_append, List.append_assoc, hmarker,
        Option.some_or]
  | markerWith name arguments after =>
      have hmarker := afterAnnotation?_markerWith name arguments (after.text ++ rest)
      rw [trimStart_append] at hmarker
      simp only [afterLead?, Lead.text, List.cons_append, List.append_assoc, hmarker,
        Option.some_or]
  | bound inner lower after =>
      have hbound := afterBound?_bound inner lower after rest
      have hnone : ∀ more, afterAnnotation? ('?' :: more) = none := fun _ ↦ rfl
      simp only [afterLead?, Lead.text, List.cons_append, List.append_assoc, hnone, hbound,
        Option.none_or]

theorem afterWord?_of_ne {d : Char} (hne : c ≠ d) (word rest : List Char) :
    afterWord? (c :: word) (d :: rest) = none := by
  have hprefix : (c :: word).isPrefixOf (d :: rest) = false := by
    simp [List.isPrefixOf, hne]
  rw [afterWord?, hprefix]
  rfl

theorem afterLead?_of_ne (hat : c ≠ '@') (hask : c ≠ '?') (rest : List Char) :
    afterLead? (c :: rest) = none := by
  have hannotation : afterAnnotation? (c :: rest) = none := by
    unfold afterAnnotation?
    split
    · rename_i heq
      exact absurd (List.cons.inj heq).1 hat
    · rfl
  rw [afterLead?, hannotation, Option.none_or, afterBound?, afterWord?_of_ne hask.symm]
  rfl

theorem head?_leads_append (leads : List Lead) (hrest : ∀ c ∈ rest.head?, isBlank c = false) :
    ∀ c ∈ (leads.flatMap Lead.text ++ rest).head?, isBlank c = false := by
  cases leads with
  | nil => exact hrest
  | cons lead leads =>
      intro c hc
      have hmark : c = '@' ∨ c = '?' := by
        cases lead <;> simp [Lead.text] at hc <;> simp [← hc]
      rcases hmark with rfl | rfl <;> decide

theorem dropLeads_of_none {cs : List Char} (h : afterLead? cs = none) : dropLeads cs = cs := by
  unfold dropLeads
  split
  · rename_i hsome
    rw [h] at hsome
    cases hsome
  · rfl

theorem dropLeads_of_head? {cs : List Char} (h : ∀ c ∈ cs.head?, c ∉ ['@', '?']) :
    dropLeads cs = cs := by
  apply dropLeads_of_none
  cases cs with
  | nil => rfl
  | cons c cs =>
      have hc : c ≠ '@' ∧ c ≠ '?' := by simpa using h c rfl
      exact afterLead?_of_ne hc.1 hc.2 cs

/-- All leads are dropped, and nothing else when what follows them is none. -/
theorem dropLeads_append (leads : List Lead) (hrest : ∀ c ∈ rest.head?, isBlank c = false)
    (hstop : afterLead? rest = none) : dropLeads (leads.flatMap Lead.text ++ rest) = rest := by
  induction leads with
  | nil => exact dropLeads_of_none hstop
  | cons lead leads ih =>
      have hlead := afterLead?_text_append lead (leads.flatMap Lead.text ++ rest)
      rw [trimStart_of_solid (head?_leads_append leads hrest)] at hlead
      rw [List.flatMap_cons, List.append_assoc]
      unfold dropLeads
      split
      · rename_i more hmore
        rw [hlead] at hmore
        rw [← Option.some.inj hmore]
        exact ih
      · rename_i hnone
        rw [hlead] at hnone
        cases hnone

theorem Header.bare_text (h : Header) : bare h.text = qualified h.qualifier h.name := by
  obtain ⟨c, cs, hcs, hc⟩ := exists_qualified_eq_cons h.qualifier h.name
  have hfirst : ∀ c ∈ (qualified h.qualifier h.name).head?, isBlank c = false := by
    rw [hcs]
    rintro _ ⟨⟩
    exact isBlank_of_isNameChar hc
  have hstop : afterLead? (qualified h.qualifier h.name) = none := by
    rw [hcs]
    exact afterLead?_of_ne (ne_of_isNameChar hc (by decide)) (ne_of_isNameChar hc (by decide)) cs
  rw [bare, Header.text, trim_around, trim,
    trimStart_of_solid (head?_leads_append h.leads hfirst),
    trimEnd_of_solid (isBlank_getLast?_qualified _ _ _), dropLeads_append h.leads hfirst hstop]

theorem unqualified_qualified (qualifier : List Word) (name : Word) :
    unqualified (qualified qualifier name) = name.text := by
  have hdot : '.' ∉ name.text := name.notMem (by decide)
  rcases List.eq_nil_or_concat qualifier with rfl | ⟨qualifier, w, rfl⟩
  · exact afterLast_of_notMem hdot
  · have hsplit : qualified (qualifier.concat w) name =
        (qualifier.flatMap (·.text ++ ['.']) ++ w.text) ++ '.' :: name.text := by
      simp [qualified]
    rw [unqualified, hsplit, afterLast_append_cons hdot]

end ApiSurvey.TypeExpr
