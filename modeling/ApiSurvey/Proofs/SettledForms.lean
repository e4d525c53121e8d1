import ApiSurvey.Proofs.CutTypes
import ApiSurvey.Proofs.NormalForms

/-!
# Normal forms of normal forms

A normal form is itself the text of a type and can be read again. Main statement: it is its own
normal form exactly when the names that it keeps are plain, that is, read as themselves; and for a
written type this is the case exactly when no step of a qualifier is left in front of its name.
-/

namespace ApiSurvey.TypeExpr

open Text

variable {cs name : List Char}

/-! ## What is left of a text -/

theorem suffix_of_afterWord? {word rest : List Char} (h : afterWord? word cs = some rest) :
    rest <:+ cs ∧ ∀ c ∈ rest.head?, isBlank c = false := by
  unfold afterWord? at h
  split at h
  · split at h
    · rename_i c tail htail
      split at h
      · obtain rfl := Option.some.inj h
        have hdrop : c :: tail <:+ cs := htail ▸ List.drop_suffix _ cs
        exact ⟨(List.dropWhile_suffix isBlank).trans ((List.suffix_cons c tail).trans hdrop),
          head?_trimStart tail⟩
      · cases h
    · cases h
  · cases h

theorem suffix_of_afterAnnotation? {rest : List Char} (h : afterAnnotation? cs = some rest) :
    rest <:+ cs ∧ ∀ c ∈ rest.head?, isBlank c = false := by
  unfold afterAnnotation? at h
  split at h
  · rename_i cs
    have hname := List.dropWhile_suffix (fun c ↦ isWordChar c || c == '.') (l := cs)
    have hmark := hname.trans (List.suffix_cons '@' cs)
    simp only at h
    split at h
    · cases h
    · split at h
      · rename_i list hlist
        rw [hlist] at hmark
        split at h
        · rename_i d after hafter
          obtain rfl := Option.some.inj h
          have hclose : d :: after <:+ list := hafter ▸ List.dropWhile_suffix _
          have htail := ((List.suffix_cons d after).trans hclose).trans (List.suffix_cons '(' list)
          exact ⟨((List.dropWhile_suffix isBlank).trans htail).trans hmark, head?_trimStart after⟩
        · obtain rfl := Option.some.inj h
          refine ⟨hmark, ?_⟩
          rintro _ ⟨⟩
          decide
      · obtain rfl := Option.some.inj h
        exact ⟨(List.dropWhile_suffix isBlank).trans hmark, head?_trimStart _⟩
  · cases h

theorem suffix_of_afterLead? {rest : List Char} (h : afterLead? cs = some rest) :
    rest <:+ cs ∧ ∀ c ∈ rest.head?, isBlank c = false := by
  rcases Option.or_eq_some_iff.mp h with h | ⟨-, h⟩
  · exact suffix_of_afterAnnotation? h
  · obtain ⟨mid, hmid, h⟩ := Option.bind_eq_some_iff.mp h
    have hask := (suffix_of_afterWord? hmid).1
    rcases Option.or_eq_some_iff.mp h with h | ⟨-, h⟩
    · exact ⟨(suffix_of_afterWord? h).1.trans hask, (suffix_of_afterWord? h).2⟩
    · exact ⟨(suffix_of_afterWord? h).1.trans hask, (suffix_of_afterWord? h).2⟩

theorem dropLeads_suffix (cs : List Char) : dropLeads cs <:+ cs := by
  fun_induction dropLeads cs with
  | case1 cs rest hrest ih => exact ih.trans (suffix_of_afterLead? hrest).1
  | case2 cs hnone => exact List.suffix_rfl

/-- Nothing is left to be dropped. -/
theorem dropLeads_dropLeads (cs : List Char) : dropLeads (dropLeads cs) = dropLeads cs := by
  fun_induction dropLeads cs with
  | case1 cs rest hrest ih => exact ih
  | case2 cs hnone => exact dropLeads_of_none hnone

theorem head?_dropLeads (h : ∀ c ∈ cs.head?, isBlank c = false) :
    ∀ c ∈ (dropLeads cs).head?, isBlank c = false := by
  fun_induction dropLeads cs with
  | case1 cs rest hrest ih => exact ih (suffix_of_afterLead? hrest).2
  | case2 cs hnone => exact h

theorem getLast?_bare (cs : List Char) : ∀ c ∈ (bare cs).getLast?, isBlank c = false :=
  getLast?_of_suffix (dropLeads_suffix _) (getLast?_trim cs)

theorem bare_trim (cs : List Char) : bare (trim cs) = bare cs := by
  rw [bare, trim_of_solid (head?_trim cs) (getLast?_trim cs), bare]

theorem trim_bare (cs : List Char) : trim (bare cs) = bare cs :=
  trim_of_solid (head?_dropLeads (head?_trim cs)) (getLast?_bare cs)

theorem bare_bare (cs : List Char) : bare (bare cs) = bare cs := by
  rw [bare, trim_bare, bare, dropLeads_dropLeads]

theorem exists_eq_append_bare (cs : List Char) :
    ∃ (before : List Char) (b : Blanks), cs = before ++ bare cs ++ b.text := by
  obtain ⟨b, b', hcs⟩ := exists_eq_around_trim cs
  obtain ⟨leads, hleads⟩ := dropLeads_suffix (trim cs)
  refine ⟨b.text ++ leads, b', ?_⟩
  rw [List.append_assoc b.text, bare, hleads, ← hcs]

theorem isInfix_bare (cs : List Char) : bare cs <:+: cs := by
  obtain ⟨before, b, hcs⟩ := exists_eq_append_bare cs
  exact ⟨before, b.text, hcs.symm⟩

theorem dot_notMem_unqualified (cs : List Char) : '.' ∉ unqualified cs := by
  intro hmem
  have hkept := List.mem_takeWhile_imp (List.mem_reverse.mp hmem)
  simp at hkept

theorem shortName_suffix (cs : List Char) : shortName cs <:+ cs := by
  unfold shortName
  split
  · exact List.drop_suffix _ cs
  · exact afterLast_suffix '.' cs

theorem shortName_of_notMem (h : '.' ∉ cs) : shortName cs = cs := by
  have hdots : ∀ package ∈ builtinPackages, '.' ∈ package := by decide
  have hnone : builtinPackages.find? (·.isPrefixOf cs) = none := by
    rw [List.find?_eq_none]
    intro package hpackage hprefix
    exact h ((List.isPrefixOf_iff_prefix.mp hprefix).subset (hdots package hpackage))
  rw [shortName, hnone]
  exact afterLast_of_notMem h

theorem notMem_of_shortName_eq (h : shortName cs = cs) : '.' ∉ cs := by
  have hlong : ∀ package ∈ builtinPackages, 0 < package.length := by decide
  cases hfind : builtinPackages.find? (·.isPrefixOf cs) with
  | some package =>
      have hstart := List.find?_some hfind
      have hprefix := List.isPrefixOf_iff_prefix.mp hstart
      have hpos := hlong package (List.mem_of_find?_eq_some hfind)
      have hlength := congrArg List.length h
      rw [shortName, hfind] at hlength
      simp only [List.length_drop] at hlength
      have hle := hprefix.length_le
      omega
  | none =>
      rw [shortName, hfind] at h
      rw [← h]
      exact dot_notMem_unqualified cs

/-! ## Plain names -/

/-- A name that is read as itself. -/
structure IsPlain (name : List Char) : Prop where
  ne_nil : name ≠ []
  bare_eq : bare name = name
  dot_notMem : '.' ∉ name

theorem isGeneric_of_subset {part : List Char} (hpart : part ⊆ cs) (h : isGeneric cs = false) :
    isGeneric part = false := by
  rw [Bool.eq_false_iff] at h ⊢
  intro hgeneric
  obtain ⟨hopen, hclose⟩ := mem_of_isGeneric hgeneric
  exact h (by simp [isGeneric, hpart hopen, hpart hclose])

theorem isGeneric_head (cs : List Char) : isGeneric (head cs) = false := by
  by_cases hgeneric : isGeneric cs = true
  · rw [head, if_pos hgeneric]
    apply isGeneric_of_notMem
    intro hopen
    have hkept := List.mem_takeWhile_imp ((isInfix_bare _).subset hopen)
    simp at hkept
  · rw [Bool.not_eq_true] at hgeneric
    rw [head, hgeneric]
    exact isGeneric_of_subset (isInfix_bare cs).subset hgeneric

theorem head_of_not_isGeneric (hplain : isGeneric cs = false) : head cs = bare cs := by
  rw [head, hplain]
  rfl

/-- A text without brackets is its own normal form when it is a plain name, and only then. -/
theorem normalForm_eq_self_iff (hplain : isGeneric name = false) :
    normalForm name = name ↔ IsPlain name := by
  constructor
  · intro h
    have hne : name ≠ [] := by
      rintro rfl
      revert h
      decide
    rw [normalForm_of_not_isGeneric hne hplain, head_of_not_isGeneric hplain] at h
    have hsuffix := shortName_suffix (bare name)
    rw [h] at hsuffix
    have hbare : bare name = name :=
      (isInfix_bare name).eq_of_length_le hsuffix.length_le
    rw [hbare] at h
    exact ⟨hne, hbare, notMem_of_shortName_eq h⟩
  · intro h
    rw [normalForm_of_not_isGeneric h.ne_nil hplain, head_of_not_isGeneric hplain, h.bare_eq,
      shortName_of_notMem h.dot_notMem]

theorem Word.isPlain (w : Word) : IsPlain w.text := by
  have hbare := ({ name := w } : Header).bare_text
  simp only [Header.text, qualified, List.flatMap_nil, List.nil_append, List.append_nil] at hbare
  exact ⟨w.ne_nil, hbare, w.notMem (by decide)⟩

theorem dot_notMem_qualified_iff (qualifier : List Word) (w : Word) :
    '.' ∉ qualified qualifier w ↔ qualifier = [] := by
  cases qualifier with
  | nil => simpa [qualified] using w.notMem (by decide)
  | cons v qualifier => simp [qualified_cons]

theorem isPlain_wildcard : IsPlain ['?'] :=
  ⟨by decide, WrittenType.bare_wildcard {} [] {}, by decide⟩

theorem isPlain_fallback : IsPlain fallback :=
  Word.isPlain ⟨fallback, by decide, by decide⟩

theorem isPlain_of_mem_collectionNames (h : name ∈ collectionNames) : IsPlain name := by
  have hwords : ∀ name ∈ collectionNames, name ≠ [] ∧ name.all isNameChar = true := by decide
  exact Word.isPlain ⟨name, (hwords name h).1, (hwords name h).2⟩

/-! ## Names of elements -/

/-- The name that stands between the brackets of a collection's normal form. -/
def elementName (cs : List Char) : List Char :=
  ((arguments cs).head?.map className).getD fallback

theorem className_of_ne_nil (hne : cs ≠ []) : className cs = unqualified (head cs) := by
  have hempty : cs.isEmpty = false := by simpa using hne
  rw [className, hempty]
  rfl

theorem comma_notMem_of_mem_arguments {a : List Char} (h : a ∈ arguments cs) : ',' ∉ a := by
  unfold arguments at h
  split at h
  · simp only [commaList, List.mem_filter, List.mem_map] at h
    obtain ⟨⟨piece, hpiece, rfl⟩, -⟩ := h
    intro hcomma
    exact notMem_of_mem_pieces hpiece (trimStart_subset _ (trimEnd_subset _ hcomma))
  · simp at h

theorem head_subset (cs : List Char) : head cs ⊆ cs := by
  unfold head
  split
  · exact List.Subset.trans (isInfix_bare _).subset (List.takeWhile_prefix _).subset
  · exact (isInfix_bare cs).subset

theorem unqualified_subset (cs : List Char) : unqualified cs ⊆ cs := by
  intro c hc
  exact List.mem_reverse.mp ((List.takeWhile_prefix _).subset (List.mem_reverse.mp hc))

theorem elementName_cases (cs : List Char) :
    elementName cs = fallback ∨
      ∃ a ∈ arguments cs, a ≠ [] ∧ elementName cs = unqualified (head a) := by
  unfold elementName
  cases hfirst : (arguments cs).head? with
  | none => exact .inl rfl
  | some a =>
      have hmem := List.mem_of_head? hfirst
      have hne := ne_nil_of_mem_arguments hmem
      exact .inr ⟨a, hmem, hne, className_of_ne_nil hne⟩

theorem comma_notMem_elementName (cs : List Char) : ',' ∉ elementName cs := by
  rcases elementName_cases cs with h | ⟨a, ha, -, h⟩
  · rw [h]
    decide
  · rw [h]
    intro hcomma
    exact comma_notMem_of_mem_arguments ha (head_subset a (unqualified_subset _ hcomma))

theorem dot_notMem_elementName (cs : List Char) : '.' ∉ elementName cs := by
  rcases elementName_cases cs with h | ⟨a, -, -, h⟩
  · rw [h]
    decide
  · rw [h]
    exact dot_notMem_unqualified _

theorem isGeneric_elementName (cs : List Char) : isGeneric (elementName cs) = false := by
  rcases elementName_cases cs with h | ⟨a, -, -, h⟩
  · rw [h]
    decide
  · rw [h]
    exact isGeneric_of_subset (unqualified_subset _) (isGeneric_head a)

/-! ## Reading a normal form again -/

/-- What a collection with a given element has between its brackets when it is read again. -/
theorem normalForm_collection_again {element : List Char} (hname : name ∈ collectionNames)
    (hcomma : ',' ∉ element) (hdot : '.' ∉ element) (hplain : isGeneric element = false) :
    normalForm (name ++ '<' :: (element ++ ['>'])) =
      name ++ '<' :: ((if trim element = [] then fallback else bare element) ++ ['>']) := by
  have hopen : '<' ∉ name := by
    have hfree : ∀ name ∈ collectionNames, '<' ∉ name := by decide
    exact hfree name hname
  have hplainName := isPlain_of_mem_collectionNames hname
  have hgeneric : isGeneric (name ++ '<' :: (element ++ ['>'])) = true := by simp [isGeneric]
  have hshort : shortName (head (name ++ '<' :: (element ++ ['>']))) = name := by
    rw [head, if_pos hgeneric, beforeFirst_append_cons hopen, hplainName.bare_eq,
      shortName_of_notMem hplainName.dot_notMem]
  have harguments : arguments (name ++ '<' :: (element ++ ['>'])) =
      [trim element].filter (!·.isEmpty) := by
    rw [arguments, if_pos hgeneric, bracketed, afterFirst_append_cons hopen,
      beforeLast_append_cons (by simp), commaList_of_notMem hcomma]
  rw [normalForm_of_isGeneric hgeneric hshort, if_pos hname, harguments]
  by_cases hblank : trim element = []
  · rw [hblank, if_pos rfl]
    rfl
  · have hsubset : trim element ⊆ element :=
      List.Subset.trans (trimEnd_subset _) (trimStart_subset element)
    have hread : className (trim element) = bare element := by
      rw [className_of_ne_nil hblank,
        head_of_not_isGeneric (isGeneric_of_subset hsubset hplain), bare_trim, unqualified,
        afterLast_of_notMem fun hmem ↦ hdot ((isInfix_bare element).subset hmem)]
    rw [if_neg hblank]
    simp [hblank, hread]

theorem element_again_eq_iff {element : List Char} (hdot : '.' ∉ element) :
    (if trim element = [] then fallback else bare element) = element ↔ IsPlain element := by
  by_cases hblank : trim element = []
  · rw [if_pos hblank]
    constructor
    · rintro rfl
      exact absurd hblank (by decide)
    · intro h
      have hbare : bare element = bare [] := by rw [← bare_trim, hblank]
      rw [h.bare_eq] at hbare
      exact absurd (hbare.trans (dropLeads_of_none rfl)) h.ne_nil
  · rw [if_neg hblank]
    refine ⟨fun h ↦ ⟨?_, h, hdot⟩, IsPlain.bare_eq⟩
    rintro rfl
    exact hblank rfl

/-- The names that a normal form keeps are plain. -/
structure Settled (cs : List Char) : Prop where
  name : IsPlain (shortName (head cs))
  element : isGeneric cs = true → shortName (head cs) ∈ collectionNames → IsPlain (elementName cs)

theorem settled_of_not_collection (hname : IsPlain (shortName (head cs)))
    (hcollection : shortName (head cs) ∉ collectionNames) : Settled cs :=
  ⟨hname, fun _ h ↦ absurd h hcollection⟩

theorem normalForm_stringMap :
    normalForm "Map<String, Object>".toList = "Map<String, Object>".toList := by
  have htext : WrittenType.stringMap.text = "Map<String, Object>".toList := by decide
  have hkept : WrittenType.stringMap.FirstKept := fun h ↦ absurd h (by decide)
  have hform := WrittenType.normalForm_text hkept
  rw [htext] at hform
  rw [hform]
  decide

/-- A normal form is its own normal form when the names it keeps are plain, and only then. -/
theorem normalForm_normalForm_eq_iff (hne : cs ≠ []) :
    normalForm (normalForm cs) = normalForm cs ↔ Settled cs := by
  have hname : isGeneric (shortName (head cs)) = false :=
    isGeneric_of_subset (shortName_suffix _).subset (isGeneric_head cs)
  have hplain : normalForm cs = shortName (head cs) →
      (isGeneric cs = true → shortName (head cs) ∉ collectionNames) →
        (normalForm (normalForm cs) = normalForm cs ↔ Settled cs) := by
    intro hform hcollection
    rw [hform, normalForm_eq_self_iff hname]
    exact ⟨fun h ↦ ⟨h, fun hgeneric hmem ↦ absurd hmem (hcollection hgeneric)⟩, Settled.name⟩
  cases hgeneric : isGeneric cs with
  | false =>
      exact hplain (normalForm_of_not_isGeneric hne hgeneric) (by simp [hgeneric])
  | true =>
      have hform := normalForm_of_isGeneric hgeneric (Eq.refl (shortName (head cs)))
      by_cases hcollection : shortName (head cs) ∈ collectionNames
      · rw [if_pos hcollection] at hform
        change normalForm cs = shortName (head cs) ++ '<' :: (elementName cs ++ ['>']) at hform
        rw [hform, normalForm_collection_again hcollection (comma_notMem_elementName cs)
          (dot_notMem_elementName cs) (isGeneric_elementName cs), List.append_cancel_left_eq,
          List.cons.injEq, List.append_cancel_right_eq, and_iff_right rfl,
          element_again_eq_iff (dot_notMem_elementName cs)]
        exact ⟨fun h ↦ ⟨isPlain_of_mem_collectionNames hcollection, fun _ _ ↦ h⟩,
          fun h ↦ h.element hgeneric hcollection⟩
      · rw [if_neg hcollection] at hform
        by_cases hmap : shortName (head cs) = "Map".toList
        · rw [if_pos hmap] at hform
          rw [hform, normalForm_stringMap]
          have hword : IsPlain "Map".toList := Word.isPlain ⟨_, by decide, by decide⟩
          exact iff_of_true rfl (settled_of_not_collection (hmap ▸ hword) hcollection)
        · rw [if_neg hmap] at hform
          exact hplain hform fun _ ↦ hcollection

/-- A dot is left in a normal form when one is left in front of its name. -/
theorem dot_mem_normalForm_iff (hne : cs ≠ []) :
    '.' ∈ normalForm cs ↔ '.' ∈ shortName (head cs) := by
  cases hgeneric : isGeneric cs with
  | false => rw [normalForm_of_not_isGeneric hne hgeneric]
  | true =>
      rw [normalForm_of_isGeneric hgeneric rfl]
      by_cases hcollection : shortName (head cs) ∈ collectionNames
      · have hname := (isPlain_of_mem_collectionNames hcollection).dot_notMem
        have helement := dot_notMem_elementName cs
        rw [elementName] at helement
        simp [hcollection, hname, helement]
      · rw [if_neg hcollection]
        by_cases hmap : shortName (head cs) = "Map".toList
        · rw [if_pos hmap, hmap]
          decide
        · rw [if_neg hmap]

/-! ## Written types -/

/-- Whether every dot is directly followed by a character of a name. -/
def dotsTight : List Char → Bool
  | [] => true
  | c :: cs => (c != '.' || cs.head?.any isNameChar) && dotsTight cs

theorem dotsTight_iff :
    dotsTight cs = true ↔
      ∀ before after, cs = before ++ '.' :: after → ∃ c ∈ after.head?, isNameChar c = true := by
  induction cs with
  | nil => simp [dotsTight]
  | cons d cs ih =>
      have hhere : (d != '.' || cs.head?.any isNameChar) = true ↔
          (d = '.' → ∃ c ∈ cs.head?, isNameChar c = true) := by
        by_cases hd : d = '.' <;> simp [hd, Option.any_eq_true]
      rw [dotsTight, Bool.and_eq_true, hhere, ih]
      constructor
      · rintro ⟨hfirst, hrest⟩ before after heq
        cases before with
        | nil =>
            obtain ⟨rfl, rfl⟩ := List.cons.inj heq
            exact hfirst rfl
        | cons b before => exact hrest before after (List.cons.inj heq).2
      · intro h
        refine ⟨?_, fun before after heq ↦ h (d :: before) after (by rw [heq, List.cons_append])⟩
        rintro rfl
        exact h [] cs rfl

theorem dotsTight_beforeFirst {sep : Char} (h : dotsTight cs = true)
    (hsep : isNameChar sep = false) : dotsTight (beforeFirst sep cs) = true := by
  rw [dotsTight_iff] at h ⊢
  intro before after hcut
  have hwhole : cs = before ++ '.' :: (after ++ cs.dropWhile (· != sep)) := by
    rw [← List.cons_append, ← List.append_assoc, ← hcut]
    exact List.takeWhile_append_dropWhile.symm
  obtain ⟨c, hc, hname⟩ := h _ _ hwhole
  refine ⟨c, ?_, hname⟩
  rw [List.head?_append] at hc
  rcases Option.or_eq_some_iff.mp hc with hc | ⟨-, hc⟩
  · exact hc
  · -- the text was cut at `sep`, which cannot follow a dot
    have hstop := List.head?_dropWhile_not (· != sep) cs
    rw [hc] at hstop
    have heq : c = sep := by simpa using hstop
    rw [heq, hsep] at hname
    cases hname

theorem isPlain_of_dotsTight (h : dotsTight cs = true) (hne : bare cs ≠ []) :
    IsPlain (unqualified (bare cs)) := by
  by_cases hdot : '.' ∈ bare cs
  · obtain ⟨a, b, hbare, hb⟩ := eq_append_cons_of_mem_last hdot
    obtain ⟨before, blanks, hcs⟩ := exists_eq_append_bare cs
    have hname : unqualified (bare cs) = b := by
      rw [hbare]
      exact afterLast_append_cons hb a
    have hwhole : cs = (before ++ a) ++ '.' :: (b ++ blanks.text) := by
      rw [hbare] at hcs
      simpa using hcs
    obtain ⟨c, hc, hchar⟩ := dotsTight_iff.mp h _ _ hwhole
    rw [List.head?_append] at hc
    rcases Option.or_eq_some_iff.mp hc with hc | ⟨-, hc⟩
    · have hfirst : ∀ d ∈ b.head?, d = c := by
        intro d hd
        rw [hc] at hd
        exact (Option.some.inj hd).symm
      have hlast : ∀ d ∈ b.getLast?, isBlank d = false := by
        apply getLast?_of_suffix _ (getLast?_bare cs)
        rw [hbare]
        exact (List.suffix_cons '.' b).trans (List.suffix_append a _)
      have htrim : trim b = b := by
        refine trim_of_solid (fun d hd ↦ ?_) hlast
        rw [hfirst d hd]
        exact isBlank_of_isNameChar hchar
      have hdrop : dropLeads b = b := by
        apply dropLeads_of_head?
        intro d hd
        rw [hfirst d hd]
        simp [ne_of_isNameChar hchar (by decide : isNameChar '@' = false),
          ne_of_isNameChar hchar (by decide : isNameChar '?' = false)]
      rw [hname]
      refine ⟨?_, by rw [bare, htrim, hdrop], hb⟩
      rintro rfl
      cases hc
    · have hblank := blanks.blank c (List.mem_of_mem_head? hc)
      rw [isBlank_of_isNameChar hchar] at hblank
      cases hblank
  · rw [unqualified, afterLast_of_notMem hdot]
    exact ⟨hne, bare_bare cs, hdot⟩

namespace WrittenType

/-- What is left of the qualifier in the normal form. -/
def keptQualifier : WrittenType → List Word
  | .wildcard _ _ _ => []
  | .plain header => shortQualifier header.qualifier
  | .generic header _ _ _ => shortQualifier header.qualifier

theorem shortName_head_text (t : WrittenType) :
    (t.keptQualifier = [] ∧ shortName (head t.text) = ['?']) ∨
      ∃ w : Word, shortName (head t.text) = qualified t.keptQualifier w := by
  cases t with
  | wildcard before leads after =>
      have hplain := isGeneric_of_notMem (bracket_notMem_wildcard before leads after (by simp))
      refine .inl ⟨rfl, ?_⟩
      rw [head_of_not_isGeneric hplain, bare_wildcard]
      exact shortName_of_notMem (by decide)
  | plain header =>
      refine .inr ⟨header.name, ?_⟩
      rw [text, header.head_text, shortName_qualified]
      rfl
  | generic header inner arguments closing =>
      refine .inr ⟨header.name, ?_⟩
      rw [shortName_head_generic, Header.short_text]
      rfl

theorem dot_notMem_shortName_iff (t : WrittenType) :
    '.' ∉ shortName (head t.text) ↔ t.keptQualifier = [] := by
  rcases t.shortName_head_text with ⟨hkept, hname⟩ | ⟨w, hname⟩
  · rw [hname]
    exact iff_of_true (by decide) hkept
  · rw [hname]
    exact dot_notMem_qualified_iff _ w

theorem isPlain_shortName {t : WrittenType} (h : t.keptQualifier = []) :
    IsPlain (shortName (head t.text)) := by
  rcases t.shortName_head_text with ⟨-, hname⟩ | ⟨w, hname⟩
  · rw [hname]
    exact isPlain_wildcard
  · rw [hname, h]
    exact w.isPlain

theorem isPlain_ownName (t : WrittenType) : IsPlain t.ownName := by
  cases t with
  | wildcard before leads after => exact isPlain_wildcard
  | plain header => exact header.name.isPlain
  | generic header inner arguments closing => exact header.name.isPlain

/-- No comma stands in front of the type's name; and when the type is cut at its first comma, it
keeps its name, or its dots are tight. -/
structure Tidy (t : WrittenType) : Prop where
  leads : ∀ lead ∈ t.ownLeads, ',' ∉ lead.text
  whole : t.KeepsName ∨ dotsTight t.text = true

theorem Tidy.isPlain_className {t : WrittenType} (h : t.Tidy) :
    IsPlain (className (beforeFirst ',' t.text)) := by
  by_cases hkept : t.KeepsName
  · rw [hkept.className_beforeFirst]
    exact t.isPlain_ownName
  have hcomma : isNameChar ',' = false := by decide
  have hdots := dotsTight_beforeFirst (h.whole.resolve_left hkept) hcomma
  cases t with
  | wildcard before leads after =>
      exact absurd ⟨h.leads, fun hopen ↦ absurd ((List.takeWhile_prefix _).subset hopen)
        (bracket_notMem_wildcard before leads after (by simp))⟩ hkept
  | plain header =>
      exact absurd ⟨h.leads, fun hopen ↦ absurd ((List.takeWhile_prefix _).subset hopen)
        (header.bracket_notMem (by simp))⟩ hkept
  | generic header inner arguments closing =>
      rw [text, Header.beforeFirst_comma h.leads] at hdots ⊢
      generalize beforeFirst ',' _ = more at hdots ⊢
      by_cases hclose : '>' ∈ more
      · rw [className_open header hclose]
        exact header.name.isPlain
      · have hplain : isGeneric (header.text ++ '<' :: more) = false := by
          simp [isGeneric, hclose, header.bracket_notMem (by simp : '>' ∈ ['<', '>'])]
        obtain ⟨kept, hbare⟩ :=
          (IsPiece.named header (List.mem_singleton_self _)).exists_bare_append_cons
            (s := '<') rfl more
        rw [className_of_ne_nil (by simp), head_of_not_isGeneric hplain]
        exact isPlain_of_dotsTight hdots (by simp [hbare])

/-- The first argument of a collection is tidy. -/
def FirstTidy : WrittenType → Prop
  | .generic header _ arguments _ =>
      header.short.text ∈ collectionNames → ∀ first ∈ arguments.head?, first.Tidy
  | _ => True

theorem isPlain_elementName {t : WrittenType} (h : ∀ first ∈ t.arguments.head?, first.Tidy) :
    IsPlain (elementName t.text) := by
  rw [elementName]
  cases harguments : t.arguments.head? with
  | none =>
      rw [arguments_text, List.head?_eq_none_iff.mp harguments]
      exact isPlain_fallback
  | some first =>
      have hfirst := h first harguments
      rw [className_head?_arguments harguments (trim_beforeFirst_ne_nil hfirst.leads)]
      exact hfirst.isPlain_className

theorem settled_text_iff {t : WrittenType} (h : t.FirstTidy) :
    Settled t.text ↔ t.keptQualifier = [] := by
  refine ⟨fun hsettled ↦ t.dot_notMem_shortName_iff.mp hsettled.name.dot_notMem,
    fun hkept ↦ ⟨isPlain_shortName hkept, fun hgeneric hcollection ↦ ?_⟩⟩
  cases t with
  | wildcard before leads after => exact isPlain_elementName (by simp)
  | plain header => exact isPlain_elementName (by simp)
  | generic header inner arguments closing =>
      rw [shortName_head_generic] at hcollection
      exact isPlain_elementName (h hcollection)

/-- The normal form of a written type is its own normal form exactly when no step of its qualifier
is left, and exactly then it holds no dot, provided the first argument of a collection is tidy; of
any text, exactly when the names that the normal form keeps are plain. -/
theorem normalForm_idempotent_iff (t : WrittenType) :
    (t.FirstTidy →
      (normalForm (normalForm t.text) = normalForm t.text ↔ t.keptQualifier = []) ∧
        ('.' ∉ normalForm t.text ↔ t.keptQualifier = [])) ∧
      ∀ cs : List Char, cs ≠ [] →
        (normalForm (normalForm cs) = normalForm cs ↔ Settled cs) := by
  refine ⟨fun ht ↦ ⟨?_, ?_⟩, fun cs hne ↦ normalForm_normalForm_eq_iff hne⟩
  · rw [normalForm_normalForm_eq_iff t.text_ne_nil, settled_text_iff ht]
  · rw [dot_mem_normalForm_iff t.text_ne_nil, dot_notMem_shortName_iff]

/-- A type with a step of its qualifier left, and a list that is cut through its first argument. -/
theorem normalForm_idempotent_iff_samples :
    let future : WrittenType :=
      .plain
        { qualifier := [{ text := "java".toList }, { text := "util".toList },
            { text := "concurrent".toList }]
          name := { text := "Future".toList } }
    let entries : WrittenType :=
      .generic { name := { text := "List".toList } } {}
        [.generic { name := { text := "Entry".toList } } {}
          [.plain { qualifier := [{ text := "acme".toList }], name := { text := "Key".toList } },
            .plain { name := { text := "UserDto".toList } }] {}] {}
    String.ofList future.text = "java.util.concurrent.Future" ∧ future.FirstTidy ∧
      ¬Settled future.text ∧ normalForm (normalForm future.text) ≠ normalForm future.text ∧
      '.' ∈ normalForm future.text ∧
      String.ofList entries.text = "List<Entry<acme.Key,UserDto>>" ∧ entries.FirstTidy ∧
      normalForm (normalForm entries.text) = normalForm entries.text := by
  intro future entries
  have hfuture : future.FirstTidy := trivial
  have hentries : entries.FirstTidy := by
    rintro - _ ⟨⟩
    exact ⟨by simp, .inr (by decide)⟩
  have hkept : future.keptQualifier ≠ [] := by decide
  obtain ⟨htype, htexts⟩ := normalForm_idempotent_iff future
  have hmoves : normalForm (normalForm future.text) ≠ normalForm future.text :=
    fun h ↦ hkept ((htype hfuture).1.mp h)
  refine ⟨by decide, hfuture, ?_, hmoves, ?_, by decide, hentries, ?_⟩
  · exact fun h ↦ hmoves ((htexts future.text future.text_ne_nil).mpr h)
  · by_contra hdot
    exact hkept ((htype hfuture).2.mp hdot)
  · exact ((normalForm_idempotent_iff entries).1 hentries).1.mpr rfl

end WrittenType

end ApiSurvey.TypeExpr
