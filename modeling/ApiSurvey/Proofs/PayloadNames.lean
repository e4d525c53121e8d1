import ApiSurvey.Proofs.CutTypes
import ApiSurvey.Survey.Placeholder

/-!
# Payload names found in written types

Main statements: a payload name found in a type is a name of the type when only the outermost list
of arguments holds commas, and so is the name of a placeholder; when commas stand deeper, a name
found can have other text in front, but it ends in a payload name of the type.
-/

namespace ApiSurvey

open Text TypeExpr

namespace TypeExpr

variable {names : List (List Char)} {cs : List Char}

theorem Fragment.lastWord_className (h : Fragment names cs) (hne : cs ≠ []) :
    NamedOrNone names (lastWord (className cs)) := by
  have hempty : cs.isEmpty = false := by simpa using hne
  have hhead : NamedOrNone names (lastWord (head cs)) := by
    unfold head
    split
    · exact (h.beforeFirst rfl).lastWord_bare
    · exact h.lastWord_bare
  rw [className, hempty]
  exact (lastWord_afterLast (head cs)).symm ▸ hhead

/-- A text that is a fragment but for blanks around it. -/
structure TrimmedFragment (names : List (List Char)) (cs : List Char) : Prop where
  ne_nil : cs ≠ []
  around : ∃ b b' : Blanks, Fragment names (b.text ++ cs ++ b'.text)

theorem TrimmedFragment.lastWord_className (h : TrimmedFragment names cs) :
    NamedOrNone names (lastWord (className cs)) := by
  obtain ⟨b, b', hfragment⟩ := h.around
  have hlast := hfragment.lastWord_className (by simp [h.ne_nil])
  rwa [className_around b b' h.ne_nil] at hlast

theorem trimmedFragment_of_trim {text : List Char} (h : Fragment names text)
    (hne : trim text ≠ []) : TrimmedFragment names (trim text) := by
  obtain ⟨b, b', haround⟩ := exists_eq_around_trim text
  exact ⟨hne, b, b', haround ▸ h⟩

theorem TrimmedFragment.of_mem_arguments {a : List Char} (h : TrimmedFragment names cs)
    (ha : a ∈ arguments cs) : TrimmedFragment names a := by
  obtain ⟨b, b', hfragment⟩ := h.around
  have hne := ne_nil_of_mem_arguments ha
  rw [← arguments_around b b'] at ha
  obtain ⟨text, htext, rfl⟩ := hfragment.of_mem_arguments ha
  exact trimmedFragment_of_trim htext hne

/-- The arguments of a type whose arguments have no commas in their annotations. -/
theorem WrittenType.trimmedFragment_of_mem_arguments {t : WrittenType}
    (hsmooth : ∀ argument ∈ t.arguments, argument.Smooth) {a : List Char}
    (ha : a ∈ TypeExpr.arguments t.text) : TrimmedFragment t.names a := by
  have hcontent := fragment_arguments fun argument hmem ↦ (hsmooth argument hmem).fragment
  have hne := ne_nil_of_mem_arguments ha
  rw [t.arguments_text] at ha
  obtain ⟨text, htext, rfl⟩ := hcontent.of_mem_commaList ha
  exact trimmedFragment_of_trim htext hne

theorem WrittenType.lastWord_ownName (t : WrittenType) :
    NamedOrNone t.names (lastWord t.ownName) := by
  have hname : ∀ w : Word, lastWord w.text = w.text := lastWord_append (ended_blanks {})
  rw [t.names_eq_cons]
  cases t with
  | wildcard before leads after => exact namedOrNone_nil
  | plain header => exact .inl (by simp [ownName, hname])
  | generic header inner arguments closing => exact .inl (by simp [ownName, hname])

theorem suffix_lastWord {ending : List Char} (hchars : ∀ c ∈ ending, isNameChar c = true)
    (h : ending <:+ cs) : ending <:+ lastWord cs := by
  obtain ⟨front, rfl⟩ := h
  have hreverse : ∀ c ∈ ending.reverse, isNameChar c = true := by
    intro c hc
    exact hchars c (List.mem_reverse.mp hc)
  refine ⟨(front.reverse.takeWhile isNameChar).reverse, ?_⟩
  rw [lastWord, List.reverse_append, List.takeWhile_append_of_pos hreverse, List.reverse_append,
    List.reverse_reverse]

theorem WrittenType.isNameChar_of_mem_names (t : WrittenType) :
    ∀ name ∈ t.names, name = ['?'] ∨ ∀ c ∈ name, isNameChar c = true := by
  induction t using WrittenType.induction with
  | wildcard before leads after => simp [WrittenType.names]
  | plain header =>
      intro name hname
      rw [List.mem_singleton.mp hname]
      exact .inr header.name.nameChars
  | generic header inner arguments closing ih =>
      intro name hname
      rw [WrittenType.names_eq_cons, List.mem_cons, List.mem_flatMap] at hname
      rcases hname with rfl | ⟨t, ht, hname⟩
      · exact .inr header.name.nameChars
      · exact ih t ht name hname

end TypeExpr

namespace Shape

variable {suffixes : List String}

/-- What holds of the names read from all texts that arise from an expression holds of the names
found in it. -/
theorem forall_mem_collectNames {P : String → Prop} {R : List Char → Prop}
    (hname : ∀ expr, R expr → isShapeName suffixes (String.ofList (className expr)) = true →
      P (String.ofList (className expr)))
    (harguments : ∀ expr, R expr → ∀ a ∈ arguments expr, R a) {expr : List Char} (hexpr : R expr)
    {found : List String} (hfound : ∀ n ∈ found, P n) :
    ∀ n ∈ collectNames suffixes expr found, P n := by
  -- on the length, since the texts that are read again are no parts of a tree
  generalize hlength : expr.length = k
  induction k using Nat.strong_induction_on generalizing expr found with
  | _ k ih =>
      have hown : ∀ n ∈ gather suffixes found [className expr], P n := by
        intro n hn
        rw [gather, mem_foldl_insertNew, List.mem_filter, List.map_singleton,
          List.mem_singleton] at hn
        rcases hn with hn | ⟨rfl, hshape⟩
        · exact hfound n hn
        · exact hname expr hexpr hshape
      rw [collectNames_eq]
      refine List.foldlRecOn (motive := fun found ↦ ∀ n ∈ found, P n) _ _ hown ?_
      intro found hfound a ha
      have hshorter := length_lt_of_mem_arguments ha
      exact ih a.length (hlength ▸ hshorter) (harguments expr hexpr a ha) hfound rfl

/-- A payload name ends in a payload name without other characters than those of names, when this
is so of the endings. -/
theorem lastWord_of_isShapeName
    (hsuffixes : ∀ s ∈ suffixes, s.toList.all isNameChar = true ∧
      s.toList.all isArrayBracket = false) {n : String} (h : isShapeName suffixes n = true) :
    (lastWord n.toList).all isArrayBracket = false ∧
      isShapeName suffixes (String.ofList (lastWord n.toList)) = true := by
  obtain ⟨s, hs, hsuffix⟩ := List.any_eq_true.mp h
  obtain ⟨hchars, hname⟩ := hsuffixes s hs
  have hlast := suffix_lastWord (List.all_eq_true.mp hchars)
    (List.isSuffixOf_iff_suffix.mp hsuffix)
  constructor
  · obtain ⟨c, hc, hbracket⟩ := List.all_eq_false.mp hname
    exact List.all_eq_false.mpr ⟨c, hlast.subset hc, hbracket⟩
  · refine List.any_eq_true.mpr ⟨s, hs, ?_⟩
    rw [String.toList_ofList]
    exact List.isSuffixOf_iff_suffix.mpr hlast

theorem defaultSuffixes_nameChars :
    ∀ s ∈ defaultSuffixes, s.toList.all isNameChar = true ∧
      s.toList.all isArrayBracket = false := by
  decide

/-- A name that ends in a payload name of a type, whatever stands in front of it. -/
structure EndsInNameOf (suffixes : List String) (t : WrittenType) (n : String) : Prop where
  mem_names : lastWord n.toList ∈ t.names
  isShapeName : isShapeName suffixes (String.ofList (lastWord n.toList)) = true

theorem endsInNameOf_of_mem_collectNames {t : WrittenType}
    (hsmooth : ∀ a ∈ t.arguments, a.Smooth)
    (hsuffixes : ∀ s ∈ suffixes, s.toList.all isNameChar = true ∧
      s.toList.all isArrayBracket = false) :
    ∀ n ∈ collectNames suffixes t.text [], EndsInNameOf suffixes t n := by
  -- the type itself, or a text cut out of its arguments
  let R : List Char → Prop := fun expr ↦ expr = t.text ∨ TrimmedFragment t.names expr
  have hname : ∀ expr, R expr → isShapeName suffixes (String.ofList (className expr)) = true →
      EndsInNameOf suffixes t (String.ofList (className expr)) := by
    intro expr hexpr hshape
    have hread : NamedOrNone t.names (lastWord (className expr)) := by
      rcases hexpr with rfl | hexpr
      · rw [t.className_text]
        exact t.lastWord_ownName
      · exact hexpr.lastWord_className
    obtain ⟨hother, hlast⟩ := lastWord_of_isShapeName hsuffixes hshape
    refine ⟨?_, hlast⟩
    rw [String.toList_ofList] at hother ⊢
    exact hread.resolve_right (by simp [hother])
  have harguments : ∀ expr, R expr → ∀ a ∈ arguments expr, R a := by
    rintro expr (rfl | hexpr) a ha
    · exact .inr (WrittenType.trimmedFragment_of_mem_arguments hsmooth ha)
    · exact .inr (hexpr.of_mem_arguments ha)
  exact forall_mem_collectNames hname harguments (.inl rfl) (by simp)

theorem mem_names_of_commasOutermost {t : WrittenType} (h : t.CommasOutermost) {n : String}
    (hn : n ∈ mentionedNames defaultSuffixes (String.ofList t.text)) :
    n.toList ∈ t.names ∧ ∀ c ∈ n.toList, isNameChar c = true := by
  rw [mentionedNames_of_commasOutermost _ t h, List.mem_eraseDups, List.mem_filter] at hn
  obtain ⟨hmem, hshape⟩ := hn
  obtain ⟨name, hname, rfl⟩ := List.mem_map.mp hmem
  rw [String.toList_ofList]
  refine ⟨hname, (t.isNameChar_of_mem_names name hname).resolve_left ?_⟩
  rintro rfl
  revert hshape
  decide

/-- A payload name found in a type ends in a payload name of the type. When only the outermost list
of arguments holds commas it is itself a name of the type, and so is the name of a placeholder. -/
theorem mentionedNames_endsInNameOf :
    (∀ t : WrittenType, (∀ a ∈ t.arguments, a.Smooth) →
      ∀ n ∈ mentionedNames defaultSuffixes (String.ofList t.text),
        EndsInNameOf defaultSuffixes t n) ∧
      (∀ t : WrittenType, t.CommasOutermost →
        ∀ n ∈ mentionedNames defaultSuffixes (String.ofList t.text),
          n.toList ∈ t.names ∧ ∀ c ∈ n.toList, isNameChar c = true) ∧
      ∀ (tree : FileTree) (l : Locator) (known : List String) (types : List WrittenType),
        l.settings.suffixes = defaultSuffixes → (∀ t ∈ types, t.CommasOutermost) →
          ∀ shape ∈ (Survey.placeholders tree l known
              (types.map fun t ↦ String.ofList t.text)).value,
            (∃ t ∈ types, shape.className.toList ∈ t.names) ∧
              ∀ c ∈ shape.className.toList, isNameChar c = true := by
  refine ⟨?_, fun t h n hn ↦ mem_names_of_commasOutermost h hn, ?_⟩
  · intro t hsmooth
    rw [mentionedNames, String.toList_ofList]
    exact endsInNameOf_of_mem_collectNames hsmooth defaultSuffixes_nameChars
  · intro tree l known types hsuffixes houter shape hshape
    obtain ⟨made, hmade, rfl⟩ := List.mem_map.mp hshape
    obtain ⟨name, hname, rfl⟩ := List.mem_map.mp hmade
    rw [hsuffixes, mem_missingNames] at hname
    obtain ⟨-, text, htext, hfound⟩ := hname
    obtain ⟨t, ht, rfl⟩ := List.mem_map.mp htext
    obtain ⟨hmem, hchars⟩ := mem_names_of_commasOutermost (houter t ht) hfound
    exact ⟨⟨t, ht, hmem⟩, hchars⟩

theorem mentionedNames_nested_comma :
    mentionedNames defaultSuffixes "ResponseEntity<Map<UserDto, String>>" = ["Map<UserDto"] := by
  have hcut : arguments "ResponseEntity<Map<UserDto, String>>".toList =
      ["Map<UserDto".toList, "String>".toList] := by decide
  have hbare : bare (beforeFirst '<' "ResponseEntity<Map<UserDto, String>>".toList) =
      "ResponseEntity".toList := dropLeads_of_none rfl
  have hroot : className "ResponseEntity<Map<UserDto, String>>".toList =
      "ResponseEntity".toList := congrArg unqualified hbare
  have hfirst : className "Map<UserDto".toList = "Map<UserDto".toList :=
    className_of_afterLead?_eq_none rfl rfl rfl
  have hsecond : className "String>".toList = "String>".toList :=
    className_of_afterLead?_eq_none rfl rfl rfl
  rw [mentionedNames, collectNames_eq, hroot, hcut, List.foldl_cons, List.foldl_cons,
    List.foldl_nil, collectNames_of_not_isGeneric rfl, collectNames_of_not_isGeneric rfl, hfirst,
    hsecond]
  decide

theorem exists_nested_comma :
    ∃ t : WrittenType, String.ofList t.text = "ResponseEntity<Map<UserDto, String>>" ∧
      t.names = ["ResponseEntity", "Map", "UserDto", "String"].map String.toList ∧
      ∀ a ∈ t.arguments, a.Smooth := by
  refine ⟨.generic { name := { text := "ResponseEntity".toList } } {}
    [.generic { name := { text := "Map".toList } } {}
      [.plain { name := { text := "UserDto".toList } },
        .plain { before := { text := [' '] }, name := { text := "String".toList } }] {}] {},
    by decide, by decide, ?_⟩
  simp only [WrittenType.arguments_generic, List.mem_singleton, forall_eq]
  refine .intro (by decide) ?_
  simp only [WrittenType.arguments_generic, List.mem_cons, List.not_mem_nil, or_false,
    forall_eq_or_imp, forall_eq]
  exact ⟨.intro (by decide) (by simp), .intro (by decide) (by simp)⟩

/-- A comma below the outermost list of arguments leaves a bracket in the name found. -/
theorem not_forall_mem_names :
    ¬∀ t : WrittenType, ∀ n ∈ mentionedNames defaultSuffixes (String.ofList t.text),
      n.toList ∈ t.names := by
  intro h
  obtain ⟨t, htext, hnames, -⟩ := exists_nested_comma
  have hmem := h t "Map<UserDto" (by simp [htext, mentionedNames_nested_comma])
  rw [hnames] at hmem
  revert hmem
  decide

theorem mentionedNames_endsInNameOf_nested_comma :
    let users : WrittenType :=
      .generic { name := { text := "List".toList } } {}
        [.plain { name := { text := "UserDto".toList } }] {}
    let l : Locator := { searchRoot := none, settings := {} }
    (∃ t : WrittenType, String.ofList t.text = "ResponseEntity<Map<UserDto, String>>" ∧
      (∀ a ∈ t.arguments, a.Smooth) ∧ EndsInNameOf defaultSuffixes t "Map<UserDto") ∧
      users.CommasOutermost ∧
      ∀ tree, ∀ shape ∈ (Survey.placeholders tree l [] [String.ofList users.text]).value,
        ∀ c ∈ shape.className.toList, isNameChar c = true := by
  intro users l
  obtain ⟨hends, -, hplaced⟩ := mentionedNames_endsInNameOf
  have houter : users.CommasOutermost := by
    simp only [WrittenType.CommasOutermost, users, WrittenType.arguments_generic,
      List.mem_singleton, forall_eq]
    exact ⟨.plain _, .intro (by decide) (by simp)⟩
  refine ⟨?_, houter, ?_⟩
  · obtain ⟨t, htext, -, hsmooth⟩ := exists_nested_comma
    refine ⟨t, htext, hsmooth, hends t hsmooth _ ?_⟩
    simp [htext, mentionedNames_nested_comma]
  · intro tree shape hshape
    exact (hplaced tree l [] [users] rfl (by simpa using houter) shape hshape).2

end Shape

end ApiSurvey
