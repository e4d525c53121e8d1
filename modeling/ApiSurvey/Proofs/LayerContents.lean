import ApiSurvey.Proofs.Layouts
import ApiSurvey.Proofs.SettledForms

/-!
# What is read of a written type

Main statement: the outermost layer of a written type is read with its own name; its arguments are
read as they are written exactly when none of them holds a comma, as when only the outermost list of
arguments has several; and its normal form is then made of unqualified names, unless its qualifier
goes on behind a built-in package.
-/

namespace ApiSurvey.TypeExpr

open Text

/-! ## Qualifiers -/

def qualifierText (qualifier : List Word) : List Char :=
  qualifier.flatMap (·.text ++ ['.'])

/-- A qualifier that starts with a built-in package is that package. -/
def EndsAtBuiltin (qualifier : List Word) : Prop :=
  ∀ package ∈ builtinPackages, package <+: qualifierText qualifier →
    qualifierText qualifier = package

instance (qualifier : List Word) : Decidable (EndsAtBuiltin qualifier) :=
  inferInstanceAs (Decidable (∀ package ∈ builtinPackages, _ → _))

theorem qualifierText_eq_nil_iff (qualifier : List Word) :
    qualifierText qualifier = [] ↔ qualifier = [] := by
  cases qualifier <;> simp [qualifierText]

theorem shortQualifier_of_endsAtBuiltin {qualifier : List Word} (h : EndsAtBuiltin qualifier) :
    shortQualifier qualifier = [] := by
  unfold shortQualifier
  split
  · rename_i v w rest
    split
    · rename_i hbuiltin
      obtain ⟨hv, hw⟩ := hbuiltin
      have hsplit : qualifierText (v :: w :: rest) = packageOf w.text ++ qualifierText rest := by
        simp [qualifierText, packageOf, hv]
      have hpackage : packageOf w.text ∈ builtinPackages := by
        have hpackages : builtinPackages = ["lang".toList, "util".toList].map packageOf := by decide
        rw [hpackages]
        exact List.mem_map_of_mem hw
      have hwhole := h _ hpackage (hsplit ▸ List.prefix_append _ _)
      rw [hsplit, List.append_right_eq_self] at hwhole
      exact (qualifierText_eq_nil_iff rest).mp hwhole
    · rfl
  · rfl

namespace WrittenType

def qualifier : WrittenType → List Word
  | .wildcard _ _ _ => []
  | .plain header => header.qualifier
  | .generic header _ _ _ => header.qualifier

/-! ## Normal forms -/

/-- The form in which a type is documented, all names without their qualifiers. -/
def plainForm : WrittenType → List Char
  | .wildcard _ _ _ => ['?']
  | .plain header => header.name.text
  | .generic header _ arguments _ =>
      if collectionNames.contains header.name.text then
        header.name.text ++ '<' :: ((arguments.head?.map ownName).getD "Object".toList ++ ['>'])
      else if header.name.text = "Map".toList then "Map<String, Object>".toList
      else header.name.text

theorem normalForm_eq_plainForm {t : WrittenType} (hkept : t.FirstKept)
    (hends : EndsAtBuiltin t.qualifier) : normalForm t.text = t.plainForm := by
  have hshort : ∀ header : Header, EndsAtBuiltin header.qualifier →
      header.short.text = header.name.text := by
    intro header hheader
    rw [Header.short_text, shortQualifier_of_endsAtBuiltin hheader]
    rfl
  cases t with
  | wildcard before leads after => exact normalForm_text hkept
  | plain header => exact (normalForm_text hkept).trans (hshort header hends)
  | generic header inner arguments closing =>
      have hname := hshort header hends
      simp only [plainForm, List.contains_iff_mem, ← hname]
      by_cases hcollection : header.short.text ∈ collectionNames
      · rw [if_pos hcollection, normalForm_collection hcollection (hkept hcollection)]
        rfl
      · rw [normalForm_of_isGeneric (isGeneric_generic ..) (shortName_head_generic ..),
          if_neg hcollection, if_neg hcollection]

/-! ## Arguments -/

theorem arguments_layer_ofList (reading : Reading) (cs : List Char) :
    (layer reading (String.ofList cs)).arguments =
      (TypeExpr.arguments cs).map String.ofList := by
  change (TypeExpr.arguments (String.ofList cs).toList).map String.ofList = _
  rw [String.toList_ofList]

/-- Arguments are read as they are written when no comma cuts through them, and only then. -/
theorem arguments_text_eq_iff (t : WrittenType) :
    TypeExpr.arguments t.text = t.arguments.map (trim ·.text) ↔
      ∀ a ∈ t.arguments, ',' ∉ a.text := by
  constructor
  · intro hread a ha hcomma
    have hmem : trim a.text ∈ TypeExpr.arguments t.text := by
      rw [hread]
      exact List.mem_map_of_mem ha
    obtain ⟨b, b', htext⟩ := exists_eq_around_trim a.text
    rw [htext, mem_around b b' (by decide)] at hcomma
    exact comma_notMem_of_mem_arguments hmem hcomma
  · exact arguments_text_of_notMem

/-- A type is read with its own unqualified name, and with its arguments as they are written exactly
when none of them holds a comma. Where commas stand only in the outermost list, the arguments are
read so in every reading; and the normal form is made of unqualified names when the qualifier does
not go on behind a built-in package. -/
theorem layer_of_written (t : WrittenType) (reading : Reading) :
    (layer .className (String.ofList t.text)).base = String.ofList t.ownName ∧
      ((layer reading (String.ofList t.text)).arguments =
          t.arguments.map (fun a ↦ String.ofList (trim a.text)) ↔
        ∀ a ∈ t.arguments, ',' ∉ a.text) ∧
      (t.CommasOutermost →
        (layer reading (String.ofList t.text)).arguments =
            t.arguments.map (fun a ↦ String.ofList (trim a.text)) ∧
          (EndsAtBuiltin t.qualifier →
            (layer .normalized (String.ofList t.text)).base = String.ofList t.plainForm)) := by
  have harguments : (layer reading (String.ofList t.text)).arguments =
      t.arguments.map (fun a ↦ String.ofList (trim a.text)) ↔ ∀ a ∈ t.arguments, ',' ∉ a.text := by
    rw [arguments_layer_ofList, ← arguments_text_eq_iff,
      ← List.map_inj_right fun _ _ ↦ String.ofList_injective, List.map_map]
    rfl
  refine ⟨?_, harguments, fun houter ↦ ⟨harguments.mpr ?_, fun hends ↦ ?_⟩⟩
  · exact congrArg String.ofList ((congrArg className String.toList_ofList).trans t.className_text)
  · intro a ha
    exact comma_notMem_text (houter a ha).1 (houter a ha).2
  · rw [layer, String.toList_ofList, normalForm_eq_plainForm houter.firstKept hends]

/-- A list of one type that has an annotation, a bound and an argument of its own. -/
theorem layer_of_written_list :
    let space : Gap := { text := [' '] }
    let user : Header :=
      { before := space.toBlanks, qualifier := [{ text := "acme".toList }]
        name := { text := "UserDto".toList } }
    let page : Header :=
      { before := space.toBlanks
        leads := [.bound space false space, .marker { text := "Valid".toList } space]
        name := { text := "Page".toList } }
    let list : Header :=
      { qualifier := [{ text := "java".toList }, { text := "util".toList }]
        name := { text := "List".toList } }
    let t : WrittenType :=
      .generic list {} [.generic page {} [.plain user] { before := space.toBlanks }] {}
    String.ofList t.text = "java.util.List< ? extends @Valid Page< acme.UserDto> >" ∧
      t.CommasOutermost ∧ EndsAtBuiltin t.qualifier ∧
      (layer .className (String.ofList t.text)).base = "List" ∧
      (layer .verbatim (String.ofList t.text)).arguments =
        ["? extends @Valid Page< acme.UserDto>"] ∧
      (layer .normalized (String.ofList t.text)).base = "List<Page>" := by
  intro space user page list t
  have houter : t.CommasOutermost := by
    simp only [CommasOutermost, t, arguments_generic, List.mem_singleton, forall_eq]
    refine ⟨.nested _ _ _ (.plain _), .intro (by decide) ?_⟩
    simp only [arguments_generic, List.mem_singleton, forall_eq]
    exact .intro (by decide) (by simp)
  have hends : EndsAtBuiltin t.qualifier := by decide
  obtain ⟨hname, -, hrest⟩ := layer_of_written t .verbatim
  obtain ⟨harguments, hform⟩ := hrest houter
  exact ⟨by decide, houter, hends, hname.trans (by decide), harguments.trans (by decide),
    (hform hends).trans (by decide)⟩

end WrittenType

end ApiSurvey.TypeExpr
