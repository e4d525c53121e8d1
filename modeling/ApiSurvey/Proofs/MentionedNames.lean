import ApiSurvey.Proofs.MissingNames
import ApiSurvey.Proofs.TypeLayers

/-!
# Names mentioned in a written type

Arguments are cut at every comma between the outermost brackets, whatever the depth at which it
stands. Main statement: when only the outermost list of arguments holds commas, the payload names
found are those of the tree, in the order of their first mention.
-/

namespace ApiSurvey

namespace TypeExpr.WrittenType

/-- One argument at most, at every depth. -/
inductive IsChain : WrittenType → Prop where
  | wildcard (before : Text.Blanks) (leads : List Lead) (after : Text.Blanks) :
      IsChain (.wildcard before leads after)
  | plain (header : Header) : IsChain (.plain header)
  | diamond (header : Header) (inner : Text.Blanks) (closing : Closing) :
      IsChain (.generic header inner [] closing)
  | nested (header : Header) (inner : Text.Blanks) (closing : Closing) {t : WrittenType}
      (ht : IsChain t) : IsChain (.generic header inner [t] closing)

/-- No annotation holds a comma. -/
inductive Smooth : WrittenType → Prop where
  | intro {t : WrittenType} (leads : ∀ lead ∈ t.ownLeads, ',' ∉ lead.text)
      (arguments : ∀ argument ∈ t.arguments, Smooth argument) : Smooth t

/-- All commas stand in the outermost list of arguments, or in front of it. -/
def CommasOutermost (t : WrittenType) : Prop :=
  ∀ argument ∈ t.arguments, argument.IsChain ∧ argument.Smooth

theorem comma_notMem_text {t : WrittenType} (hchain : t.IsChain) (hsmooth : t.Smooth) :
    ',' ∉ t.text := by
  have hblanks : ∀ b : Text.Blanks, ',' ∉ b.text := fun b ↦ b.notMem (by decide)
  have hclosing : ∀ closing : Closing, ',' ∉ closing.text := fun closing ↦
    closing.notMem (by decide) (by decide)
  induction hchain with
  | wildcard before leads after =>
      obtain ⟨hleads, -⟩ := hsmooth
      exact comma_notMem_wildcard before after hleads
  | plain header =>
      obtain ⟨hleads, -⟩ := hsmooth
      exact Header.comma_notMem hleads
  | diamond header inner closing =>
      obtain ⟨hleads, -⟩ := hsmooth
      simp [text, texts, hblanks, hclosing, Header.comma_notMem hleads]
  | nested header inner closing ht ih =>
      obtain ⟨hleads, harguments⟩ := hsmooth
      have hargument := ih (harguments _ (by simp))
      simp [text, texts, hblanks, hclosing, Header.comma_notMem hleads, hargument]

end TypeExpr.WrittenType

namespace Shape

open Text TypeExpr TypeExpr.WrittenType

variable {suffixes : List String}

/-- Adds those of some names that are payload names to the ones found. -/
def gather (suffixes found : List String) (names : List (List Char)) : List String :=
  ((names.map String.ofList).filter (isShapeName suffixes)).foldl insertNew found

theorem gather_append (found : List String) (names more : List (List Char)) :
    gather suffixes found (names ++ more) = gather suffixes (gather suffixes found names) more := by
  simp only [gather, List.map_append, List.filter_append, List.foldl_append]

theorem gather_flatMap {α : Type} (found : List String) (f : α → List (List Char)) (xs : List α) :
    gather suffixes found (xs.flatMap f) =
      xs.foldl (fun found x ↦ gather suffixes found (f x)) found := by
  induction xs generalizing found with
  | nil => rfl
  | cons x xs ih => rw [List.flatMap_cons, gather_append, ih, List.foldl_cons]

/-- The names of an expression are collected from its own name and from its arguments in turn. -/
theorem collectNames_eq (expr : List Char) (found : List String) :
    collectNames suffixes expr found =
      (TypeExpr.arguments expr).foldl (fun found a ↦ collectNames suffixes a found)
        (gather suffixes found [className expr]) := by
  have hown : gather suffixes found [className expr] =
      if isShapeName suffixes (String.ofList (className expr)) then
        insertNew found (String.ofList (className expr)) else found := by
    unfold gather
    by_cases hname : isShapeName suffixes (String.ofList (className expr)) = true
    · simp [hname]
    · simp [hname]
  rw [collectNames, hown]
  exact List.foldl_attach (f := fun found a ↦ collectNames suffixes a found)

theorem collectNames_of_not_isGeneric {cs : List Char} (hplain : isGeneric cs = false)
    (found : List String) :
    collectNames suffixes cs found = gather suffixes found [className cs] := by
  rw [collectNames_eq, TypeExpr.arguments, hplain]
  rfl

theorem collectNames_trim {expr : List Char} (hne : trim expr ≠ []) (found : List String) :
    collectNames suffixes (trim expr) found = collectNames suffixes expr found := by
  obtain ⟨b, b', hexpr⟩ := exists_eq_around_trim expr
  have harguments : TypeExpr.arguments expr = TypeExpr.arguments (trim expr) := by
    rw [hexpr, arguments_around b b', ← hexpr]
  rw [collectNames_eq, collectNames_eq, className_trim hne, harguments]

/-- A type gives its names when its arguments give theirs and no comma stands inside of them. -/
theorem collectNames_text {t : WrittenType} (hcomma : ∀ a ∈ t.arguments, ',' ∉ a.text)
    (hnames : ∀ a ∈ t.arguments, ∀ found,
      collectNames suffixes a.text found = gather suffixes found a.names) (found : List String) :
    collectNames suffixes t.text found = gather suffixes found t.names := by
  have hown : t.names = [t.ownName] ++ t.arguments.flatMap names := t.names_eq_cons
  rw [collectNames_eq, className_text, arguments_text_of_notMem hcomma, List.foldl_map, hown,
    gather_append, gather_flatMap]
  apply List.foldl_ext
  intro found a ha
  rw [collectNames_trim a.trim_text_ne_nil, hnames a ha]

theorem collectNames_of_isChain {t : WrittenType} (hchain : t.IsChain) (hsmooth : t.Smooth)
    (found : List String) : collectNames suffixes t.text found = gather suffixes found t.names := by
  induction hchain generalizing found with
  | wildcard before leads after => exact collectNames_text (by simp) (by simp) found
  | plain header => exact collectNames_text (by simp) (by simp) found
  | diamond header inner closing => exact collectNames_text (by simp) (by simp) found
  | nested header inner closing ht ih =>
      obtain ⟨-, harguments⟩ := hsmooth
      have hinner := harguments _ (List.mem_singleton_self _)
      apply collectNames_text
      · simpa using comma_notMem_text ht hinner
      · simpa using ih hinner

theorem foldl_insertNew_eq_append (xs names : List String) :
    xs.foldl insertNew names = names ++ (xs.filter (!names.contains ·)).eraseDups := by
  induction xs generalizing names with
  | nil => simp
  | cons x xs ih =>
      rw [List.foldl_cons, ih]
      by_cases hx : x ∈ names
      · simp [insertNew, hx]
      · have hnew : insertNew names x = names ++ [x] := by simp [insertNew, hx]
        have hfilter : xs.filter (!(names ++ [x]).contains ·) =
            (xs.filter (!names.contains ·)).filter (!· == x) := by
          rw [List.filter_filter]
          apply List.filter_congr
          intro y _
          by_cases hy : y = x <;> simp [hy]
        rw [hnew, hfilter, List.filter_cons_of_pos (by simp [hx]), List.eraseDups_cons,
          List.append_assoc]
        rfl

/-- Where only the outermost list of arguments holds commas, the names found are the payload names
of the tree in the order of their first mention. -/
theorem mentionedNames_of_commasOutermost (suffixes : List String) (t : WrittenType)
    (h : t.CommasOutermost) :
    mentionedNames suffixes (String.ofList t.text) =
      ((t.names.map String.ofList).filter (isShapeName suffixes)).eraseDups := by
  have hcomma : ∀ a ∈ t.arguments, ',' ∉ a.text := by
    intro a ha
    exact comma_notMem_text (h a ha).1 (h a ha).2
  have hnames : ∀ a ∈ t.arguments, ∀ found,
      collectNames suffixes a.text found = gather suffixes found a.names := by
    intro a ha
    exact collectNames_of_isChain (h a ha).1 (h a ha).2
  rw [mentionedNames, String.toList_ofList, collectNames_text hcomma hnames, gather,
    foldl_insertNew_eq_append]
  simp

/-- A type with two arguments, each with one of its own, which have annotations and bounds. -/
theorem mentionedNames_of_written_pair :
    let space : Gap := { text := [' '] }
    let size : Lead :=
      .markerWith { text := "a.Size".toList } { text := "max = 3".toList } space.toBlanks
    let user : Header :=
      { leads := [.bound space false space, size], qualifier := [{ text := "acme".toList }]
        name := { text := "UserDto".toList } }
    let page : Header := { before := space.toBlanks, name := { text := "PageResponse".toList } }
    let t : WrittenType :=
      .generic { name := { text := "Pair".toList } } {}
        [.generic { name := { text := "List".toList } } {} [.plain user] {},
          .generic page {} [.plain user] {}] {}
    String.ofList t.text = "Pair<List<? extends @a.Size(max = 3) acme.UserDto>, " ++
        "PageResponse<? extends @a.Size(max = 3) acme.UserDto>>" ∧ t.CommasOutermost ∧
      mentionedNames defaultSuffixes (String.ofList t.text) = ["UserDto", "PageResponse"] := by
  intro space size user page t
  have hinner : ∀ {header : Header}, (∀ lead ∈ header.leads, ',' ∉ lead.text) →
      IsChain (.generic header {} [.plain user] {}) ∧
        Smooth (.generic header {} [.plain user] {}) := by
    intro header hleads
    refine ⟨.nested _ _ _ (.plain _), .intro hleads ?_⟩
    simp only [arguments_generic, List.mem_singleton, forall_eq]
    exact .intro (by decide) (by simp)
  have houter : t.CommasOutermost := by
    simp only [CommasOutermost, t, arguments_generic, List.mem_cons, List.not_mem_nil, or_false,
      forall_eq_or_imp, forall_eq]
    exact ⟨hinner (by decide), hinner (by decide)⟩
  refine ⟨by decide, houter, ?_⟩
  rw [mentionedNames_of_commasOutermost _ t houter]
  decide

end Shape

end ApiSurvey
