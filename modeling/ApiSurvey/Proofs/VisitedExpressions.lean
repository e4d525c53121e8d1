import ApiSurvey.Proofs.SettledForms

/-!
# Expressions that are visited

Collecting the names of an expression visits the expression and then, one after the other, what its
arguments visit. An argument is cut out between two brackets that are looked for separately, so
nothing needs to hold of the text: brackets may be missing, unbalanced or in reverse order. Main
statement: a text is left after at most as many visits as it has characters, the names found in it
are the first mentions among the names of the visited expressions, and each of them is a piece of
the text.
-/

namespace ApiSurvey

namespace Text

variable {sep : Char} {cs p : List Char}

theorem flatten_pieces (sep : Char) (cs : List Char) :
    (pieces sep cs).flatten = cs.filter (· != sep) := by
  induction cs with
  | nil => rfl
  | cons c cs ih =>
      rw [pieces]
      by_cases hc : c = sep
      · simpa [hc] using ih
      · rw [List.filter_cons_of_pos (by simpa using hc), ← ih, if_neg (by simpa using hc)]
        cases pieces sep cs <;> rfl

theorem isInfix_intercalate {texts : List (List Char)} (h : p ∈ texts) :
    p <:+: [sep].intercalate texts := by
  induction texts with
  | nil => cases h
  | cons text texts ih =>
      cases texts with
      | nil =>
          obtain rfl := List.mem_singleton.mp h
          exact ⟨[], [], by simp [List.intercalate_singleton]⟩
      | cons other texts =>
          rw [List.intercalate_cons_cons, List.append_assoc]
          rcases List.mem_cons.mp h with rfl | h
          · exact (List.prefix_append _ _).isInfix
          · exact (ih h).trans ((List.suffix_append _ _).trans (List.suffix_append _ _)).isInfix

theorem isInfix_of_mem_pieces (h : p ∈ pieces sep cs) : p <:+: cs := by
  rw [pieces_eq_splitOn] at h
  have hinfix : p <:+: [sep].intercalate (cs.splitOn sep) := isInfix_intercalate h
  rwa [List.intercalate_splitOn] at hinfix

end Text

namespace TypeExpr

open Text

variable {a cs : List Char}

/-! ## Pieces of an expression -/

theorem isInfix_of_mem_arguments (h : a ∈ arguments cs) : a <:+: cs := by
  unfold arguments at h
  split at h
  · obtain ⟨piece, hpiece, rfl⟩ := List.mem_map.mp (List.mem_of_mem_filter h)
    have hinside : bracketed cs <:+: cs :=
      (prefix_beforeLast _ _).isInfix.trans (afterFirst_suffix _ _).isInfix
    exact (isInfix_trim piece).trans ((isInfix_of_mem_pieces hpiece).trans hinside)
  · cases h

theorem isInfix_head (cs : List Char) : head cs <:+: cs := by
  unfold head
  split
  · exact (isInfix_bare _).trans (List.takeWhile_prefix _).isInfix
  · exact isInfix_bare cs

theorem isInfix_className (hne : cs ≠ []) : className cs <:+: cs := by
  rw [className, if_neg (by simpa using hne)]
  exact (afterLast_suffix _ _).isInfix.trans (isInfix_head cs)

theorem length_flatMap_le_flatten {β : Type} {f : List Char → List β} {xs : List (List Char)}
    (h : ∀ x ∈ xs, (f x).length ≤ x.length) : (xs.flatMap f).length ≤ xs.flatten.length := by
  induction xs with
  | nil => simp
  | cons x xs ih =>
      have hfirst := h x (List.mem_cons_self ..)
      have hrest := ih fun y hy ↦ h y (List.mem_cons_of_mem x hy)
      rw [List.flatMap_cons, List.flatten_cons, List.length_append, List.length_append]
      omega

/-- All arguments of an expression together are shorter than it. -/
theorem length_flatten_arguments_lt (hne : cs ≠ []) :
    (arguments cs).flatten.length < cs.length := by
  unfold arguments
  split
  · rename_i hgeneric
    have hopen : '<' ∈ cs := by
      simp only [isGeneric, Bool.and_eq_true, List.contains_iff_mem] at hgeneric
      exact hgeneric.1
    have htrimmed : (commaList (bracketed cs)).flatten.length ≤
        (pieces ',' (bracketed cs)).flatten.length := by
      rw [commaList, List.flatten_filter_not_isEmpty]
      exact length_flatMap_le_flatten fun piece _ ↦ length_trim_le piece
    have hpieces : (pieces ',' (bracketed cs)).flatten.length ≤ (bracketed cs).length := by
      rw [flatten_pieces]
      exact List.length_filter_le _ _
    have hinside : (bracketed cs).length ≤ (afterFirst '<' cs).length := length_beforeLast_le ..
    have hafter := length_afterFirst_lt hopen
    omega
  · exact List.length_pos_of_ne_nil hne

/-! ## Visits -/

/-- The expressions that are visited in an expression: the expression itself, then those of its
arguments in turn. -/
def visited (expr : List Char) : List (List Char) :=
  expr :: (arguments expr).attach.flatMap fun argument ↦ visited argument.1
termination_by expr.length
decreasing_by exact length_lt_of_mem_arguments argument.2

theorem visited_eq (expr : List Char) :
    visited expr = expr :: (arguments expr).flatMap visited := by
  rw [visited, List.flatMap_subtype (g := visited) fun _ _ ↦ rfl, List.unattach_attach]

/-- What holds of an expression when it holds of its arguments holds of every expression. -/
theorem arguments_induction {P : List Char → Prop}
    (h : ∀ expr, (∀ a ∈ arguments expr, P a) → P expr) (expr : List Char) : P expr :=
  h expr fun a _ ↦ arguments_induction h a
termination_by expr.length
decreasing_by exact length_lt_of_mem_arguments ‹_›

theorem length_visited_le (hne : cs ≠ []) : (visited cs).length ≤ cs.length := by
  induction cs using arguments_induction with
  | h expr ih =>
      have harguments : ((arguments expr).flatMap visited).length ≤
          (arguments expr).flatten.length :=
        length_flatMap_le_flatten fun a ha ↦ ih a ha (ne_nil_of_mem_arguments ha)
      have hshorter := length_flatten_arguments_lt hne
      rw [visited_eq, List.length_cons]
      omega

/-- Every visited expression is a piece of the one that is visited first. -/
theorem isInfix_of_mem_visited (hne : cs ≠ []) (h : a ∈ visited cs) : a ≠ [] ∧ a <:+: cs := by
  induction cs using arguments_induction generalizing a with
  | h expr ih =>
      rw [visited_eq, List.mem_cons, List.mem_flatMap] at h
      rcases h with rfl | ⟨argument, hargument, h⟩
      · exact ⟨hne, List.infix_refl a⟩
      · obtain ⟨hvisited, hinfix⟩ := ih argument hargument (ne_nil_of_mem_arguments hargument) h
        exact ⟨hvisited, hinfix.trans (isInfix_of_mem_arguments hargument)⟩

end TypeExpr

namespace Shape

open TypeExpr

variable {suffixes : List String}

/-- The payload names among the names of the visited expressions, as often as they are met. -/
def metNames (suffixes : List String) (expr : List Char) : List String :=
  ((visited expr).map fun e ↦ String.ofList (className e)).filter (isShapeName suffixes)

/-- The names met in an expression are its own, if that is a payload name, and then those met in its
arguments. -/
theorem metNames_eq (suffixes : List String) (expr : List Char) :
    metNames suffixes expr =
      (if isShapeName suffixes (String.ofList (className expr)) then
          [String.ofList (className expr)] else []) ++
        (arguments expr).flatMap (metNames suffixes) := by
  have harguments : (arguments expr).flatMap (metNames suffixes) =
      (((arguments expr).flatMap visited).map fun e ↦ String.ofList (className e)).filter
        (isShapeName suffixes) := by
    rw [List.map_flatMap, List.filter_flatMap]
    rfl
  rw [harguments, metNames, visited_eq, List.map_cons, List.filter_cons]
  split <;> rfl

/-- Collecting with names found before is adding the names met, whatever was found. -/
theorem collectNames_eq_foldl (expr : List Char) (found : List String) :
    collectNames suffixes expr found = (metNames suffixes expr).foldl insertNew found := by
  induction expr using arguments_induction generalizing found with
  | h expr ih =>
      have hown : gather suffixes found [className expr] =
          (if isShapeName suffixes (String.ofList (className expr)) then
            [String.ofList (className expr)] else []).foldl insertNew found := by
        rw [gather, List.map_singleton, List.filter_singleton, cond_eq_ite]
      rw [collectNames_eq, metNames_eq, List.foldl_append, ← hown, List.foldl_flatMap]
      apply List.foldl_ext
      intro found a ha
      exact ih a ha found

theorem mentionedNames_eq_eraseDups (suffixes : List String) (expr : String) :
    mentionedNames suffixes expr = (metNames suffixes expr.toList).eraseDups := by
  rw [mentionedNames, collectNames_eq_foldl, foldl_insertNew_eq_append]
  simp

theorem nodup_mentionedNames (suffixes : List String) (expr : String) :
    (mentionedNames suffixes expr).Nodup := by
  rw [mentionedNames, collectNames_eq_foldl]
  exact nodup_foldl_insertNew List.nodup_nil

theorem isInfix_of_mem_mentionedNames {expr n : String} (hne : expr ≠ "")
    (h : n ∈ mentionedNames suffixes expr) : n.toList <:+: expr.toList := by
  rw [mentionedNames_eq_eraseDups, List.mem_eraseDups] at h
  obtain ⟨e, he, rfl⟩ := List.mem_map.mp (List.mem_of_mem_filter h)
  obtain ⟨hvisited, hinfix⟩ := isInfix_of_mem_visited (by simpa using hne) he
  rw [String.toList_ofList]
  exact (isInfix_className hvisited).trans hinfix

theorem exists_suffix_of_mem_mentionedNames {expr n : String}
    (h : n ∈ mentionedNames suffixes expr) : ∃ s ∈ suffixes, s.toList <:+ n.toList := by
  rw [mentionedNames_eq_eraseDups, List.mem_eraseDups] at h
  have hname : isShapeName suffixes n = true := List.of_mem_filter h
  obtain ⟨s, hs, hsuffix⟩ := List.any_eq_true.mp hname
  exact ⟨s, hs, List.isSuffixOf_iff_suffix.mp hsuffix⟩

/-- In any text that is not empty, arguments are not empty and shorter than the text, so it is left
after at most as many visits as it has characters. The names found are those met, an expression
before its arguments, each where it is met first; and they are pieces of the text with one of the
endings. -/
theorem mentionedNames_of_any_text (suffixes : List String) (expr : String) (hne : expr ≠ "") :
    (∀ a ∈ (layer .verbatim expr).arguments, a ≠ "" ∧ a.length < expr.length) ∧
      (visited expr.toList).length ≤ expr.length ∧
      (mentionedNames suffixes expr).Nodup ∧
      mentionedNames suffixes expr = (metNames suffixes expr.toList).eraseDups ∧
      (∀ e, metNames suffixes e =
        (if isShapeName suffixes (String.ofList (className e)) then
            [String.ofList (className e)] else []) ++
          (arguments e).flatMap (metNames suffixes)) ∧
      ∀ n ∈ mentionedNames suffixes expr,
        n.toList <:+: expr.toList ∧ ∃ s ∈ suffixes, s.toList <:+ n.toList := by
  refine ⟨?_, length_visited_le (by simpa using hne), nodup_mentionedNames suffixes expr,
    mentionedNames_eq_eraseDups suffixes expr, metNames_eq suffixes, ?_⟩
  · intro a ha
    obtain ⟨argument, hargument, rfl⟩ := List.mem_map.mp ha
    have hnonempty := ne_nil_of_mem_arguments hargument
    have hshorter := length_lt_of_mem_arguments hargument
    exact ⟨by simpa using hnonempty, by rwa [String.length_ofList]⟩
  · intro n hn
    exact ⟨isInfix_of_mem_mentionedNames hne hn, exists_suffix_of_mem_mentionedNames hn⟩

theorem mentionedNames_unbalanced :
    mentionedNames defaultSuffixes "b>.Map<UserDto, , x.LoginRes, <UserDto>" =
      ["UserDto", "LoginRes", "<UserDto"] := by
  have hcut : arguments "b>.Map<UserDto, , x.LoginRes, <UserDto>".toList =
      ["UserDto".toList, "x.LoginRes".toList, "<UserDto".toList] := by decide
  have hbare : bare (Text.beforeFirst '<' "b>.Map<UserDto, , x.LoginRes, <UserDto>".toList) =
      "b>.Map".toList := dropLeads_of_none rfl
  have hroot : className "b>.Map<UserDto, , x.LoginRes, <UserDto>".toList = "Map".toList :=
    congrArg unqualified hbare
  have hfirst : className "UserDto".toList = "UserDto".toList :=
    className_of_afterLead?_eq_none rfl rfl rfl
  have hsecond : className "x.LoginRes".toList = "LoginRes".toList :=
    className_of_afterLead?_eq_none rfl rfl rfl
  have hthird : className "<UserDto".toList = "<UserDto".toList :=
    className_of_afterLead?_eq_none rfl rfl rfl
  rw [mentionedNames, collectNames_eq, hroot, hcut]
  simp only [List.foldl_cons, List.foldl_nil]
  rw [collectNames_of_not_isGeneric rfl, collectNames_of_not_isGeneric rfl,
    collectNames_of_not_isGeneric rfl, hfirst, hsecond, hthird]
  decide

/-- A closing bracket before the first opening one, one that is missing, and a comma too many. -/
theorem mentionedNames_of_any_text_unbalanced :
    let expr := "b>.Map<UserDto, , x.LoginRes, <UserDto>"
    expr ≠ "" ∧ mentionedNames defaultSuffixes expr = ["UserDto", "LoginRes", "<UserDto"] ∧
      (visited expr.toList).length ≤ expr.length ∧ "<UserDto".toList <:+: expr.toList := by
  have hne : "b>.Map<UserDto, , x.LoginRes, <UserDto>" ≠ "" := by decide
  obtain ⟨-, hvisits, -, -, -, hpieces⟩ := mentionedNames_of_any_text defaultSuffixes _ hne
  refine ⟨hne, mentionedNames_unbalanced, hvisits, (hpieces "<UserDto" ?_).1⟩
  rw [mentionedNames_unbalanced]
  simp

end Shape

end ApiSurvey
