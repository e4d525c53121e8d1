import ApiSurvey.Text.Blank
import ApiSurvey.Text.Split
import ApiSurvey.Text.WordChar

/-!
# Type expressions

A type expression is the text of a type as it stands in a declaration:
`ResponseEntity<List<UserDto>>`. Only its outermost layer is taken apart here, into a base and the
texts of its type arguments; deeper layers are reached by reading an argument again. Main
statement: an argument is not empty and shorter than the expression it was cut from.
-/

namespace ApiSurvey.TypeExpr

open Text

/-- An annotation in front of a type: `@`, word characters and dots, then optionally a bracketed
list that ends at the first closing bracket, then blanks. The answer is what follows it. -/
def afterAnnotation? : List Char → Option (List Char)
  | '@' :: cs =>
      let inName := fun c ↦ isWordChar c || c == '.'
      if (cs.takeWhile inName).isEmpty then none
      else
        match cs.dropWhile inName with
        | '(' :: rest =>
            match rest.dropWhile (· != ')') with
            | _ :: after => some (trimStart after)
            | [] => some ('(' :: rest)
        | rest => some (trimStart rest)
  | _ => none

/-- The text after `word` and at least one blank, when the text starts so. -/
def afterWord? (word cs : List Char) : Option (List Char) :=
  if word.isPrefixOf cs then
    match cs.drop word.length with
    | c :: rest => if isBlank c then some (trimStart rest) else none
    | [] => none
  else none

/-- A wildcard bound in front of a type: `?`, blanks, `extends` or `super`, blanks. The answer is
what follows it. -/
def afterBound? (cs : List Char) : Option (List Char) :=
  (afterWord? ['?'] cs).bind fun rest ↦
    (afterWord? "extends".toList rest).or (afterWord? "super".toList rest)

/-- What follows one annotation or wildcard bound at the start of the text. -/
def afterLead? (cs : List Char) : Option (List Char) :=
  (afterAnnotation? cs).or (afterBound? cs)

theorem length_trimStart_le (cs : List Char) : (trimStart cs).length ≤ cs.length :=
  length_dropWhile_le isBlank cs

theorem length_lt_of_afterAnnotation? {cs rest : List Char} (h : afterAnnotation? cs = some rest) :
    rest.length < cs.length := by
  unfold afterAnnotation? at h
  split at h
  · rename_i cs
    have hd := length_dropWhile_le (fun c ↦ isWordChar c || c == '.') cs
    simp only at h
    split at h
    · simp at h
    · split at h
      · rename_i tail htail
        rw [htail] at hd
        have hp := length_dropWhile_le (· != ')') tail
        split at h
        · rename_i after hafter
          rw [hafter] at hp
          simp only [Option.some.injEq] at h
          have := length_trimStart_le after
          rw [← h]
          simp only [List.length_cons] at *
          omega
        · simp only [Option.some.injEq] at h
          rw [← h]
          simp only [List.length_cons] at *
          omega
      · simp only [Option.some.injEq] at h
        have := length_trimStart_le (cs.dropWhile (fun c ↦ isWordChar c || c == '.'))
        rw [← h]
        simp only [List.length_cons]
        omega
  · simp at h

theorem length_lt_of_afterWord? {word cs rest : List Char} (h : afterWord? word cs = some rest) :
    rest.length < cs.length := by
  unfold afterWord? at h
  split at h
  · split at h
    · rename_i c tail htail
      split at h
      · simp only [Option.some.injEq] at h
        have h₁ := length_trimStart_le tail
        have h₂ : (cs.drop word.length).length ≤ cs.length := by simp
        rw [htail] at h₂
        rw [← h]
        simp only [List.length_cons] at h₂
        omega
      · simp at h
    · simp at h
  · simp at h

theorem length_lt_of_afterLead? {cs rest : List Char} (h : afterLead? cs = some rest) :
    rest.length < cs.length := by
  unfold afterLead? at h
  rcases Option.or_eq_some_iff.1 h with h | ⟨_, h⟩
  · exact length_lt_of_afterAnnotation? h
  · unfold afterBound? at h
    obtain ⟨mid, hmid, h⟩ := Option.bind_eq_some_iff.1 h
    have h₁ := length_lt_of_afterWord? hmid
    rcases Option.or_eq_some_iff.1 h with h | ⟨_, h⟩
    · have := length_lt_of_afterWord? h
      omega
    · have := length_lt_of_afterWord? h
      omega

/-- The text without the annotations and wildcard bounds at its start. -/
def dropLeads (cs : List Char) : List Char :=
  match _h : afterLead? cs with
  | some rest => dropLeads rest
  | none => cs
termination_by cs.length
decreasing_by exact length_lt_of_afterLead? _h

/-- The text without blanks at its ends and without annotations and wildcard bounds in front. -/
def bare (cs : List Char) : List Char :=
  dropLeads (trim cs)

/-- A name without its qualifier: what follows the last dot. -/
def unqualified (cs : List Char) : List Char :=
  afterLast '.' cs

/-- An expression is generic when it holds both angle brackets, in whatever order. -/
def isGeneric (cs : List Char) : Bool :=
  cs.contains '<' && cs.contains '>'

/-- What stands between the first `<` and the last `>`; nothing when that `>` comes earlier. -/
def bracketed (cs : List Char) : List Char :=
  beforeLast '>' (afterFirst '<' cs)

/-- The trimmed pieces between commas, empty ones left out. -/
def commaList (cs : List Char) : List (List Char) :=
  ((pieces ',' cs).map trim).filter (!·.isEmpty)

/-- The type arguments of an expression, cut at every comma between its outermost brackets. -/
def arguments (cs : List Char) : List (List Char) :=
  if isGeneric cs then commaList (bracketed cs) else []

/-- The part of an expression that names its own type, brackets left out. -/
def head (cs : List Char) : List Char :=
  if isGeneric cs then bare (beforeFirst '<' cs) else bare cs

/-- The name that stands for an absent type. -/
def fallback : List Char := "Object".toList

/-- The unqualified name of an expression's own type. -/
def className (cs : List Char) : List Char :=
  if cs.isEmpty then fallback else unqualified (head cs)

/-- The packages whose types are known by the rest of their name. -/
def builtinPackages : List (List Char) :=
  ["java.lang.".toList, "java.util.".toList]

/-- A name without a built-in package, or without its qualifier when it lies in none. -/
def shortName (cs : List Char) : List Char :=
  match builtinPackages.find? (·.isPrefixOf cs) with
  | some package => cs.drop package.length
  | none => unqualified cs

/-- The type of a field in the form in which it is documented: lists, sets and optionals keep the
name of their element, maps are maps from texts to anything, all else is a plain name. -/
def normalForm (cs : List Char) : List Char :=
  if cs.isEmpty then fallback
  else
    let name := shortName (head cs)
    if !isGeneric cs then name
    else if ["List".toList, "Set".toList, "Optional".toList].contains name then
      let element := match (arguments cs).head? with
        | some argument => className argument
        | none => fallback
      name ++ ['<'] ++ element ++ ['>']
    else if name == "Map".toList then "Map<String, Object>".toList
    else name

/-- How the base of an expression is read. -/
inductive Reading where
  /-- The base of a generic expression keeps its qualifier. -/
  | verbatim
  /-- The base is brought into the form in which field types are documented. -/
  | normalized
  /-- The base is an unqualified name. -/
  | className
  deriving DecidableEq, Repr

structure Layer where
  base : String
  arguments : List String
  deriving DecidableEq, Repr

/-- Takes the outermost layer of an expression apart. -/
def layer (reading : Reading) (expr : String) : Layer :=
  let cs := expr.toList
  let base := match reading with
    | .verbatim => if isGeneric cs then head cs else className cs
    | .normalized => normalForm cs
    | .className => className cs
  { base := String.ofList base, arguments := (arguments cs).map String.ofList }

theorem length_afterFirst_lt {sep : Char} {cs : List Char} (h : sep ∈ cs) :
    (afterFirst sep cs).length < cs.length := by
  have h₁ := length_dropWhile_le (· != sep) cs
  have h₂ : 0 < cs.length := List.length_pos_of_mem h
  simp only [afterFirst, List.length_drop]
  omega

theorem length_beforeLast_le (sep : Char) (cs : List Char) :
    (beforeLast sep cs).length ≤ cs.length := by
  have := length_dropWhile_le (· != sep) cs.reverse
  simp only [beforeLast, List.length_reverse, List.length_drop] at *
  omega

/-- An argument is shorter than the expression it was cut from. -/
theorem length_lt_of_mem_arguments {cs a : List Char} (h : a ∈ arguments cs) :
    a.length < cs.length := by
  unfold arguments at h
  split at h
  · rename_i hg
    have hlt : '<' ∈ cs := by
      simp only [isGeneric, Bool.and_eq_true, List.contains_iff_mem] at hg
      exact hg.1
    simp only [commaList, List.mem_filter, List.mem_map] at h
    obtain ⟨⟨p, hp, rfl⟩, _⟩ := h
    have h₁ := length_trim_le p
    have h₂ := length_le_of_mem_pieces hp
    have h₃ := length_beforeLast_le '>' (afterFirst '<' cs)
    have h₄ := length_afterFirst_lt hlt
    simp only [bracketed] at h₂
    omega
  · simp at h

theorem ne_nil_of_mem_arguments {cs a : List Char} (h : a ∈ arguments cs) : a ≠ [] := by
  unfold arguments at h
  split at h
  · simp only [commaList, List.mem_filter] at h
    simpa using h.2
  · simp at h

end ApiSurvey.TypeExpr
