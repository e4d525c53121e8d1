import ApiSurvey.Proofs.MentionedNames

/-!
# Written types cut at every comma

A comma below the outermost list of arguments cuts a type into texts that are no types. Such a text
is still a sequence of names, wildcards and blanks with brackets and commas between them. Main
statement: what is read as the name of such a text ends in a name of the type, or in no name at all.
-/

namespace ApiSurvey.TypeExpr

open Text

variable {names : List (List Char)} {cs rest : List Char} {s : Char}

/-- A character that stands between the names of a type. -/
def isSeparator (c : Char) : Bool :=
  c == '<' || c == '>' || c == ','

/-- The characters of a name with which a text ends. -/
def lastWord (cs : List Char) : List Char :=
  (cs.reverse.takeWhile isNameChar).reverse

/-- A text that can stand between two separators of a type with the given names. -/
inductive IsPiece (names : List (List Char)) : List Char → Prop where
  | closing (closing : Closing) : IsPiece names closing.text
  | wildcard (before : Blanks) (leads : List Lead) (after : Blanks) :
      IsPiece names (WrittenType.wildcard before leads after).text
  | named (h : Header) (hname : h.name.text ∈ names) : IsPiece names h.text

/-- A word that is one of the given names, or no name at all but for the brackets of arrays. -/
def NamedOrNone (names : List (List Char)) (word : List Char) : Prop :=
  word ∈ names ∨ word.all isArrayBracket = true

/-- Pieces with separators between them. -/
def Fragment (names : List (List Char)) (cs : List Char) : Prop :=
  ∀ piece ∈ cs.splitOnP isSeparator, IsPiece names piece

theorem eq_of_isSeparator (hs : isSeparator s = true) : s = '<' ∨ s = '>' ∨ s = ',' := by
  simpa [isSeparator, or_assoc] using hs

theorem isBlank_of_isSeparator (hs : isSeparator s = true) : isBlank s = false := by
  rcases eq_of_isSeparator hs with rfl | rfl | rfl <;> decide

theorem isNameChar_of_isSeparator (hs : isSeparator s = true) : isNameChar s = false := by
  rcases eq_of_isSeparator hs with rfl | rfl | rfl <;> decide

theorem exists_first_separator (cs : List Char) :
    (∀ c ∈ cs, isSeparator c = false) ∨ ∃ piece s rest, cs = piece ++ s :: rest ∧
      isSeparator s = true ∧ ∀ c ∈ piece, isSeparator c = false := by
  induction cs with
  | nil => exact .inl (by simp)
  | cons c cs ih =>
      by_cases hc : isSeparator c = true
      · exact .inr ⟨[], c, cs, rfl, hc, by simp⟩
      · rw [Bool.not_eq_true] at hc
        rcases ih with hfree | ⟨piece, s, rest, rfl, hs, hpiece⟩
        · exact .inl (by simpa [hc] using hfree)
        · exact .inr ⟨c :: piece, s, rest, rfl, hs, by simpa [hc] using hpiece⟩

/-! ## Fragments -/

theorem fragment_append_cons (hs : isSeparator s = true) (a b : List Char) :
    Fragment names (a ++ s :: b) ↔ Fragment names a ∧ Fragment names b := by
  rw [Fragment, List.splitOnP_append_cons a b hs, List.forall_mem_append]
  rfl

theorem fragment_iff_isPiece (hfree : ∀ c ∈ cs, isSeparator c = false) :
    Fragment names cs ↔ IsPiece names cs := by
  rw [Fragment, List.splitOnP_eq_singleton hfree, List.forall_mem_singleton]

theorem fragment_nil : Fragment names [] :=
  (fragment_iff_isPiece (by simp)).mpr (.closing {})

theorem Fragment.mono {more : List (List Char)} (h : Fragment names cs)
    (hsub : ∀ name ∈ names, name ∈ more) : Fragment more cs := by
  intro piece hpiece
  cases h piece hpiece with
  | closing closing => exact .closing closing
  | wildcard before leads after => exact .wildcard before leads after
  | named header hname => exact .named header (hsub _ hname)

theorem IsPiece.blanks_append (h : IsPiece names cs) (b : Blanks) :
    IsPiece names (b.text ++ cs) := by
  cases h with
  | closing closing =>
      have hpiece : IsPiece names _ := .closing { closing with before := b.append closing.before }
      simpa [Closing.text, Blanks.append] using hpiece
  | wildcard before leads after =>
      have hpiece : IsPiece names _ := .wildcard (b.append before) leads after
      simpa [WrittenType.text, Blanks.append] using hpiece
  | named header hname =>
      have hpiece := IsPiece.named { header with before := b.append header.before } hname
      simpa [Header.text, Blanks.append] using hpiece

theorem Fragment.blanks_append (h : Fragment names cs) (b : Blanks) :
    Fragment names (b.text ++ cs) := by
  have hblanks : ∀ c ∈ b.text, isSeparator c = false := by
    intro c hc
    by_contra hs
    have hblank := isBlank_of_isSeparator (Bool.not_eq_false _ ▸ hs)
    exact b.notMem hblank hc
  rcases exists_first_separator cs with hfree | ⟨piece, s, rest, rfl, hs, hpiece⟩
  · have hall : ∀ c ∈ b.text ++ cs, isSeparator c = false :=
      List.forall_mem_append.mpr ⟨hblanks, hfree⟩
    exact (fragment_iff_isPiece hall).mpr (((fragment_iff_isPiece hfree).mp h).blanks_append b)
  · obtain ⟨hfirst, hrest⟩ := (fragment_append_cons hs piece rest).mp h
    have hall : ∀ c ∈ b.text ++ piece, isSeparator c = false :=
      List.forall_mem_append.mpr ⟨hblanks, hpiece⟩
    rw [← List.append_assoc]
    refine (fragment_append_cons hs _ _).mpr ⟨?_, hrest⟩
    exact (fragment_iff_isPiece hall).mpr
      (((fragment_iff_isPiece hpiece).mp hfirst).blanks_append b)

theorem isSeparator_of_notMem (hopen : '<' ∉ cs) (hclose : '>' ∉ cs) (hcomma : ',' ∉ cs) :
    ∀ c ∈ cs, isSeparator c = false := by
  intro c hc
  have h₁ : c ≠ '<' := fun heq ↦ hopen (heq ▸ hc)
  have h₂ : c ≠ '>' := fun heq ↦ hclose (heq ▸ hc)
  have h₃ : c ≠ ',' := fun heq ↦ hcomma (heq ▸ hc)
  simp [isSeparator, h₁, h₂, h₃]

theorem fragment_closing (closing : Closing) : Fragment names closing.text := by
  refine (fragment_iff_isPiece ?_).mpr (.closing closing)
  exact isSeparator_of_notMem (closing.notMem (by decide) (by decide))
    (closing.notMem (by decide) (by decide)) (closing.notMem (by decide) (by decide))

/-- What stands between the brackets of a type whose arguments are fragments. -/
theorem WrittenType.fragment_arguments {t : WrittenType}
    (h : ∀ a ∈ t.arguments, Fragment a.names a.text) :
    Fragment t.names ([','].intercalate (t.arguments.map text)) := by
  apply intercalate_induction fragment_nil
  · intro a b ha hb
    exact (fragment_append_cons rfl a b).mpr ⟨ha, hb⟩
  intro text htext
  obtain ⟨a, ha, rfl⟩ := List.mem_map.mp htext
  refine (h a ha).mono fun name hname ↦ ?_
  rw [t.names_eq_cons]
  exact List.mem_cons_of_mem _ (List.mem_flatMap.mpr ⟨a, ha, hname⟩)

/-- A type without commas in its annotations is made of its names. -/
theorem WrittenType.Smooth.fragment {t : WrittenType} (h : t.Smooth) : Fragment t.names t.text := by
  have hheader : ∀ {header : Header} {names : List (List Char)},
      (∀ lead ∈ header.leads, ',' ∉ lead.text) → header.name.text ∈ names →
        Fragment names header.text := by
    intro header names hleads hname
    refine (fragment_iff_isPiece ?_).mpr (.named header hname)
    exact isSeparator_of_notMem (header.bracket_notMem (by simp)) (header.bracket_notMem (by simp))
      (Header.comma_notMem hleads)
  induction h with
  | @intro t hleads _ ih =>
      cases t with
      | wildcard before leads after =>
          refine (fragment_iff_isPiece ?_).mpr (.wildcard before leads after)
          exact isSeparator_of_notMem (bracket_notMem_wildcard before leads after (by simp))
            (bracket_notMem_wildcard before leads after (by simp))
            (comma_notMem_wildcard before after hleads)
      | plain header => exact hheader hleads List.mem_cons_self
      | generic header inner arguments closing =>
          have hcontent := fragment_arguments ih
          rw [WrittenType.text, fragment_append_cons rfl, fragment_append_cons rfl, texts_eq_map]
          exact ⟨hheader hleads List.mem_cons_self, hcontent.blanks_append inner,
            fragment_closing closing⟩

/-! ## Cutting a fragment -/

theorem Fragment.beforeFirst (h : Fragment names cs) (hs : isSeparator s = true) :
    Fragment names (beforeFirst s cs) := by
  by_cases hmem : s ∈ cs
  · obtain ⟨a, b, rfl, ha⟩ := List.eq_append_cons_of_mem hmem
    rw [beforeFirst_append_cons ha]
    exact ((fragment_append_cons hs a b).mp h).1
  · rwa [beforeFirst_of_notMem hmem]

theorem Fragment.bracketed (h : Fragment names cs) (hopen : '<' ∈ cs) :
    Fragment names (bracketed cs) := by
  obtain ⟨a, b, rfl, ha⟩ := List.eq_append_cons_of_mem hopen
  have hb := ((fragment_append_cons rfl a b).mp h).2
  rw [TypeExpr.bracketed, afterFirst_append_cons ha]
  by_cases hclose : '>' ∈ b
  · obtain ⟨inner, after, rfl, hafter⟩ := eq_append_cons_of_mem_last hclose
    rw [beforeLast_append_cons hafter]
    exact ((fragment_append_cons rfl inner after).mp hb).1
  · rw [beforeLast_of_notMem hclose]
    exact fragment_nil

theorem Fragment.of_mem_commaList {piece : List Char} (h : Fragment names cs)
    (hpiece : piece ∈ commaList cs) : ∃ text, Fragment names text ∧ trim text = piece := by
  -- on the length: what follows the first comma is a fragment again
  generalize hn : cs.length = n
  induction n using Nat.strong_induction_on generalizing cs with
  | _ n ih =>
      by_cases hcomma : ',' ∈ cs
      · obtain ⟨a, b, rfl, ha⟩ := List.eq_append_cons_of_mem hcomma
        obtain ⟨hfirst, hrest⟩ := (fragment_append_cons rfl a b).mp h
        rw [commaList_append_cons, List.mem_append] at hpiece
        rcases hpiece with hpiece | hpiece
        · rw [commaList_of_notMem ha] at hpiece
          exact ⟨a, hfirst, (List.mem_singleton.mp (List.mem_of_mem_filter hpiece)).symm⟩
        · refine ih b.length ?_ hrest hpiece rfl
          simp only [List.length_append, List.length_cons] at hn
          omega
      · rw [commaList_of_notMem hcomma] at hpiece
        exact ⟨cs, h, (List.mem_singleton.mp (List.mem_of_mem_filter hpiece)).symm⟩

theorem Fragment.of_mem_arguments {piece : List Char} (h : Fragment names cs)
    (hpiece : piece ∈ arguments cs) : ∃ text, Fragment names text ∧ trim text = piece := by
  unfold arguments at hpiece
  split at hpiece
  · rename_i hgeneric
    exact (h.bracketed (mem_of_isGeneric hgeneric).1).of_mem_commaList hpiece
  · cases hpiece

/-! ## The name with which a fragment ends -/

theorem lastWord_append_cons (hs : isNameChar s = false) (a b : List Char) :
    lastWord (a ++ s :: b) = lastWord b := by
  rw [lastWord, reverse_append_cons, List.takeWhile_append,
    List.takeWhile_cons_of_neg (by simp [hs]), List.append_nil]
  split
  · rename_i hlength
    rw [lastWord, (List.takeWhile_prefix isNameChar).eq_of_length hlength]
  · rfl

/-- A text after which a name starts afresh. -/
def Ended (cs : List Char) : Prop :=
  ∀ c ∈ cs.getLast?, isNameChar c = false

theorem ended_append_of_ne_nil (a : List Char) {b : List Char} (hne : b ≠ []) (hb : Ended b) :
    Ended (a ++ b) := by
  rw [Ended, List.getLast?_append, List.getLast?_eq_some_getLast hne, Option.some_or,
    ← List.getLast?_eq_some_getLast hne]
  exact hb

theorem Ended.append {a b : List Char} (ha : Ended a) (hb : Ended b) : Ended (a ++ b) := by
  by_cases hne : b = []
  · rwa [hne, List.append_nil]
  · exact ended_append_of_ne_nil a hne hb

theorem ended_blanks (b : Blanks) : Ended b.text := by
  intro c hc
  have hblank := b.blank c (List.mem_of_getLast? hc)
  simp [isNameChar, hblank]

theorem ended_flatMap {α : Type} {f : α → List Char} (h : ∀ x, Ended (f x)) (xs : List α) :
    Ended (xs.flatMap f) := by
  induction xs with
  | nil =>
      intro c hc
      cases hc
  | cons x xs ih =>
      rw [List.flatMap_cons]
      exact (h x).append ih

theorem Lead.ended (lead : Lead) : Ended lead.text := by
  cases lead with
  | marker name after =>
      have hend := ended_append_of_ne_nil ('@' :: name.text) after.ne_nil (ended_blanks _)
      exact hend
  | markerWith name arguments after =>
      have hclose : Ended ([')'] ++ after.text) :=
        Ended.append (by simp [Ended]; decide) (ended_blanks after)
      have hend := ended_append_of_ne_nil ('@' :: (name.text ++ '(' :: arguments.text))
        (by simp) hclose
      simpa [Lead.text] using hend
  | bound inner lower after =>
      have hend := ended_append_of_ne_nil ('?' :: (inner.text ++ boundWord lower)) after.ne_nil
        (ended_blanks _)
      simpa [Lead.text] using hend

theorem lastWord_append {a : List Char} (ha : Ended a) (w : Word) :
    lastWord (a ++ w.text) = w.text := by
  have hword : ∀ c ∈ w.text.reverse, isNameChar c = true := by
    intro c hc
    exact w.nameChars c (List.mem_reverse.mp hc)
  have hstop : a.reverse.takeWhile isNameChar = [] := by
    rw [Ended, ← List.head?_reverse] at ha
    cases hreverse : a.reverse with
    | nil => rfl
    | cons c cs =>
        rw [hreverse] at ha
        exact List.takeWhile_cons_of_neg (by simp [ha c rfl])
  rw [lastWord, List.reverse_append, List.takeWhile_append_of_pos hword, hstop, List.append_nil,
    List.reverse_reverse]

theorem lastWord_qualified {a : List Char} (ha : Ended a) (qualifier : List Word) (name : Word) :
    lastWord (a ++ qualified qualifier name) = name.text := by
  have hqualifier : Ended (qualifier.flatMap (·.text ++ ['.'])) := by
    apply ended_flatMap
    intro w
    exact ended_append_of_ne_nil _ (by simp) (by simp [Ended]; decide)
  rw [qualified, ← List.append_assoc]
  exact lastWord_append (ha.append hqualifier) name

theorem lastWord_afterLast (cs : List Char) : lastWord (afterLast '.' cs) = lastWord cs := by
  have hdot : ∀ c, isNameChar c = true → (c != '.') = true := by
    intro c hc
    apply bne_iff_ne.mpr
    rintro rfl
    revert hc
    decide
  rw [lastWord, lastWord, afterLast, List.reverse_reverse, List.takeWhile_takeWhile]
  congr 2
  funext c
  by_cases hc : isNameChar c = true
  · simp [hc, hdot c hc]
  · simp [hc]

theorem namedOrNone_nil : NamedOrNone names [] :=
  .inr rfl

theorem namedOrNone_lastWord_of_subset {part : List Char} {closing : Closing}
    (hpart : part ⊆ closing.text) : NamedOrNone names (lastWord part) := by
  refine .inr (List.all_eq_true.mpr fun c hc ↦ ?_)
  have htaken := List.mem_reverse.mp hc
  have hmem := List.mem_reverse.mp ((List.takeWhile_prefix isNameChar).subset htaken)
  have hsolid := isBlank_of_isNameChar (List.mem_takeWhile_imp htaken)
  exact (closing.isBlank_or_isArrayBracket c (hpart hmem)).resolve_left (by simp [hsolid])

theorem Closing.notMem_marks (closing : Closing) : ∀ c ∈ closing.text, c ∉ ['@', '?'] := by
  intro c hc hmark
  have hother : isBlank c = false ∧ isArrayBracket c = false := by
    rcases List.mem_pair.mp hmark with rfl | rfl <;> decide
  exact closing.notMem hother.1 hother.2 hc

theorem IsPiece.lastWord_trimEnd (h : IsPiece names cs) :
    NamedOrNone names (lastWord (trimEnd cs)) := by
  cases h with
  | closing closing => exact namedOrNone_lastWord_of_subset (trimEnd_subset _)
  | wildcard before leads after =>
      have hask : trimEnd (before.text ++ (leads.flatMap Lead.text ++ ['?'])) =
          (before.text ++ leads.flatMap Lead.text) ++ '?' :: [] := by
        rw [← List.append_assoc]
        exact trimEnd_append_cons (by decide) _ []
      rw [WrittenType.text, trimEnd_append, hask, lastWord_append_cons (by decide)]
      exact namedOrNone_nil
  | named header hname =>
      have hsolid := trimEnd_of_solid
        (isBlank_getLast?_qualified header.qualifier header.name
          (header.before.text ++ header.leads.flatMap Lead.text))
      have hended : Ended (header.before.text ++ header.leads.flatMap Lead.text) :=
        (ended_blanks header.before).append (ended_flatMap Lead.ended header.leads)
      rw [Header.text, trimEnd_append, ← List.append_assoc, hsolid, lastWord_qualified hended]
      exact .inl hname

theorem Fragment.lastWord_trimEnd (h : Fragment names cs) :
    NamedOrNone names (lastWord (trimEnd cs)) := by
  generalize hn : cs.length = n
  induction n using Nat.strong_induction_on generalizing cs with
  | _ n ih =>
      rcases exists_first_separator cs with hfree | ⟨piece, s, rest, rfl, hs, hpiece⟩
      · exact ((fragment_iff_isPiece hfree).mp h).lastWord_trimEnd
      · have hrest := ((fragment_append_cons hs piece rest).mp h).2
        rw [trimEnd_append_cons (isBlank_of_isSeparator hs),
          lastWord_append_cons (isNameChar_of_isSeparator hs)]
        refine ih rest.length ?_ hrest rfl
        simp only [List.length_append, List.length_cons] at hn
        omega

theorem afterLead?_wildcard (hs : isSeparator s = true) (after : Blanks) (rest : List Char) :
    afterLead? ('?' :: (after.text ++ s :: rest)) = none := by
  have hblank := isBlank_of_isSeparator hs
  have hletters : 'e' ≠ s ∧ 's' ≠ s := by
    rcases eq_of_isSeparator hs with rfl | rfl | rfl <;> decide
  have hfirst : afterAnnotation? ('?' :: (after.text ++ s :: rest)) = none := rfl
  rw [afterLead?, hfirst, Option.none_or, afterBound?]
  cases htext : after.text with
  | nil =>
      have hask : afterWord? ['?'] ('?' :: s :: rest) = none := by
        simp [afterWord?, hblank]
      rw [List.nil_append, hask]
      rfl
  | cons c cs =>
      -- the blanks make it look like a bound, but no `extends` or `super` can follow
      have hgap : afterWord? ['?'] ('?' :: (after.text ++ s :: rest)) =
          some (trimStart (s :: rest)) :=
        afterWord?_append ['?'] ⟨after, by simp [htext]⟩ (s :: rest)
      have hsolid : trimStart (s :: rest) = s :: rest := trimStart_append_cons hblank [] rest
      have hextends : afterWord? "extends".toList (s :: rest) = none :=
        afterWord?_of_ne hletters.1 _ _
      have hsuper : afterWord? "super".toList (s :: rest) = none :=
        afterWord?_of_ne hletters.2 _ _
      rw [← htext, hgap, Option.bind_some, hsolid, hextends, hsuper]
      rfl

theorem bare_append_cons {c : Char} (hc : isBlank c = false) (hs : isBlank s = false)
    (before : Blanks) (leads : List Lead) (cs rest : List Char)
    (hstop : afterLead? (c :: (cs ++ s :: trimEnd rest)) = none) :
    bare (before.text ++ (leads.flatMap Lead.text ++ c :: cs) ++ s :: rest) =
      c :: (cs ++ s :: trimEnd rest) := by
  have hfirst : ∀ more, ∀ d ∈ (c :: more).head?, isBlank d = false := by
    rintro more _ ⟨⟩
    exact hc
  have hstart := trimStart_of_solid (head?_leads_append leads (hfirst cs))
  rw [bare, trim, trimStart_append_cons hs, trimEnd_append_cons hs, trimStart_append, hstart,
    List.append_assoc]
  exact dropLeads_append leads (hfirst _) hstop

/-- Dropping the leads of a text leaves what stands from its first separator on. -/
theorem IsPiece.exists_bare_append_cons {piece : List Char} (h : IsPiece names piece)
    (hs : isSeparator s = true) (rest : List Char) :
    ∃ kept, bare (piece ++ s :: rest) = kept ++ s :: trimEnd rest := by
  have hblank := isBlank_of_isSeparator hs
  cases h with
  | closing closing =>
      refine ⟨trimStart closing.text, ?_⟩
      rw [bare, trim, trimStart_append_cons hblank, trimEnd_append_cons hblank]
      apply dropLeads_of_head?
      intro c hc
      rw [List.head?_append, List.head?_cons] at hc
      rcases Option.or_eq_some_iff.mp hc with hfirst | ⟨-, hfirst⟩
      · exact closing.notMem_marks c (trimStart_subset _ (List.mem_of_mem_head? hfirst))
      · obtain rfl := Option.some.inj hfirst
        rcases eq_of_isSeparator hs with rfl | rfl | rfl <;> decide
  | wildcard before leads after =>
      have hbare := bare_append_cons (c := '?') (by decide) hblank before leads after.text rest
        (afterLead?_wildcard hs after _)
      refine ⟨'?' :: after.text, ?_⟩
      simpa [WrittenType.text] using hbare
  | named header hname =>
      obtain ⟨c, cs, hcs, hc⟩ := exists_qualified_eq_cons header.qualifier header.name
      have hbare := bare_append_cons (isBlank_of_isNameChar hc) hblank header.before header.leads
        (cs ++ header.after.text) rest (afterLead?_of_ne (ne_of_isNameChar hc (by decide))
          (ne_of_isNameChar hc (by decide)) _)
      refine ⟨c :: (cs ++ header.after.text), ?_⟩
      simpa [Header.text, hcs] using hbare

theorem Fragment.lastWord_bare (h : Fragment names cs) :
    NamedOrNone names (lastWord (bare cs)) := by
  rcases exists_first_separator cs with hfree | ⟨piece, s, rest, rfl, hs, hpiece⟩
  · cases (fragment_iff_isPiece hfree).mp h with
    | closing closing =>
        have hpart : trim closing.text ⊆ closing.text :=
          List.Subset.trans (trimEnd_subset _) (trimStart_subset _)
        have hbare : bare closing.text = trim closing.text := by
          apply dropLeads_of_head?
          intro c hc
          exact closing.notMem_marks c (hpart (List.mem_of_mem_head? hc))
        rw [hbare]
        exact namedOrNone_lastWord_of_subset hpart
    | wildcard before leads after =>
        rw [WrittenType.bare_wildcard]
        exact namedOrNone_nil
    | named header hname =>
        rw [header.bare_text]
        exact .inl (lastWord_qualified (ended_blanks {}) header.qualifier header.name ▸ hname)
  · obtain ⟨hfirst, hrest⟩ := (fragment_append_cons hs piece rest).mp h
    have hpiece := (fragment_iff_isPiece hpiece).mp hfirst
    obtain ⟨kept, hkept⟩ := hpiece.exists_bare_append_cons hs rest
    rw [hkept, lastWord_append_cons (isNameChar_of_isSeparator hs)]
    exact hrest.lastWord_trimEnd

end ApiSurvey.TypeExpr
