import ApiSurvey.Proofs.TextCutting

/-!
# Runs of blanks

Collapsing a text leaves one space for every run of blanks and none at its ends. Main statement: it
can be done character by character and trimmed at the end, so that a text that is known by its parts
is collapsed part by part.
-/

namespace ApiSurvey.Text

variable {a b cs : List Char} {c : Char}

/-! ## Runs of blanks -/

/-- The text with one space for every run of blanks. -/
def squeeze : List Char → List Char
  | [] => []
  | c :: cs =>
      if !isBlank c then c :: squeeze cs
      else if cs.head?.any isBlank then squeeze cs
      else ' ' :: squeeze cs

theorem squeeze_cons_of_solid (hc : isBlank c = false) (cs : List Char) :
    squeeze (c :: cs) = c :: squeeze cs := by
  simp [squeeze, hc]

theorem squeeze_append_cons (hc : isBlank c = false) (a b : List Char) :
    squeeze (a ++ c :: b) = squeeze a ++ c :: squeeze b := by
  induction a with
  | nil => exact squeeze_cons_of_solid hc b
  | cons d a ih =>
      have hnext : (a ++ c :: b).head?.any isBlank = a.head?.any isBlank := by
        cases a with
        | nil => simp [hc]
        | cons e a => rfl
      rw [List.cons_append, squeeze, squeeze, hnext, ih]
      split
      · rfl
      · split <;> rfl

theorem squeeze_append_of_head? (h : ∀ c ∈ b.head?, isBlank c = false) (a : List Char) :
    squeeze (a ++ b) = squeeze a ++ squeeze b := by
  cases b with
  | nil => simp [squeeze]
  | cons c b =>
      have hc := h c rfl
      rw [squeeze_append_cons hc, squeeze_cons_of_solid hc]

theorem squeeze_of_solid (h : ∀ c ∈ a, isBlank c = false) : squeeze a = a := by
  induction a with
  | nil => rfl
  | cons c a ih =>
      rw [List.forall_mem_cons] at h
      rw [squeeze_cons_of_solid h.1, ih h.2]

theorem squeeze_solid_append (h : ∀ c ∈ a, isBlank c = false) (b : List Char) :
    squeeze (a ++ b) = a ++ squeeze b := by
  induction a with
  | nil => rfl
  | cons c a ih =>
      rw [List.forall_mem_cons] at h
      rw [List.cons_append, squeeze_cons_of_solid h.1, ih h.2, List.cons_append]

theorem mem_or_eq_of_mem_squeeze (h : c ∈ squeeze cs) : c ∈ cs ∨ c = ' ' := by
  induction cs with
  | nil => cases h
  | cons d cs ih =>
      have hrest : c ∈ squeeze cs → c ∈ d :: cs ∨ c = ' ' := fun h ↦
        (ih h).imp_left (List.mem_cons_of_mem d)
      rw [squeeze] at h
      split at h
      · rcases List.mem_cons.mp h with rfl | h
        · exact .inl List.mem_cons_self
        · exact hrest h
      · split at h
        · exact hrest h
        · rcases List.mem_cons.mp h with rfl | h
          · exact .inr rfl
          · exact hrest h

theorem mem_squeeze_of_solid (hc : isBlank c = false) : c ∈ squeeze cs ↔ c ∈ cs := by
  constructor
  · intro h
    refine (mem_or_eq_of_mem_squeeze h).resolve_right ?_
    rintro rfl
    revert hc
    decide
  · intro h
    obtain ⟨a, b, rfl⟩ := List.append_of_mem h
    simp [squeeze_append_cons hc]

/-- One space, or none where there are no blanks. -/
def Blanks.squeezed (b : Blanks) : Blanks where
  text := if b.text = [] then [] else [' ']
  all_blank := by split <;> decide

theorem Blanks.squeeze_text (b : Blanks) : squeeze b.text = b.squeezed.text := by
  obtain ⟨text, hall⟩ := b
  induction text with
  | nil => rfl
  | cons c text ih =>
      rw [List.all_cons, Bool.and_eq_true] at hall
      have hrest := ih hall.2
      cases text with
      | nil => simp [squeeze, hall.1, squeezed]
      | cons d text =>
          have hd : isBlank d = true := by
            rw [List.all_cons, Bool.and_eq_true] at hall
            exact hall.2.1
          have hskip : squeeze (c :: d :: text) = squeeze (d :: text) := by
            rw [squeeze.eq_2 c]
            simp [hall.1, hd]
          rw [hskip, hrest]
          rfl

/-- A text is blank, or blanks stand in front of its first other character. -/
theorem blanks_or_exists_solid (cs : List Char) :
    (∃ b : Blanks, cs = b.text) ∨
      ∃ (b : Blanks) (c : Char) (rest : List Char),
        isBlank c = false ∧ cs = b.text ++ c :: rest := by
  let b : Blanks := ⟨cs.takeWhile isBlank, List.all_takeWhile⟩
  have hcs : b.text ++ trimStart cs = cs := List.takeWhile_append_dropWhile
  cases hstart : trimStart cs with
  | nil => exact .inl ⟨b, by simpa [hstart] using hcs.symm⟩
  | cons c rest =>
      have hstop := head?_trimStart cs c (by rw [hstart]; rfl)
      exact .inr ⟨b, c, rest, hstop, by rw [← hstart, hcs]⟩

theorem trimEnd_solid_append (h : ∀ c ∈ a, isBlank c = false) (b : List Char) :
    trimEnd (a ++ b) = a ++ trimEnd b := by
  induction a with
  | nil => rfl
  | cons c a ih =>
      rw [List.forall_mem_cons] at h
      have hfirst := trimEnd_append_cons h.1 [] (a ++ b)
      rw [List.nil_append, List.nil_append, ih h.2] at hfirst
      exact hfirst

theorem trim_blanks_append (b : Blanks) (h : ∀ c ∈ cs.head?, isBlank c = false) :
    trim (b.text ++ cs) = trimEnd cs := by
  rw [trim, trimStart_append, trimStart_of_solid h]

theorem Blanks.trimEnd_text (b : Blanks) : trimEnd b.text = [] :=
  trimEnd_append [] b

theorem words_blanks (b : Blanks) : words b.text = [] := by
  have hstart : trimStart b.text = [] := List.dropWhile_eq_nil_iff.mpr b.blank
  unfold words
  split
  · rfl
  · rename_i hcons
    rw [hstart] at hcons
    cases hcons

theorem words_ne_nil (hc : isBlank c = false) (b : Blanks) (cs : List Char) :
    words (b.text ++ c :: cs) ≠ [] := by
  have hstart : trimStart (b.text ++ c :: cs) = c :: cs := by
    rw [trimStart_append]
    exact trimStart_append_cons hc [] cs
  unfold words
  split
  · rename_i hnil
    rw [hstart] at hnil
    cases hnil
  · exact List.cons_ne_nil _ _

theorem trim_squeeze_word {word : List Char} (hne : word ≠ [])
    (hword : ∀ c ∈ word, isBlank c = false) (b : Blanks) (more : List Char) :
    trim (squeeze (b.text ++ (word ++ more))) = word ++ trimEnd (squeeze more) := by
  have hfirst : ∀ more, ∀ c ∈ (word ++ more).head?, isBlank c = false := by
    intro more c hc
    obtain ⟨d, rest, rfl⟩ := List.exists_cons_of_ne_nil hne
    obtain rfl := Option.some.inj hc
    exact hword d List.mem_cons_self
  rw [squeeze_append_of_head? (hfirst more), b.squeeze_text, squeeze_solid_append hword,
    trim_blanks_append _ (hfirst _), trimEnd_solid_append hword]

theorem trimEnd_squeeze_gap {gap : Blanks} (hne : gap.text ≠ []) (hc : isBlank c = false)
    (cs : List Char) :
    trimEnd (squeeze (gap.text ++ c :: cs)) = ' ' :: trim (squeeze (gap.text ++ c :: cs)) := by
  have hspace : gap.squeezed.text = [' '] := if_neg hne
  have hfirst : ∀ d ∈ (c :: squeeze cs).head?, isBlank d = false := by
    rintro _ ⟨⟩
    exact hc
  have hend := trimEnd_append_cons hc [] (squeeze cs)
  rw [squeeze_append_cons hc, gap.squeeze_text, trim_blanks_append _ hfirst, hspace,
    trimEnd_append_cons hc]
  exact congrArg (' ' :: ·) hend.symm

/-- Collapsing is squeezing and then trimming. -/
theorem collapse_eq_trim_squeeze (cs : List Char) : collapse cs = trim (squeeze cs) := by
  unfold collapse
  fun_induction words cs with
  | case1 cs h =>
      let b : Blanks := ⟨cs, List.all_eq_true.mpr (List.dropWhile_eq_nil_iff.mp h)⟩
      have hend : ∀ c ∈ ([] : List Char).head?, isBlank c = false := by simp
      have htrim := trim_blanks_append b.squeezed hend
      rw [List.append_nil, ← b.squeeze_text] at htrim
      exact htrim.symm
  | case2 cs c rest h ih =>
      let b : Blanks := ⟨cs.takeWhile isBlank, List.all_takeWhile⟩
      let word := c :: rest.takeWhile (!isBlank ·)
      generalize hmore : rest.dropWhile (!isBlank ·) = more at ih ⊢
      have hword : ∀ d ∈ word, isBlank d = false := by
        refine List.forall_mem_cons.mpr ⟨head?_trimStart cs c (by rw [h]; rfl), fun d hd ↦ ?_⟩
        simpa using List.mem_takeWhile_imp hd
      have hparts : cs = b.text ++ (word ++ more) := by
        have hrest : word ++ more = trimStart cs := by
          rw [h, List.cons_append, ← hmore, List.takeWhile_append_dropWhile]
        rw [hrest]
        exact List.takeWhile_append_dropWhile.symm
      have htrim := trim_squeeze_word (List.cons_ne_nil _ _) hword b more
      rw [← hparts] at htrim
      rw [htrim]
      rcases blanks_or_exists_solid more with ⟨gap, rfl⟩ | ⟨gap, d, tail, hd, rfl⟩
      · rw [words_blanks, gap.squeeze_text, gap.squeezed.trimEnd_text, List.append_nil,
          List.intercalate_singleton]
      · have hgap : gap.text ≠ [] := by
          intro hnil
          have hstop := List.head?_dropWhile_not (!isBlank ·) rest
          rw [hmore, hnil] at hstop
          simp [hd] at hstop
        obtain ⟨next, others, hwords⟩ := List.exists_cons_of_ne_nil (words_ne_nil hd gap tail)
        rw [trimEnd_squeeze_gap hgap hd, ← ih, hwords, List.intercalate_cons_cons,
          List.append_assoc]
        rfl

/-- The characters of a text that are no blanks. -/
def solid (cs : List Char) : List Char :=
  cs.filter (!isBlank ·)

@[simp] theorem solid_append (a b : List Char) : solid (a ++ b) = solid a ++ solid b :=
  List.filter_append ..

theorem solid_cons (hc : isBlank c = false) (cs : List Char) : solid (c :: cs) = c :: solid cs :=
  List.filter_cons_of_pos (by simp [hc])

@[simp] theorem solid_blanks (b : Blanks) : solid b.text = [] := by
  rw [solid, List.filter_eq_nil_iff]
  intro c hc
  simp [b.blank c hc]

@[simp] theorem solid_solid (cs : List Char) : solid (solid cs) = solid cs := by
  simp [solid]

theorem mem_solid (hc : isBlank c = false) : c ∈ solid cs ↔ c ∈ cs := by
  simp [solid, hc]

theorem solid_squeeze (cs : List Char) : solid (squeeze cs) = solid cs := by
  have hspace : isBlank ' ' = true := by decide
  rw [solid, solid]
  induction cs with
  | nil => rfl
  | cons c cs ih =>
      rw [squeeze]
      by_cases hc : isBlank c = true
      · by_cases hnext : cs.head?.any isBlank = true <;> simp [hc, hnext, hspace, ih]
      · simp [hc, ih]

theorem solid_beforeFirst {sep : Char} (hsep : isBlank sep = false) (cs : List Char) :
    solid (beforeFirst sep cs) = beforeFirst sep (solid cs) := by
  rw [solid, solid, beforeFirst, beforeFirst]
  induction cs with
  | nil => rfl
  | cons c cs ih =>
      by_cases heq : c = sep
      · simp [heq, hsep]
      · by_cases hc : isBlank c = true <;> simp [heq, hc, ih]

end ApiSurvey.Text
