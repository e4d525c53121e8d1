import ApiSurvey.Proofs.PathText
import ApiSurvey.Text.Blank
import ApiSurvey.Text.WordChar
import Mathlib.Data.List.TakeWhile

/-!
# Cutting a text that is known by its parts

A cut at a character gives back the parts around it, and trimming takes away the blanks around a
text that neither starts nor ends with one.
-/

namespace ApiSurvey.Text

/-- A text of blanks only. -/
structure Blanks where
  text : List Char := []
  all_blank : text.all isBlank = true := by decide

def Blanks.append (b b' : Blanks) : Blanks where
  text := b.text ++ b'.text
  all_blank := by
    rw [List.all_append, b.all_blank, b'.all_blank]
    rfl

theorem Blanks.blank (b : Blanks) : ∀ c ∈ b.text, isBlank c = true :=
  List.all_eq_true.mp b.all_blank

variable {sep : Char} {a b cs : List Char}

/-! ## The parts around a character -/

theorem bne_of_notMem (h : sep ∉ a) : ∀ c ∈ a, (c != sep) = true := by
  intro c hc
  have hne : c ≠ sep := fun heq ↦ h (heq ▸ hc)
  exact bne_iff_ne.mpr hne

theorem beforeFirst_append_of_notMem (h : sep ∉ a) (b : List Char) :
    beforeFirst sep (a ++ b) = a ++ beforeFirst sep b :=
  List.takeWhile_append_of_pos (bne_of_notMem h)

theorem beforeFirst_of_notMem (h : sep ∉ a) : beforeFirst sep a = a :=
  List.takeWhile_eq_self_iff.mpr (bne_of_notMem h)

theorem beforeFirst_append_cons (h : sep ∉ a) (b : List Char) :
    beforeFirst sep (a ++ sep :: b) = a := by
  rw [beforeFirst_append_of_notMem h, beforeFirst, List.takeWhile_cons_of_neg (by simp),
    List.append_nil]

theorem afterFirst_append_of_notMem (h : sep ∉ a) (b : List Char) :
    afterFirst sep (a ++ b) = afterFirst sep b := by
  rw [afterFirst, List.dropWhile_append_of_pos (bne_of_notMem h)]
  rfl

theorem afterFirst_append_cons (h : sep ∉ a) (b : List Char) :
    afterFirst sep (a ++ sep :: b) = b := by
  rw [afterFirst_append_of_notMem h, afterFirst, List.dropWhile_cons_of_neg (by simp)]
  rfl

theorem beforeFirst_append_of_mem (h : sep ∈ a) (b : List Char) :
    beforeFirst sep (a ++ b) = beforeFirst sep a := by
  obtain ⟨before, after, rfl, hnot⟩ := List.eq_append_cons_of_mem h
  rw [List.append_assoc, List.cons_append, beforeFirst_append_cons hnot,
    beforeFirst_append_cons hnot]

theorem afterFirst_append_of_mem (h : sep ∈ a) (b : List Char) :
    afterFirst sep (a ++ b) = afterFirst sep a ++ b := by
  obtain ⟨before, after, rfl, hnot⟩ := List.eq_append_cons_of_mem h
  rw [List.append_assoc, List.cons_append, afterFirst_append_cons hnot,
    afterFirst_append_cons hnot]

theorem reverse_append_cons (a b : List Char) :
    (a ++ sep :: b).reverse = b.reverse ++ sep :: a.reverse := by
  simp

theorem beforeLast_append_cons (h : sep ∉ b) (a : List Char) :
    beforeLast sep (a ++ sep :: b) = a := by
  have hcut := afterFirst_append_cons (a := b.reverse) (by simpa using h) a.reverse
  rw [← reverse_append_cons] at hcut
  rw [beforeLast]
  exact (congrArg List.reverse hcut).trans a.reverse_reverse

theorem afterLast_append_cons (h : sep ∉ b) (a : List Char) :
    afterLast sep (a ++ sep :: b) = b := by
  have hcut := beforeFirst_append_cons (a := b.reverse) (by simpa using h) a.reverse
  rw [← reverse_append_cons] at hcut
  rw [afterLast]
  exact (congrArg List.reverse hcut).trans b.reverse_reverse

theorem afterLast_of_notMem (h : sep ∉ a) : afterLast sep a = a := by
  have hwhole := beforeFirst_of_notMem (a := a.reverse) (by simpa using h)
  rw [afterLast]
  exact (congrArg List.reverse hwhole).trans a.reverse_reverse

theorem afterLast_suffix (sep : Char) (cs : List Char) : afterLast sep cs <:+ cs := by
  rw [← List.reverse_prefix, afterLast, List.reverse_reverse]
  exact List.takeWhile_prefix _

theorem prefix_beforeLast (sep : Char) (cs : List Char) : beforeLast sep cs <+: cs := by
  rw [← List.reverse_suffix, beforeLast, List.reverse_reverse]
  exact (List.drop_suffix _ _).trans (List.dropWhile_suffix _)

theorem afterFirst_suffix (sep : Char) (cs : List Char) : afterFirst sep cs <:+ cs :=
  (List.drop_suffix _ _).trans (List.dropWhile_suffix _)

theorem beforeLast_of_notMem (h : sep ∉ a) : beforeLast sep a = [] := by
  have hall : ∀ c ∈ a.reverse, (c != sep) = true := bne_of_notMem (by simpa using h)
  rw [beforeLast, List.dropWhile_eq_nil_iff.mpr hall]
  rfl

theorem beforeLast_append_of_notMem (a : List Char) (h : sep ∉ b) :
    beforeLast sep (a ++ b) = beforeLast sep a := by
  have hall : ∀ c ∈ b.reverse, (c != sep) = true := bne_of_notMem (by simpa using h)
  rw [beforeLast, List.reverse_append, List.dropWhile_append_of_pos hall]
  rfl

theorem eq_append_cons_of_mem_last (h : sep ∈ cs) : ∃ a b, cs = a ++ sep :: b ∧ sep ∉ b := by
  obtain ⟨before, after, hcs, hnot⟩ := List.eq_append_cons_of_mem (List.mem_reverse.mpr h)
  refine ⟨after.reverse, before.reverse, ?_, by simpa using hnot⟩
  rw [← cs.reverse_reverse, hcs]
  simp

/-- What holds of some texts, and of two texts with a separator between them when it holds of both,
holds of the texts joined. -/
theorem intercalate_induction {P : List Char → Prop} (hnil : P [])
    (hjoin : ∀ a b, P a → P b → P (a ++ sep :: b)) {texts : List (List Char)}
    (h : ∀ text ∈ texts, P text) : P ([sep].intercalate texts) := by
  induction texts with
  | nil => exact hnil
  | cons text texts ih =>
      have htext := h text List.mem_cons_self
      have hrest := ih fun other hother ↦ h other (List.mem_cons_of_mem _ hother)
      cases texts with
      | nil =>
          rw [List.intercalate_singleton]
          exact htext
      | cons other texts =>
          rw [List.intercalate_cons_cons, List.append_assoc, List.singleton_append]
          exact hjoin text _ htext hrest

/-! ## Blanks around a text -/

theorem Blanks.notMem (b : Blanks) (h : isBlank sep = false) : sep ∉ b.text := by
  intro hmem
  rw [b.blank sep hmem] at h
  cases h

theorem trimStart_subset (cs : List Char) : trimStart cs ⊆ cs :=
  (List.dropWhile_suffix isBlank).subset

theorem trimEnd_subset (cs : List Char) : trimEnd cs ⊆ cs := by
  intro c hc
  exact List.mem_reverse.mp ((List.dropWhile_suffix isBlank).subset (List.mem_reverse.mp hc))

theorem trimStart_append (b : Blanks) (cs : List Char) : trimStart (b.text ++ cs) = trimStart cs :=
  List.dropWhile_append_of_pos b.blank

theorem trimEnd_append (cs : List Char) (b : Blanks) : trimEnd (cs ++ b.text) = trimEnd cs := by
  have hblank : ∀ c ∈ b.text.reverse, isBlank c = true := by
    intro c hc
    exact b.blank c (List.mem_reverse.mp hc)
  rw [trimEnd, List.reverse_append, List.dropWhile_append_of_pos hblank]
  rfl

theorem trimStart_of_solid (h : ∀ c ∈ cs.head?, isBlank c = false) : trimStart cs = cs := by
  cases cs with
  | nil => rfl
  | cons c cs =>
      have hc := h c rfl
      exact List.dropWhile_cons_of_neg (by simp [hc])

theorem trimEnd_of_solid (h : ∀ c ∈ cs.getLast?, isBlank c = false) : trimEnd cs = cs := by
  have hreverse : ∀ c ∈ cs.reverse.head?, isBlank c = false := by
    rwa [List.head?_reverse]
  have hkept := trimStart_of_solid hreverse
  exact (congrArg List.reverse hkept).trans cs.reverse_reverse

theorem trimStart_append_cons {c : Char} (hc : isBlank c = false) (a b : List Char) :
    trimStart (a ++ c :: b) = trimStart a ++ c :: b := by
  rw [trimStart, List.dropWhile_append, List.dropWhile_cons_of_neg (by simp [hc])]
  split
  · rename_i hempty
    rw [trimStart, List.isEmpty_iff.mp hempty]
    rfl
  · rfl

theorem trimEnd_append_cons {c : Char} (hc : isBlank c = false) (a b : List Char) :
    trimEnd (a ++ c :: b) = a ++ c :: trimEnd b := by
  have hstart := trimStart_append_cons hc b.reverse a.reverse
  rw [← reverse_append_cons] at hstart
  have hback : trimEnd (a ++ c :: b) = (trimStart b.reverse ++ c :: a.reverse).reverse :=
    congrArg List.reverse hstart
  rw [hback, reverse_append_cons, List.reverse_reverse]
  rfl

theorem trim_around (b : Blanks) (cs : List Char) (b' : Blanks) :
    trim (b.text ++ cs ++ b'.text) = trim cs := by
  rw [trim, trim, List.append_assoc, trimStart_append]
  by_cases hcs : trimStart cs = []
  · have hall : trimStart (cs ++ b'.text) = [] := by
      have hblank := List.dropWhile_eq_nil_iff.mp hcs
      apply List.dropWhile_eq_nil_iff.mpr
      intro c hc
      rcases List.mem_append.mp hc with hc | hc
      · exact hblank c hc
      · exact b'.blank c hc
    rw [hall, hcs]
  · have hkept : trimStart (cs ++ b'.text) = trimStart cs ++ b'.text := by
      rw [trimStart, List.dropWhile_append, if_neg (by simpa [trimStart] using hcs)]
      rfl
    rw [hkept, trimEnd_append]

theorem exists_eq_around_trim (cs : List Char) :
    ∃ b b' : Blanks, cs = b.text ++ trim cs ++ b'.text := by
  have hend : ((trimStart cs).reverse.takeWhile isBlank).reverse.all isBlank = true := by
    rw [List.all_reverse]
    exact List.all_takeWhile
  refine ⟨⟨cs.takeWhile isBlank, List.all_takeWhile⟩, ⟨_, hend⟩, ?_⟩
  have hback : trim cs ++ ((trimStart cs).reverse.takeWhile isBlank).reverse = trimStart cs := by
    rw [trim, trimEnd, ← List.reverse_append, List.takeWhile_append_dropWhile,
      List.reverse_reverse]
  rw [List.append_assoc, hback]
  exact List.takeWhile_append_dropWhile.symm

theorem isInfix_trim (cs : List Char) : trim cs <:+: cs := by
  obtain ⟨b, b', hcs⟩ := exists_eq_around_trim cs
  exact ⟨b.text, b'.text, hcs.symm⟩

theorem trim_ne_nil {c : Char} (hmem : c ∈ cs) (hc : isBlank c = false) : trim cs ≠ [] := by
  intro htrim
  obtain ⟨b, b', hcs⟩ := exists_eq_around_trim cs
  rw [hcs, htrim, List.append_nil, List.mem_append] at hmem
  rcases hmem with hmem | hmem
  · exact b.notMem hc hmem
  · exact b'.notMem hc hmem

theorem head?_trimStart (cs : List Char) : ∀ c ∈ (trimStart cs).head?, isBlank c = false := by
  intro c hc
  have hstop := List.head?_dropWhile_not isBlank cs
  rw [trimStart] at hc
  rw [hc] at hstop
  exact hstop

theorem getLast?_trim (cs : List Char) : ∀ c ∈ (trim cs).getLast?, isBlank c = false := by
  intro c hc
  rw [trim, trimEnd, List.getLast?_reverse] at hc
  exact head?_trimStart _ c hc

theorem head?_trim (cs : List Char) : ∀ c ∈ (trim cs).head?, isBlank c = false := by
  intro c hc
  obtain ⟨more, hmore⟩ : ∃ more, trimStart cs = trim cs ++ more := by
    have hprefix : trim cs <+: trimStart cs := by
      rw [← List.reverse_suffix, trim, trimEnd, List.reverse_reverse]
      exact List.dropWhile_suffix _
    exact hprefix.imp fun _ h ↦ h.symm
  apply head?_trimStart cs
  rw [hmore, List.head?_append, hc]
  rfl

theorem trim_of_solid (hfirst : ∀ c ∈ cs.head?, isBlank c = false)
    (hlast : ∀ c ∈ cs.getLast?, isBlank c = false) : trim cs = cs := by
  rw [trim, trimStart_of_solid hfirst, trimEnd_of_solid hlast]

theorem getLast?_of_suffix {part : List Char} (hpart : part <:+ cs)
    (h : ∀ c ∈ cs.getLast?, isBlank c = false) : ∀ c ∈ part.getLast?, isBlank c = false := by
  obtain ⟨before, rfl⟩ := hpart
  intro c hc
  apply h
  rw [List.getLast?_append, hc]
  rfl

/-- The code points of blanks. -/
def blankCodes : List Nat :=
  [9, 10, 11, 12, 13, 28, 29, 30, 31, 32, 0x85, 0xa0, 0x1680, 0x2000, 0x2001, 0x2002, 0x2003,
   0x2004, 0x2005, 0x2006, 0x2007, 0x2008, 0x2009, 0x200a, 0x2028, 0x2029, 0x202f, 0x205f, 0x3000]

theorem toNat_mem_blankCodes {c : Char} (h : isBlank c = true) : c.toNat ∈ blankCodes := by
  simp only [isBlank, Bool.or_eq_true, Bool.and_eq_true, decide_eq_true_eq, beq_iff_eq] at h
  simp only [blankCodes, List.mem_cons, List.not_mem_nil, or_false]
  omega

/-- No blank stands in a word. -/
theorem isWordChar_of_isBlank {c : Char} (h : isBlank c = true) : isWordChar c = false := by
  have hcodes : ∀ n ∈ blankCodes, n ≠ '_'.toNat ∧ inRanges letterOrNumber n = false := by
    decide +kernel
  obtain ⟨hline, hranges⟩ := hcodes c.toNat (toNat_mem_blankCodes h)
  have hne : c ≠ '_' := fun heq ↦ hline (heq ▸ rfl)
  rw [isWordChar, hranges, Bool.or_false]
  exact beq_eq_false_iff_ne.mpr hne

end ApiSurvey.Text
