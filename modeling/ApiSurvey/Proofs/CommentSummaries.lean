import ApiSurvey.Proofs.TextCutting
import ApiSurvey.Shape.DocComment

/-!
# Summaries of documentation comments

A comment is written line by line, each line behind a star of its own, and its summary is read off
these lines. Main statements: the summary of a written comment is its first line that is not blank,
unless that is a tag; and the summary of any comment is a piece of what stands between the
delimiters, unless these share a star.
-/

namespace ApiSurvey

namespace Text

variable {c : Char} {cs l rest : List Char}

/-! ## Lines -/

theorem isLineBreak_of_mem_lines (hl : l ∈ lines cs) : ∀ c ∈ l, isLineBreak c = false := by
  fun_induction lines cs generalizing l with
  | case1 => simp at hl
  | case2 cs ih =>
      rcases List.mem_cons.mp hl with rfl | hl
      · simp
      · exact ih hl
  | case3 c cs _ hbreak ih =>
      rcases List.mem_cons.mp hl with rfl | hl
      · simp
      · exact ih hl
  | case4 c cs _ hbreak hnone ih =>
      obtain rfl := List.mem_singleton.mp hl
      simpa using hbreak
  | case5 c cs _ hbreak first others hlines ih =>
      rw [hlines] at ih
      rcases List.mem_cons.mp hl with rfl | hl
      · rw [List.forall_mem_cons]
        exact ⟨by simpa using hbreak, ih List.mem_cons_self⟩
      · exact ih (List.mem_cons_of_mem _ hl)

theorem prefix_of_lines_eq_cons {ls : List (List Char)} (h : lines cs = l :: ls) : l <+: cs := by
  fun_induction lines cs generalizing l ls with
  | case1 => cases h
  | case2 cs ih =>
      obtain ⟨rfl, -⟩ := List.cons.inj h
      exact List.nil_prefix
  | case3 c cs _ hbreak ih =>
      obtain ⟨rfl, -⟩ := List.cons.inj h
      exact List.nil_prefix
  | case4 c cs _ hbreak hnone ih =>
      obtain ⟨rfl, -⟩ := List.cons.inj h
      exact List.cons_prefix_cons.mpr ⟨rfl, List.nil_prefix⟩
  | case5 c cs _ hbreak first others hlines ih =>
      obtain ⟨rfl, -⟩ := List.cons.inj h
      exact List.cons_prefix_cons.mpr ⟨rfl, ih hlines⟩

theorem infix_of_mem_lines (hl : l ∈ lines cs) : l <:+: cs := by
  fun_induction lines cs generalizing l with
  | case1 => simp at hl
  | case2 cs ih =>
      rcases List.mem_cons.mp hl with rfl | hl
      · exact List.nil_infix
      · exact List.infix_cons (List.infix_cons (ih hl))
  | case3 c cs _ hbreak ih =>
      rcases List.mem_cons.mp hl with rfl | hl
      · exact List.nil_infix
      · exact List.infix_cons (ih hl)
  | case4 c cs _ hbreak hnone ih =>
      obtain rfl := List.mem_singleton.mp hl
      exact (List.cons_prefix_cons.mpr ⟨rfl, List.nil_prefix⟩).isInfix
  | case5 c cs _ hbreak first others hlines ih =>
      rw [hlines] at ih
      rcases List.mem_cons.mp hl with rfl | hl
      · exact (List.cons_prefix_cons.mpr ⟨rfl, prefix_of_lines_eq_cons hlines⟩).isInfix
      · exact List.infix_cons (ih (List.mem_cons_of_mem _ hl))

/-- A text without line breaks, up to one, is a line. -/
theorem lines_append_cons (hl : ∀ c ∈ l, isLineBreak c = false) (rest : List Char) :
    lines (l ++ '\n' :: rest) = l :: lines rest := by
  have hfeed : isLineBreak '\n' = true := by decide
  induction l with
  | nil => simp [lines, hfeed]
  | cons c l ih =>
      rw [List.forall_mem_cons] at hl
      have hreturn : c ≠ '\r' := by
        rintro rfl
        exact absurd hl.1 (by decide)
      rw [List.cons_append, lines, ih hl.2]
      · simp [hl.1]
      · exact fun _ h ↦ absurd h hreturn

theorem trim_cons_of_isBlank (hc : isBlank c = true) (cs : List Char) : trim (c :: cs) = trim cs := by
  rw [trim, trimStart, List.dropWhile_cons_of_pos hc]
  rfl

theorem trim_cons_of_solid (hc : isBlank c = false) (cs : List Char) :
    trim (c :: cs) = c :: trimEnd cs := by
  rw [trim, trimStart, List.dropWhile_cons_of_neg (by simp [hc])]
  exact trimEnd_append_cons hc [] cs

theorem trim_trim (cs : List Char) : trim (trim cs) = trim cs :=
  trim_of_solid (head?_trim cs) (getLast?_trim cs)

theorem trim_trimEnd (cs : List Char) : trim (trimEnd cs) = trim cs := by
  have hend : (cs.reverse.takeWhile isBlank).reverse.all isBlank = true := by
    rw [List.all_reverse]
    exact List.all_takeWhile
  have hcs : trimEnd cs ++ (cs.reverse.takeWhile isBlank).reverse = cs := by
    rw [trimEnd, ← List.reverse_append, List.takeWhile_append_dropWhile, List.reverse_reverse]
  have haround := trim_around {} (trimEnd cs) ⟨_, hend⟩
  rw [List.nil_append, hcs] at haround
  exact haround.symm

end Text

namespace Shape

open Text

variable {c : Char} {cs line rest : List Char} {ls : List (List Char)}

/-! ## The text of a line -/

theorem lineText_of_blank (hc : isBlank c = true) (line : List Char) :
    lineText (c :: line) = lineText line := by
  rw [lineText, trim_cons_of_isBlank hc, lineText]

theorem lineText_star (line : List Char) : lineText ('*' :: line) = trim line := by
  rw [lineText, trim_cons_of_solid (by decide)]
  exact trim_trimEnd line

theorem isInfix_lineText (line : List Char) : lineText line <:+: line := by
  unfold lineText
  split
  · rename_i rest hrest
    exact ((isInfix_trim rest).trans (List.suffix_cons '*' rest).isInfix).trans
      (hrest ▸ isInfix_trim line)
  · exact isInfix_trim line

theorem trim_lineText (line : List Char) : trim (lineText line) = lineText line := by
  unfold lineText
  split
  · exact trim_trim _
  · exact trim_trim line

/-! ## The first line that says something -/

theorem firstLine_of_lineText_eq_nil (h : lineText line = []) (ls : List (List Char)) :
    firstLine (line :: ls) = firstLine ls := by
  rw [firstLine, h]

theorem firstLine_eq_nil_or (ls : List (List Char)) :
    firstLine ls = [] ∨ ∃ line ∈ ls, firstLine ls = lineText line := by
  induction ls with
  | nil => exact .inl rfl
  | cons line ls ih =>
      unfold firstLine
      split
      · exact ih.imp_right fun ⟨l, hl, h⟩ ↦ ⟨l, List.mem_cons_of_mem _ hl, h⟩
      · exact .inl rfl
      · exact .inr ⟨line, List.mem_cons_self, rfl⟩

/-- Blanks in front of a text are passed over, whether or not they end lines. -/
theorem firstLine_lines_cons_of_isBlank (hc : isBlank c = true) (cs : List Char) :
    firstLine (lines (c :: cs)) = firstLine (lines cs) := by
  generalize htext : c :: cs = text
  fun_cases lines text with
  | case1 => cases htext
  | case2 more =>
      obtain ⟨rfl, rfl⟩ := List.cons.inj htext
      exact congrArg firstLine (lines_append_cons (l := []) (by simp) more).symm
  | case3 d more _ hbreak =>
      obtain ⟨rfl, rfl⟩ := List.cons.inj htext
      exact firstLine_of_lineText_eq_nil rfl _
  | case4 d more _ hbreak hnone =>
      obtain ⟨rfl, rfl⟩ := List.cons.inj htext
      rw [hnone]
      exact firstLine_of_lineText_eq_nil (lineText_of_blank hc []) []
  | case5 d more _ hbreak first others hlines =>
      obtain ⟨rfl, rfl⟩ := List.cons.inj htext
      rw [hlines, firstLine, lineText_of_blank hc, firstLine]

theorem firstLine_lines_blanks_append (b : Blanks) (cs : List Char) :
    firstLine (lines (b.text ++ cs)) = firstLine (lines cs) := by
  obtain ⟨blanks, hblanks⟩ := b
  induction blanks with
  | nil => rfl
  | cons c blanks ih =>
      rw [List.all_cons, Bool.and_eq_true] at hblanks
      exact (firstLine_lines_cons_of_isBlank hblanks.1 _).trans (ih hblanks.2)

/-! ## Delimiters -/

/-- What stands between the delimiters is read line by line. -/
theorem summary_enclosed (inner : List Char) :
    summary (String.ofList ("/**".toList ++ (inner ++ "*/".toList))) =
      String.ofList (firstLine (lines inner)) := by
  have htrim : trim ("/**".toList ++ (inner ++ "*/".toList)) =
      "/**".toList ++ (inner ++ "*/".toList) := by
    apply trim_of_solid
    · rintro _ ⟨⟩
      decide
    · rw [← List.append_assoc, List.getLast?_append]
      rintro _ ⟨⟩
      decide
  have hopening : withoutOpening ("/**".toList ++ (inner ++ "*/".toList)) =
      inner ++ "*/".toList := by
    rw [withoutOpening, if_pos (List.isPrefixOf_iff_prefix.mpr (List.prefix_append ..))]
    exact List.drop_left' rfl
  have hclosing : withoutClosing (inner ++ "*/".toList) = inner := by
    rw [withoutClosing, if_pos (List.isSuffixOf_iff_suffix.mpr (List.suffix_append ..))]
    exact List.take_left' (by simp)
  rw [summary, String.toList_ofList, htrim, hopening, hclosing]

/-! ## Written comments -/

/-- A line of a comment, with the blanks in front of its star. -/
structure CommentLine where
  indent : Blanks := {}
  text : List Char
  unbroken : text.all (!isLineBreak ·) = true := by decide

def CommentLine.written (row : CommentLine) : List Char :=
  row.indent.text ++ ('*' :: ' ' :: (row.text ++ ['\n']))

/-- A comment with its lines one below the other. -/
def writtenComment (rows : List CommentLine) (last : Blanks) : List Char :=
  "/**".toList ++ ('\n' :: (rows.flatMap CommentLine.written ++ last.text) ++ "*/".toList)

/-- The first of some texts that is not blank, trimmed; nothing when there is none, or when it is
a tag. -/
def headline (texts : List (List Char)) : List Char :=
  match (texts.map trim).find? (!·.isEmpty) with
  | some ('@' :: _) => []
  | some text => text
  | none => []

theorem firstLine_written (row : CommentLine) (rest : List Char) :
    firstLine (lines (row.written ++ rest)) =
      firstLine (('*' :: ' ' :: row.text) :: lines rest) := by
  have hunbroken : ∀ c ∈ '*' :: ' ' :: row.text, isLineBreak c = false := by
    have hmarks : isLineBreak '*' = false ∧ isLineBreak ' ' = false := by decide
    have htext := List.all_eq_true.mp row.unbroken
    simpa [hmarks] using htext
  have hline := lines_append_cons hunbroken rest
  rw [CommentLine.written, List.append_assoc, firstLine_lines_blanks_append, ← hline]
  simp

theorem firstLine_rows (rows : List CommentLine) (last : Blanks) :
    firstLine (lines (rows.flatMap CommentLine.written ++ last.text)) =
      headline (rows.map CommentLine.text) := by
  induction rows with
  | nil =>
      have hlast := firstLine_lines_blanks_append last []
      rw [List.append_nil] at hlast
      exact hlast
  | cons row rows ih =>
      have htext : lineText ('*' :: ' ' :: row.text) = trim row.text :=
        (lineText_star _).trans (trim_cons_of_isBlank (by decide) _)
      rw [List.flatMap_cons, List.append_assoc, firstLine_written, firstLine, htext, ih, headline,
        headline, List.map_cons, List.map_cons, List.find?_cons]
      cases trim row.text with
      | nil => rfl
      | cons c cs =>
          by_cases hc : c = '@'
          · simp [hc]
          · simp [hc]

/-- A summary is one line without blanks around it. -/
theorem summary_oneLine (doc : String) :
    (∀ c ∈ (summary doc).toList, isLineBreak c = false) ∧
      trim (summary doc).toList = (summary doc).toList := by
  rw [summary, String.toList_ofList]
  rcases firstLine_eq_nil_or (lines (withoutClosing (withoutOpening (trim doc.toList)))) with
    h | ⟨line, hline, h⟩
  · rw [h]
    exact ⟨by simp, rfl⟩
  · rw [h]
    refine ⟨fun c hc ↦ ?_, trim_lineText line⟩
    exact isLineBreak_of_mem_lines hline c ((isInfix_lineText line).subset hc)

/-- The summary of a written comment is the first of its lines that is not blank, trimmed, and
nothing when that line is a tag. -/
theorem summary_writtenComment (rows : List CommentLine) (last : Blanks) :
    summary (String.ofList (writtenComment rows last)) =
        String.ofList (headline (rows.map CommentLine.text)) ∧
      (∀ c ∈ headline (rows.map CommentLine.text), isLineBreak c = false) ∧
      trim (headline (rows.map CommentLine.text)) = headline (rows.map CommentLine.text) := by
  have hfeed : isBlank '\n' = true := by decide
  have hread : summary (String.ofList (writtenComment rows last)) =
      String.ofList (headline (rows.map CommentLine.text)) := by
    rw [writtenComment, summary_enclosed, firstLine_lines_cons_of_isBlank hfeed, firstLine_rows]
  have hline := summary_oneLine (String.ofList (writtenComment rows last))
  rw [hread, String.toList_ofList] at hline
  exact ⟨hread, hline⟩

example :
    let rows : List CommentLine :=
      [{ text := "  ".toList }, { indent := ⟨['\t'], rfl⟩, text := "* a/ @b ".toList },
        { text := "@see C".toList }]
    String.ofList (writtenComment rows ⟨[' '], rfl⟩) =
        "/**\n*   \n\t* * a/ @b \n* @see C\n */" ∧
      summary (String.ofList (writtenComment rows ⟨[' '], rfl⟩)) = "* a/ @b" := by
  decide

/-! ## Decoration -/

theorem trim_eq_nil_iff : trim cs = [] ↔ ∀ c ∈ cs, isBlank c = true := by
  constructor
  · intro h c hc
    by_contra hsolid
    exact trim_ne_nil hc (by simpa using hsolid) h
  · intro h
    have haround := trim_around ⟨cs, List.all_eq_true.mpr h⟩ [] {}
    rwa [List.append_nil, List.append_nil] at haround

theorem firstLine_eq_nil_iff (htags : ∀ line ∈ ls, '@' ∉ line) :
    firstLine ls = [] ↔ ∀ line ∈ ls, lineText line = [] := by
  induction ls with
  | nil => simp [firstLine]
  | cons line ls ih =>
      rw [List.forall_mem_cons] at htags
      rw [List.forall_mem_cons, ← ih htags.2]
      cases htext : lineText line with
      | nil => rw [firstLine_of_lineText_eq_nil htext, and_iff_right rfl]
      | cons c text =>
          have hc : c ≠ '@' := by
            rintro rfl
            apply htags.1
            exact (isInfix_lineText line).subset (htext ▸ List.mem_cons_self)
          rw [firstLine, htext]
          simp [hc]

/-- Of stars and blanks nothing is left when there is no second star. -/
theorem lineText_eq_nil_iff_count (hline : ∀ c ∈ line, c = '*' ∨ isBlank c = true) :
    lineText line = [] ↔ line.count '*' ≤ 1 := by
  have hblank : ∀ part ⊆ line, '*' ∉ part → ∀ c ∈ part, isBlank c = true := by
    intro part hpart hstar c hc
    refine (hline c (hpart hc)).resolve_left ?_
    rintro rfl
    exact hstar hc
  by_cases hstar : '*' ∈ line
  · obtain ⟨before, after, rfl, hbefore⟩ := List.eq_append_cons_of_mem hstar
    have hfront := hblank before (List.subset_append_left ..) hbefore
    have htext : lineText (before ++ '*' :: after) = trim after := by
      have haround := trim_around ⟨before, List.all_eq_true.mpr hfront⟩ ('*' :: after) {}
      rw [List.append_nil] at haround
      rw [lineText, haround, ← lineText, lineText_star]
    have hcount : (before ++ '*' :: after).count '*' = after.count '*' + 1 := by
      rw [List.count_append, List.count_cons_self, List.count_eq_zero.mpr hbefore, Nat.zero_add]
    have hsecond : (before ++ '*' :: after).count '*' ≤ 1 ↔ '*' ∉ after := by
      rw [hcount, ← List.count_eq_zero]
      omega
    rw [htext, trim_eq_nil_iff, hsecond]
    constructor
    · intro hafter hmem
      exact absurd (hafter '*' hmem) (by decide)
    · exact hblank after fun c hc ↦ List.mem_append_right _ (List.mem_cons_of_mem _ hc)
  · have htext : trim line = [] := trim_eq_nil_iff.mpr (hblank line (List.Subset.refl _) hstar)
    rw [lineText, htext, List.count_eq_zero.mpr hstar]
    simp

/-- A text that starts and ends with the delimiters of a comment has them side by side, unless they
share a star. -/
theorem enclosed_or_overlapping (hopens : "/**".toList <+: cs) (hcloses : "*/".toList <:+ cs) :
    cs = "/**/".toList ∨ ∃ inner, cs = "/**".toList ++ (inner ++ "*/".toList) := by
  obtain ⟨rest, rfl⟩ := hopens
  rcases Nat.lt_or_ge rest.length "*/".toList.length with hshort | hlong
  · match rest, hshort with
    | [], _ => exact absurd hcloses (by decide)
    | [c], _ =>
        obtain ⟨before, hbefore⟩ := hcloses
        have hlast := congrArg List.getLast? hbefore
        have hc : c = '/' := by simpa using hlast.symm
        exact .inl (by rw [hc]; rfl)
  · obtain ⟨inner, hinner⟩ :=
      List.suffix_of_suffix_length_le hcloses (List.suffix_append ..) hlong
    exact .inr ⟨inner, by rw [hinner]⟩

/-- The summary of a comment is a piece of what stands between its delimiters, unless these share
a star: then a slash of theirs is the summary. Where nothing but stars and blanks stands between
them, there is a summary only if some line holds a second star, since a line loses one. -/
theorem summary_infix_inner (cs : List Char) (hopens : "/**".toList <+: cs)
    (hcloses : "*/".toList <:+ cs) :
    cs = "/**/".toList ∧ summary (String.ofList cs) = "/" ∨
      ∃ inner, cs = "/**".toList ++ (inner ++ "*/".toList) ∧
        (summary (String.ofList cs)).toList <:+: inner ∧
        ((∀ c ∈ inner, c = '*' ∨ isBlank c = true) →
          (summary (String.ofList cs) = "" ↔ ∀ line ∈ lines inner, line.count '*' ≤ 1)) := by
  rcases enclosed_or_overlapping hopens hcloses with rfl | ⟨inner, rfl⟩
  · exact .inl ⟨rfl, by decide⟩
  · refine .inr ⟨inner, rfl, ?_, fun hinner ↦ ?_⟩
    · rw [summary_enclosed, String.toList_ofList]
      rcases firstLine_eq_nil_or (lines inner) with h | ⟨line, hline, h⟩
      · rw [h]
        exact List.nil_infix
      · rw [h]
        exact (isInfix_lineText line).trans (infix_of_mem_lines hline)
    · have htags : ∀ line ∈ lines inner, '@' ∉ line := by
        intro line hline htag
        have hmark := hinner '@' ((infix_of_mem_lines hline).subset htag)
        revert hmark
        decide
      have hcounts : (∀ line ∈ lines inner, lineText line = []) ↔
          ∀ line ∈ lines inner, line.count '*' ≤ 1 :=
        forall₂_congr fun line hline ↦ lineText_eq_nil_iff_count fun c hc ↦
          hinner c ((infix_of_mem_lines hline).subset hc)
      rw [summary_enclosed, ← hcounts, ← firstLine_eq_nil_iff htags]
      exact String.ofList_eq_empty_iff

theorem summary_infix_inner_of_stars :
    let cs := "/**\n *\n ***\n */".toList
    "/**".toList <+: cs ∧ "*/".toList <:+ cs ∧
      ∃ inner, cs = "/**".toList ++ (inner ++ "*/".toList) ∧
        (summary (String.ofList cs)).toList <:+: inner ∧ summary (String.ofList cs) ≠ "" := by
  intro cs
  have hopens : "/**".toList <+: cs := by decide
  have hcloses : "*/".toList <:+ cs := by decide
  rcases summary_infix_inner cs hopens hcloses with ⟨hoverlap, -⟩ | ⟨inner, hcs, hpiece, hstars⟩
  · exact absurd hoverlap (by decide)
  · have hsplit : "/**".toList ++ ("\n *\n ***\n ".toList ++ "*/".toList) = cs := by decide
    obtain rfl := List.append_cancel_right (List.append_cancel_left (hsplit.trans hcs))
    refine ⟨hopens, hcloses, _, hcs, hpiece, fun hempty ↦ ?_⟩
    have hmarks : ("\n *\n ***\n ".toList.all fun c ↦ c == '*' || isBlank c) = true := by decide
    have hinner : ∀ c ∈ "\n *\n ***\n ".toList, c = '*' ∨ isBlank c = true := fun c hc ↦ by
      simpa using List.all_eq_true.mp hmarks c hc
    exact absurd ((hstars hinner).mp hempty) (by decide)

end Shape

end ApiSurvey
