import ApiSurvey.Proofs.WrittenTypes

/-!
# Reading a layer of a written type

The outermost layer of an expression does not depend on the blanks around it. Main statements: a
written type is read with its own name, and its arguments are the trimmed pieces between the commas
of what stands between its brackets.
-/

namespace ApiSurvey.TypeExpr

open Text

/-! ## Blanks around an expression -/

section Around

variable (b : Blanks) {cs : List Char} (b' : Blanks)

theorem mem_around {sep : Char} (h : isBlank sep = false) :
    sep ∈ b.text ++ cs ++ b'.text ↔ sep ∈ cs := by
  simp [b.notMem h, b'.notMem h]

theorem isGeneric_around : isGeneric (b.text ++ cs ++ b'.text) = isGeneric cs := by
  rw [Bool.eq_iff_iff]
  simp only [isGeneric, Bool.and_eq_true, List.contains_iff_mem]
  rw [mem_around b b' (by decide), mem_around b b' (by decide)]

theorem mem_of_isGeneric (h : isGeneric cs = true) : '<' ∈ cs ∧ '>' ∈ cs := by
  simpa [isGeneric] using h

theorem head_around : head (b.text ++ cs ++ b'.text) = head cs := by
  unfold head
  rw [isGeneric_around]
  by_cases hgeneric : isGeneric cs = true
  · have hopen := (mem_of_isGeneric hgeneric).1
    have hcut := trim_around b (beforeFirst '<' cs) {}
    rw [List.append_nil] at hcut
    rw [if_pos hgeneric, if_pos hgeneric, List.append_assoc,
      beforeFirst_append_of_notMem (b.notMem (by decide)), beforeFirst_append_of_mem hopen, bare,
      hcut]
    rfl
  · rw [if_neg hgeneric, if_neg hgeneric, bare, trim_around]
    rfl

theorem className_around (hne : cs ≠ []) : className (b.text ++ cs ++ b'.text) = className cs := by
  have hempty : (b.text ++ cs ++ b'.text).isEmpty = false := by simp [hne]
  have hempty' : cs.isEmpty = false := by simpa using hne
  rw [className, className, hempty, hempty', head_around]

theorem arguments_around : arguments (b.text ++ cs ++ b'.text) = arguments cs := by
  unfold arguments
  rw [isGeneric_around]
  by_cases hgeneric : isGeneric cs = true
  · have hopen := (mem_of_isGeneric hgeneric).1
    rw [if_pos hgeneric, if_pos hgeneric, bracketed, List.append_assoc,
      afterFirst_append_of_notMem (b.notMem (by decide)), afterFirst_append_of_mem hopen,
      beforeLast_append_of_notMem _ (b'.notMem (by decide))]
    rfl
  · rw [if_neg hgeneric, if_neg hgeneric]

theorem className_trim (hne : trim cs ≠ []) : className (trim cs) = className cs := by
  obtain ⟨b, b', hcs⟩ := exists_eq_around_trim cs
  rw [← className_around b b' hne, ← hcs]

end Around

/-! ## Pieces between commas -/

theorem commaList_append_cons (a b : List Char) :
    commaList (a ++ ',' :: b) = commaList a ++ commaList b := by
  simp only [commaList, pieces_eq_splitOn, List.splitOn_append_cons_self, List.map_append,
    List.filter_append]

theorem commaList_of_notMem {cs : List Char} (hcomma : ',' ∉ cs) :
    commaList cs = [trim cs].filter (!·.isEmpty) := by
  rw [commaList, pieces_eq_splitOn, List.splitOn_eq_singleton hcomma]
  rfl

theorem commaList_blanks_append (b : Blanks) (cs : List Char) :
    commaList (b.text ++ cs) = commaList cs := by
  have hfree : ',' ∉ b.text := b.notMem (by decide)
  have htrim : ∀ x, trim (b.text ++ x) = trim x := by
    intro x
    have h := trim_around b x {}
    rwa [List.append_nil] at h
  by_cases hcomma : ',' ∈ cs
  · obtain ⟨x, y, rfl, hx⟩ := List.eq_append_cons_of_mem hcomma
    have hxb : ',' ∉ b.text ++ x := by simp [hfree, hx]
    rw [← List.append_assoc, commaList_append_cons, commaList_append_cons,
      commaList_of_notMem hxb, commaList_of_notMem hx, htrim]
  · have hcsb : ',' ∉ b.text ++ cs := by simp [hfree, hcomma]
    rw [commaList_of_notMem hcsb, commaList_of_notMem hcomma, htrim]

theorem commaList_intercalate {texts : List (List Char)}
    (hcomma : ∀ text ∈ texts, ',' ∉ text) (hsolid : ∀ text ∈ texts, trim text ≠ []) :
    commaList ([','].intercalate texts) = texts.map trim := by
  cases texts with
  | nil => rfl
  | cons text texts =>
      rw [commaList, pieces_eq_splitOn, List.splitOn_intercalate ',' hcomma (by simp)]
      apply List.filter_eq_self.mpr
      intro piece hpiece
      obtain ⟨text', htext, rfl⟩ := List.mem_map.mp hpiece
      simpa using hsolid text' htext

/-! ## Layers of written types -/

section Layer

variable (h : Header) {more : List Char}

theorem isGeneric_open (hclose : '>' ∈ more) : isGeneric (h.text ++ '<' :: more) = true := by
  simp [isGeneric, hclose]

theorem head_open (hclose : '>' ∈ more) :
    head (h.text ++ '<' :: more) = qualified h.qualifier h.name := by
  rw [head, if_pos (isGeneric_open h hclose),
    beforeFirst_append_cons (h.bracket_notMem (by simp)), h.bare_text]

theorem className_open (hclose : '>' ∈ more) : className (h.text ++ '<' :: more) = h.name.text := by
  have hempty : (h.text ++ '<' :: more).isEmpty = false := by simp
  rw [className, hempty, head_open h hclose, unqualified_qualified]
  rfl

theorem arguments_layer (content : List Char) (closing : Closing) :
    arguments (h.text ++ '<' :: (content ++ '>' :: closing.text)) = commaList content := by
  rw [arguments, if_pos (isGeneric_open h (by simp)), bracketed,
    afterFirst_append_cons (h.bracket_notMem (by simp)),
    beforeLast_append_cons (closing.notMem (by decide) (by decide))]

end Layer

theorem className_of_afterLead?_eq_none {cs : List Char} (hne : cs.isEmpty = false)
    (hplain : isGeneric cs = false) (hstop : afterLead? (trim cs) = none) :
    className cs = unqualified (trim cs) := by
  have hbare : bare cs = trim cs := dropLeads_of_none hstop
  rw [className, hne, head, hplain, ← hbare]
  rfl

theorem isGeneric_of_notMem {cs : List Char} (h : '<' ∉ cs) : isGeneric cs = false := by
  simp [isGeneric, h]

theorem Header.text_ne_nil (h : Header) : h.text ≠ [] := by
  simp [Header.text, qualified, h.name.ne_nil]

theorem Header.head_text (h : Header) : head h.text = qualified h.qualifier h.name := by
  rw [head, isGeneric_of_notMem (h.bracket_notMem (by simp))]
  exact h.bare_text

theorem Header.className_text (h : Header) : className h.text = h.name.text := by
  have hempty : h.text.isEmpty = false := by simpa using h.text_ne_nil
  rw [className, hempty, h.head_text, unqualified_qualified]
  rfl

namespace WrittenType

theorem bare_wildcard (before : Blanks) (leads : List Lead) (after : Blanks) :
    bare (wildcard before leads after).text = ['?'] := by
  have hfirst : ∀ c ∈ ['?'].head?, isBlank c = false := by
    rintro _ ⟨⟩
    decide
  have hlast : ∀ c ∈ (leads.flatMap Lead.text ++ ['?']).getLast?, isBlank c = false := by
    simp
    decide
  have hstop : afterLead? ['?'] = none := rfl
  rw [bare, text, trim_around, trim, trimStart_of_solid (head?_leads_append leads hfirst),
    trimEnd_of_solid hlast, dropLeads_append leads hfirst hstop]

theorem bracket_notMem_wildcard (before : Blanks) (leads : List Lead) (after : Blanks) {sep : Char}
    (hsep : sep ∈ ['<', '>']) : sep ∉ (wildcard before leads after).text := by
  have hblank : isBlank sep = false ∧ sep ≠ '?' := by
    rcases List.mem_pair.mp hsep with rfl | rfl <;> decide
  simp [text, before.notMem hblank.1, after.notMem hblank.1, bracket_notMem_leads leads hsep,
    hblank.2]

theorem className_text (t : WrittenType) : className t.text = t.ownName := by
  cases t with
  | wildcard before leads after =>
      have hempty : (wildcard before leads after).text.isEmpty = false := by simp [text]
      have hplain := isGeneric_of_notMem (bracket_notMem_wildcard before leads after (by simp))
      rw [className, hempty, head, hplain]
      exact congrArg unqualified (bare_wildcard before leads after)
  | plain header => exact header.className_text
  | generic header inner arguments closing => exact className_open header (by simp)

theorem arguments_text (t : WrittenType) :
    TypeExpr.arguments t.text = commaList ([','].intercalate (t.arguments.map text)) := by
  cases t with
  | wildcard before leads after =>
      have hplain := isGeneric_of_notMem (bracket_notMem_wildcard before leads after (by simp))
      rw [TypeExpr.arguments, hplain]
      rfl
  | plain header =>
      have hplain := isGeneric_of_notMem (header.bracket_notMem (by simp))
      rw [text, TypeExpr.arguments, hplain]
      rfl
  | generic header inner arguments closing =>
      rw [text, arguments_layer, commaList_blanks_append, texts_eq_map]
      rfl

theorem exists_solid_mem (t : WrittenType) : ∃ c ∈ t.text, isBlank c = false := by
  have hheader : ∀ h : Header, ∃ c ∈ h.text, isBlank c = false := by
    intro h
    obtain ⟨c, cs, hcs, hc⟩ := exists_qualified_eq_cons h.qualifier h.name
    refine ⟨c, ?_, isBlank_of_isNameChar hc⟩
    simp [Header.text, hcs]
  cases t with
  | wildcard before leads after => exact ⟨'?', by simp [text], by decide⟩
  | plain header => exact hheader header
  | generic header inner arguments closing => exact ⟨'<', by simp [text], by decide⟩

theorem trim_text_ne_nil (t : WrittenType) : trim t.text ≠ [] := by
  obtain ⟨c, hmem, hc⟩ := t.exists_solid_mem
  exact trim_ne_nil hmem hc

theorem arguments_text_of_notMem {t : WrittenType} (hcomma : ∀ a ∈ t.arguments, ',' ∉ a.text) :
    TypeExpr.arguments t.text = t.arguments.map (trim ·.text) := by
  rw [arguments_text, commaList_intercalate, List.map_map]
  · rfl
  · simpa using hcomma
  · intro text htext
    obtain ⟨a, -, rfl⟩ := List.mem_map.mp htext
    exact a.trim_text_ne_nil

theorem text_ne_nil (t : WrittenType) : t.text ≠ [] := by
  obtain ⟨c, hmem, -⟩ := t.exists_solid_mem
  exact List.ne_nil_of_mem hmem

end WrittenType

end ApiSurvey.TypeExpr
