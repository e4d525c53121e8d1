import ApiSurvey.Proofs.BlankRuns
import ApiSurvey.Proofs.MentionedNames
import ApiSurvey.Proofs.NormalForms

/-!
# Layouts of a type

The text of a type is kept with its runs of blanks collapsed. Main statements: what is left is again
a layout of the same type; and two layouts of one type, which differ only in blanks, are read with
the same names and have the same normal form.
-/

namespace ApiSurvey

namespace TypeExpr

open Text

/-! ## Types without blanks -/

def noBlanks : Blanks where
  all_blank := List.all_nil

theorem all_isBlank_space : [' '].all isBlank = true := by
  decide

/-- One space, where there has to be a blank. -/
def oneSpace : Gap where
  text := [' ']
  all_blank := all_isBlank_space
  ne_nil := List.cons_ne_nil ' ' []

def MarkerText.tight (arguments : MarkerText) : MarkerText where
  text := solid arguments.text
  closing_notMem := fun h ↦ arguments.closing_notMem (List.mem_of_mem_filter h)
  bracket_notMem := ⟨fun h ↦ arguments.bracket_notMem.1 (List.mem_of_mem_filter h),
    fun h ↦ arguments.bracket_notMem.2 (List.mem_of_mem_filter h)⟩

def Lead.tight : Lead → Lead
  | .marker name _ => .marker name oneSpace
  | .markerWith name arguments _ => .markerWith name arguments.tight noBlanks
  | .bound _ lower _ => .bound oneSpace lower oneSpace

def Header.tight (h : Header) : Header :=
  { before := noBlanks
    leads := h.leads.map Lead.tight
    qualifier := h.qualifier
    name := h.name
    after := noBlanks }

def Closing.tight (closing : Closing) : Closing :=
  { before := noBlanks, dimensions := closing.dimensions.map fun _ ↦ ⟨noBlanks, noBlanks⟩ }

namespace WrittenType

mutual

/-- The type written without blanks but for the spaces that have to be there. Two types are layouts
of one another when they are the same written so. -/
def tight : WrittenType → WrittenType
  | .wildcard _ leads _ => .wildcard noBlanks (leads.map Lead.tight) noBlanks
  | .plain header => .plain header.tight
  | .generic header _ arguments closing =>
      .generic header.tight noBlanks (tights arguments) closing.tight

def tights : List WrittenType → List WrittenType
  | [] => []
  | t :: others => tight t :: tights others

end

theorem tights_eq_map (ts : List WrittenType) : tights ts = ts.map tight := by
  induction ts with
  | nil => rfl
  | cons t ts ih => rw [tights, ih, List.map_cons]

theorem arguments_tight (t : WrittenType) : t.tight.arguments = t.arguments.map tight := by
  cases t with
  | wildcard before leads after => rfl
  | plain header => rfl
  | generic header inner arguments closing => rw [tight, tights_eq_map]; rfl

theorem ownName_tight (t : WrittenType) : t.tight.ownName = t.ownName := by
  cases t <;> rw [tight] <;> rfl

theorem ownLeads_tight (t : WrittenType) : t.tight.ownLeads = t.ownLeads.map Lead.tight := by
  cases t <;> rw [tight] <;> rfl

theorem names_tight (t : WrittenType) : t.tight.names = t.names := by
  induction t using WrittenType.induction with
  | wildcard before leads after => rw [tight, names, names]
  | plain header => rw [tight, names, names, Header.tight]
  | generic header inner arguments closing ih =>
      rw [names_eq_cons, names_eq_cons, ownName_tight, arguments_tight, List.flatMap_map]
      exact congrArg _ (List.flatMap_congr ih)

theorem simple_tight (t : WrittenType) : t.tight.simple = t.simple := by
  cases t <;> rw [tight] <;> rfl

theorem normalized_tight (t : WrittenType) : t.tight.normalized = t.normalized := by
  cases t with
  | wildcard before leads after => rw [tight]; rfl
  | plain header => rw [tight]; rfl
  | generic header inner arguments closing =>
      have hshort : header.tight.short = header.short := rfl
      have hfirst : (arguments.map tight).head?.map simple = arguments.head?.map simple := by
        cases arguments with
        | nil => rfl
        | cons first others => exact congrArg some first.simple_tight
      rw [tight, tights_eq_map, normalized, normalized, hshort, hfirst]

end WrittenType

theorem Lead.comma_mem_tight (lead : Lead) : ',' ∈ lead.tight.text ↔ ',' ∈ lead.text := by
  have hgap : ∀ b : Blanks, ',' ∉ b.text := fun b ↦ b.notMem (by decide)
  cases lead with
  | marker name after => simp [tight, text, hgap]
  | markerWith name arguments after =>
      have hcomma : isBlank ',' = false := by decide
      simp [tight, text, hgap, MarkerText.tight, mem_solid hcomma]
  | bound inner lower after => simp [tight, text, hgap]

namespace WrittenType

theorem isChain_iff (t : WrittenType) :
    t.IsChain ↔ t.arguments.length ≤ 1 ∧ ∀ a ∈ t.arguments, a.IsChain := by
  constructor
  · intro h
    cases h with
    | wildcard before leads after => simp
    | plain header => simp
    | diamond header inner closing => simp
    | nested header inner closing ht => simpa using ht
  · rintro ⟨hlength, harguments⟩
    match t, hlength, harguments with
    | .wildcard before leads after, _, _ => exact .wildcard before leads after
    | .plain header, _, _ => exact .plain header
    | .generic header inner [] closing, _, _ => exact .diamond header inner closing
    | .generic header inner [a] closing, _, harguments =>
        exact .nested header inner closing (harguments a (by simp))
    | .generic header inner (a :: a' :: others) closing, hlength, _ => simp at hlength

theorem smooth_iff (t : WrittenType) :
    t.Smooth ↔ (∀ lead ∈ t.ownLeads, ',' ∉ lead.text) ∧ ∀ a ∈ t.arguments, a.Smooth :=
  ⟨fun ⟨hleads, harguments⟩ ↦ ⟨hleads, harguments⟩, fun h ↦ .intro h.1 h.2⟩

theorem smooth_tight (t : WrittenType) : t.tight.Smooth ↔ t.Smooth := by
  induction t using WrittenType.induction with
  | wildcard before leads after =>
      rw [smooth_iff, smooth_iff, ownLeads_tight, arguments_tight]
      simp [Lead.comma_mem_tight]
  | plain header =>
      rw [smooth_iff, smooth_iff, ownLeads_tight, arguments_tight]
      simp [Lead.comma_mem_tight]
  | generic header inner arguments closing ih =>
      rw [smooth_iff, smooth_iff, ownLeads_tight, arguments_tight]
      simp only [List.forall_mem_map, Lead.comma_mem_tight]
      exact and_congr_right fun _ ↦ forall₂_congr ih

theorem isChain_tight (t : WrittenType) : t.tight.IsChain ↔ t.IsChain := by
  induction t using WrittenType.induction with
  | wildcard before leads after => exact iff_of_true (.wildcard _ _ _) (.wildcard _ _ _)
  | plain header => exact iff_of_true (.plain _) (.plain _)
  | generic header inner arguments closing ih =>
      rw [isChain_iff, isChain_iff, arguments_tight, List.length_map, List.forall_mem_map]
      exact and_congr_right fun _ ↦ forall₂_congr ih

theorem CommasOutermost.of_tight {t u : WrittenType} (h : t.CommasOutermost)
    (htight : t.tight = u.tight) : u.CommasOutermost := by
  intro a ha
  have hmem : a.tight ∈ t.tight.arguments := by
    rw [htight, arguments_tight]
    exact List.mem_map_of_mem ha
  rw [arguments_tight] at hmem
  obtain ⟨a', ha', heq⟩ := List.mem_map.mp hmem
  rw [← isChain_tight, ← smooth_tight, ← heq, isChain_tight, smooth_tight]
  exact h a' ha'

end WrittenType

/-! ## Characters that are no blanks -/

theorem Lead.solid_tight (lead : Lead) : solid lead.tight.text = solid lead.text := by
  cases lead with
  | marker name after => simp (disch := decide) [tight, text, solid_cons]
  | markerWith name arguments after =>
      simp (disch := decide) [tight, text, solid_cons, MarkerText.tight]
  | bound inner lower after => simp (disch := decide) [tight, text, solid_cons]

theorem solid_leads_tight (leads : List Lead) :
    solid ((leads.map Lead.tight).flatMap Lead.text) = solid (leads.flatMap Lead.text) := by
  induction leads with
  | nil => rfl
  | cons lead leads ih => simp [ih, lead.solid_tight]

theorem Header.solid_tight (h : Header) : solid h.tight.text = solid h.text := by
  simp [Header.text, Header.tight, solid_leads_tight]

theorem Closing.solid_tight (closing : Closing) :
    solid closing.tight.text = solid closing.text := by
  have hdimensions : ∀ ds : List Dimension,
      solid ((ds.map fun _ ↦ (⟨noBlanks, noBlanks⟩ : Dimension)).flatMap Dimension.text) =
        solid (ds.flatMap Dimension.text) := by
    intro ds
    induction ds with
    | nil => rfl
    | cons d ds ih =>
        rw [List.map_cons, List.flatMap_cons, List.flatMap_cons, solid_append, solid_append, ih]
        simp (disch := decide) [Dimension.text, solid_cons]
  rw [Closing.text, Closing.text, solid_append, solid_append, Closing.tight, hdimensions]
  simp

namespace WrittenType

theorem joined_cons_cons (t u : WrittenType) (ts : List WrittenType) :
    [','].intercalate (texts (t :: u :: ts)) =
      t.text ++ ',' :: [','].intercalate (texts (u :: ts)) := by
  simp [texts, List.intercalate_cons_cons]

theorem solid_joined_tight {ts : List WrittenType}
    (h : ∀ t ∈ ts, solid t.tight.text = solid t.text) :
    solid ([','].intercalate (texts (ts.map tight))) = solid ([','].intercalate (texts ts)) := by
  induction ts with
  | nil => rfl
  | cons t ts ih =>
      rw [List.forall_mem_cons] at h
      cases ts with
      | nil => simpa [texts] using h.1
      | cons u ts =>
          have hrest := ih h.2
          rw [List.map_cons] at hrest
          rw [List.map_cons, List.map_cons, joined_cons_cons, joined_cons_cons, solid_append,
            solid_append, h.1, solid_cons (by decide), solid_cons (by decide), hrest]

/-- Writing a type without blanks leaves all other characters in their order. -/
theorem solid_tight (t : WrittenType) : solid t.tight.text = solid t.text := by
  induction t using WrittenType.induction with
  | wildcard before leads after =>
      simp (disch := decide) [tight, text, solid_cons, solid_leads_tight]
  | plain header => exact header.solid_tight
  | generic header inner arguments closing ih =>
      rw [tight, text, text, tights_eq_map]
      simp (disch := decide) [solid_cons, header.solid_tight, solid_joined_tight ih,
        closing.solid_tight]

theorem KeepsName.of_tight {t u : WrittenType} (h : t.KeepsName) (htight : t.tight = u.tight) :
    u.KeepsName := by
  have hcut : solid (beforeFirst ',' u.text) = solid (beforeFirst ',' t.text) := by
    rw [solid_beforeFirst (by decide), solid_beforeFirst (by decide), ← solid_tight, ← htight,
      solid_tight]
  refine ⟨fun lead hlead hcomma ↦ ?_, ?_⟩
  · have hmem : lead.tight ∈ t.ownLeads.map Lead.tight := by
      rw [← ownLeads_tight, htight, ownLeads_tight]
      exact List.mem_map_of_mem hlead
    obtain ⟨lead', hlead', heq⟩ := List.mem_map.mp hmem
    refine h.leads lead' hlead' ?_
    rw [← Lead.comma_mem_tight, heq, Lead.comma_mem_tight]
    exact hcomma
  · have hclosed := h.closed
    rw [← mem_solid (c := '<') (by decide), ← mem_solid (c := '>') (by decide)] at hclosed ⊢
    rw [hcut]
    exact hclosed

theorem FirstKept.of_tight {t u : WrittenType} (h : t.FirstKept) (htight : t.tight = u.tight) :
    u.FirstKept := by
  cases u with
  | wildcard before leads after => trivial
  | plain header => trivial
  | generic header inner arguments closing =>
      cases t with
      | wildcard before leads after => simp [tight] at htight
      | plain header' => simp [tight] at htight
      | generic header' inner' arguments' closing' =>
          rw [tight, tight, tights_eq_map, tights_eq_map, generic.injEq] at htight
          obtain ⟨hheader, -, harguments, -⟩ := htight
          have hshort : header'.short = header.short := by
            have htights := congrArg Header.short hheader
            exact htights
          intro hcollection first hfirst
          have hhead : first.tight ∈ (arguments'.map tight).head? := by
            rw [harguments, List.head?_map, hfirst]
            rfl
          rw [List.head?_map] at hhead
          obtain ⟨first', hfirst', heq⟩ := Option.map_eq_some_iff.mp hhead
          exact (h (hshort ▸ hcollection) first' hfirst').of_tight heq

end WrittenType

/-! ## Squeezed types -/

def Gap.squeezed (g : Gap) : Gap :=
  ⟨g.toBlanks.squeezed, by simp [Blanks.squeezed, g.ne_nil]⟩

def MarkerText.squeezed (arguments : MarkerText) : MarkerText where
  text := squeeze arguments.text
  closing_notMem := by
    rw [mem_squeeze_of_solid (by decide)]
    exact arguments.closing_notMem
  bracket_notMem := by
    rw [mem_squeeze_of_solid (by decide), mem_squeeze_of_solid (by decide)]
    exact arguments.bracket_notMem

def Lead.squeezed : Lead → Lead
  | .marker name after => .marker name after.squeezed
  | .markerWith name arguments after => .markerWith name arguments.squeezed after.squeezed
  | .bound inner lower after => .bound inner.squeezed lower after.squeezed

theorem Lead.tight_squeezed (lead : Lead) : lead.squeezed.tight = lead.tight := by
  cases lead with
  | marker name after => rfl
  | markerWith name arguments after =>
      have harguments : arguments.squeezed.tight = arguments.tight := by
        simp [MarkerText.tight, MarkerText.squeezed, solid_squeeze]
      rw [squeezed, tight, tight, harguments]
  | bound inner lower after => rfl

theorem MarkerName.solid (name : MarkerName) : ∀ c ∈ name.text, isBlank c = false := by
  intro c hc
  by_contra hblank
  rw [Bool.not_eq_false] at hblank
  have hname := name.inName c hc
  have hdot : c ≠ '.' := by
    rintro rfl
    revert hblank
    decide
  simp [isWordChar_of_isBlank hblank, hdot] at hname

section Squeeze

variable {rest : List Char}

theorem squeeze_blanks_append (b : Blanks) (h : ∀ c ∈ rest.head?, isBlank c = false) :
    squeeze (b.text ++ rest) = b.squeezed.text ++ squeeze rest := by
  rw [squeeze_append_of_head? h, b.squeeze_text]

theorem squeeze_lead_append (lead : Lead) (h : ∀ c ∈ rest.head?, isBlank c = false) :
    squeeze (lead.text ++ rest) = lead.squeezed.text ++ squeeze rest := by
  cases lead with
  | marker name after =>
      have hafter := squeeze_blanks_append after.toBlanks h
      simp only [Lead.text, Lead.squeezed, List.cons_append, List.append_assoc]
      rw [squeeze_cons_of_solid (by decide), squeeze_solid_append name.solid, hafter]
      rfl
  | markerWith name arguments after =>
      have hafter := squeeze_blanks_append after h
      simp only [Lead.text, Lead.squeezed, List.cons_append, List.append_assoc]
      rw [squeeze_cons_of_solid (by decide), squeeze_solid_append name.solid,
        squeeze_cons_of_solid (by decide), squeeze_append_cons (by decide), hafter]
      rfl
  | bound inner lower after =>
      have hall : (boundWord lower).all (!isBlank ·) = true := by
        cases lower <;> decide
      have hword : ∀ c ∈ boundWord lower, isBlank c = false := by
        intro c hc
        simpa using List.all_eq_true.mp hall c hc
      have hfirst : ∀ more, ∀ c ∈ (boundWord lower ++ more).head?, isBlank c = false := by
        intro more c hc
        cases lower <;> obtain rfl := Option.some.inj hc <;> decide
      have hinner := squeeze_blanks_append inner.toBlanks (hfirst (after.text ++ rest))
      have hafter := squeeze_blanks_append after.toBlanks h
      simp only [Lead.text, Lead.squeezed, List.cons_append, List.append_assoc]
      rw [squeeze_cons_of_solid (by decide), hinner, squeeze_solid_append hword, hafter]
      rfl

theorem squeeze_leads_append (leads : List Lead) (h : ∀ c ∈ rest.head?, isBlank c = false) :
    squeeze (leads.flatMap Lead.text ++ rest) =
      (leads.map Lead.squeezed).flatMap Lead.text ++ squeeze rest := by
  induction leads with
  | nil => rfl
  | cons lead leads ih =>
      rw [List.flatMap_cons, List.append_assoc,
        squeeze_lead_append lead (head?_leads_append leads h),
        ih, List.map_cons, List.flatMap_cons, List.append_assoc]

theorem squeeze_qualified_append (qualifier : List Word) (name : Word) (rest : List Char) :
    squeeze (qualified qualifier name ++ rest) = qualified qualifier name ++ squeeze rest := by
  apply squeeze_solid_append
  intro c hc
  by_contra hblank
  rw [Bool.not_eq_false] at hblank
  refine notMem_qualified qualifier name ?_ ?_ hc
  · by_contra hname
    rw [isBlank_of_isNameChar (Bool.not_eq_false _ ▸ hname)] at hblank
    cases hblank
  · rintro rfl
    revert hblank
    decide

/-- A name with one space for every run of blanks, those in front of it included. -/
def Header.squeezed (b : Blanks) (h : Header) : Header :=
  { h with
    before := (b.append h.before).squeezed
    leads := h.leads.map Lead.squeezed
    after := h.after.squeezed }

theorem Header.squeeze_text_append (b : Blanks) (h : Header)
    (hrest : ∀ c ∈ rest.head?, isBlank c = false) :
    squeeze (b.text ++ (h.text ++ rest)) = (h.squeezed b).text ++ squeeze rest := by
  have hname : ∀ more, ∀ c ∈ (qualified h.qualifier h.name ++ more).head?, isBlank c = false := by
    intro more c hc
    obtain ⟨d, ds, hds, hd⟩ := exists_qualified_eq_cons h.qualifier h.name
    rw [hds] at hc
    obtain rfl := Option.some.inj hc
    exact isBlank_of_isNameChar hd
  have hafter := squeeze_blanks_append h.after hrest
  have hleads := squeeze_leads_append h.leads (hname (h.after.text ++ rest))
  have hbefore := squeeze_blanks_append (b.append h.before)
    (head?_leads_append h.leads (hname (h.after.text ++ rest)))
  rw [hleads, squeeze_qualified_append, hafter] at hbefore
  simpa [Header.text, Header.squeezed, Blanks.append] using hbefore

theorem Header.tight_squeezed (b : Blanks) (h : Header) : (h.squeezed b).tight = h.tight := by
  simp [Header.tight, Header.squeezed, Lead.tight_squeezed]

def Dimension.squeezed (d : Dimension) : Dimension where
  inner := d.inner.squeezed
  after := d.after.squeezed

def Closing.squeezed (closing : Closing) : Closing where
  before := closing.before.squeezed
  dimensions := closing.dimensions.map Dimension.squeezed

theorem squeeze_dimensions (ds : List Dimension) :
    squeeze (ds.flatMap Dimension.text) =
      (ds.map Dimension.squeezed).flatMap Dimension.text := by
  induction ds with
  | nil => rfl
  | cons d ds ih =>
      have hfirst : ∀ c ∈ (ds.flatMap Dimension.text).head?, isBlank c = false := by
        cases ds with
        | nil => simp
        | cons e ds =>
            rintro _ ⟨⟩
            decide
      rw [List.flatMap_cons, List.map_cons, List.flatMap_cons, ← ih, Dimension.text,
        Dimension.text, List.cons_append, squeeze_cons_of_solid (by decide), List.append_assoc,
        List.cons_append, squeeze_append_cons (by decide), d.inner.squeeze_text,
        squeeze_blanks_append _ hfirst, List.cons_append, List.append_assoc]
      rfl

theorem Closing.squeeze_text (closing : Closing) :
    squeeze closing.text = closing.squeezed.text := by
  have hfirst : ∀ c ∈ (closing.dimensions.flatMap Dimension.text).head?, isBlank c = false := by
    cases closing.dimensions with
    | nil => simp
    | cons d ds =>
        rintro _ ⟨⟩
        decide
  rw [Closing.text, squeeze_blanks_append _ hfirst, squeeze_dimensions]
  rfl

theorem Closing.tight_squeezed (closing : Closing) : closing.squeezed.tight = closing.tight := by
  rw [Closing.tight, Closing.tight, Closing.squeezed, List.map_map]
  rfl

end Squeeze

namespace WrittenType

/-- Squeezed, the text is still one of the type, whatever blanks stand in front of it. -/
def SqueezesWell (t : WrittenType) : Prop :=
  ∀ b : Blanks, ∃ u : WrittenType, squeeze (b.text ++ t.text) = u.text ∧ u.tight = t.tight

theorem exists_squeezed_list {first : WrittenType} {others : List WrittenType}
    (h : ∀ t ∈ first :: others, t.SqueezesWell) (b : Blanks) :
    ∃ us : List WrittenType,
      squeeze (b.text ++ [','].intercalate (texts (first :: others))) =
        [','].intercalate (texts us) ∧ us.map tight = (first :: others).map tight := by
  induction others generalizing first b with
  | nil =>
      obtain ⟨u, hu, htight⟩ := h first (by simp) b
      refine ⟨[u], ?_, by simp [htight]⟩
      simpa [texts] using hu
  | cons next others ih =>
      rw [List.forall_mem_cons] at h
      obtain ⟨u, hu, htight⟩ := h.1 b
      obtain ⟨us, hus, htights⟩ := ih h.2 {}
      have hne : us ≠ [] := by
        rintro rfl
        simp at htights
      obtain ⟨v, vs, rfl⟩ := List.exists_cons_of_ne_nil hne
      refine ⟨u :: v :: vs, ?_, by rw [List.map_cons, htight, htights]; rfl⟩
      rw [List.nil_append] at hus
      rw [joined_cons_cons, ← List.append_assoc, squeeze_append_cons (by decide), hu, hus,
        joined_cons_cons]

theorem squeezesWell (t : WrittenType) : t.SqueezesWell := by
  induction t using WrittenType.induction with
  | wildcard before leads after =>
      intro b
      have hfirst : ∀ c ∈ ('?' :: after.text).head?, isBlank c = false := by
        rintro _ ⟨⟩
        decide
      have hbefore := squeeze_blanks_append (b.append before) (head?_leads_append leads hfirst)
      rw [squeeze_leads_append leads hfirst, squeeze_cons_of_solid (by decide),
        after.squeeze_text] at hbefore
      refine ⟨.wildcard (b.append before).squeezed (leads.map Lead.squeezed) after.squeezed, ?_, ?_⟩
      · simpa [text, Blanks.append] using hbefore
      · simp [tight, Lead.tight_squeezed]
  | plain header =>
      intro b
      have hend : ∀ c ∈ ([] : List Char).head?, isBlank c = false := by simp
      have htext := header.squeeze_text_append b hend
      refine ⟨.plain (header.squeezed b), ?_, ?_⟩
      · rw [List.append_nil, squeeze, List.append_nil] at htext
        exact htext
      · rw [tight, tight, header.tight_squeezed]
  | generic header inner arguments closing ih =>
      intro b
      have hfirst : ∀ more, ∀ c ∈ ('<' :: more).head?, isBlank c = false := by
        rintro more _ ⟨⟩
        decide
      have hlayer : squeeze (b.text ++ (generic header inner arguments closing).text) =
          (header.squeezed b).text ++
            '<' :: (squeeze (inner.text ++ [','].intercalate (texts arguments)) ++
              '>' :: closing.squeezed.text) := by
        rw [text, header.squeeze_text_append b (hfirst _), squeeze_cons_of_solid (by decide),
          squeeze_append_cons (by decide), closing.squeeze_text]
      cases arguments with
      | nil =>
          refine ⟨.generic (header.squeezed b) inner.squeezed [] closing.squeezed, ?_, ?_⟩
          · rw [hlayer, texts, List.intercalate_nil, List.append_nil, inner.squeeze_text, text,
              texts, List.intercalate_nil, List.append_nil]
          · rw [tight, tight, header.tight_squeezed, closing.tight_squeezed]
      | cons first others =>
          -- the blanks before the first argument merge with those inside the bracket
          obtain ⟨us, hus, htights⟩ := exists_squeezed_list ih inner
          refine ⟨.generic (header.squeezed b) {} us closing.squeezed, ?_, ?_⟩
          · rw [hlayer, hus, text]
            rfl
          · rw [tight, tight, header.tight_squeezed, closing.tight_squeezed, tights_eq_map, htights,
              tights_eq_map]

/-- Collapsed, the text of a type is still a text of it, but for blanks around it. -/
theorem exists_collapsed (t : WrittenType) :
    ∃ u : WrittenType, collapse t.text = trim u.text ∧ u.tight = t.tight := by
  obtain ⟨u, hu, htight⟩ := t.squeezesWell {}
  refine ⟨u, ?_, htight⟩
  rw [collapse_eq_trim_squeeze, ← hu]
  rfl

theorem className_collapse (t : WrittenType) : className (collapse t.text) = t.ownName := by
  obtain ⟨u, hu, htight⟩ := t.exists_collapsed
  rw [hu, className_trim u.trim_text_ne_nil, className_text, ← ownName_tight, htight,
    ownName_tight]

theorem keepsName_of_comma_notMem {t : WrittenType} (hleads : ∀ lead ∈ t.ownLeads, ',' ∉ lead.text)
    (hcomma : ',' ∉ t.text) : t.KeepsName := by
  refine ⟨hleads, ?_⟩
  rw [beforeFirst_of_notMem hcomma]
  intro hopen
  cases t with
  | wildcard before leads after =>
      exact absurd hopen (bracket_notMem_wildcard before leads after (by simp))
  | plain header => exact absurd hopen (header.bracket_notMem (by simp))
  | generic header inner arguments closing => simp [text]

theorem CommasOutermost.firstKept {t : WrittenType} (h : t.CommasOutermost) : t.FirstKept := by
  cases t with
  | wildcard before leads after => trivial
  | plain header => trivial
  | generic header inner arguments closing =>
      intro _ first hfirst
      obtain ⟨hchain, hsmooth⟩ := h first (List.mem_of_mem_head? hfirst)
      exact keepsName_of_comma_notMem ((smooth_iff first).mp hsmooth).1
        (comma_notMem_text hchain hsmooth)

theorem normalForm_collapse {t : WrittenType} (h : t.FirstKept) :
    normalForm (collapse t.text) = t.normalized.text := by
  obtain ⟨u, hu, htight⟩ := t.exists_collapsed
  rw [hu, normalForm_trim u.trim_text_ne_nil, normalForm_text (h.of_tight htight.symm),
    ← normalized_tight, htight, normalized_tight]

end WrittenType

end TypeExpr

open Text TypeExpr TypeExpr.WrittenType

theorem Shape.collectNames_collapse {suffixes : List String} {t : WrittenType}
    (h : t.CommasOutermost) (found : List String) :
    collectNames suffixes (collapse t.text) found = gather suffixes found t.names := by
  obtain ⟨u, hu, htight⟩ := t.exists_collapsed
  have houter := h.of_tight htight.symm
  have hcomma : ∀ a ∈ u.arguments, ',' ∉ a.text := fun a ha ↦
    comma_notMem_text (houter a ha).1 (houter a ha).2
  have hnames : ∀ a ∈ u.arguments, ∀ found,
      collectNames suffixes a.text found = gather suffixes found a.names := fun a ha ↦
    collectNames_of_isChain (houter a ha).1 (houter a ha).2
  rw [hu, collectNames_trim u.trim_text_ne_nil, collectNames_text hcomma hnames, ← names_tight,
    htight, names_tight]

namespace TypeExpr.WrittenType

/-- A blank after the last dot of a name stays in front of what is read as the name. -/
theorem className_of_blank_after_dot (qualifier : List Word) (w name : Word) (g : Gap) :
    className (collapse (qualified qualifier w ++ '.' :: (g.text ++ name.text))) =
      ' ' :: name.text := by
  have hspace : g.toBlanks.squeezed.text = [' '] := if_neg g.ne_nil
  have hsolid : ∀ c ∈ name.text, isBlank c = false := fun c hc ↦
    isBlank_of_isNameChar (name.nameChars c hc)
  have hname : ∀ c ∈ name.text.head?, isBlank c = false := fun c hc ↦
    hsolid c (List.mem_of_mem_head? hc)
  obtain ⟨c, cs, hcs, hc⟩ := exists_qualified_eq_cons qualifier w
  generalize htext : qualified qualifier w ++ '.' :: ' ' :: name.text = text
  have hsqueeze : squeeze (qualified qualifier w ++ '.' :: (g.text ++ name.text)) = text := by
    rw [squeeze_qualified_append, squeeze_cons_of_solid (by decide),
      squeeze_blanks_append g.toBlanks hname, hspace, squeeze_of_solid hsolid]
    exact htext
  have hfirst : text = c :: (cs ++ '.' :: ' ' :: name.text) := by
    rw [← htext, hcs, List.cons_append]
  have htrim : trim text = text := by
    apply trim_of_solid
    · rw [hfirst]
      rintro _ ⟨⟩
      exact isBlank_of_isNameChar hc
    · have hlast := isBlank_getLast?_qualified [] name (qualified qualifier w ++ ['.', ' '])
      simpa [← htext, qualified] using hlast
  have hplain : isGeneric text = false := by
    apply isGeneric_of_notMem
    rw [← htext]
    have hopen : isNameChar '<' = false := by decide
    simp [notMem_qualified qualifier w hopen (by decide), name.notMem hopen]
  have hstop : afterLead? (trim text) = none := by
    rw [htrim, hfirst]
    exact afterLead?_of_ne (ne_of_isNameChar hc (by decide)) (ne_of_isNameChar hc (by decide)) _
  have hdot : '.' ∉ ' ' :: name.text := by
    simp [name.notMem (by decide : isNameChar '.' = false)]
  rw [collapse_eq_trim_squeeze, hsqueeze, htrim,
    className_of_afterLead?_eq_none (by simp [hfirst]) hplain hstop, htrim, ← htext]
  exact afterLast_append_cons hdot _

/-- Two layouts of a type are read with the same name when their blanks are collapsed; they have
the same normal form when the first argument of a collection keeps its name, and the same payload
names when only the outermost list of arguments holds commas. -/
theorem layouts_read_alike (t u : WrittenType) (h : t.tight = u.tight) :
    className (collapse t.text) = className (collapse u.text) ∧
      (t.FirstKept → normalForm (collapse t.text) = normalForm (collapse u.text)) ∧
      (t.CommasOutermost → t.FirstKept ∧
        ∀ suffixes, Shape.mentionedNames suffixes (String.ofList (collapse t.text)) =
          Shape.mentionedNames suffixes (String.ofList (collapse u.text))) := by
  refine ⟨?_, fun hkept ↦ ?_, fun houter ↦ ⟨houter.firstKept, fun suffixes ↦ ?_⟩⟩
  · rw [className_collapse, className_collapse, ← ownName_tight, h, ownName_tight]
  · rw [normalForm_collapse hkept, normalForm_collapse (hkept.of_tight h), ← normalized_tight, h,
      normalized_tight]
  · rw [Shape.mentionedNames, Shape.mentionedNames, String.toList_ofList, String.toList_ofList,
      Shape.collectNames_collapse houter, Shape.collectNames_collapse (houter.of_tight h),
      ← names_tight, h, names_tight]

/-- The second layout has blanks around brackets, a line break, and none after the annotation. -/
theorem layouts_read_alike_of_broken_line :
    let max (arguments : MarkerText) (after : Blanks) : Lead :=
      .markerWith { text := "Size".toList } arguments after
    let user (leads : List Lead) (around : Blanks) : WrittenType :=
      .plain { before := around, leads := leads, qualifier := [{ text := "acme".toList }],
               name := { text := "UserDto".toList }, after := around }
    let space : Blanks := { text := [' '] }
    let broken : Blanks := { text := "\n    ".toList }
    let t : WrittenType :=
      .generic { name := { text := "Map".toList } } {}
        [.plain { name := { text := "String".toList } },
          .generic { before := space, name := { text := "List".toList } } {}
            [user [max { text := "max = 3".toList } space] {}] {}] {}
    let u : WrittenType :=
      .generic { name := { text := "Map".toList } } broken
        [.plain { name := { text := "String".toList }, after := space },
          .generic { before := broken, name := { text := "List".toList } } {}
            [user [max { text := "max=3".toList } {}] space] { before := broken }] {}
    String.ofList t.text = "Map<String, List<@Size(max = 3) acme.UserDto>>" ∧
      String.ofList u.text =
        "Map<\n    String ,\n    List< @Size(max=3)acme.UserDto >\n    >" ∧
      t.tight = u.tight ∧ t.CommasOutermost ∧
      className (collapse t.text) = className (collapse u.text) ∧
      normalForm (collapse t.text) = normalForm (collapse u.text) ∧
      Shape.mentionedNames Shape.defaultSuffixes (String.ofList (collapse t.text)) =
        Shape.mentionedNames Shape.defaultSuffixes (String.ofList (collapse u.text)) := by
  intro max user space broken t u
  have htight : t.tight = u.tight := rfl
  have houter : t.CommasOutermost := by
    simp only [CommasOutermost, t, arguments_generic, List.mem_cons, List.not_mem_nil, or_false,
      forall_eq_or_imp, forall_eq]
    refine ⟨⟨.plain _, .intro (by simp) (by simp)⟩, .nested _ _ _ (.plain _), .intro (by simp) ?_⟩
    simp only [arguments_generic, List.mem_singleton, forall_eq]
    exact .intro (by decide) (by simp [user])
  obtain ⟨hname, hform, hnames⟩ := layouts_read_alike t u htight
  exact ⟨by decide, by decide, htight, houter, hname, hform (hnames houter).1,
    (hnames houter).2 _⟩

end TypeExpr.WrittenType

end ApiSurvey
