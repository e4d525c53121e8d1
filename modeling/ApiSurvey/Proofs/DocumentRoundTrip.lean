import ApiSurvey.Catalog.Document
import ApiSurvey.Marker.Basic
import ApiSurvey.Proofs.DocumentText
import Mathlib.Data.List.Nodup

/-!
# Documents lose nothing

A catalog is written as a document, and the document is read back as the catalog. Main statement:
this holds for every catalog whose annotations give no name twice, for every indent. The tokens of
the text are put together as the value that was written, and decoding that value gives each record
back field by field.
-/

namespace ApiSurvey

namespace Json

/-- No object in the value gives a name twice. -/
inductive WellKeyed : Json → Prop where
  | null : WellKeyed .null
  | bool (b : Bool) : WellKeyed (.bool b)
  | number (n : Int) : WellKeyed (.number n)
  | string (s : String) : WellKeyed (.string s)
  | array {items : List Json} (inner : ∀ item ∈ items, WellKeyed item) : WellKeyed (.array items)
  | object {fields : List (String × Json)} (distinct : (fields.map (·.1)).Nodup)
      (inner : ∀ field ∈ fields, WellKeyed field.2) : WellKeyed (.object fields)

/-! ## Putting the tokens of a value together -/

/-- Whether the tokens of a value are put together as the value, wherever it stands. -/
def Assembled (j : Json) : Prop :=
  ∀ frames, (tokensOf j).foldlM advance (.value frames) = some (.done frames j)

theorem foldlM_append_of_some {xs : List Token} {p mid : Progress}
    (h : xs.foldlM advance p = some mid) (ys : List Token) :
    (xs ++ ys).foldlM advance p = ys.foldlM advance mid := by
  rw [List.foldlM_append, h]
  rfl

theorem foldlM_cons_of_some {token : Token} {p mid : Progress} (h : advance p token = some mid)
    (ts : List Token) : (token :: ts).foldlM advance p = ts.foldlM advance mid := by
  rw [List.foldlM_cons, h]
  rfl

/-- The first token of a value does not close the array that the value is in. -/
theorem exists_tokensOf_eq_cons (j : Json) :
    ∃ token ts, tokensOf j = token :: ts ∧
      ∀ frames, advance (.firstItem frames) token =
        advance (.value (.array [] :: frames)) token := by
  unfold tokensOf
  split <;> exact ⟨_, _, rfl, fun _ ↦ rfl⟩

theorem foldlM_firstItem {j : Json} (hj : Assembled j) (frames : List Frame) :
    (tokensOf j).foldlM advance (.firstItem frames) = some (.done (.array [] :: frames) j) := by
  obtain ⟨token, ts, htokens, hstep⟩ := exists_tokensOf_eq_cons j
  rw [← hj, htokens, List.foldlM_cons, List.foldlM_cons, hstep]

theorem foldlM_tokensOfItems {more : List Json} (hmore : ∀ item ∈ more, Assembled item)
    (items : List Json) (frames : List Frame) (j : Json) :
    (tokensOfItems more ++ [Token.closeArray]).foldlM advance (.done (.array items :: frames) j) =
      some (.done frames (.array (items ++ j :: more))) := by
  induction more generalizing items j with
  | nil => rfl
  | cons item more ih =>
      have hitem := hmore item (List.mem_cons_self ..)
      have hothers := ih fun item h ↦ hmore item (List.mem_cons_of_mem _ h)
      rw [tokensOfItems, List.append_assoc, List.cons_append, foldlM_cons_of_some rfl,
        foldlM_append_of_some (hitem _), hothers, List.append_assoc, List.singleton_append]

theorem putField_of_nodup {fields more : List (String × Json)} {name : String} {j : Json}
    (hdistinct : ((fields ++ (name, j) :: more).map (·.1)).Nodup) :
    putField fields name j = fields ++ [(name, j)] := by
  have hnew : name ∉ fields.map (·.1) := by
    intro hmem
    rw [List.map_append, List.nodup_append] at hdistinct
    exact hdistinct.2.2 name hmem name (by simp) rfl
  rw [putField, if_neg hnew]

theorem foldlM_tokensOfFields {more : List (String × Json)}
    (hmore : ∀ field ∈ more, Assembled field.2) {fields : List (String × Json)} {name : String}
    {j : Json} (hdistinct : ((fields ++ (name, j) :: more).map (·.1)).Nodup)
    (frames : List Frame) :
    (tokensOfFields more ++ [Token.closeObject]).foldlM advance
        (.done (.object fields name :: frames) j) =
      some (.done frames (.object (fields ++ (name, j) :: more))) := by
  have hput := putField_of_nodup hdistinct
  -- The name before the field that is read moves to the fields of the frame.
  induction more generalizing fields name j with
  | nil =>
      rw [tokensOfFields, List.nil_append, foldlM_cons_of_some rfl, hput]
      rfl
  | cons field more ih =>
      obtain ⟨next, value⟩ := field
      have hvalue := hmore (next, value) (List.mem_cons_self ..)
      have hsplit : fields ++ (name, j) :: (next, value) :: more =
          (fields ++ [(name, j)]) ++ (next, value) :: more := by
        rw [List.append_assoc, List.singleton_append]
      rw [hsplit] at hdistinct ⊢
      rw [tokensOfFields, List.append_assoc, List.cons_append, List.cons_append, List.cons_append,
        foldlM_cons_of_some rfl, foldlM_cons_of_some rfl, foldlM_cons_of_some rfl,
        foldlM_append_of_some (hvalue _), hput]
      exact ih (fun field h ↦ hmore field (List.mem_cons_of_mem _ h)) hdistinct
        (putField_of_nodup hdistinct)

theorem assembled_array {items : List Json} (hitems : ∀ item ∈ items, Assembled item) :
    Assembled (.array items) := by
  intro frames
  cases items with
  | nil => rfl
  | cons item items =>
      have hitem := hitems item (List.mem_cons_self ..)
      have hothers := fun item h ↦ hitems item (List.mem_cons_of_mem _ h)
      rw [tokensOf, List.append_assoc, List.cons_append, foldlM_cons_of_some rfl,
        foldlM_append_of_some (foldlM_firstItem hitem frames), foldlM_tokensOfItems hothers,
        List.nil_append]

theorem assembled_object {fields : List (String × Json)} (hdistinct : (fields.map (·.1)).Nodup)
    (hfields : ∀ field ∈ fields, Assembled field.2) : Assembled (.object fields) := by
  intro frames
  cases fields with
  | nil => rfl
  | cons field fields =>
      obtain ⟨name, value⟩ := field
      have hvalue := hfields (name, value) (List.mem_cons_self ..)
      have hothers := fun field h ↦ hfields field (List.mem_cons_of_mem _ h)
      rw [tokensOf, List.append_assoc, List.cons_append, List.cons_append, List.cons_append,
        foldlM_cons_of_some rfl, foldlM_cons_of_some rfl, foldlM_cons_of_some rfl,
        foldlM_append_of_some (hvalue _), foldlM_tokensOfFields hothers hdistinct,
        List.nil_append]

/-- The tokens of a value are put together as the value. -/
theorem WellKeyed.assembled {j : Json} (h : j.WellKeyed) : Assembled j := by
  induction h with
  | null => intro frames; rfl
  | bool b => intro frames; rfl
  | number n => intro frames; rfl
  | string s => intro frames; rfl
  | array inner ih => exact assembled_array ih
  | object distinct inner ih => exact assembled_object distinct ih

/-- What is written for a value is read as that value. -/
theorem read_render (indent : Nat) {j : Json} (h : j.WellKeyed) :
    read (render indent j) = some j := by
  rw [read, tokens_render, Option.bind_some, ofTokens, h.assembled, Option.bind_some]
  rfl

end Json

/-! ## Decoding what was encoded -/

namespace Decoder

variable {α β : Type}

@[simp] theorem ok_bind (a : α) (next : α → Except DecodeError β) :
    (Except.ok a >>= next) = next a := rfl

@[simp] theorem string_string (s : String) : string (.string s) = .ok s := rfl

@[simp] theorem bool_bool (b : Bool) : bool (.bool b) = .ok b := rfl

@[simp] theorem int_number (n : Int) : int (.number n) = .ok n := rfl

@[simp] theorem entries_object (fields : List (String × Json)) :
    entries (.object fields) = .ok fields := rfl

/-- A list is decoded if each item is. -/
theorem list_array_map {d : Decoder α} {encode : α → Json} (h : ∀ a, d (encode a) = .ok a)
    (xs : List α) : list d (.array (xs.map encode)) = .ok xs := by
  rw [list]
  induction xs with
  | nil => rfl
  | cons a xs ih =>
      rw [List.map_cons, List.mapM_cons, h, ih]
      rfl

@[simp] theorem list_strings (xs : List String) : list string (Json.strings xs) = .ok xs :=
  list_array_map string_string xs

@[simp] theorem choice_location (l : Location) :
    choice "location" Location.ofString? (.string l.toString) = .ok l := by
  cases l <;> rfl

@[simp] theorem choice_verb (v : Verb) :
    choice "verb" Verb.ofString? (.string v.toString) = .ok v := by
  cases v <;> rfl

end Decoder

open Decoder

theorem Parameter.ofJson_toJson (p : Parameter) : ofJson p.toJson = .ok p := by
  simp [ofJson, toJson, need, withDefault, lookup?, List.lookup_cons]

theorem Handler.ofJson_toJson (h : Handler) : ofJson h.toJson = .ok h := by
  simp [ofJson, toJson, need, withDefault, lookup?, List.lookup_cons,
    list_array_map Parameter.ofJson_toJson]

theorem RouteGroup.ofJson_toJson (g : RouteGroup) : ofJson g.toJson = .ok g := by
  simp [ofJson, toJson, need, withDefault, lookup?, List.lookup_cons,
    list_array_map Handler.ofJson_toJson]

theorem ShapeField.ofJson_toJson (f : ShapeField) : ofJson f.toJson = .ok f := by
  simp [ofJson, toJson, need, withDefault, lookup?, List.lookup_cons]

theorem DataShape.ofJson_toJson (s : DataShape) : ofJson s.toJson = .ok s := by
  simp [ofJson, toJson, need, withDefault, lookup?, List.lookup_cons,
    list_array_map ShapeField.ofJson_toJson]

theorem Catalog.ofJson_toJson (c : Catalog) : ofJson c.toJson = .ok c := by
  simp [ofJson, toJson, withDefault, lookup?, List.lookup_cons,
    list_array_map RouteGroup.ofJson_toJson, list_array_map DataShape.ofJson_toJson]

/-! ## Distinct names -/

namespace Json

@[simp] theorem wellKeyed_bool (b : Bool) : (bool b).WellKeyed := .bool b

@[simp] theorem wellKeyed_number (n : Int) : (number n).WellKeyed := .number n

@[simp] theorem wellKeyed_string (s : String) : (string s).WellKeyed := .string s

theorem wellKeyed_array_map {α : Type} {encode : α → Json} {xs : List α}
    (h : ∀ a ∈ xs, (encode a).WellKeyed) : (array (xs.map encode)).WellKeyed :=
  .array (List.forall_mem_map.mpr h)

@[simp] theorem wellKeyed_strings (xs : List String) : (strings xs).WellKeyed :=
  wellKeyed_array_map fun s _ ↦ .string s

end Json

/-- No annotations of a catalog give a name twice, at whatever depth. -/
structure Catalog.WellKeyed (c : Catalog) : Prop where
  controllers : ∀ g ∈ c.controllers, (Json.object g.annotations).WellKeyed
  handlers : ∀ g ∈ c.controllers, ∀ h ∈ g.handlers, (Json.object h.annotations).WellKeyed
  shapes : ∀ s ∈ c.shapes, (Json.object s.annotations).WellKeyed

theorem Parameter.wellKeyed_toJson (p : Parameter) : p.toJson.WellKeyed := by
  refine .object (by simp) ?_
  simp

theorem Handler.wellKeyed_toJson {h : Handler} (hown : (Json.object h.annotations).WellKeyed) :
    h.toJson.WellKeyed := by
  have hparameters : (Json.array (h.parameters.map Parameter.toJson)).WellKeyed :=
    Json.wellKeyed_array_map fun p _ ↦ p.wellKeyed_toJson
  refine .object (by simp) ?_
  simp [hparameters, hown]

theorem RouteGroup.wellKeyed_toJson {g : RouteGroup}
    (hown : (Json.object g.annotations).WellKeyed)
    (hinner : ∀ h ∈ g.handlers, (Json.object h.annotations).WellKeyed) : g.toJson.WellKeyed := by
  have hhandlers : (Json.array (g.handlers.map Handler.toJson)).WellKeyed :=
    Json.wellKeyed_array_map fun h hmem ↦ Handler.wellKeyed_toJson (hinner h hmem)
  refine .object (by simp) ?_
  simp [hhandlers, hown]

theorem ShapeField.wellKeyed_toJson (f : ShapeField) : f.toJson.WellKeyed := by
  refine .object (by simp) ?_
  simp

theorem DataShape.wellKeyed_toJson {s : DataShape}
    (hown : (Json.object s.annotations).WellKeyed) : s.toJson.WellKeyed := by
  have hfields : (Json.array (s.fields.map ShapeField.toJson)).WellKeyed :=
    Json.wellKeyed_array_map fun f _ ↦ f.wellKeyed_toJson
  refine .object (by simp) ?_
  simp [hfields, hown]

theorem Catalog.wellKeyed_toJson {c : Catalog} (h : c.WellKeyed) : c.toJson.WellKeyed := by
  have hcontrollers : (Json.array (c.controllers.map RouteGroup.toJson)).WellKeyed :=
    Json.wellKeyed_array_map fun g hg ↦
      RouteGroup.wellKeyed_toJson (h.controllers g hg) (h.handlers g hg)
  have hshapes : (Json.array (c.shapes.map DataShape.toJson)).WellKeyed :=
    Json.wellKeyed_array_map fun s hs ↦ DataShape.wellKeyed_toJson (h.shapes s hs)
  refine .object (by simp) ?_
  simp [hcontrollers, hshapes]

/-! ### Annotations made from markers -/

namespace Argument

mutual

theorem wellKeyed_toJson (a : Argument) : a.toJson.WellKeyed := by
  obtain ⟨text, literal, items, isArray⟩ := a
  rw [toJson]
  split
  · exact .array (wellKeyed_of_mem_toJsonList items)
  · exact .string _

theorem wellKeyed_of_mem_toJsonList (items : List Argument) :
    ∀ j ∈ toJsonList items, j.WellKeyed := by
  match items with
  | [] => simp [toJsonList]
  | item :: items =>
      intro j hj
      rw [toJsonList, List.mem_cons] at hj
      rcases hj with rfl | hj
      · exact wellKeyed_toJson item
      · exact wellKeyed_of_mem_toJsonList items j hj

end

end Argument

namespace Marker

theorem wellKeyed_metadata {m : Marker} (h : (m.arguments.map (·.1)).Nodup) :
    (Json.object m.metadata).WellKeyed := by
  refine .object ?_ ?_
  · rw [metadata, List.map_map]
    exact h
  · rw [metadata, List.forall_mem_map]
    intro argument _
    exact argument.2.wellKeyed_toJson

theorem wellKeyed_addUnrecognized {m : Marker} (hm : (m.arguments.map (·.1)).Nodup)
    {entries : List (String × Json)} (h : (Json.object entries).WellKeyed) :
    (Json.object (addUnrecognized entries m)).WellKeyed := by
  unfold addUnrecognized
  split
  · rename_i hnew
    cases h with
    | object distinct inner =>
        rw [Bool.and_eq_true, Option.isNone_iff_eq_none, List.lookup_eq_none_iff] at hnew
        have hname : m.name ∉ entries.map (·.1) := by
          intro hmem
          obtain ⟨entry, hentry, heq⟩ := List.mem_map.mp hmem
          have hne := hnew.2 entry hentry
          rw [heq] at hne
          simp at hne
        refine .object ?_ ?_
        · rw [List.map_append, List.map_cons, List.map_nil]
          exact List.nodup_append_comm.mp (List.nodup_cons.mpr ⟨hname, distinct⟩)
        · intro entry hentry
          rcases List.mem_append.mp hentry with hentry | hentry
          · exact inner entry hentry
          · rw [List.mem_singleton.mp hentry]
            exact wellKeyed_metadata hm
  · exact h

/-- Annotations that are made from markers give no name twice if no marker does. -/
theorem wellKeyed_unrecognized {markers : List Marker}
    (h : ∀ m ∈ markers, (m.arguments.map (·.1)).Nodup) :
    (Json.object (unrecognized markers)).WellKeyed := by
  refine List.foldlRecOn (motive := fun entries ↦ (Json.object entries).WellKeyed) markers
    addUnrecognized (.object List.nodup_nil (by simp)) ?_
  intro entries hentries m hm
  exact wellKeyed_addUnrecognized (h m hm) hentries

end Marker

/-- The document of a catalog, at whatever indent, is read as the value that was written, and the
value is decoded as the catalog: no text, list or annotation is lost, and none changes its place. -/
theorem Catalog.document_lossless (c : Catalog) (indent : Nat) (h : c.WellKeyed) :
    Json.read (c.render indent) = some c.toJson ∧ Catalog.ofJson c.toJson = .ok c :=
  ⟨Json.read_render indent (Catalog.wellKeyed_toJson h), c.ofJson_toJson⟩

/-- A catalog with quotes, backslashes, controls and characters beyond the first plane in its texts,
and with annotations that hold arrays in arrays. -/
theorem Catalog.lossless_of_escaped_texts :
    let list (items : List Argument) : Argument := { text := "", items := items, isArray := true }
    let literal (s : String) : Argument := { text := "", string := some s }
    let marker : Marker :=
      { name := "Audit"
        arguments :=
          [("value", list [list [literal "\"\\", list []], literal "\x00\x1f\t"]),
           ("by\n", literal "é😀")] }
    let handler : Handler :=
      { methodName := "get", line := -1, annotations := Marker.unrecognized [marker] }
    let c : Catalog :=
      { controllers := [{ name := "A\\B", handlers := [handler, handler] }]
        shapes := [{ className := "\"Dto\"", annotations := Marker.unrecognized [marker, marker] }]
        totalMethods := 2 }
    c.WellKeyed ∧
      Json.read (c.render 3) = some c.toJson ∧ Catalog.ofJson c.toJson = .ok c := by
  intro list literal marker handler c
  have hkeys : (marker.arguments.map (·.1)).Nodup := by
    simp [marker]
  have hannotations : ∀ markers : List Marker, (∀ m ∈ markers, m = marker) →
      (Json.object (Marker.unrecognized markers)).WellKeyed := by
    intro markers hall
    apply Marker.wellKeyed_unrecognized
    intro m hm
    rw [hall m hm]
    exact hkeys
  have hc : c.WellKeyed := by
    constructor
    · exact List.forall_mem_singleton.mpr (.object List.nodup_nil (by simp))
    · have hone := hannotations [marker] (by simp)
      simpa [c, handler] using hone
    · have htwo := hannotations [marker, marker] (by simp)
      simpa [c] using htwo
  exact ⟨hc, Catalog.document_lossless c 3 hc⟩

end ApiSurvey
