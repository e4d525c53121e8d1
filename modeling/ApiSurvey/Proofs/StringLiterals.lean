import ApiSurvey.Proofs.EncodedText
import ApiSurvey.Proofs.RemarkedMarkers
import ApiSurvey.Route.OfClass

/-!
# String literals

A literal writes the quote, the backslash and five controls as a backslash and a letter, and every
other character as it is. Its node holds the text between the quotes in parts, in runs of plain
characters and single escapes. Main statement: whatever string is written, its literal is read back
as that string, and so is the path of a mapping that has the literal as its argument.
-/

namespace ApiSurvey.Java

/-! ## Writing -/

/-- The letter that stands for a character behind a backslash. -/
def escapeLetter? (c : Char) : Option Char :=
  match c with
  | '"' => some '"'
  | '\\' => some '\\'
  | '\n' => some 'n'
  | '\t' => some 't'
  | '\r' => some 'r'
  | '\x08' => some 'b'
  | '\x0c' => some 'f'
  | _ => none

def writtenChar (c : Char) : List Char :=
  match escapeLetter? c with
  | some letter => ['\\', letter]
  | none => [c]

/-- What stands between the quotes of the literal of a string. -/
def content (s : String) : List Char :=
  s.toList.flatMap writtenChar

def literal (s : String) : String :=
  String.ofList ('"' :: (content s ++ ['"']))

theorem escapedChar_of_escapeLetter? {c letter : Char} (h : escapeLetter? c = some letter) :
    escapedChar letter = c := by
  unfold escapeLetter? at h
  split at h <;> cases h <;> rfl

theorem ne_backslash_of_escapeLetter? {c : Char} (h : escapeLetter? c = none) : c ≠ '\\' := by
  rintro rfl
  cases h

/-- The characters that a text with escapes stands for. -/
def unescaped : List Char → List Char
  | '\\' :: c :: cs => escapedChar c :: unescaped cs
  | c :: cs => c :: unescaped cs
  | [] => []

theorem unescaped_cons_of_ne {c : Char} (h : c ≠ '\\') (cs : List Char) :
    unescaped (c :: cs) = c :: unescaped cs := by
  rw [unescaped]
  rintro _ _ rfl
  exact absurd rfl h

theorem unescaped_writtenChar_append (c : Char) (cs : List Char) :
    unescaped (writtenChar c ++ cs) = c :: unescaped cs := by
  unfold writtenChar
  split
  · rename_i letter hletter
    rw [List.cons_append, List.cons_append, List.nil_append, unescaped,
      escapedChar_of_escapeLetter? hletter]
  · rename_i hplain
    exact unescaped_cons_of_ne (ne_backslash_of_escapeLetter? hplain) cs

theorem unescaped_content (s : String) : unescaped (content s) = s.toList := by
  unfold content
  induction s.toList with
  | nil => rfl
  | cons c cs ih => rw [List.flatMap_cons, unescaped_writtenChar_append, ih]

/-! ## Parts -/

/-- A part of what stands between the quotes. -/
inductive LiteralPart where
  | run (text : List Char)
  | escape (letter : Char)

namespace LiteralPart

def written : LiteralPart → List Char
  | run text => text
  | escape letter => ['\\', letter]

def terminal : LiteralPart → Terminal
  | run _ => .stringText
  | escape _ => .escape

/-- The characters that the part stands for. -/
def value : LiteralPart → List Char
  | run text => text
  | escape letter => [escapedChar letter]

/-- A run holds no quote and no backslash. -/
def Plain : LiteralPart → Prop
  | run text => ∀ c ∈ text, c ≠ '"' ∧ c ≠ '\\'
  | escape _ => True

theorem unescaped_written_append {p : LiteralPart} (h : p.Plain) (cs : List Char) :
    unescaped (p.written ++ cs) = p.value ++ unescaped cs := by
  cases p with
  | run text =>
      change unescaped (text ++ cs) = text ++ unescaped cs
      induction text with
      | nil => rfl
      | cons c text ih =>
          rw [List.cons_append, unescaped_cons_of_ne (h c List.mem_cons_self).2,
            ih fun d hd ↦ h d (List.mem_cons_of_mem _ hd), List.cons_append]
  | escape letter =>
      change unescaped ('\\' :: letter :: cs) = escapedChar letter :: unescaped cs
      rw [unescaped]

/-- However a text is cut into runs and escapes, the parts together stand for the same. -/
theorem flatMap_value {parts : List LiteralPart} (h : ∀ p ∈ parts, p.Plain) :
    parts.flatMap value = unescaped (parts.flatMap written) := by
  induction parts with
  | nil => rfl
  | cons p parts ih =>
      rw [List.flatMap_cons, List.flatMap_cons,
        unescaped_written_append (h p List.mem_cons_self),
        ih fun q hq ↦ h q (List.mem_cons_of_mem _ hq)]

end LiteralPart

/-! ## Nodes -/

variable {source : ByteArray} {n v : Node} {s : String}

/-- Nodes that show parts one after another from a place of the source on. -/
inductive Lined : Nat → List LiteralPart → List Node → Prop
  | nil {start : Nat} : Lined start [] []
  | cons {start : Nat} {p : LiteralPart} {ps : List LiteralPart} {c : Node} {cs : List Node}
      (kind : c.kind = .token p.terminal) (begins : c.span.start = start)
      (ends : c.span.stop = start + (String.ofList p.written).utf8ByteSize)
      (rest : Lined c.span.stop ps cs) : Lined start (p :: ps) (c :: cs)

/-- A node is the literal of a string: the source has the literal there, and the named children are
in order the runs of plain characters and the single escapes between the quotes. -/
structure IsLiteral (source : ByteArray) (s : String) (n : Node) : Prop where
  kind : n.kind = .construct .stringLiteral
  bytes : source.extract n.span.start n.span.stop = (literal s).toUTF8
  parts : ∃ parts : List LiteralPart, (∀ p ∈ parts, p.Plain) ∧
    parts.flatMap LiteralPart.written = content s ∧ Lined (n.span.start + 1) parts n.namedChildren

theorem length_flatMap_utf8EncodeChar (cs : List Char) :
    (cs.flatMap String.utf8EncodeChar).length = (String.ofList cs).utf8ByteSize := by
  have h := Text.toList_toUTF8 (String.ofList cs)
  rw [String.toList_ofList] at h
  rw [← h]
  rfl

/-- A node shows the characters whose bytes stand in the source from its start to its end. -/
theorem text_of_bytes {cs : List Char} {rest : List UInt8}
    (hbytes : source.data.toList.drop n.span.start = cs.flatMap String.utf8EncodeChar ++ rest)
    (hstop : n.span.stop = n.span.start + (String.ofList cs).utf8ByteSize) :
    n.text source = String.ofList cs := by
  have hwidth : n.span.stop - n.span.start = (cs.flatMap String.utf8EncodeChar).length := by
    rw [length_flatMap_utf8EncodeChar]
    omega
  rw [Node.text, Text.decodeBytes, Remark.toList_extract, List.drop_take, hbytes,
    List.take_left' hwidth.symm, Text.decode_flatMap_utf8EncodeChar]

theorem literalPart?_eq (p : LiteralPart) (hkind : n.kind = .token p.terminal)
    (htext : n.text source = String.ofList p.written) :
    literalPart? source n = some (String.ofList p.value) := by
  rw [literalPart?, hkind, htext]
  cases p with
  | run text => rfl
  | escape letter =>
      change some (escapeValue (String.ofList ['\\', letter])) = _
      rw [escapeValue, String.toList_ofList]
      rfl

theorem filterMap_of_lined {start : Nat} {parts : List LiteralPart} {nodes : List Node}
    {rest : List UInt8} (h : Lined start parts nodes)
    (hbytes : source.data.toList.drop start =
      (parts.flatMap LiteralPart.written).flatMap String.utf8EncodeChar ++ rest) :
    nodes.filterMap (literalPart? source) = parts.map fun p ↦ String.ofList p.value := by
  induction h with
  | nil => rfl
  | @cons start p ps c cs hkind hbegins hends _ ih =>
      rw [List.flatMap_cons, List.flatMap_append, List.append_assoc] at hbytes
      -- the next part starts where this one ends
      have hrest : source.data.toList.drop c.span.stop =
          (ps.flatMap LiteralPart.written).flatMap String.utf8EncodeChar ++ rest := by
        rw [hends, ← List.drop_drop, hbytes,
          List.drop_left' (length_flatMap_utf8EncodeChar p.written)]
      have htext : c.text source = String.ofList p.written :=
        text_of_bytes (by rw [hbegins, hbytes]) (by rw [hends, hbegins])
      rw [List.filterMap_cons, literalPart?_eq p hkind htext, ih hrest, List.map_cons]

theorem literalPart?_of_not_isNamed (source : ByteArray) (h : n.isNamed = false) :
    literalPart? source n = none := by
  unfold literalPart?
  split
  case h_5 => rfl
  all_goals
    rename_i hkind
    rw [Node.isNamed, hkind] at h
    cases h

theorem filterMap_namedChildren (source : ByteArray) (n : Node) :
    n.namedChildren.filterMap (literalPart? source) =
      n.children.filterMap (literalPart? source) := by
  rw [Node.namedChildren, List.filterMap_filter]
  congr 1
  funext c
  cases hnamed : c.isNamed with
  | true => rfl
  | false => rw [literalPart?_of_not_isNamed source hnamed, if_neg Bool.false_ne_true]

theorem join_map_ofList (f : LiteralPart → List Char) (parts : List LiteralPart) :
    String.join (parts.map fun p ↦ String.ofList (f p)) = String.ofList (parts.flatMap f) := by
  induction parts with
  | nil => rfl
  | cons p parts ih =>
      rw [List.map_cons, String.join_cons, ih, List.flatMap_cons, String.ofList_append]

theorem IsLiteral.text_eq (h : IsLiteral source s v) : v.text source = literal s := by
  rw [Node.text, h.bytes, Text.decodeBytes_toUTF8]

/-- Behind the opening quote, which is the byte 34, stands what is between the quotes. -/
theorem IsLiteral.exists_drop_eq (h : IsLiteral source s v) :
    ∃ rest, source.data.toList.drop (v.span.start + 1) =
      (content s).flatMap String.utf8EncodeChar ++ rest := by
  have hliteral : (source.data.toList.drop v.span.start).take (v.span.stop - v.span.start) =
      34 :: ((content s).flatMap String.utf8EncodeChar ++ [34]) := by
    rw [← List.drop_take, ← Remark.toList_extract, h.bytes, Text.toList_toUTF8, literal,
      String.toList_ofList, List.flatMap_cons, List.flatMap_append]
    rfl
  obtain ⟨rest, hrest⟩ : ∃ rest, source.data.toList.drop v.span.start =
      34 :: ((content s).flatMap String.utf8EncodeChar ++ [34]) ++ rest :=
    ⟨_, by rw [← hliteral, List.take_append_drop]⟩
  refine ⟨34 :: rest, ?_⟩
  rw [← List.drop_drop, hrest, List.cons_append, List.drop_succ_cons, List.drop_zero,
    List.append_assoc, List.cons_append, List.nil_append]

theorem IsLiteral.stringValue_eq (h : IsLiteral source s v) : stringValue source v = s := by
  obtain ⟨parts, hplain, hwritten, hlined⟩ := h.parts
  obtain ⟨rest, hbytes⟩ := h.exists_drop_eq
  rw [← hwritten] at hbytes
  have hvalue : parts.flatMap LiteralPart.value = s.toList := by
    rw [LiteralPart.flatMap_value hplain, hwritten, unescaped_content]
  have hparts := filterMap_of_lined hlined hbytes
  rw [filterMap_namedChildren] at hparts
  rw [stringValue, hparts]
  cases parts with
  | nil =>
      -- without parts the quotes are cut off the literal
      have hempty : s = "" := String.toList_inj.mp hvalue.symm
      rw [List.map_nil, h.text_eq, hempty]
      rfl
  | cons p parts =>
      change String.join ((p :: parts).map fun p ↦ String.ofList p.value) = s
      rw [join_map_ofList, hvalue, String.ofList_toList]

theorem IsLiteral.readArgument_eq (h : IsLiteral source s v) :
    readArgument source v = { text := literal s, string := some s } := by
  rw [Remark.readArgument_literal source h.kind, h.text_eq, h.stringValue_eq]

/-! ## Arguments of annotations -/

/-- A child of an argument list gives a value under a key: it is a pair of the two, or for the key
`value` the value by itself. -/
inductive Gives (source : ByteArray) (key : String) (v : Node) : Node → Prop
  | pair {c : Node} (kind : c.is .elementPair = true)
      (keyed : Node.textOr source (c.childAs? .key) = key)
      (valued : c.childAs? .value = some v) : Gives source key v c
  | alone (unpaired : v.is .elementPair = false) (uncommented : v.isComment = false)
      (keyed : key = "value") : Gives source key v v

def argumentNodes (n : Node) : List Node :=
  (n.childAs? .arguments).elim [] (·.namedChildren)

/-- Of what an annotation gives under a key the first is a value. -/
def GivesFirst (source : ByteArray) (key : String) (v n : Node) : Prop :=
  ∃ before c after, argumentNodes n = before ++ c :: after ∧ Gives source key v c ∧
    ∀ d ∈ before, ∀ w, ¬Gives source key w d

def GivesNothing (source : ByteArray) (key : String) (n : Node) : Prop :=
  ∀ d ∈ argumentNodes n, ∀ w, ¬Gives source key w d

variable {key : String}

theorem listedArgument?_of_gives {c : Node} (hkey : key ≠ "") (h : Gives source key v c) :
    Remark.listedArgument? source c = some (key, readArgument source v) := by
  cases h with
  | pair kind keyed valued =>
      rw [Remark.listedArgument?, if_pos kind, valued, Option.elim_some, keyed, Remark.keyed?,
        if_neg (by rwa [String.isEmpty_iff])]
  | alone unpaired uncommented keyed =>
      rw [Remark.listedArgument?, unpaired, uncommented, keyed, if_neg Bool.false_ne_true,
        if_neg Bool.false_ne_true]

theorem gives_of_listedArgument? {c : Node} {a : Argument}
    (h : Remark.listedArgument? source c = some (key, a)) : ∃ w, Gives source key w c := by
  unfold Remark.listedArgument? at h
  split at h
  · rename_i hpair
    cases hvalue : c.childAs? .value with
    | none =>
        rw [hvalue] at h
        cases h
    | some w =>
        rw [hvalue, Option.elim_some, Remark.keyed?] at h
        split at h
        · cases h
        · cases h
          exact ⟨w, .pair hpair rfl hvalue⟩
  · rename_i hpair
    split at h
    · cases h
    · rename_i hcomment
      cases h
      exact ⟨c, .alone (Bool.eq_false_iff.mpr hpair) (Bool.eq_false_iff.mpr hcomment) rfl⟩

theorem lookup_filterMap_eq_none {nodes : List Node}
    (h : ∀ d ∈ nodes, ∀ w, ¬Gives source key w d) :
    (nodes.filterMap (Remark.listedArgument? source)).lookup key = none := by
  rw [List.lookup_eq_none_iff]
  rintro ⟨key', a⟩ hentry
  obtain ⟨d, hd, hlisted⟩ := List.mem_filterMap.mp hentry
  rw [bne_iff_ne]
  rintro rfl
  obtain ⟨w, hw⟩ := gives_of_listedArgument? hlisted
  exact h d hd w hw

theorem lookup_foldl_addEntry (key : String) (entries known : List (String × Argument)) :
    (entries.foldl Remark.addEntry known).lookup key =
      (known.lookup key).or (entries.lookup key) := by
  induction entries generalizing known with
  | nil => simp
  | cons e entries ih =>
      rw [List.foldl_cons, ih, Remark.addEntry, addArgument, List.lookup_cons]
      split
      · -- an entry under a key that is known is passed over
        rename_i hknown
        cases hsame : key == e.1 with
        | false => rfl
        | true =>
            obtain ⟨a, ha⟩ := Option.isSome_iff_exists.mp hknown
            rw [eq_of_beq hsame, ha, Option.some_or, Option.some_or]
      · rw [List.lookup_append, List.lookup_cons, List.lookup_nil, Option.or_assoc]
        cases key == e.1 <;> rfl

/-- Of several values under a key the first counts. -/
theorem argument?_readMarker (source : ByteArray) (n : Node) (key : String) :
    (readMarker source n).argument? key =
      ((argumentNodes n).filterMap (Remark.listedArgument? source)).lookup key := by
  rw [Marker.argument?, Remark.arguments_readMarker, lookup_foldl_addEntry]
  rfl

theorem GivesNothing.argument?_eq (h : GivesNothing source key n) :
    (readMarker source n).argument? key = none := by
  rw [argument?_readMarker, lookup_filterMap_eq_none h]

theorem GivesFirst.argument?_eq (hkey : key ≠ "") (h : GivesFirst source key v n) :
    (readMarker source n).argument? key = some (readArgument source v) := by
  obtain ⟨before, c, after, hsplit, hgives, hbefore⟩ := h
  rw [argument?_readMarker, hsplit, List.filterMap_append, List.filterMap_cons,
    listedArgument?_of_gives hkey hgives, List.lookup_append, lookup_filterMap_eq_none hbefore,
    List.lookup_cons, beq_self_eq_true]
  rfl

/-- Whatever string is written as a literal, the literal is read back as that string, by itself, as
an argument and in a document; a handler whose mapping has the literal under `value`, or under
`path` and nothing under `value`, has the string as its path. -/
theorem literal_read_back (h : IsLiteral source s v) :
    stringValue source v = s ∧ (readArgument source v).firstString = some s ∧
      (readArgument source v).toJson = .string s ∧
      ∀ (m : MethodDecl) (n : Node), m.mapping? = some (readMarker source n) →
        GivesFirst source "value" v n ∨
          GivesNothing source "value" n ∧ GivesFirst source "path" v n →
        (Handler.ofDecl m).path = s := by
  refine ⟨h.stringValue_eq, by rw [h.readArgument_eq]; rfl, by rw [h.readArgument_eq]; rfl, ?_⟩
  intro m n hmapping hgives
  change mappingPath m.mapping? = s
  rw [hmapping, mappingPath, Marker.stringAt]
  rcases hgives with hvalue | ⟨hnothing, hpath⟩
  · rw [List.findSome?_cons, hvalue.argument?_eq (by decide), h.readArgument_eq]
    rfl
  · rw [List.findSome?_cons, hnothing.argument?_eq, Option.bind_none, List.findSome?_cons,
      hpath.argument?_eq (by decide), h.readArgument_eq]
    rfl

/-- The path of a mapping with a quote and a character of two bytes in it, and another argument
behind it. -/
theorem literal_read_back_as_path :
    let source : ByteArray :=
      "@PostMapping(path = \"a\\\"é\", name = \"x\") void f();".toUTF8
    let token (t : Terminal) (start stop : Nat) : Node :=
      { kind := .token t, span := ⟨start, stop, 1⟩ }
    let node (c : Construct) (part : Option Part) (start stop : Nat) (children : List Node) : Node :=
      { kind := .construct c, part := part, span := ⟨start, stop, 1⟩, children := children }
    let path : Node := node .stringLiteral (some .value) 20 27
      [token (.sign "\"") 20 21, token .stringText 21 22, token .escape 22 24,
        token .stringText 24 26, token (.sign "\"") 26 27]
    let name : Node := node .stringLiteral (some .value) 36 39
      [token (.sign "\"") 36 37, token .stringText 37 38, token (.sign "\"") 38 39]
    let pairs : List Node :=
      [node .elementPair none 13 27 [node .simpleName (some .key) 13 17 [], path],
        node .elementPair none 29 39 [node .simpleName (some .key) 29 33 [], name]]
    let mapping : Node := node .annotationUse none 0 40
      [node .qualifiedName (some .name) 1 12 [],
        node .annotationArguments (some .arguments) 12 40 pairs]
    let method : Node := node .methodDeclaration none 0 50
      [node .modifiers none 0 40 [mapping], node .primitiveType (some .type) 41 45 [],
        node .simpleName (some .name) 46 47 [], node .formalParameters (some .parameters) 47 49 []]
    IsLiteral source "a\"é" path ∧
      (readMethod source method).mapping? = some (readMarker source mapping) ∧
      GivesNothing source "value" mapping ∧ GivesFirst source "path" path mapping ∧
      (Handler.ofDecl (readMethod source method)).path = "a\"é" := by
  intro source token node path name pairs mapping method
  have hliteral : IsLiteral source "a\"é" path := by
    refine ⟨rfl, by decide +kernel, [.run ['a'], .escape '"', .run ['é']], ?_, by decide +kernel, ?_⟩
    · simp [LiteralPart.Plain]
    · exact .cons rfl rfl (by decide +kernel) (.cons rfl rfl (by decide +kernel)
        (.cons rfl rfl (by decide +kernel) .nil))
  have hmapping : (readMethod source method).mapping? = some (readMarker source mapping) := by
    have hmarkers : (readMethod source method).markers = [readMarker source mapping] := rfl
    have hkind : (readMarker source mapping).kind.isMapping = true := by decide +kernel
    rw [MethodDecl.mapping?, hmarkers]
    exact List.find?_cons_of_pos hkind
  have hnothing : GivesNothing source "value" mapping := by
    have hpairs : ∀ d ∈ argumentNodes mapping, d.is .elementPair = true ∧
        Node.textOr source (d.childAs? .key) ≠ "value" := by decide +kernel
    intro d hd w hgives
    cases hgives with
    | pair _ keyed => exact (hpairs d hd).2 keyed
    | alone unpaired => exact Bool.false_ne_true (unpaired.symm.trans (hpairs _ hd).1)
  have hpath : GivesFirst source "path" path mapping := by
    have hkey : Node.textOr source (pairs[0].childAs? .key) = "path" := by decide +kernel
    exact ⟨[], _, _, rfl, .pair rfl hkey rfl, by simp⟩
  exact ⟨hliteral, hmapping, hnothing, hpath, (literal_read_back hliteral).2.2.2 _ _ hmapping
    (.inr ⟨hnothing, hpath⟩)⟩

end ApiSurvey.Java
