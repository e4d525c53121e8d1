import ApiSurvey.Json.Printer
import ApiSurvey.Proofs.DocumentReader

/-!
# Written documents are cut into tokens

Main statement: for every indent, the text of a value is cut into the tokens of the value. Inside a
text the escapes hide every quote; a number or another word is ended by what is written after it.
-/

namespace ApiSurvey.Json

/-! ## Texts -/

/-- The three ways in which a character is written inside a text. -/
theorem escapedChar_cases (c : Char) :
    (∃ letter, letterEscape? letter = some c ∧ letter ≠ 'u' ∧ escapedChar c = ['\\', letter]) ∨
      (c.toNat < 0x20 ∧ escapedChar c = '\\' :: 'u' :: Text.hexDigits 4 c.toNat) ∨
        (c ≠ '"' ∧ c ≠ '\\' ∧ 0x20 ≤ c.toNat ∧ escapedChar c = [c]) := by
  unfold escapedChar
  split
  · exact .inl ⟨'"', rfl, by decide, rfl⟩
  · exact .inl ⟨'\\', rfl, by decide, rfl⟩
  · exact .inl ⟨'n', rfl, by decide, rfl⟩
  · exact .inl ⟨'r', rfl, by decide, rfl⟩
  · exact .inl ⟨'t', rfl, by decide, rfl⟩
  · exact .inl ⟨'b', rfl, by decide, rfl⟩
  · exact .inl ⟨'f', rfl, by decide, rfl⟩
  · rename_i hquote hbackslash _ _ _ _ _
    by_cases hcontrol : c.toNat < 0x20
    · exact .inr (.inl ⟨hcontrol, if_pos hcontrol⟩)
    · exact .inr (.inr ⟨hquote, hbackslash, Nat.le_of_not_lt hcontrol, if_neg hcontrol⟩)

theorem hexNumber?_hexDigits {n : Nat} (h : n < 0x20) :
    hexNumber? (Text.hexDigits 4 n) = some n := by
  revert n
  decide

theorem unescape_plain_cons {c : Char} (hquote : c ≠ '"') (hbackslash : c ≠ '\\')
    (hcontrol : 0x20 ≤ c.toNat) (rest : List Char) :
    unescape (c :: rest) = (unescape rest).map (c :: ·) := by
  rw [unescape]
  · simp [hquote, hbackslash, Nat.not_lt.mpr hcontrol]
  · intro _ _ _ _ _ hc _
    exact hbackslash hc
  · intro _ _ hc _
    exact hbackslash hc

theorem unescape_letter_cons {c letter : Char} (hletter : letterEscape? letter = some c)
    (hu : letter ≠ 'u') (rest : List Char) :
    unescape ('\\' :: letter :: rest) = (unescape rest).map (c :: ·) := by
  rw [unescape, hletter, Option.bind_some]
  intro _ _ _ _ _ hc _
  exact hu hc

theorem unescape_hexDigits_append {c : Char} (hcontrol : c.toNat < 0x20) (rest : List Char) :
    unescape ('\\' :: 'u' :: Text.hexDigits 4 c.toNat ++ rest) =
      (unescape rest).map (c :: ·) := by
  have hcode := hexNumber?_hexDigits hcontrol
  have hplane : c.toNat < 0xd800 ∨ 0xe000 ≤ c.toNat := by omega
  simp only [Text.hexDigits, List.nil_append, List.cons_append] at hcode ⊢
  rw [unescape, hcode]
  simp only [if_pos hplane, Char.ofNat_toNat]

theorem unescape_escapedChar (c : Char) (rest : List Char) :
    unescape (escapedChar c ++ rest) = (unescape rest).map (c :: ·) := by
  rcases escapedChar_cases c with ⟨letter, hletter, hu, htext⟩ | ⟨hcontrol, htext⟩ |
      ⟨hquote, hbackslash, hcontrol, htext⟩
  · rw [htext]
    exact unescape_letter_cons hletter hu rest
  · rw [htext]
    exact unescape_hexDigits_append hcontrol rest
  · rw [htext]
    exact unescape_plain_cons hquote hbackslash hcontrol rest

theorem unescape_flatMap (cs : List Char) : unescape (cs.flatMap escapedChar) = some cs := by
  induction cs with
  | nil => rfl
  | cons c cs ih => rw [List.flatMap_cons, unescape_escapedChar, ih, Option.map_some]

theorem digitChar_ne_quote (d : Nat) : d.digitChar ≠ '"' ∧ d.digitChar ≠ '\\' :=
  ⟨Nat.digitChar_ne _ rfl, Nat.digitChar_ne _ rfl⟩

/-- What is written for a character inside a text does not end the text. -/
theorem tokens_escapedChar (c : Char) (raw rest : List Char) :
    tokens (escapedChar c ++ rest) (.text raw) = tokens rest (.text (raw ++ escapedChar c)) := by
  rcases escapedChar_cases c with ⟨letter, -, -, htext⟩ | ⟨-, htext⟩ | ⟨hquote, hbackslash, -, htext⟩
  · simp [htext, tokens]
  · simp [htext, tokens, Text.hexDigits, digitChar_ne_quote]
  · simp [htext, tokens, hquote, hbackslash]

theorem tokens_flatMap_escapedChar (cs raw rest : List Char) :
    tokens (cs.flatMap escapedChar ++ rest) (.text raw) =
      tokens rest (.text (raw ++ cs.flatMap escapedChar)) := by
  induction cs generalizing raw with
  | nil => rw [List.flatMap_nil, List.nil_append, List.append_nil]
  | cons c cs ih =>
      rw [List.flatMap_cons, List.append_assoc, tokens_escapedChar, ih, List.append_assoc]

theorem tokens_writtenString (s : String) (rest : List Char) :
    tokens (writtenString s ++ rest) .between =
      (tokens rest .between).map (.text s :: ·) := by
  have hquote : tokens (writtenString s ++ rest) .between =
      tokens (s.toList.flatMap escapedChar ++ '"' :: rest) (.text []) := by
    simp [writtenString, tokens, start, isBlank, mark?]
  rw [hquote, tokens_flatMap_escapedChar, List.nil_append, tokens]
  simp [unescape_flatMap]

/-! ## Words -/

/-- Whether a word that stands before the rest of a text ends there. -/
def endsWord (rest : List Char) : Prop :=
  ∀ c ∈ rest.head?, isBlank c = true ∨ (mark? c).isSome = true

theorem tokens_word_of_endsWord {rest : List Char} (h : endsWord rest) (raw : List Char) :
    tokens rest (.word raw) =
      (word? raw).bind fun j ↦ (tokens rest .between).map (.word j :: ·) := by
  cases rest with
  | nil =>
      cases hword : word? raw <;> simp [tokens, hword]
  | cons c rest =>
      have hc := h c rfl
      simp only [tokens, if_pos hc]

def inWord (c : Char) : Bool :=
  !isBlank c && (mark? c).isNone && c != '"'

theorem inWord_iff {c : Char} :
    inWord c = true ↔ isBlank c = false ∧ mark? c = none ∧ c ≠ '"' := by
  simp [inWord, and_assoc]

theorem tokens_word_append {cs rest : List Char} (hcs : ∀ c ∈ cs, inWord c = true)
    (hrest : endsWord rest) (raw : List Char) :
    tokens (cs ++ rest) (.word raw) =
      (word? (raw ++ cs)).bind fun j ↦ (tokens rest .between).map (.word j :: ·) := by
  induction cs generalizing raw with
  | nil => rw [List.nil_append, List.append_nil, tokens_word_of_endsWord hrest]
  | cons c cs ih =>
      obtain ⟨hblank, hmark, -⟩ := inWord_iff.mp (hcs c (List.mem_cons_self ..))
      have hgo : tokens (c :: cs ++ rest) (.word raw) = tokens (cs ++ rest) (.word (raw ++ [c])) := by
        simp [tokens, hblank, hmark]
      rw [hgo, ih fun c hc ↦ hcs c (List.mem_cons_of_mem _ hc), List.append_assoc]
      rfl

/-- A word is read as the value that it stands for. -/
theorem tokens_word {cs rest : List Char} {j : Json} (hword : word? cs = some j)
    (hcs : ∀ c ∈ cs, inWord c = true) (hrest : endsWord rest) :
    tokens (cs ++ rest) .between = (tokens rest .between).map (.word j :: ·) := by
  have hne : cs ≠ [] := by
    rintro rfl
    have hempty : word? [] = none := rfl
    rw [hempty] at hword
    cases hword
  obtain ⟨c, cs, rfl⟩ := List.exists_cons_of_ne_nil hne
  obtain ⟨hblank, hmark, hquote⟩ := inWord_iff.mp (hcs c (List.mem_cons_self ..))
  have hgo : tokens (c :: cs ++ rest) .between = tokens (cs ++ rest) (.word [c]) := by
    simp [tokens, start, hblank, hmark, hquote]
  rw [hgo, tokens_word_append (fun c hc ↦ hcs c (List.mem_cons_of_mem _ hc)) hrest,
    List.singleton_append, hword, Option.bind_some]

theorem inWord_of_isDigit {c : Char} (h : c.isDigit = true) : inWord c = true := by
  have hne : ∀ x : Char, x.isDigit = false → c ≠ x := by
    rintro x hx rfl
    rw [h] at hx
    cases hx
  refine inWord_iff.mpr ⟨?_, ?_, hne '"' rfl⟩
  · simp [isBlank, hne ' ' rfl, hne '\n' rfl, hne '\r' rfl, hne '\t' rfl]
  · simp [mark?, hne '[' rfl, hne ']' rfl, hne '\x7b' rfl, hne '\x7d' rfl, hne ',' rfl,
      hne ':' rfl]

theorem head?_toDigits {n : Nat} (h : 0 < n) : (Nat.toDigits 10 n).head? ≠ some '0' := by
  induction n using Nat.strongRecOn with
  | ind n ih =>
      by_cases hsmall : n < 10
      · rw [Nat.toDigits_of_lt_base hsmall]
        simp
        omega
      · have hfront := ih (n / 10) (by omega) (by omega)
        rw [Nat.toDigits_of_base_le (by decide) (Nat.le_of_not_lt hsmall), List.head?_append]
        cases hhead : (Nat.toDigits 10 (n / 10)).head? with
        | none => exact (Nat.toDigits_ne_nil (List.head?_eq_none_iff.mp hhead)).elim
        | some c =>
            rw [hhead] at hfront
            exact hfront

theorem isDigit_of_mem_toDigits_ten {n : Nat} {c : Char} (h : c ∈ Nat.toDigits 10 n) :
    c.isDigit = true :=
  Nat.isDigit_of_mem_toDigits (by decide) (by decide) h

theorem natural?_toDigits (n : Nat) : natural? (Nat.toDigits 10 n) = some n := by
  have hdigits : (Nat.toDigits 10 n).all Char.isDigit = true :=
    List.all_eq_true.mpr fun _ ↦ isDigit_of_mem_toDigits_ten
  have hzero : Nat.toDigits 10 n = ['0'] ∨ (Nat.toDigits 10 n).head? ≠ some '0' := by
    cases n with
    | zero => exact .inl rfl
    | succ n => exact .inr (head?_toDigits n.succ_pos)
  rw [natural?, if_pos ⟨Nat.toDigits_ne_nil, hdigits, hzero⟩, Nat.ofDigitChars_ten_toDigits]

theorem toList_toString_cases (n : Int) :
    (∃ m : Nat, n = m ∧ (toString n).toList = Nat.toDigits 10 m) ∨
      ∃ m : Nat, n = -(m : Int) ∧ (toString n).toList = '-' :: Nat.toDigits 10 m := by
  cases n with
  | ofNat m => exact .inl ⟨m, rfl, by simp [Int.repr]⟩
  | negSucc m => exact .inr ⟨m + 1, by omega, by simp [Int.repr]⟩

theorem number?_toString (n : Int) : number? (toString n).toList = some n := by
  rcases toList_toString_cases n with ⟨m, rfl, htext⟩ | ⟨m, rfl, htext⟩
  · rw [htext, number?, natural?_toDigits]
    · rfl
    · intro digits hsign
      have hdigit : '-'.isDigit = true :=
        isDigit_of_mem_toDigits_ten (hsign ▸ List.mem_cons_self ..)
      cases hdigit
  · rw [htext, number?, natural?_toDigits]
    rfl

theorem inWord_of_mem_toString {n : Int} {c : Char} (h : c ∈ (toString n).toList) :
    inWord c = true := by
  rcases toList_toString_cases n with ⟨m, rfl, htext⟩ | ⟨m, rfl, htext⟩
  · rw [htext] at h
    exact inWord_of_isDigit (isDigit_of_mem_toDigits_ten h)
  · rw [htext] at h
    rcases List.mem_cons.mp h with rfl | h
    · rfl
    · exact inWord_of_isDigit (isDigit_of_mem_toDigits_ten h)

theorem word?_toString (n : Int) : word? (toString n).toList = some (.number n) := by
  have hne : ∀ cs : List Char, number? cs = none → (toString n).toList ≠ cs := by
    rintro cs hcs rfl
    rw [number?_toString] at hcs
    cases hcs
  rw [word?, if_neg (hne _ (by decide)), if_neg (hne _ (by decide)), if_neg (hne _ (by decide)),
    number?_toString, Option.map_some]

/-! ## Tokens of a value -/

mutual

def tokensOf : Json → List Token
  | .string s => [.text s]
  | .array [] => [.openArray, .closeArray]
  | .array (item :: items) => .openArray :: tokensOf item ++ tokensOfItems items ++ [.closeArray]
  | .object [] => [.openObject, .closeObject]
  | .object ((name, value) :: fields) =>
      .openObject :: .text name :: .colon :: tokensOf value ++ tokensOfFields fields ++
        [.closeObject]
  | .null => [.word .null]
  | .bool b => [.word (.bool b)]
  | .number n => [.word (.number n)]

def tokensOfItems : List Json → List Token
  | [] => []
  | item :: items => .comma :: tokensOf item ++ tokensOfItems items

def tokensOfFields : List (String × Json) → List Token
  | [] => []
  | (name, value) :: fields =>
      .comma :: .text name :: .colon :: tokensOf value ++ tokensOfFields fields

end

theorem endsWord_newLine (indent depth : Nat) (rest : List Char) :
    endsWord (newLine indent depth ++ rest) := by
  simp [endsWord, newLine, isBlank]

theorem endsWord_writtenItems (indent depth : Nat) (items : List Json) {rest : List Char}
    (h : endsWord rest) : endsWord (writtenItems indent depth items ++ rest) := by
  cases items with
  | nil => simpa [writtenItems] using h
  | cons item items => simp [writtenItems, endsWord, mark?]

theorem endsWord_writtenFields (indent depth : Nat) (fields : List (String × Json))
    {rest : List Char} (h : endsWord rest) :
    endsWord (writtenFields indent depth fields ++ rest) := by
  cases fields with
  | nil => simpa [writtenFields] using h
  | cons field fields =>
      obtain ⟨name, value⟩ := field
      simp [writtenFields, endsWord, mark?]

theorem tokens_blank {c : Char} (hblank : isBlank c = true) (rest : List Char) :
    tokens (c :: rest) .between = tokens rest .between := by
  simp [tokens, start, hblank]

theorem tokens_mark {c : Char} {token : Token} (hmark : mark? c = some token)
    (hblank : isBlank c = false) (rest : List Char) :
    tokens (c :: rest) .between = (tokens rest .between).map (token :: ·) := by
  simp [tokens, start, hmark, hblank]

theorem tokens_newLine (indent depth : Nat) (rest : List Char) :
    tokens (newLine indent depth ++ rest) .between = tokens rest .between := by
  have hspaces : ∀ n, tokens (List.replicate n ' ' ++ rest) .between = tokens rest .between := by
    intro n
    induction n with
    | zero => rfl
    | succ n ih =>
        rw [List.replicate_succ, List.cons_append, tokens_blank rfl, ih]
  rw [newLine, List.cons_append, tokens_blank rfl, hspaces]

/-- What holds of plain values, and of arrays and objects if it holds of all that is in them, holds
of every value. -/
@[elab_as_elim]
theorem induction {P : Json → Prop} (null : P .null) (bool : ∀ b, P (.bool b))
    (number : ∀ n, P (.number n)) (string : ∀ s, P (.string s))
    (array : ∀ items, (∀ item ∈ items, P item) → P (.array items))
    (object : ∀ fields, (∀ field ∈ fields, P field.2) → P (.object fields)) : ∀ j, P j
  | .null => null
  | .bool b => bool b
  | .number n => number n
  | .string s => string s
  | .array items =>
      array items fun item _ ↦ induction null bool number string array object item
  | .object fields =>
      object fields fun field _ ↦ induction null bool number string array object field.2
termination_by j => sizeOf j
decreasing_by
  · rename_i h
    have hitem := List.sizeOf_lt_of_mem h
    simp only [Json.array.sizeOf_spec]
    omega
  · rename_i h
    have hfield := List.sizeOf_lt_of_mem h
    have hvalue : sizeOf field.2 < sizeOf field := by
      cases field
      simp only [Prod.mk.sizeOf_spec]
      omega
    simp only [Json.object.sizeOf_spec]
    omega

/-- Whether the text of a value is cut into its tokens, whatever follows. -/
def Cut (indent : Nat) (j : Json) : Prop :=
  ∀ depth rest, endsWord rest →
    tokens (written indent depth j ++ rest) .between =
      (tokens rest .between).map (tokensOf j ++ ·)

variable {indent depth : Nat} {rest : List Char}

theorem tokens_writtenItems {items : List Json} (hitems : ∀ item ∈ items, Cut indent item)
    (hrest : endsWord rest) :
    tokens (writtenItems indent depth items ++ rest) .between =
      (tokens rest .between).map (tokensOfItems items ++ ·) := by
  induction items with
  | nil => simp [writtenItems, tokensOfItems]
  | cons item items ih =>
      have hitem := hitems item (List.mem_cons_self ..)
      have hothers := ih fun item h ↦ hitems item (List.mem_cons_of_mem _ h)
      simp only [writtenItems, List.append_assoc, List.cons_append]
      rw [tokens_mark rfl rfl, tokens_newLine,
        hitem depth _ (endsWord_writtenItems indent depth items hrest), hothers]
      simp [tokensOfItems, Function.comp_def]

theorem tokens_writtenFields {fields : List (String × Json)}
    (hfields : ∀ field ∈ fields, Cut indent field.2) (hrest : endsWord rest) :
    tokens (writtenFields indent depth fields ++ rest) .between =
      (tokens rest .between).map (tokensOfFields fields ++ ·) := by
  induction fields with
  | nil => simp [writtenFields, tokensOfFields]
  | cons field fields ih =>
      obtain ⟨name, value⟩ := field
      have hvalue := hfields (name, value) (List.mem_cons_self ..)
      have hothers := ih fun field h ↦ hfields field (List.mem_cons_of_mem _ h)
      simp only [writtenFields, List.append_assoc, List.cons_append, List.nil_append]
      rw [tokens_mark rfl rfl, tokens_newLine, tokens_writtenString, tokens_mark rfl rfl,
        tokens_blank rfl, hvalue depth _ (endsWord_writtenFields indent depth fields hrest), hothers]
      simp [tokensOfFields, Function.comp_def]

theorem cut_of_word (cs : List Char) {j : Json} (hword : word? cs = some j)
    (hcs : ∀ c ∈ cs, inWord c = true) (hwritten : ∀ depth, written indent depth j = cs)
    (htokens : tokensOf j = [.word j]) : Cut indent j := by
  intro depth rest hrest
  rw [hwritten, htokens]
  exact tokens_word hword hcs hrest

theorem cut_array {items : List Json} (hitems : ∀ item ∈ items, Cut indent item) :
    Cut indent (.array items) := by
  intro depth rest _
  cases items with
  | nil =>
      rw [written, tokensOf, List.cons_append, List.singleton_append, tokens_mark rfl rfl,
        tokens_mark rfl rfl, Option.map_map]
      rfl
  | cons item items =>
      have hitem := hitems item (List.mem_cons_self ..)
      have hothers : ∀ item ∈ items, Cut indent item :=
        fun item h ↦ hitems item (List.mem_cons_of_mem _ h)
      -- A number at the end of the array is ended by the line of the closing bracket.
      have hclose := endsWord_newLine indent depth (']' :: rest)
      simp only [written, List.append_assoc, List.cons_append, List.nil_append]
      rw [tokens_mark rfl rfl, tokens_newLine,
        hitem (depth + 1) _ (endsWord_writtenItems indent (depth + 1) items hclose),
        tokens_writtenItems hothers hclose, tokens_newLine, tokens_mark rfl rfl]
      simp [tokensOf, Function.comp_def]

theorem cut_object {fields : List (String × Json)}
    (hfields : ∀ field ∈ fields, Cut indent field.2) : Cut indent (.object fields) := by
  intro depth rest _
  cases fields with
  | nil =>
      rw [written, tokensOf, List.cons_append, List.singleton_append, tokens_mark rfl rfl,
        tokens_mark rfl rfl, Option.map_map]
      rfl
  | cons field fields =>
      obtain ⟨name, value⟩ := field
      have hvalue := hfields (name, value) (List.mem_cons_self ..)
      have hothers : ∀ field ∈ fields, Cut indent field.2 :=
        fun field h ↦ hfields field (List.mem_cons_of_mem _ h)
      have hclose := endsWord_newLine indent depth ('\x7d' :: rest)
      simp only [written, List.append_assoc, List.cons_append, List.nil_append]
      rw [tokens_mark rfl rfl, tokens_newLine, tokens_writtenString, tokens_mark rfl rfl,
        tokens_blank rfl,
        hvalue (depth + 1) _ (endsWord_writtenFields indent (depth + 1) fields hclose),
        tokens_writtenFields hothers hclose, tokens_newLine, tokens_mark rfl rfl]
      simp [tokensOf, Function.comp_def]

/-- The text of a value is cut into its tokens. -/
theorem cut (indent : Nat) (j : Json) : Cut indent j := by
  induction j using Json.induction with
  | null =>
      refine cut_of_word "null".toList rfl (List.all_eq_true.mp rfl) (fun depth ↦ ?_) ?_
      · rw [written]
      · rw [tokensOf]
  | bool b =>
      cases b with
      | false =>
          refine cut_of_word "false".toList rfl (List.all_eq_true.mp rfl) (fun depth ↦ ?_) ?_
          · rw [written]
          · rw [tokensOf]
      | true =>
          refine cut_of_word "true".toList rfl (List.all_eq_true.mp rfl) (fun depth ↦ ?_) ?_
          · rw [written]
          · rw [tokensOf]
  | number n =>
      refine cut_of_word _ (word?_toString n) (fun _ ↦ inWord_of_mem_toString) (fun depth ↦ ?_) ?_
      · rw [written]
      · rw [tokensOf]
  | string s =>
      intro depth rest _
      rw [written, tokensOf]
      exact tokens_writtenString s rest
  | array items ih => exact cut_array ih
  | object fields ih => exact cut_object ih

theorem tokens_render (indent : Nat) (j : Json) :
    tokens (render indent j).toList .between = some (tokensOf j) := by
  have hcut := cut indent j 0 [] (by simp [endsWord])
  rw [List.append_nil] at hcut
  rw [render, String.toList_ofList, hcut]
  simp [tokens]

end ApiSurvey.Json
