import ApiSurvey.Text.Utf8

/-!
# Decoding what was encoded

A byte opens a character by itself or with one to three continuations of six bits each. Main
statement: the bytes of a text are decoded to the text itself, whatever bytes follow them.
-/

namespace ApiSurvey.Text

theorem toNat_ofNat_of_lt {n : Nat} (hn : n < 256) : (UInt8.ofNat n).toNat = n := by
  rw [UInt8.toNat_ofNat', Nat.mod_eq_of_lt hn]

/-! ## Leading bytes -/

theorem continuation_ofNat {b : Nat} (hb : b < 256) :
    continuation (.ofNat b) =
      if b < 128 then some (0, 0x80, 0xbf)
      else if 0xc2 ≤ b ∧ b ≤ 0xdf then some (1, 0x80, 0xbf)
      else if b = 0xe0 then some (2, 0xa0, 0xbf)
      else if b = 0xed then some (2, 0x80, 0x9f)
      else if 0xe1 ≤ b ∧ b ≤ 0xef then some (2, 0x80, 0xbf)
      else if b = 0xf0 then some (3, 0x90, 0xbf)
      else if 0xf1 ≤ b ∧ b ≤ 0xf3 then some (3, 0x80, 0xbf)
      else if b = 0xf4 then some (3, 0x80, 0x8f)
      else none := by
  simp only [continuation, UInt8.lt_iff_toNat_lt, UInt8.le_iff_toNat_le, ← UInt8.toNat_inj,
    toNat_ofNat_of_lt hb, Bool.and_eq_true, decide_eq_true_eq, beq_iff_eq]
  rfl

/-- The byte after the leading one of three is between the bounds that the leading one sets, since
the two start neither an overlong form nor a surrogate. -/
theorem continuation_of_three {v : Nat} (hlow : 0x800 ≤ v) (hhigh : v < 0x10000)
    (hvalid : v < 0xd800 ∨ 0xdfff < v) :
    ∃ low high, continuation (.ofNat (v / 4096 % 16 + 0xe0)) = some (2, low, high) ∧
      low.toNat ≤ v / 64 % 64 + 0x80 ∧ v / 64 % 64 + 0x80 ≤ high.toNat := by
  have hlead := continuation_ofNat (b := v / 4096 % 16 + 0xe0) (by omega)
  rw [if_neg (by omega), if_neg (by omega)] at hlead
  by_cases hfirst : v / 4096 % 16 = 0
  · rw [if_pos (by omega)] at hlead
    exact ⟨0xa0, 0xbf, hlead, by change 160 ≤ _; omega, by change _ ≤ 191; omega⟩
  rw [if_neg (by omega)] at hlead
  by_cases hsurrogate : v / 4096 % 16 = 13
  · rw [if_pos (by omega)] at hlead
    exact ⟨0x80, 0x9f, hlead, by change 128 ≤ _; omega, by change _ ≤ 159; omega⟩
  · rw [if_neg (by omega), if_pos (by omega)] at hlead
    exact ⟨0x80, 0xbf, hlead, by change 128 ≤ _; omega, by change _ ≤ 191; omega⟩

/-- Likewise with four bytes, of which the first two start neither an overlong form nor a code point
above the last one. -/
theorem continuation_of_four {v : Nat} (hlow : 0x10000 ≤ v) (hhigh : v < 0x110000) :
    ∃ low high, continuation (.ofNat (v / 262144 % 8 + 0xf0)) = some (3, low, high) ∧
      low.toNat ≤ v / 4096 % 64 + 0x80 ∧ v / 4096 % 64 + 0x80 ≤ high.toNat := by
  have hlead := continuation_ofNat (b := v / 262144 % 8 + 0xf0) (by omega)
  rw [if_neg (by omega), if_neg (by omega), if_neg (by omega), if_neg (by omega),
    if_neg (by omega)] at hlead
  by_cases hfirst : v / 262144 % 8 = 0
  · rw [if_pos (by omega)] at hlead
    exact ⟨0x90, 0xbf, hlead, by change 144 ≤ _; omega, by change _ ≤ 191; omega⟩
  rw [if_neg (by omega)] at hlead
  by_cases hlast : v / 262144 % 8 = 4
  · rw [if_neg (by omega), if_pos (by omega)] at hlead
    exact ⟨0x80, 0x8f, hlead, by change 128 ≤ _; omega, by change _ ≤ 143; omega⟩
  · rw [if_pos (by omega)] at hlead
    exact ⟨0x80, 0xbf, hlead, by change 128 ≤ _; omega, by change _ ≤ 191; omega⟩

/-! ## Continuations -/

theorem takeContinuation_zero (low high : UInt8) (acc : Nat) (bs : List UInt8) :
    takeContinuation 0 low high acc bs = (some acc, 0) :=
  rfl

/-- A byte between the bounds is taken, and its six bits are appended. -/
theorem takeContinuation_cons {low high : UInt8} {m : Nat} (hlow : low.toNat ≤ m % 64 + 0x80)
    (hhigh : m % 64 + 0x80 ≤ high.toNat) (n acc : Nat) (bs : List UInt8) :
    takeContinuation (n + 1) low high acc (.ofNat (m % 64 + 0x80) :: bs) =
      ((takeContinuation n 0x80 0xbf (acc * 64 + m % 64) bs).1,
        (takeContinuation n 0x80 0xbf (acc * 64 + m % 64) bs).2 + 1) := by
  have hbyte : (UInt8.ofNat (m % 64 + 0x80)).toNat = m % 64 + 0x80 := toNat_ofNat_of_lt (by omega)
  have hbits : (m % 64 + 0x80) % 64 = m % 64 := by omega
  have hwithin : (low ≤ UInt8.ofNat (m % 64 + 0x80) && UInt8.ofNat (m % 64 + 0x80) ≤ high) =
      true := by
    simp only [UInt8.le_iff_toNat_le, hbyte, hlow, hhigh, decide_true, Bool.and_self]
  rw [takeContinuation, if_pos hwithin, hbyte, hbits]

theorem takeContinuation_inner (m n acc : Nat) (bs : List UInt8) :
    takeContinuation (n + 1) 0x80 0xbf acc (.ofNat (m % 64 + 0x80) :: bs) =
      ((takeContinuation n 0x80 0xbf (acc * 64 + m % 64) bs).1,
        (takeContinuation n 0x80 0xbf (acc * 64 + m % 64) bs).2 + 1) :=
  takeContinuation_cons (by change 128 ≤ _; omega) (by change _ ≤ 191; omega) n acc bs

/-! ## Characters -/

theorem decode_of_firstChar {b : UInt8} {tail bs : List UInt8} {c : Char}
    (h : firstChar b (tail ++ bs) = (some c, tail.length)) :
    decode (b :: tail ++ bs) = c :: decode bs := by
  rw [List.cons_append, decode, h]
  simp

theorem decode_utf8EncodeChar_append (c : Char) (bs : List UInt8) :
    decode (String.utf8EncodeChar c ++ bs) = c :: decode bs := by
  have hvalid : c.toNat < 0xd800 ∨ 0xdfff < c.toNat ∧ c.toNat < 0x110000 := c.valid
  have hchar : ∀ code, code = c.toNat → Char.ofNat code = c := by
    rintro _ rfl
    exact c.ofNat_toNat
  fun_cases String.utf8EncodeChar c with
  | case1 v hone =>
      change v ≤ 0x7f at hone
      have hlead := continuation_ofNat (b := v) (by omega)
      rw [if_pos (by omega)] at hlead
      apply decode_of_firstChar
      have hbits : leadBits 0 (.ofNat v) = v := toNat_ofNat_of_lt (by omega)
      rw [firstChar, hlead]
      simp only [takeContinuation_zero, hbits, Option.map_some, hchar v rfl, List.length_nil]
  | case2 v hone htwo =>
      change ¬v ≤ 0x7f at hone
      change v ≤ 0x7ff at htwo
      have hlead := continuation_ofNat (b := v / 64 % 32 + 0xc0) (by omega)
      rw [if_neg (by omega), if_pos (by omega)] at hlead
      have hbits : leadBits 1 (.ofNat (v / 64 % 32 + 0xc0)) = v / 64 := by
        rw [leadBits, toNat_ofNat_of_lt (by omega)]
        omega
      have hcode : v / 64 * 64 + v % 64 = v := by omega
      apply decode_of_firstChar
      rw [firstChar, hlead]
      simp only [List.cons_append, List.nil_append, takeContinuation_inner, takeContinuation_zero,
        hbits, hcode, Option.map_some, hchar v rfl, List.length_cons, List.length_nil]
  | case3 v hone htwo hthree =>
      change ¬v ≤ 0x7ff at htwo
      change v ≤ 0xffff at hthree
      obtain ⟨low, high, hlead, hlow, hhigh⟩ :=
        continuation_of_three (v := v) (by omega) (by omega) (hvalid.imp_right And.left)
      have hbits : leadBits 2 (.ofNat (v / 4096 % 16 + 0xe0)) = v / 4096 := by
        rw [leadBits, toNat_ofNat_of_lt (by omega)]
        omega
      have hcode : (v / 4096 * 64 + v / 64 % 64) * 64 + v % 64 = v := by omega
      apply decode_of_firstChar
      rw [firstChar, hlead]
      simp only [List.cons_append, List.nil_append, takeContinuation_cons hlow hhigh,
        takeContinuation_inner, takeContinuation_zero, hbits, hcode, Option.map_some, hchar v rfl,
        List.length_cons, List.length_nil]
  | case4 v hone htwo hthree =>
      change ¬v ≤ 0xffff at hthree
      have hlast : v < 0x110000 := by
        rcases hvalid with h | h
        · exact Nat.lt_trans h (by decide)
        · exact h.2
      obtain ⟨low, high, hlead, hlow, hhigh⟩ := continuation_of_four (v := v) (by omega) hlast
      have hbits : leadBits 3 (.ofNat (v / 262144 % 8 + 0xf0)) = v / 262144 := by
        rw [leadBits, toNat_ofNat_of_lt (by omega)]
        · omega
        all_goals decide
      have hcode : ((v / 262144 * 64 + v / 4096 % 64) * 64 + v / 64 % 64) * 64 + v % 64 = v := by
        omega
      apply decode_of_firstChar
      rw [firstChar, hlead]
      simp only [List.cons_append, List.nil_append, takeContinuation_cons hlow hhigh,
        takeContinuation_inner, takeContinuation_zero, hbits, hcode, Option.map_some, hchar v rfl,
        List.length_cons, List.length_nil]

theorem decode_flatMap_utf8EncodeChar_append (cs : List Char) (bs : List UInt8) :
    decode (cs.flatMap String.utf8EncodeChar ++ bs) = cs ++ decode bs := by
  induction cs with
  | nil => rfl
  | cons c cs ih =>
      rw [List.flatMap_cons, List.append_assoc, decode_utf8EncodeChar_append, ih, List.cons_append]

theorem decode_flatMap_utf8EncodeChar (cs : List Char) :
    decode (cs.flatMap String.utf8EncodeChar) = cs := by
  have h := decode_flatMap_utf8EncodeChar_append cs []
  rwa [List.append_nil, decode, List.append_nil] at h

theorem toList_toUTF8 (s : String) :
    s.toUTF8.data.toList = s.toList.flatMap String.utf8EncodeChar := by
  rw [← String.ofList_toList (s := s)]
  change (String.ofList s.toList).toByteArray.data.toList = _
  rw [String.toByteArray_ofList, List.utf8Encode, List.toList_data_toByteArray,
    String.toList_ofList]

theorem decodeBytes_toUTF8 (s : String) : decodeBytes s.toUTF8 = s := by
  rw [decodeBytes, toList_toUTF8, decode_flatMap_utf8EncodeChar, String.ofList_toList]

end ApiSurvey.Text
