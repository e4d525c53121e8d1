/-!
# Cutting a text at a character

Pieces between separators, and the parts before and after the first or last occurrence of a
character.
-/

namespace ApiSurvey.Text

/-- The pieces between the occurrences of `sep`; a text without `sep` is one piece. -/
def pieces (sep : Char) : List Char → List (List Char)
  | [] => [[]]
  | c :: cs =>
      if c == sep then [] :: pieces sep cs
      else
        match pieces sep cs with
        | [] => [[c]]
        | p :: ps => (c :: p) :: ps

/-- What stands before the first `sep`; the whole text when there is none. -/
def beforeFirst (sep : Char) (cs : List Char) : List Char :=
  cs.takeWhile (· != sep)

/-- What stands after the first `sep`; nothing when there is none. -/
def afterFirst (sep : Char) (cs : List Char) : List Char :=
  (cs.dropWhile (· != sep)).drop 1

/-- What stands before the last `sep`; nothing when there is none. -/
def beforeLast (sep : Char) (cs : List Char) : List Char :=
  ((cs.reverse.dropWhile (· != sep)).drop 1).reverse

/-- What stands after the last `sep`; the whole text when there is none. -/
def afterLast (sep : Char) (cs : List Char) : List Char :=
  (cs.reverse.takeWhile (· != sep)).reverse

def lastPart (sep : Char) (s : String) : String :=
  String.ofList (afterLast sep s.toList)

/-- Whether `part` occurs in the text as a contiguous piece. -/
def occursIn (part : List Char) : List Char → Bool
  | [] => part.isEmpty
  | c :: cs => part.isPrefixOf (c :: cs) || occursIn part cs

theorem length_le_of_mem_pieces {sep : Char} {cs p : List Char} (h : p ∈ pieces sep cs) :
    p.length ≤ cs.length := by
  induction cs generalizing p with
  | nil =>
    simp only [pieces, List.mem_singleton] at h
    simp [h]
  | cons c cs ih =>
    unfold pieces at h
    split at h
    · rcases List.mem_cons.1 h with rfl | h
      · simp
      · have := ih h
        simp only [List.length_cons]
        omega
    · split at h
      · simp only [List.mem_singleton] at h
        simp [h]
      · rename_i q qs hq
        rcases List.mem_cons.1 h with rfl | h
        · have := ih (p := q) (by simp [hq])
          simp only [List.length_cons]
          omega
        · have := ih (p := p) (by simp [hq, h])
          simp only [List.length_cons]
          omega

end ApiSurvey.Text
