/-!
# Time stamps

A moment is counted in microseconds from the start of 1970 and written as a date and a time of day
in universal time.
-/

namespace ApiSurvey.Command

structure Day where
  year : Nat
  month : Nat
  day : Nat
  deriving DecidableEq, Repr

/-- The day that lies `days` days after the first of January 1970. Years are taken to begin in
March, so that the leap day is the last of its year; 400 of them have 146097 days. -/
def Day.ofCount (days : Nat) : Day :=
  let shifted := days + 719468
  let era := shifted / 146097
  let inEra := shifted % 146097
  let yearInEra := (inEra - inEra / 1460 + inEra / 36524 - inEra / 146096) / 365
  let inYear := inEra - (365 * yearInEra + yearInEra / 4 - yearInEra / 100)
  let month := (5 * inYear + 2) / 153
  let day := inYear - (153 * month + 2) / 5 + 1
  let year := yearInEra + era * 400
  if month < 10 then ⟨year, month + 3, day⟩ else ⟨year + 1, month - 9, day⟩

example : Day.ofCount 0 = ⟨1970, 1, 1⟩ := by decide
example : Day.ofCount 19782 = ⟨2024, 2, 29⟩ := by decide
example : Day.ofCount 19783 = ⟨2024, 3, 1⟩ := by decide

/-- A number with leading zeros up to a width. -/
def zeroPadded (width n : Nat) : String :=
  let digits := toString n
  String.ofList (List.replicate (width - digits.length) '0') ++ digits

/-- The text of a moment; a fraction of zero is left out. -/
def timeStamp (microseconds : Nat) : String :=
  let seconds := microseconds / 1000000
  let fraction := microseconds % 1000000
  let d := Day.ofCount (seconds / 86400)
  let inDay := seconds % 86400
  zeroPadded 4 d.year ++ "-" ++ zeroPadded 2 d.month ++ "-" ++ zeroPadded 2 d.day ++ "T" ++
    zeroPadded 2 (inDay / 3600) ++ ":" ++ zeroPadded 2 (inDay / 60 % 60) ++ ":" ++
    zeroPadded 2 (inDay % 60) ++
    (if fraction == 0 then "" else "." ++ zeroPadded 6 fraction) ++ "+00:00"

end ApiSurvey.Command
