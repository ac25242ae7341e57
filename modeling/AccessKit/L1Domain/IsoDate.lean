import AccessKit.L1Domain.Js

/-!
# `new Date(time).toISOString()`

The way back from a time value to a text, on the same calendar as `daysFromCivil`. A
time value that is out of range has no text: the source throws.
-/
namespace AccessKit.L1

/-- Year, month and day of a day from 1970-01-01, in the proleptic Gregorian calendar. -/
def civilFromDays (day : Int) : Int × Nat × Nat :=
  let z := day + 719468
  let era := z / 146097
  let doe := (z - era * 146097).toNat
  let yoe := (doe - doe / 1460 + doe / 36524 - doe / 146096) / 365
  let doy := doe - (365 * yoe + yoe / 4 - yoe / 100)
  let mp := (5 * doy + 2) / 153
  let d := doy - (153 * mp + 2) / 5 + 1
  let m := if mp < 10 then mp + 3 else mp - 9
  ((yoe : Int) + era * 400 + (if m ≤ 2 then 1 else 0), m, d)

/-- The decimal digits of a number, with zeros in front. -/
def padded (width n : Nat) : String :=
  let digits := toString n
  String.ofList (List.replicate (width - digits.length) '0') ++ digits

/-- Four digits, or a sign and six. -/
def yearText (y : Int) : String :=
  if 0 ≤ y ∧ y ≤ 9999 then padded 4 y.toNat
  else (if y < 0 then "-" else "+") ++ padded 6 y.natAbs

/-- `new Date(time).toISOString()` on a time value in range. -/
def toISOString (time : Int) : String :=
  let day := time / 86400000
  let ms := (time - day * 86400000).toNat
  let (y, m, d) := civilFromDays day
  yearText y ++ "-" ++ padded 2 m ++ "-" ++ padded 2 d ++ "T" ++ padded 2 (ms / 3600000) ++ ":" ++
    padded 2 (ms / 60000 % 60) ++ ":" ++ padded 2 (ms / 1000 % 60) ++ "." ++ padded 3 (ms % 1000) ++
    "Z"

/-- The time value of a number: its whole part, in range. -/
def timeClip (time : Rat) : Option Int :=
  if -(maxTime : Rat) ≤ time ∧ time ≤ (maxTime : Rat) then
    some (if 0 ≤ time then time.floor else time.ceil)
  else none

example : toISOString 1767225600000 = "2026-01-01T00:00:00.000Z" := by decide +kernel

end AccessKit.L1
