import SignIn.Clock
import SignIn.Text.Padded

/-! Instants written as dates of the Gregorian calendar, which runs without end in both directions. -/

namespace SignIn

structure Date where
  year : Int
  month : Nat
  day : Nat
  deriving DecidableEq

/-- The date `n` days after the first of January 1970. Eras have 400 years, which begin in March. -/
def Date.ofDays (n : Int) : Date :=
  let z := n + 719468
  let era := z / 146097
  let dayOfEra := (z % 146097).toNat
  let yearOfEra := (dayOfEra - dayOfEra / 1460 + dayOfEra / 36524 - dayOfEra / 146096) / 365
  let dayOfYear := dayOfEra - (365 * yearOfEra + yearOfEra / 4 - yearOfEra / 100)
  let m := (5 * dayOfYear + 2) / 153
  let month := if m < 10 then m + 3 else m - 9
  let year := era * 400 + yearOfEra + if month ≤ 2 then 1 else 0
  ⟨year, month, dayOfYear - (153 * m + 2) / 5 + 1⟩

/-- Four digits at least; a sign outside the years 0 to 9999. -/
def Date.yearText (y : Int) : String :=
  if y < 0 then "-" ++ Text.padded 4 y.natAbs
  else if 9999 < y then "+" ++ Text.padded 4 y.natAbs
  else Text.padded 4 y.natAbs

def Instant.text (t : Int) : String :=
  let d := Date.ofDays (t / 86400000)
  let ms := (t % 86400000).toNat
  let s := ms / 1000
  let fraction := if ms % 1000 = 0 then "" else "." ++ Text.padded 3 (ms % 1000)
  Date.yearText d.year ++ "-" ++ Text.padded 2 d.month ++ "-" ++ Text.padded 2 d.day ++ "T" ++
    Text.padded 2 (s / 3600) ++ ":" ++ Text.padded 2 (s / 60 % 60) ++ ":" ++ Text.padded 2 (s % 60) ++ fraction ++ "Z"

end SignIn
