/-!
# Moments

A moment is a number of nanoseconds since the start of 1970, in universal time.
-/

namespace ScriptSandbox

structure Moment where
  nanoseconds : Nat
deriving DecidableEq, Repr, Inhabited

namespace Moment

def milliseconds (m : Moment) : Nat := m.nanoseconds / 1000000

def seconds (m : Moment) : Nat := m.nanoseconds / 1000000000

/-- Year, month and day of a number of days since the start of 1970. Years are counted from March
on, in cycles of 400. -/
def civil (days : Nat) : Nat × Nat × Nat :=
  let shifted := days + 719468
  let cycle := shifted / 146097
  let dayOfCycle := shifted % 146097
  let yearOfCycle :=
    (dayOfCycle - dayOfCycle / 1460 + dayOfCycle / 36524 - dayOfCycle / 146096) / 365
  let dayOfYear := dayOfCycle - (365 * yearOfCycle + yearOfCycle / 4 - yearOfCycle / 100)
  let shiftedMonth := (5 * dayOfYear + 2) / 153
  let day := dayOfYear - (153 * shiftedMonth + 2) / 5 + 1
  let month := if shiftedMonth < 10 then shiftedMonth + 3 else shiftedMonth - 9
  let year := 400 * cycle + yearOfCycle + (if month ≤ 2 then 1 else 0)
  (year, month, day)

/-- A number with zeros before it, of at least this many digits. -/
def padded (width n : Nat) : String :=
  let digits := toString n
  String.ofList (List.replicate (width - digits.length) '0') ++ digits

def date (m : Moment) : Nat × Nat × Nat := civil (m.seconds / 86400)

/-- Hour, minute and second. -/
def clock (m : Moment) : Nat × Nat × Nat :=
  let s := m.seconds % 86400
  (s / 3600, s / 60 % 60, s % 60)

/-- The part below a second, in as many groups of three digits as it needs. -/
def fraction (m : Moment) : String :=
  let n := m.nanoseconds % 1000000000
  if n = 0 then ""
  else if n % 1000000 = 0 then "." ++ padded 3 (n / 1000000)
  else if n % 1000 = 0 then "." ++ padded 6 (n / 1000)
  else "." ++ padded 9 n

def dateText (m : Moment) : String :=
  let (year, month, day) := m.date
  "-".intercalate [padded 4 year, padded 2 month, padded 2 day]

def clockText (m : Moment) : String :=
  let (hour, minute, second) := m.clock
  ":".intercalate [padded 2 hour, padded 2 minute, padded 2 second]

def iso (m : Moment) : String := m.dateText ++ "T" ++ m.clockText ++ m.fraction ++ "+00:00"

/-- Date and time for the name of a file. -/
def stamp (m : Moment) : String :=
  let (year, month, day) := m.date
  let (hour, minute, second) := m.clock
  padded 4 year ++ padded 2 month ++ padded 2 day ++ "_" ++ padded 2 hour ++ padded 2 minute ++
    padded 2 second

def later (m : Moment) (milliseconds : Nat) : Moment := ⟨m.nanoseconds + 1000000 * milliseconds⟩

end Moment

end ScriptSandbox
