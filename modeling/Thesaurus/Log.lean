/-!
Log notes: what the program reports on its way, each at a level of detail. A run shows the
notes at or above the level it is given.
-/

namespace Thesaurus

/-- The levels of notes, from the most to the least urgent. -/
inductive Level where
  | error
  | warn
  | info
  | debug
deriving DecidableEq, Repr, Inhabited

/-- The rank of a level: 0 for errors up to 3 for detail. -/
def Level.rank : Level → Nat
  | .error => 0
  | .warn => 1
  | .info => 2
  | .debug => 3

/-- The name of a level in a log line. -/
def Level.name : Level → String
  | .error => "ERROR"
  | .warn => "WARN"
  | .info => "INFO"
  | .debug => "DEBUG"

/-- A note at a level. -/
structure Note where
  level : Level
  text : String
deriving Repr, Inhabited

/-- The log line of a note: its level in brackets, a blank, its text. -/
def Note.line (n : Note) : String :=
  "[" ++ n.level.name ++ "] " ++ n.text

/-- The digits of the fraction `frac / (10 * unit)`, one per power of ten from `unit` down,
stopping when nothing remains; `fuel` bounds their number. -/
def fractionDigits : Nat → Nat → Nat → List Char
  | 0, _, _ => []
  | fuel + 1, frac, unit =>
    if frac = 0 ∨ unit = 0 then []
    else Char.ofNat (48 + frac / unit) :: fractionDigits fuel (frac % unit) (unit / 10)

/-- A whole part, a point and the digits of the fraction if any remain, and a unit. -/
def decimalText (whole frac unit : Nat) (suffix : String) : String :=
  let digits := fractionDigits 9 frac unit
  toString whole ++ (if digits.isEmpty then "" else "." ++ String.ofList digits) ++ suffix

/-- A duration given in nanoseconds, in the largest unit it reaches — seconds, milliseconds,
microseconds or nanoseconds — with the exact fraction that remains and no zero ending it:
`1.5ms`, `12µs`, `0ns`. -/
def durationText (nanos : Nat) : String :=
  let secs := nanos / 1000000000
  let sub := nanos % 1000000000
  if 0 < secs then decimalText secs sub 100000000 "s"
  else if 1000000 ≤ sub then decimalText (sub / 1000000) (sub % 1000000) 100000 "ms"
  else if 1000 ≤ sub then decimalText (sub / 1000) (sub % 1000) 100 "µs"
  else decimalText sub 0 1 "ns"

end Thesaurus
