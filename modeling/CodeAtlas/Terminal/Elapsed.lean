/-!
# Elapsed time

How long something took, in whole numbers of the largest unit that it took about one and a half of.
Seconds, the smallest unit, are also used for less.
-/

namespace CodeAtlas.Terminal

structure TimeUnit where
  name : String
  milliseconds : Nat
  deriving DecidableEq, Repr

def second : TimeUnit := ⟨"second", 1000⟩

/-- The units above the second, each with the one below it, the largest first. -/
def largeUnits : List (TimeUnit × TimeUnit) :=
  let minute : TimeUnit := ⟨"minute", 60 * 1000⟩
  let hour : TimeUnit := ⟨"hour", 60 * 60 * 1000⟩
  let day : TimeUnit := ⟨"day", 24 * 60 * 60 * 1000⟩
  let week : TimeUnit := ⟨"week", 7 * 24 * 60 * 60 * 1000⟩
  let year : TimeUnit := ⟨"year", 365 * 24 * 60 * 60 * 1000⟩
  [(year, week), (week, day), (day, hour), (hour, minute), (minute, second)]

/-- Whether a time is one and a half of a unit, or short of that by half of the unit below at most. -/
def fits (milliseconds : Nat) (units : TimeUnit × TimeUnit) : Bool :=
  units.1.milliseconds + units.1.milliseconds / 2 ≤ milliseconds + units.2.milliseconds / 2

def elapsedText (milliseconds : Nat) : String :=
  let rounded (unit : TimeUnit) : Nat :=
    (milliseconds + unit.milliseconds / 2) / unit.milliseconds
  let (count, unit) :=
    match largeUnits.find? (fits milliseconds) with
    | some (unit, _) => (max (rounded unit) 2, unit)
    | none => (rounded second, second)
  toString count ++ " " ++ unit.name ++ if count = 1 then "" else "s"

end CodeAtlas.Terminal
