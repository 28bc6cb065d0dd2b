/-!
# Decimal text of integers

An integer is written in decimal only if it has at most a fixed number of digits;
there is no such bound on the integers themselves.
-/

namespace ReleaseNotes.Text

/-- How many decimal digits are read or written at most. -/
def digitLimit : Nat := 4300

/-- Whether an integer has few enough digits to be written in decimal. -/
def fitsDecimal (n : Int) : Bool :=
  n.natAbs < Nat.pow 10 digitLimit

/-- The decimal text of an integer, if it has few enough digits. -/
def decimal? (n : Int) : Option String :=
  if fitsDecimal n then some (toString n) else none

end ReleaseNotes.Text
