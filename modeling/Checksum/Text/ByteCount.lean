/-!
# Byte counts

A count below 1000 is written in full. A greater one is divided by a power of 1000 and written with
one decimal and a unit. The next unit is taken not at the next power of 1000 but near the next power
of 1024, at fixed counts; and the quotient is first rounded to 53 significant bits and only then to
the decimal, each time to the nearest value and to the even one of two as near.
-/

namespace Checksum.Text

/-- The nearest whole number to a quotient, and the even one of two as near. -/
def roundDiv (num den : Nat) : Nat :=
  let q := num / den
  let twice := 2 * (num % den)
  if twice < den then q
  else if den < twice then q + 1
  else q + q % 2

namespace ByteCount

def units : List String := ["KB", "MB", "GB", "TB", "PB", "EB"]

/-- The least counts for which the second, third and further units are taken. -/
def unitStarts : List Nat :=
  [1048577, 1073741826, 1099511629538, 1125899909097501, 1152921507377637248]

/-- The value with 53 significant bits that is nearest to a count. -/
def significant (n : Nat) : Nat :=
  let spare := Nat.log2 n - 52
  roundDiv n (Nat.pow 2 spare) * Nat.pow 2 spare

/-- The number of tenths in a quotient that is at least one, by way of 53 significant bits. -/
def tenths (num den : Nat) : Nat :=
  let places := 52 - Nat.log2 (num / den)
  roundDiv (10 * roundDiv (num * Nat.pow 2 places) den) (Nat.pow 2 places)

def render (n : Nat) : String :=
  if n < 1000 then toString n ++ " B"
  else
    let exponent := (unitStarts.takeWhile (· ≤ n)).length + 1
    let value := tenths (significant n) (Nat.pow 1000 exponent)
    toString (value / 10) ++ "." ++ toString (value % 10) ++ " " ++ units.getD (exponent - 1) ""

end ByteCount

end Checksum.Text
