/-!
Sets of characters given by lengths: those of the stretches outside and inside the set, alternating
in order of code point and beginning outside. A text writes them in base 16.
-/

namespace Stepwise.Text

/-- The value of a base-16 digit; any other character counts as zero. -/
def hexDigit (c : Char) : Nat :=
  if '0' ≤ c ∧ c ≤ '9' then c.toNat - '0'.toNat
  else if 'a' ≤ c ∧ c ≤ 'f' then c.toNat - 'a'.toNat + 10
  else 0

/-- The number that a run of base-16 digits writes. -/
def hexValue (digits : List Char) : Nat :=
  digits.foldl (fun n c => 16 * n + hexDigit c) 0

/-- A set of characters. A code point lies in it when an odd number of bounds are at or below it. -/
structure Runs where
  bounds : Array Nat

namespace Runs

/-- Where stretches of the given lengths end, one after the other. -/
def ends (start : Nat) : List Nat → List Nat
  | [] => []
  | n :: rest => (start + n) :: ends (start + n) rest

/-- The set whose bounds are where the stretches end. -/
def ofLengths (lengths : List Nat) : Runs := ⟨(ends 0 lengths).toArray⟩

def ofText (lengths : String) : Runs := ofLengths ((lengths.toList.splitOn ' ').map hexValue)

/-- How many bounds are at or below the code point, looked for between `low` and `high`. -/
def rank (bounds : Array Nat) (code : Nat) : Nat → Nat → Nat → Nat
  | 0, low, _ => low
  | fuel + 1, low, high =>
    if high ≤ low then low
    else
      let middle := (low + high) / 2
      if (bounds[middle]?.getD 0) ≤ code then rank bounds code fuel (middle + 1) high
      else rank bounds code fuel low middle

def contains (runs : Runs) (c : Char) : Bool :=
  rank runs.bounds c.toNat (runs.bounds.size + 1) 0 runs.bounds.size % 2 == 1

end Runs

end Stepwise.Text
