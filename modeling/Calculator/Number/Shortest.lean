import Calculator.Number.Grid

/-!
# The shortest decimal of a double

`shortest bits` is a decimal that reads back as the double with that pattern. For one digit, two
digits and so on the two neighbours of the magnitude on that grid are tried, the nearer one first;
the first that reads back is taken. Seventeen digits always suffice; the exact value stands last so
that the function need not rely on it.
-/

set_option autoImplicit false

namespace Calculator

/-- The two grid points around a magnitude, the nearer one first. -/
def neighbours (units : Nat) (k : Int) : List Decimal :=
  let near := nearestOnGrid units k
  let below := (gridRatio units k).1 / (gridRatio units k).2
  -- `near` is `below` or `below + 1`; the difference is the other one of the two
  [near, ⟨2 * below + 1 - near.coefficient, k⟩]

/-- The decimal with the fewest digits that reads back as the double with the given pattern, and
among these the nearest to it. -/
def shortest (bits : Nat) : Decimal :=
  let units := Double.units bits
  let first := leadingExponent units
  let onGrid := fun n : Nat => (neighbours units (first - n)).find? (·.bits = bits)
  ((List.range 17).findSome? onGrid).getD (exactDecimal units)

/-- Reading undoes `shortest`, provided that it undoes `exactDecimal`. -/
theorem bits_shortest {bits : Nat} (hexact : (exactDecimal (Double.units bits)).bits = bits) :
    (shortest bits).bits = bits := by
  unfold shortest
  cases hs : (List.range 17).findSome? (fun n : Nat =>
      (neighbours (Double.units bits) (leadingExponent (Double.units bits) - n)).find?
        (·.bits = bits)) with
  | none => simpa [hs] using hexact
  | some d =>
      obtain ⟨n, _, hn⟩ := List.exists_of_findSome?_eq_some hs
      have hd := List.find?_some hn
      simpa [hs] using hd

end Calculator
