import Calculator.Number.Layout

/-!
# Rounding to decimal places

`roundToPlaces places x` is the double nearest to the multiple of `10 ^ -places` that is nearest
to `x`, where a half goes to the even multiple. Negative places round to tens, hundreds and so on.
-/

set_option autoImplicit false

namespace Calculator

/-- The grids between the one on which every double is zero and the one on which every double is
told from its neighbours. Rounding to a coarser or finer grid gives the same as to the ends. -/
def usefulPlaces (places : Int) : Int := max (-309) (min 324 places)

/-- A double rounded to a number of decimal places, with its sign kept; `none` if the result is
beyond the largest double. Infinities and missing numbers are kept. -/
def roundToPlaces (places : Int) (x : Float) : Option Float :=
  match Double.ofFloat x with
  | .finite negative bits =>
      let rounded := (nearestOnGrid (Double.units bits) (-usefulPlaces places)).bits
      if rounded < Double.infinityBits then some (Double.withSign negative rounded) else none
  | _ => some x

end Calculator
