/-!
# Rounding a quotient to the nearest whole number

`roundHalfEven num den` is the whole number nearest to `num / den`; a quotient halfway between
two of them goes to the even one. All rounding of doubles and decimals goes through it.
-/

set_option autoImplicit false

namespace Calculator

/-- The whole number nearest to `num / den`, a half going to the even neighbour. -/
def roundHalfEven (num den : Nat) : Nat :=
  let whole := num / den
  match compare (2 * (num % den)) den with
  | .lt => whole
  | .eq => whole + whole % 2
  | .gt => whole + 1

/-- The result is the quotient rounded down, or its successor. -/
theorem roundHalfEven_eq_or (num den : Nat) :
    roundHalfEven num den = num / den ∨ roundHalfEven num den = num / den + 1 := by
  unfold roundHalfEven
  split
  · exact Or.inl rfl
  · rcases Nat.mod_two_eq_zero_or_one (num / den) with h | h
    · exact Or.inl (by simp [h])
    · exact Or.inr (by simp [h])
  · exact Or.inr rfl

/-- A quotient without remainder is kept. -/
theorem roundHalfEven_of_mod_eq_zero {num den : Nat} (hden : 0 < den) (h : num % den = 0) :
    roundHalfEven num den = num / den := by
  have hlt : compare (2 * (num % den)) den = .lt := by
    rw [h]
    exact Nat.compare_eq_lt.mpr (by omega)
  simp [roundHalfEven, hlt]

end Calculator
