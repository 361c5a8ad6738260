import Calculator.Registry.Builtin

/-!
# Extensions of the built-in registry

Constants may be added to the built-in registry again and again. The functions stay the built-in ones
(`Registry.IsExtension.functions_eq`). Each of them stands in front of operations that can fault, and
where it is given as many arguments as it takes, it lets only one fault pass: `round` makes values
that are too large for a double (`Builtin.raised_iff`).
-/

set_option autoImplicit false

namespace Calculator

/-! ## Constants on top of the built-in ones -/

/-- The registry is the built-in one with constants added to it, any number of times. -/
inductive Registry.IsExtension : Registry → Prop
  | builtin : IsExtension .builtin
  | withConstants {r larger : Registry} {extra : List (String × Float)} :
      IsExtension r → r.withConstants extra = .ok larger → IsExtension larger

/-- Constants leave the functions as they are. -/
theorem Registry.functions_withConstants {r larger : Registry} {extra : List (String × Float)}
    (h : r.withConstants extra = .ok larger) : larger.functions = r.functions := by
  unfold withConstants at h
  split at h
  · cases h
    rfl
  · cases h

theorem Registry.IsExtension.functions_eq {r : Registry} (h : r.IsExtension) :
    r.functions = Builtin.functions := by
  induction h with
  | builtin => rfl
  | withConstants _ hlarger ih => rw [functions_withConstants hlarger, ih]

/-! ## Faults of the built-in functions -/

namespace Builtin

variable {arguments : List Float} {fault : Fault}

/-- An argument that was given is there. -/
theorem argument_of_lt {place : Nat} (h : place < arguments.length) :
    argument arguments place = .ok arguments[place] := by
  rw [argument, List.getElem?_eq_getElem h]

/-- Both refusals of the library are caught. -/
theorem ofLibrary_ne_raised (f : Float → Except MathFault Float) (h : 0 < arguments.length) :
    ofLibrary f arguments ≠ .error (.raised fault) := by
  rw [ofLibrary, argument_of_lt h]
  intro hraised
  rcases hvalue : f arguments[0] with (_ | _) | y <;>
    simp [bind, Except.bind, hvalue] at hraised

/-- A logarithm is asked for positive numbers only, and has one for each. -/
theorem ofPositive_eq (f : Float → Float) (h : 0 < arguments.length) :
    ofPositive (Library.ofPositive f) arguments =
      if Double.isZero arguments[0] || Double.isBelowZero arguments[0] then
        .error (.domain .notPositive)
      else .ok (f arguments[0]) := by
  rw [ofPositive, argument_of_lt h]
  change (if _ then _ else _) = _
  split
  · rfl
  · next hguard =>
      rw [Library.ofPositive, if_neg hguard]
      rfl

theorem ofPositive_ne_raised (f : Float → Float) (h : 0 < arguments.length) :
    ofPositive (Library.ofPositive f) arguments ≠ .error (.raised fault) := by
  rw [ofPositive_eq f h]
  split <;> simp

/-- A square root is asked for numbers that have one. -/
theorem squareRoot_eq (h : 0 < arguments.length) :
    squareRoot arguments =
      if Double.isBelowZero arguments[0] then .error (.domain .negative)
      else .ok arguments[0].sqrt := by
  rw [squareRoot, argument_of_lt h]
  change (if _ then _ else _) = _
  split
  · rfl
  · next hguard =>
      rw [Library.sqrt, if_neg hguard]
      rfl

theorem squareRoot_ne_raised (h : 0 < arguments.length) :
    squareRoot arguments ≠ .error (.raised fault) := by
  rw [squareRoot_eq h]
  split <;> simp

/-- A power is defined for all doubles. -/
theorem raise_eq_ok (host : Host) (h : 1 < arguments.length) :
    raise host arguments = .ok (host.power arguments[0] arguments[1]) := by
  rw [raise, argument_of_lt (Nat.lt_of_succ_lt h), argument_of_lt h]
  rfl

/-- The decimal places that `round` is asked for. -/
theorem digitsArgument_eq (arguments : List Float) :
    digitsArgument arguments = .ok (arguments.getD 1 0.0) := by
  unfold digitsArgument
  split
  · next h =>
      rw [argument_of_lt h, List.getD_eq_getElem?_getD, List.getElem?_eq_getElem h,
        Option.getD_some]
  · next h =>
      rw [List.getD_eq_getElem?_getD, List.getElem?_eq_none (Nat.not_lt.mp h), Option.getD_none]

/-- The whole part is taken of whole numbers only. -/
theorem round_eq (h : 0 < arguments.length) :
    round arguments =
      match Double.toInt? (arguments.getD 1 0.0) with
      | none => .error (.domain .fractionalDigits)
      | some places =>
          match roundToPlaces places arguments[0] with
          | some y => .ok y
          | none => .error (.raised .roundedTooLarge) := by
  rw [round, digitsArgument_eq, argument_of_lt h]
  generalize arguments.getD 1 0.0 = digits
  change (if !isWhole digits then _ else _) = _
  cases hplaces : Double.toInt? digits with
  | none =>
      have hfractional : isWhole digits = false := by rw [isWhole, hplaces, Option.isSome_none]
      rw [hfractional]
      rfl
  | some places =>
      have hwhole : isWhole digits = true := by rw [isWhole, hplaces, Option.isSome_some]
      rw [hwhole, wholePart_of_toInt? hplaces]
      rfl

/-- The arguments of `round` make a value that no double can hold. -/
def RoundsTooLarge (arguments : List Float) : Prop :=
  ∃ x places, arguments[0]? = some x ∧ Double.toInt? (arguments.getD 1 0.0) = some places ∧
    roundToPlaces places x = none

theorem round_eq_raised_iff (h : 0 < arguments.length) :
    round arguments = .error (.raised fault) ↔
      fault = .roundedTooLarge ∧ RoundsTooLarge arguments := by
  have hfirst : arguments[0]? = some arguments[0] := List.getElem?_eq_getElem h
  rw [round_eq h, RoundsTooLarge, hfirst]
  generalize arguments.getD 1 0.0 = digits
  cases hplaces : Double.toInt? digits with
  | none => simp
  | some places =>
      cases hround : roundToPlaces places arguments[0] with
      | none => simp [hround, eq_comm]
      | some y => simp [hround]

/-- Every built-in function takes an argument. -/
theorem least_pos : ∀ f ∈ functions, 1 ≤ f.arity.least := by
  simp [functions]

/-- Given as many arguments as it takes, a built-in function raises no fault but one: a value that
`round` makes too large. -/
theorem raised_iff {f : Function} (hf : f ∈ functions)
    (harity : f.arity.accepts arguments.length = true) (host : Host) :
    f.apply host arguments = .error (.raised fault) ↔
      fault = .roundedTooLarge ∧ f.name = "round" ∧ RoundsTooLarge arguments := by
  have hleast : 1 ≤ f.arity.least := least_pos f hf
  have hfirst : 0 < arguments.length := by
    simp only [Arity.accepts, Bool.and_eq_true, decide_eq_true_eq] at harity
    omega
  simp only [functions, List.mem_cons, List.not_mem_nil, or_false] at hf
  rcases hf with rfl | rfl | rfl | rfl | rfl | rfl | rfl | rfl | rfl | rfl
  · simp [ofLibrary_ne_raised _ hfirst]
  · simp [ofLibrary_ne_raised _ hfirst]
  · simp [ofLibrary_ne_raised _ hfirst]
  · simp [ofPositive_ne_raised _ hfirst]
  · simp [ofPositive_ne_raised _ hfirst]
  · simp [ofLibrary_ne_raised _ hfirst]
  · simp [squareRoot_ne_raised hfirst]
  · simp [ofLibrary_ne_raised _ hfirst]
  · have hsecond : 1 < arguments.length := by
      simp only [Arity.accepts, Bool.and_eq_true, decide_eq_true_eq] at harity
      omega
    simp [raise_eq_ok host hsecond]
  · simp [round_eq_raised_iff hfirst]

end Builtin

end Calculator
