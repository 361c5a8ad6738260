import Calculator.Proofs.Evaluation.FlatChains
import Calculator.Proofs.Expr.RoundTrip
import Calculator.Proofs.Number.ReadBack

/-!
# Calculating written numbers

The text of a double is a source too. If the double is zero or in the range in which numbers are
written positionally, calculating its text gives that double, bit for bit: the text is a numeral,
with a sign in front of it if the double has one, and `-` turns the sign of every double, of a zero
as well. No other double has a text that is an expression. The letter `e` of a power of ten comes
right after a numeral, and no beginning of `inf` or `nan` is a built-in name, so that the text is
refused wherever names are cut (`calculate_floatText`).
-/

set_option autoImplicit false

namespace Calculator

variable {host : Host}

/-- A zero, or a double of either sign with a magnitude from `1 / 10 ^ 4` to below `10 ^ 16`. -/
def Double.IsWrittenOut (x : Float) : Prop :=
  ∃ negative bits, ofFloat x = .finite negative bits ∧ IsPlain bits

/-! ## The tree of a written number -/

/-- A magnitude, with a sign in front of it if it is negative. -/
def Expr.signedNumber (negative : Bool) (bits : Nat) : Expr :=
  if negative then .unary .neg (.number (Double.withSign false bits))
  else .number (Double.withSign false bits)

namespace Expr

variable {v : Vocabulary} {x : Float} {negative : Bool} {bits : Nat}

/-- A finite double and its tree have one text. -/
theorem print_signedNumber (hx : Double.ofFloat x = .finite negative bits) :
    (signedNumber negative bits).print = floatText x := by
  rw [print, floatText, floatChars_eq_signed hx]
  cases negative <;> rfl

theorem isPrintable_signedNumber (negative : Bool) (hbits : bits < Double.infinityBits) :
    (signedNumber negative bits).IsPrintable v := by
  have hnumber : (number (Double.withSign false bits)).IsPrintable v :=
    .number (Double.ofFloat_withSign false hbits)
  cases negative with
  | false => exact hnumber
  | true => exact .unary rfl hnumber

theorem literals_signedNumber (negative : Bool) (bits : Nat) :
    (signedNumber negative bits).literals = [Double.withSign false bits] := by
  cases negative <;> rfl

theorem isPlain_signedNumber (negative : Bool) (hbits : bits < Double.infinityBits)
    (hplain : Double.IsPlain bits) : (signedNumber negative bits).IsPlain := by
  intro value hvalue negative' bits' hbits'
  rw [literals_signedNumber, List.mem_singleton] at hvalue
  rw [hvalue, Double.ofFloat_withSign false hbits] at hbits'
  cases hbits'
  exact hplain

/-- A sign opens a level. -/
theorem nesting_signedNumber (conventional negative : Bool) (bits : Nat) :
    (signedNumber negative bits).nesting conventional = negative.toNat := by
  cases negative <;> rfl

/-- A sign is one level above its number. -/
theorem depths_signedNumber_le (negative : Bool) (bits : Nat) :
    ∀ d ∈ (signedNumber negative bits).depths 1, d ≤ 2 := by
  cases negative with
  | false => simp [signedNumber, depths]
  | true => simp [signedNumber, depths]

end Expr

/-! ## Positional numbers -/

/-- The sign in front of an operand turns the sign of its value. -/
theorem Yields.neg {registry : Registry} {e : Expr} {value : Float}
    (h : Yields host registry e (.ok value)) :
    Yields host registry (.unary .neg e) (.ok (-value)) := by
  intro limit depth
  rw [evaluatePlainly]
  rcases checkDepth_bind_wentTooDeep_or_eq limit depth with hdeep | hentered
  · exact Or.inl hdeep
  · rw [hentered]
    exact Run.bind_wentTooDeep_or_eq (h limit (depth + 1)) fun _ => Or.inr rfl

theorem yields_signedNumber (registry : Registry) (negative : Bool) {bits : Nat}
    (hbits : bits < Double.infinityBits) :
    Yields host registry (.signedNumber negative bits) (.ok (Double.withSign negative bits)) := by
  have hnumber := Yields.number host registry (Double.withSign false bits)
  cases negative with
  | false => exact hnumber
  | true =>
      have hneg := Yields.neg hnumber
      rw [Double.neg_withSign false hbits.le] at hneg
      exact hneg

variable {settings : Settings} {x : Float}

/-- The text of a double in the positional range is read as its sign and its magnitude. -/
theorem parse_floatText (registry : Registry) {negative : Bool} {bits : Nat}
    (hx : Double.ofFloat x = .finite negative bits) (hplain : Double.IsPlain bits)
    (hnesting : 1 ≤ settings.nestingLimit) :
    parse host registry settings (floatText x) = .ok (.signedNumber negative bits) := by
  obtain ⟨hbits, -⟩ := Double.toBits_of_ofFloat hx
  have hprintable : (Expr.signedNumber negative bits).IsPrintable ⟨registry, settings.nameLimit⟩ :=
    Expr.isPrintable_signedNumber negative hbits
  obtain ⟨hnests, hwhole⟩ := Expr.nests_ofSource_print settings.conventionalPower hprintable
    (Expr.isPlain_signedNumber negative hbits hplain)
  rw [Expr.print_signedNumber hx] at hnests hwhole
  have hlevels : (Expr.signedNumber negative bits).nesting settings.conventionalPower ≤ 1 := by
    rw [Expr.nesting_signedNumber]
    exact Bool.toNat_le negative
  refine parse_eq_ok_of_nests hnests hwhole ?_ ?_
  · rw [exceeds_eq_false_iff]
    omega
  · have hlevel : (1 : Int) ≤ host.levels := Int.le_trans (by decide) host.nestingCeiling_le
    rw [exceeds_eq_false_iff]
    omega

/-! ## Other numbers -/

/-- A cut name is a beginning of the name. -/
theorem exists_cutName_eq_take (limit : Int) (name : List Char) :
    ∃ k ≤ name.length, cutName limit name = name.take k := by
  cases limit with
  | ofNat n =>
      refine ⟨min n name.length, Nat.min_le_right _ _, ?_⟩
      rw [cutName, ← List.take_eq_take_min]
  | negSucc n => exact ⟨name.length - (n + 1), Nat.sub_le _ _, rfl⟩

/-- The words for doubles that no decimal stands for. -/
def wordsForDoubles : List (List Char) := [['i', 'n', 'f'], ['n', 'a', 'n']]

theorem isName_word : ∀ word ∈ wordsForDoubles, isName word = true := by decide

/-- No built-in name is a beginning of these words. -/
theorem not_isRegistered_take_word : ∀ word ∈ wordsForDoubles, ∀ k ≤ word.length,
    Registry.builtin.isConstant (String.ofList (word.take k)) = false ∧
      Registry.builtin.isFunction (String.ofList (word.take k)) = false := by
  decide +kernel

theorem stumbles_word (limit : Int) {word : List Char} (h : word ∈ wordsForDoubles) :
    Stumbles ⟨Registry.builtin, limit⟩ word := by
  obtain ⟨k, hk, hcut⟩ := exists_cutName_eq_take limit word
  obtain ⟨hconstant, hfunction⟩ := not_isRegistered_take_word word h k hk
  have hcause : Vocabulary.classify ⟨Registry.builtin, limit⟩ word =
      .error (.unknownName (String.ofList (word.take k))) := by
    rw [Vocabulary.classify_eq, Vocabulary.cut, hcut, hconstant, hfunction]
    rfl
  have hstumbles := Stumbles.unknown (isName_word word h) hcause isBoundary_nil
  rwa [List.append_nil] at hstumbles

theorem Stumbles.signed {v : Vocabulary} {text : List Char} (negative : Bool)
    (h : Stumbles v text) : Stumbles v (Layout.signed negative text) := by
  cases negative with
  | false => exact h
  | true => exact Stumbles.of_lexes (Lexes.operator .minus text) h

/-- The text of a double that is not written positionally is no expression. -/
theorem stumbles_floatChars (limit : Int) (h : ¬ Double.IsWrittenOut x) :
    Stumbles ⟨Registry.builtin, limit⟩ (floatChars x) := by
  cases hx : Double.ofFloat x with
  | nan =>
      rw [floatChars, Layout.writeFloat, hx]
      exact stumbles_word limit (by decide)
  | infinite negative =>
      rw [floatChars, Layout.writeFloat, hx]
      exact Stumbles.signed negative (stumbles_word limit (by decide))
  | finite negative bits =>
      have hplain : ¬ Double.IsPlain bits := fun hplain => h ⟨negative, bits, hx, hplain⟩
      obtain ⟨hbits, -⟩ := Double.toBits_of_ofFloat hx
      -- `e` is a constant, but no name may stand right behind a number
      obtain ⟨numeral, power, htext, hne, hall⟩ :=
        floatChars_of_not_isPlain (Double.ofFloat_withSign false hbits) hplain
      rw [floatChars_eq_signed hx, htext]
      exact Stumbles.signed negative (Stumbles.numeral hall hne rfl power)

/-! ## Both together -/

/-- With the built-in names, in either grammar and wherever names are cut: the text of a double that
is zero or in the positional range has that double as its value, with the same bits, and the text of
any other double is refused before anything is evaluated. A level of nesting and two of depth are
enough. -/
theorem calculate_floatText (host : Host) (settings : Settings) (x : Float)
    (hnesting : 1 ≤ settings.nestingLimit) (hdepth : 2 ≤ settings.depthLimit) :
    (Double.IsWrittenOut x →
      calculate host Registry.builtin settings (floatText x) = (.ok x, [])) ∧
    (¬ Double.IsWrittenOut x →
      ∃ cause, calculate host Registry.builtin settings (floatText x) =
        (.error (.parse cause), [])) := by
  constructor
  · rintro ⟨negative, bits, hx, hplain⟩
    obtain ⟨hbits, -⟩ := Double.toBits_of_ofFloat hx
    have hevaluate := (yields_signedNumber Registry.builtin negative hbits).evaluate_eq
      (Expr.depths_signedNumber_le negative bits) hdepth
      (Int.le_trans (by decide) host.depthCeiling_le)
    rw [calculate_of_ok (parse_floatText Registry.builtin hx hplain hnesting), hevaluate,
      Double.withSign_of_ofFloat hx]
    rfl
  · intro h
    have hstumbles : Stumbles ⟨Registry.builtin, settings.nameLimit⟩ (floatText x).toList := by
      rw [floatText, String.toList_ofList]
      exact stumbles_floatChars settings.nameLimit h
    obtain ⟨cause, hcause⟩ := exists_parse_error_of_stumbles hstumbles
    exact ⟨cause, calculate_of_error hcause⟩

/-- A negative zero comes back with its sign under the smallest limits, and `10 ^ 16` is refused. -/
theorem calculate_floatText_negative_zero :
    (1 : Int) ≤ 1 ∧ (2 : Int) ≤ 2 ∧
      calculate .standard Registry.builtin ⟨1, 2, 1, true⟩ "-0.0" =
        (.ok (Double.withSign true 0), []) ∧
      ∃ cause, calculate .standard Registry.builtin ⟨1, 2, 1, true⟩ "1e+16" =
        (.error (.parse cause), []) := by
  have hzero : floatText (Double.withSign true 0) = "-0.0" := by decide +kernel
  have hlarge : floatText (Double.withSign false 0x4341c37937e08000) = "1e+16" := by decide +kernel
  have hvalue : Double.ofFloat (Double.withSign false 0x4341c37937e08000) =
      .finite false 0x4341c37937e08000 := Double.ofFloat_withSign false (by decide)
  have hwritten : Double.IsWrittenOut (Double.withSign true 0) :=
    ⟨true, 0, Double.ofFloat_withSign true (by decide), Or.inl rfl⟩
  have hnot : ¬ Double.IsWrittenOut (Double.withSign false 0x4341c37937e08000) := by
    rintro ⟨negative, bits, hbits, hplain⟩
    cases hvalue.symm.trans hbits
    have hpositional := (isPositional_shortest_iff (by decide)).mpr hplain
    revert hpositional
    decide +kernel
  refine ⟨by decide, by decide, ?_, ?_⟩
  · rw [← hzero]
    exact (calculate_floatText .standard ⟨1, 2, 1, true⟩ _ (by decide) (by decide)).1 hwritten
  · rw [← hlarge]
    exact (calculate_floatText .standard ⟨1, 2, 1, true⟩ _ (by decide) (by decide)).2 hnot

end Calculator
