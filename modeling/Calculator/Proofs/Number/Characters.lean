import Calculator.Number.Layout
import Calculator.Proofs.Number.Written

/-!
# The characters of numbers

In any layout a double is written with digits, signs, a point and a few letters
(`Layout.isWrittenChar_writeFloat`). So a number ends in front of every other character.
-/

set_option autoImplicit false

namespace Calculator

/-- Digits, and the other characters with which numbers are written. -/
def isWrittenChar (c : Char) : Bool :=
  c.isDigit || ['.', '-', '+', 'e', 'n', 'a', 'i', 'f'].contains c

theorem isWrittenChar_of_isDigit {c : Char} (h : c.isDigit = true) : isWrittenChar c = true := by
  simp [isWrittenChar, h]

namespace Layout

variable {l : Layout} {digits : List Char}

theorem isWrittenChar_fraction (hdigits : ∀ c ∈ digits, c.isDigit = true) :
    ∀ c ∈ l.fraction digits, isWrittenChar c = true := by
  intro c hc
  cases digits with
  | nil =>
      cases hkeeps : l.keepsPoint with
      | true =>
          have hc : c ∈ ['.', '0'] := by simpa [fraction, hkeeps] using hc
          rcases List.mem_pair.mp hc with rfl | rfl <;> rfl
      | false => simp [fraction, hkeeps] at hc
  | cons d rest =>
      rcases List.mem_cons.mp hc with rfl | hrest
      · rfl
      · exact isWrittenChar_of_isDigit (hdigits c hrest)

theorem isWrittenChar_positional (hdigits : ∀ c ∈ digits, c.isDigit = true) (exponent : Int) :
    ∀ c ∈ l.positional digits exponent, isWrittenChar c = true := by
  intro c hc
  cases exponent with
  | ofNat e =>
      simp only [positional, List.mem_append] at hc
      rcases hc with (hwhole | hzero) | hfraction
      · exact isWrittenChar_of_isDigit (hdigits c (List.mem_of_mem_take hwhole))
      · exact isWrittenChar_of_isDigit (isDigit_of_mem_zeros hzero)
      · exact isWrittenChar_fraction (fun d hd => hdigits d (List.mem_of_mem_drop hd)) c hfraction
  | negSucc below =>
      simp only [positional, List.mem_append, List.mem_cons, List.cons_append] at hc
      rcases hc with rfl | rfl | hzero | hdigit
      · rfl
      · rfl
      · exact isWrittenChar_of_isDigit (isDigit_of_mem_zeros hzero)
      · exact isWrittenChar_of_isDigit (hdigits c hdigit)

theorem isWrittenChar_power (exponent : Int) : ∀ c ∈ power exponent, isWrittenChar c = true := by
  intro c hc
  simp only [power, List.cons_append, List.mem_cons, List.mem_append] at hc
  rcases hc with rfl | hzero | hdigit
  · split <;> rfl
  · exact isWrittenChar_of_isDigit (isDigit_of_mem_zeros hzero)
  · exact isWrittenChar_of_isDigit (Nat.isDigit_of_mem_toDigits (by decide) (by decide) hdigit)

theorem isWrittenChar_scientific (hdigits : ∀ c ∈ digits, c.isDigit = true) (exponent : Int) :
    ∀ c ∈ scientific digits exponent, isWrittenChar c = true := by
  intro c hc
  simp only [scientific, List.mem_append, List.mem_cons] at hc
  rcases hc with (hfirst | hfraction) | rfl | hpower
  · exact isWrittenChar_of_isDigit (hdigits c (List.mem_of_mem_take hfirst))
  · by_cases hshort : digits.length ≤ 1
    · simp [hshort] at hfraction
    · rw [if_neg hshort] at hfraction
      rcases List.mem_cons.mp hfraction with rfl | hrest
      · rfl
      · exact isWrittenChar_of_isDigit (hdigits c (List.mem_of_mem_drop hrest))
  · rfl
  · exact isWrittenChar_power exponent c hpower

theorem isWrittenChar_signed {magnitude : List Char} (negative : Bool)
    (h : ∀ c ∈ magnitude, isWrittenChar c = true) :
    ∀ c ∈ signed negative magnitude, isWrittenChar c = true := by
  intro c hc
  cases negative with
  | false => exact h c hc
  | true =>
      rcases List.mem_cons.mp hc with rfl | hmagnitude
      · rfl
      · exact h c hmagnitude

/-- A double is written with these characters, in any layout. -/
theorem isWrittenChar_writeFloat (l : Layout) (decimal : Nat → Decimal) (x : Float) :
    ∀ c ∈ l.writeFloat decimal x, isWrittenChar c = true := by
  rw [writeFloat]
  split
  · exact List.all_eq_true.mp rfl
  · exact isWrittenChar_signed _ (List.all_eq_true.mp rfl)
  · next negative bits _ =>
    have hdigits := fun c => isDigit_of_mem_significantDigits (d := decimal bits) (c := c)
    refine isWrittenChar_signed negative ?_
    rw [writeDecimal, write]
    split
    · exact isWrittenChar_positional hdigits _
    · exact isWrittenChar_scientific hdigits _

end Layout

end Calculator
