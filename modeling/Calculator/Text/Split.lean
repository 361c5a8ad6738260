/-!
# Splitting texts

`splitWhere p text` cuts a text at every character of a class, and leaves these characters out.
-/

set_option autoImplicit false

namespace Calculator

/-- The pieces between the characters of a class; there is always one more than these. -/
def splitWhere (p : Char → Bool) : List Char → List (List Char)
  | [] => [[]]
  | c :: rest =>
      match splitWhere p rest with
      | piece :: pieces => if p c then [] :: piece :: pieces else (c :: piece) :: pieces
      | [] => [[c]]

end Calculator
