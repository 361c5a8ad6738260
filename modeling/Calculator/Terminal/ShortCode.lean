import Calculator.Terminal.Emoji
import Calculator.Terminal.WhiteSpace

/-!
# Short codes

The name of an emoji between two colons is a short code, and stands for the emoji. Letters may be
of either case. The name may be followed by `-emoji` or `-text`, which asks for a coloured or a
plain picture. Two colons with anything else between them that is no white space are kept as they
are, and neither of them begins or ends another code.
-/

set_option autoImplicit false

namespace Calculator.Terminal

/-- A letter that occurs in names, in lower case. The signs of the kelvin and the ångström are
letters of their own. -/
def lowerLetter (c : Char) : Char :=
  if c.isUpper then c.toLower
  else if c = '\u212a' then 'k'
  else if c = '\u212b' then 'å'
  else if ['Ã', 'Å', 'Ç', 'É', 'Í', 'Ô'].contains c then Char.ofNat (c.toNat + 32)
  else c

/-- The name in a code, and the character that asks for a kind of picture. -/
def splitVariant (code : List Char) : List Char × List Char :=
  if "-emoji".toList.isSuffixOf code then (code.take (code.length - 6), ['\ufe0f'])
  else if "-text".toList.isSuffixOf code then (code.take (code.length - 5), ['\ufe0e'])
  else (code, [])

/-- What stands in place of a code, of which the colons are not given. -/
def codeMeaning (code : List Char) : List Char :=
  let (name, variant) := splitVariant code
  match namedEmoji.lookup (String.ofList (name.map lowerLetter)) with
  | some emoji => emoji.toList ++ variant
  | none => ':' :: code ++ [':']

/-- Replace the codes in a text; `opened` is what has been read since an open colon, the last
character first. White space ends what a colon has opened. -/
def replaceCodesFrom : Option (List Char) → List Char → List Char
  | none, [] => []
  | some opened, [] => ':' :: opened.reverse
  | none, c :: rest =>
      if c = ':' then replaceCodesFrom (some []) rest else c :: replaceCodesFrom none rest
  | some opened, c :: rest =>
      if c = ':' then codeMeaning opened.reverse ++ replaceCodesFrom none rest
      else if isSpacing c then (':' :: opened.reverse ++ [c]) ++ replaceCodesFrom none rest
      else replaceCodesFrom (some (c :: opened)) rest

/-- Replace the codes in a text. -/
def replaceCodes (text : List Char) : List Char := replaceCodesFrom none text

end Calculator.Terminal
