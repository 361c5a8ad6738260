import Calculator.Terminal.ShortCode
import Calculator.Text.Split

/-!
# Markup

A printed text may hold tags, which are not printed: `[red]` begins a colour and `[/red]` ends it. A
tag stands between brackets and begins with a lower-case letter or one of `#`, `/` and `@`. A
backslash in front of a tag makes it part of the text, and two backslashes there are one.
`escape` makes a text into markup.

Markup is looked at in pieces between opening brackets. As no tag holds an opening bracket, each
piece but the first tells by itself whether it begins with a tag.
-/

set_option autoImplicit false

namespace Calculator.Terminal.Markup

/-- Whether a tag can begin with a character. -/
def beginsTag (c : Char) : Bool := ('a' ≤ c && c ≤ 'z') || c = '#' || c = '/' || c = '@'

/-- The tag, without its brackets, with which a piece behind an opening bracket begins, and what
stands behind it. -/
def tag? (piece : List Char) : Option (List Char × List Char) :=
  if piece.head?.any beginsTag && piece.contains ']' then
    let body := piece.takeWhile (· ≠ ']')
    some (body, piece.drop (body.length + 1))
  else none

/-- A text without the backslashes at its end, and their number. -/
def cutBackslashes (text : List Char) : List Char × Nat :=
  let lead := (text.reverse.dropWhile (· = '\\')).reverse
  (lead, text.length - lead.length)

/-- So many backslashes. -/
def backslashes (n : Nat) : List Char := List.replicate n '\\'

/-! ## Escaping -/

/-- Put a backslash in front of every tag and double those before it. -/
def escapeTags (text : List Char) : List (List Char) → List Char
  | [] => text
  | piece :: pieces =>
      match tag? piece with
      | none => escapeTags (text ++ '[' :: piece) pieces
      | some (body, after) =>
          let (lead, n) := cutBackslashes text
          lead ++ backslashes (2 * n + 1) ++ '[' :: body ++ ']' :: escapeTags after pieces

/-- A single backslash at the end is doubled, so that it does not hide a tag behind the text. -/
def escapeEnd (text : List Char) : List Char :=
  if (cutBackslashes text).2 = 1 then text ++ ['\\'] else text

/-- A text as markup. -/
def escape (text : String) : String :=
  String.ofList <| escapeEnd <|
    match splitWhere (· = '[') text.toList with
    | [] => []
    | first :: pieces => escapeTags first pieces

/-! ## Showing -/

/-- A bracket that opens no tag is shown without a backslash in front of it. -/
def dropBackslashes : List Char → List Char
  | [] => []
  | [c] => [c]
  | c :: d :: rest =>
      if c = '\\' && d = '[' then '[' :: dropBackslashes rest else c :: dropBackslashes (d :: rest)

/-- A part of a text that no tag interrupts. -/
def showText (text : List Char) : List Char := replaceCodes (dropBackslashes text)

/-- What is shown of markup. -/
def showTags (text : List Char) : List (List Char) → List Char
  | [] => showText text
  | piece :: pieces =>
      match tag? piece with
      | none => showTags (text ++ '[' :: piece) pieces
      | some (body, after) =>
          let (lead, n) := cutBackslashes text
          let shownTag := if n % 2 = 1 then showText ('[' :: body ++ [']']) else []
          showText lead ++ backslashes (n / 2) ++ shownTag ++ showTags after pieces

/-- What is shown of markup: the text without its tags. -/
def shown (markup : String) : List Char :=
  match splitWhere (· = '[') markup.toList with
  | [] => []
  | first :: pieces => showTags first pieces

end Calculator.Terminal.Markup
