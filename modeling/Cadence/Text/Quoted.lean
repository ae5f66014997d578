import Cadence.Text.Printable

/-!
# Quoted text

How a text is shown between quotes in a message.  Single quotes are used unless
the text has a single quote and no double one.  The quote in use, the backslash
and every character that is not printable are written as escapes.
-/

namespace Cadence
namespace Text

/-- The hexadecimal digits of a number, small letters, at least `width` of
them. -/
def hexDigits (width number : Nat) : List Char :=
  let digits := Nat.toDigits 16 number
  List.replicate (width - digits.length) '0' ++ digits

/-- The quote that encloses a text. -/
def quoteMark (text : List Char) : Char :=
  if text.contains '\'' && !text.contains '"' then '"' else '\''

/-- A character inside a text that is enclosed in a given quote. -/
def quoteChar (mark character : Char) : List Char :=
  if character = mark ∨ character = '\\' then ['\\', character]
  else if character = '\n' then ['\\', 'n']
  else if character = '\r' then ['\\', 'r']
  else if character = '\t' then ['\\', 't']
  else if isPrintable character then [character]
  else if character.toNat ≤ 0xFF then '\\' :: 'x' :: hexDigits 2 character.toNat
  else if character.toNat ≤ 0xFFFF then '\\' :: 'u' :: hexDigits 4 character.toNat
  else '\\' :: 'U' :: hexDigits 8 character.toNat

/-- A text as it is shown in a message. -/
def quote (text : List Char) : List Char :=
  let mark := quoteMark text
  mark :: text.flatMap (quoteChar mark) ++ [mark]

/-- A text as it is shown in a message. -/
def quoted (text : String) : String :=
  String.ofList (quote text.toList)

end Text
end Cadence
