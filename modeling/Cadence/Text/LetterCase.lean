import Cadence.Text.LetterCase.Context
import Cadence.Text.LetterCase.Lower
import Cadence.Text.LetterCase.Title
import Cadence.Text.LetterCase.Upper

/-!
# Letter case

Capital, small and initial forms of texts in every script.  One letter may turn
into several, and the Greek sigma takes another small form at the end of a word.
-/

namespace Cadence
namespace Text

open LetterCase

/-- The capital form of a character. -/
def upperChar (character : Char) : List Char :=
  if character.toNat < 0x80 then
    [character.toUpper]
  else
    match mapSequences? upperSequences character with
    | some capitals => capitals
    | none => [(mapRuns? upperRuns character).getD character]

/-- The capital form of a text. -/
def upper (text : List Char) : List Char :=
  text.flatMap upperChar

@[simp] theorem upper_nil : upper [] = [] := rfl

@[simp] theorem upper_append (first second : List Char) :
    upper (first ++ second) = upper first ++ upper second :=
  List.flatMap_append

/-- The form of a character at the head of a word. -/
def titleChar (character : Char) : List Char :=
  match mapSequences? titleSequences character, mapRuns? titleRuns character with
  | some initials, _ => initials
  | none, some initial => [initial]
  | none, none => upperChar character

/-- Whether the nearest character that is not passed over has case. -/
def reachesCased (text : List Char) : Bool :=
  match text.dropWhile (inRanges ignorableRanges) with
  | [] => false
  | character :: _ => inRanges casedRanges character

/-- The small form of a character between the characters before it, nearest
first, and those after it.  A sigma that ends a word has a form of its own. -/
def lowerChar (before after : List Char) (character : Char) : List Char :=
  if character.toNat < 0x80 then
    [character.toLower]
  else if character = 'Σ' then
    if reachesCased before && !reachesCased after then ['ς'] else ['σ']
  else
    match mapSequences? lowerSequences character with
    | some smalls => smalls
    | none => [(mapRuns? lowerRuns character).getD character]

/-- The small form of a text that follows the characters `before`, nearest
first. -/
def lowerAfter (before : List Char) : List Char → List Char
  | [] => []
  | character :: rest =>
    lowerChar before rest character ++ lowerAfter (character :: before) rest

/-- The small form of a text. -/
def lower (text : List Char) : List Char :=
  lowerAfter [] text

/-- A text with its first character in initial form and the rest small. -/
def capitalize : List Char → List Char
  | [] => []
  | character :: rest => titleChar character ++ lowerAfter [character] rest

end Text
end Cadence
