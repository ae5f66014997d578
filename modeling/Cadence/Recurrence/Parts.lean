import Cadence.Recurrence.Fault
import Cadence.Text.Pieces

/-!
# Parts of rule texts

A rule text is a list of parts `KEY=VALUE` between semicolons, with an optional
mark in front.  Keys and values are read without white space around them and in
capitals.  Blank parts and parts with other keys do not count, and no key may
come twice.
-/

namespace Cadence
namespace Recurrence

open Text

/-- The values of the keys of a rule text, in the order of the text. -/
abbrev Parts :=
  List (Key × List Char)

namespace Parts

/-- The value of a key. -/
def value? (parts : Parts) (key : Key) : Option (List Char) :=
  (parts.find? fun part => part.1 == key).map Prod.snd

end Parts

/-- The mark that may stand in front of a rule text. -/
def rulePrefix : List Char :=
  "RRULE:".toList

/-- A rule text without white space around it and without the mark in front. -/
def withoutPrefix (text : List Char) : List Char :=
  let trimmed := trim text
  if (upper trimmed).take rulePrefix.length = rulePrefix then
    trimmed.drop rulePrefix.length
  else
    trimmed

/-- The key and the value of a trimmed part, both in capitals. -/
def readPart (part : List Char) : Except RuleFault (List Char × List Char) :=
  match cutAt '=' part with
  | none => .error (.notKeyValue part)
  | some (rawKey, rawValue) =>
    let key := upper (trim rawKey)
    let value := upper (trim rawValue)
    if key.isEmpty || value.isEmpty then
      .error (.notKeyValue part)
    else
      .ok (key, value)

/-- The parts so far with one more piece of the text. -/
def addPiece (parts : Parts) (piece : List Char) : Except RuleFault Parts :=
  let part := trim piece
  if part.isEmpty then
    .ok parts
  else
    match readPart part with
    | .error fault => .error fault
    | .ok (name, value) =>
      match Key.ofSpelling? name with
      | none => .ok parts
      | some key =>
        if (parts.value? key).isSome then
          .error (.duplicateKey key)
        else
          .ok (parts ++ [(key, value)])

/-- The parts of pieces of text that follow other parts. -/
def addPieces (parts : Parts) : List (List Char) → Except RuleFault Parts
  | [] => .ok parts
  | piece :: pieces =>
    match addPiece parts piece with
    | .error fault => .error fault
    | .ok extended => addPieces extended pieces

/-- The parts of a rule text, or the first fault in it. -/
def readParts (text : List Char) : Except RuleFault Parts :=
  addPieces [] (splitOn ';' (withoutPrefix text))

end Recurrence
end Cadence
