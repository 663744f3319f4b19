import Hybrid.Text.CaseMap
import Hybrid.Text.Cased

/-! # Changing the case of a text

The full case conversions of Unicode. Upper case is taken character by character; so is lower case,
but for the capital sigma, which becomes a final sigma at the end of a word.
-/

namespace Hybrid.Text

/-- Whether the first character that is not case-ignorable is cased. -/
def meetsCased (chars : List Char) : Bool :=
  (chars.find? fun c => !caseIgnorable.contains c).any cased.contains

/-- The lower case of a sigma between the characters `before`, nearest first, and `after`. -/
def lowerSigma (before after : List Char) : Char :=
  if meetsCased before && !meetsCased after then 'ς' else 'σ'

/-- The lower case of the characters that follow those of `before`, nearest first. -/
def lowerAfter (before : List Char) : List Char → List Char
  | [] => []
  | c :: after =>
    (if c = 'Σ' then [lowerSigma before after] else lowerMap.image c) ++
      lowerAfter (c :: before) after

/-- A text in lower case. -/
def toLowercase (text : String) : String :=
  String.ofList (lowerAfter [] text.toList)

/-- A text in upper case. -/
def toUppercase (text : String) : String :=
  String.ofList (text.toList.flatMap upperMap.image)

end Hybrid.Text
