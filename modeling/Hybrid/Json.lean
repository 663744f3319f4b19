/-! # Structured data

The values of JSON, with whole numbers and other numbers apart.
-/

namespace Hybrid

/-- A JSON value. The members of an object have distinct names. -/
inductive Json where
  | null
  | bool (truth : Bool)
  | int (number : Int)
  | float (number : Float)
  | text (content : String)
  | list (items : List Json)
  | object (members : List (String × Json))
  deriving Inhabited

/-- A value under a tag. -/
def Json.tagged (tag : String) (content : Json) : Json :=
  .object [(tag, content)]

/-- The tag of a choice without content: the text alone, or an object that gives it nothing. -/
def Json.bareTag? : Json → Option String
  | .text tag => some tag
  | .object [(tag, .null)] => some tag
  | _ => none

end Hybrid
