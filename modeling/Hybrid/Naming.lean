import Hybrid.Error
import Hybrid.Text.Alphabetic

/-! # Names of functions

A hybrid may be named after its function. The full name of a function item is a path of segments
between double colons, and may end in a list of type arguments in angle brackets; its own name is
the last segment. Function pointers and closures have no name of their own.
-/

namespace Hybrid.Naming

/-- Scans from the end of a path, given in reverse, for the bracket that opens its last list of type
arguments, with `depth` brackets open; the result is what stands before it. The second character of
an arrow is no bracket. -/
def dropArguments? : (depth : Nat) → List Char → Option (List Char)
  | _, [] => none
  | depth, '>' :: before =>
    if before.head? = some '-' then dropArguments? depth before
    else dropArguments? (depth + 1) before
  | depth, '<' :: before =>
    match depth with
    | 0 => none
    | 1 => some before
    | depth + 1 => dropArguments? depth before
  | depth, _ :: before => dropArguments? depth before

/-- A path in reverse without its list of type arguments, if it ends in one. -/
def stripArguments? (reversed : List Char) : Option (List Char) :=
  if reversed.head? = some '>' then dropArguments? 0 reversed else some reversed

/-- The last segment of a path in reverse, read forwards. -/
def lastSegment : (segment reversed : List Char) → List Char
  | segment, [] => segment
  | segment, ':' :: ':' :: _ => segment
  | segment, c :: before => lastSegment (c :: segment) before

/-- Whether the characters are an identifier: a letter or underscore, then letters, numerals and
underscores, but no underscore alone. -/
def isIdentifier : List Char → Bool
  | [] => false
  | head :: rest =>
    (head == '_' || Text.alphabetic.contains head) &&
      rest.all (fun c => c == '_' || Text.isAlphanumeric c) && !(head == '_' && rest.isEmpty)

/-- The name of a function item, given the full name of its type. -/
def identifierOf (typeName : String) : Option String := do
  let chars := typeName.toList
  if "fn(".toList.isPrefixOf chars || "for<".toList.isPrefixOf chars then none
  else
    let path ← stripArguments? chars.reverse
    let segment := lastSegment [] path
    if isIdentifier segment then some (String.ofList segment) else none

/-- The name of a hybrid that is named after its function. -/
def inferName (typeName : String) : Except HybridError String :=
  match identifierOf typeName with
  | some name => .ok name
  | none => .error (.anonymousFunction typeName)

end Hybrid.Naming
