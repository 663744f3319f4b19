/-! # Quoted literals

A quoted literal stands between single quotes, and a quote inside it is written twice. Nothing else
is escaped, so a literal ends at the first quote that no second quote follows.
-/

namespace Hybrid.Text.Quoted

/-- The inside of a literal: every quote twice, everything else once. -/
def encode : List Char → List Char
  | [] => []
  | c :: rest => if c = '\'' then '\'' :: '\'' :: encode rest else c :: encode rest

/-- The literal of a text. -/
def literal (text : String) : String :=
  "'" ++ String.ofList (encode text.toList) ++ "'"

end Hybrid.Text.Quoted
