import Mathlib
import Hybrid.Proofs.Value.Exact

/-! # Reading literals

The text of a value other than a float is read back by its first character: a quote starts a text, a
letter one of three words, and anything else is a whole number.
-/

namespace Hybrid

namespace Text.Quoted

/-- Reads the inside of a literal as far as the quote that ends it: what it stands for, and what
follows. -/
def read : List Char → Option (List Char × List Char)
  | [] => none
  | '\'' :: '\'' :: rest => (read rest).map fun (inside, rest) => ('\'' :: inside, rest)
  | '\'' :: rest => some ([], rest)
  | c :: rest => (read rest).map fun (inside, rest) => (c :: inside, rest)

/-- A literal that no quote follows is read as far as its end. -/
theorem read_encode (text : List Char) {rest : List Char} (ends : rest.head? ≠ some '\'') :
    read (encode text ++ '\'' :: rest) = some (text, rest) := by
  induction text with
  | nil =>
    cases rest with
    | nil => rfl
    | cons c rest =>
      have other : c ≠ '\'' := by simpa using ends
      simp [encode, read, other]
  | cons c text ih =>
    by_cases quote : c = '\''
    · subst quote
      simp [encode, read, ih]
    · simp [encode, read, quote, ih]

end Text.Quoted

namespace Decimal

theorem wholeText_eq (number : Int) : wholeText number = number.repr := by
  cases number with
  | ofNat digits => rfl
  | negSucc digits =>
    unfold wholeText
    rw [if_pos (Int.negSucc_lt_zero digits)]
    rfl

theorem toInt?_wholeText (number : Int) : (wholeText number).toInt? = some number := by
  rw [wholeText_eq, Int.toInt?_repr]

/-- A whole number is written with digits and perhaps a sign. -/
theorem mem_wholeText {number : Int} {c : Char} (member : c ∈ (wholeText number).toList) :
    c = '-' ∨ c.isDigit = true := by
  have digits {count : Nat} (member : c ∈ (digitText count).toList) : c.isDigit = true := by
    have listed : c ∈ Nat.toDigits 10 count := by simpa [digitText] using member
    exact Nat.isDigit_of_mem_toDigits (by omega) (by omega) listed
  unfold wholeText at member
  split at member
  · rw [String.toList_append, List.mem_append] at member
    rcases member with sign | member
    · exact .inl (by simpa using sign)
    · exact .inr (digits member)
  · exact .inr (digits member)

end Decimal

namespace Value

/-- The value other than a float that a literal stands for. -/
def ofDisplay? (text : String) : Option Value :=
  match text.toList with
  | '\'' :: inside =>
    match Text.Quoted.read inside with
    | some (content, []) => some (.text (String.ofList content))
    | _ => none
  | 'N' :: _ => if text = "NULL" then some .null else none
  | 't' :: _ => if text = "true" then some (.bool true) else none
  | 'f' :: _ => if text = "false" then some (.bool false) else none
  | _ => text.toInt?.bind ofInt?

/-- The text of a value other than a float reads back as the value. -/
theorem ofDisplay?_display {value : Value} (exact : ¬ value.IsFloat) :
    ofDisplay? value.display = some value := by
  cases value with
  | null => rfl
  | bool truth => cases truth <;> rfl
  | float number => exact absurd trivial exact
  | text content =>
    have letters : (Text.Quoted.literal content).toList =
        '\'' :: (Text.Quoted.encode content.toList ++ ['\'']) := by
      simp [Text.Quoted.literal]
    have inside : Text.Quoted.read (Text.Quoted.encode content.toList ++ ['\'']) =
        some (content.toList, []) := Text.Quoted.read_encode content.toList (by simp)
    unfold display ofDisplay?
    rw [letters]
    change (match Text.Quoted.read (Text.Quoted.encode content.toList ++ ['\'']) with
      | some (content, []) => some (Value.text (String.ofList content))
      | _ => none) = _
    rw [inside]
    simp
  | int number =>
    have begins {c : Char} {rest : List Char}
        (written : (Decimal.wholeText number.toInt).toList = c :: rest) :
        c = '-' ∨ c.isDigit = true :=
      Decimal.mem_wholeText (written ▸ List.mem_cons_self ..)
    unfold display ofDisplay?
    split
    · next written => exact absurd (begins written) (by decide)
    · next written => exact absurd (begins written) (by decide)
    · next written => exact absurd (begins written) (by decide)
    · next written => exact absurd (begins written) (by decide)
    · rw [Decimal.toInt?_wholeText]
      exact ofInt?_toInt number

end Value

end Hybrid
