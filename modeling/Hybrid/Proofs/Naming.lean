import Mathlib.Data.List.Infix
import Hybrid.Naming

/-! # What a function is named

A full name is a path, a name and perhaps a list of type arguments, which may hold paths, arrows and
further lists. The brackets of such a list balance, so that the scan from its end comes back to the
depth where it began at the bracket that opens the list, and at none before. What is left is the name
that stands behind the path.
-/

namespace Hybrid.Naming

/-- What a character behind `before` adds to the number of open brackets. The second character of an
arrow is no bracket. -/
def weight (before : Option Char) (c : Char) : Int :=
  if c = '<' then 1 else if c = '>' ∧ before ≠ some '-' then -1 else 0

/-- How many brackets a text behind `before` opens more than it closes. -/
def depth : (before : Option Char) → List Char → Int
  | _, [] => 0
  | before, c :: rest => weight before c + depth (some c) rest

/-- All brackets are closed in the end, and none was closed before it was open. -/
def Balanced (arguments : List Char) : Prop :=
  depth none arguments = 0 ∧ ∀ beginning, beginning <+: arguments → 0 ≤ depth none beginning

instance : DecidablePred Balanced := fun arguments =>
  decidable_of_iff
    (depth none arguments = 0 ∧ ∀ beginning ∈ arguments.inits, 0 ≤ depth none beginning)
    (by simp only [Balanced, List.mem_inits])

theorem depth_concat (before : Option Char) (text : List Char) (c : Char) :
    depth before (text ++ [c]) = depth before text + weight (text.getLast?.or before) c := by
  induction text generalizing before with
  | nil => simp [depth]
  | cons first rest ih =>
    have last : (first :: rest).getLast?.or before = rest.getLast?.or (some first) := by
      cases rest <;> simp [List.getLast?_cons]
    rw [List.cons_append, depth, ih, depth, last, Int.add_assoc]

section Scan

variable {arguments before path : List Char}

/-- The bracket that opens a list is found by the scan from its end, with one bracket open more than
the text in between leaves open. -/
theorem dropArguments?_eq (count : Nat) (opened : depth none arguments = count)
    (nested : ∀ beginning, beginning <+: arguments → 0 ≤ depth none beginning) :
    dropArguments? (count + 1) (arguments.reverse ++ '<' :: before) = some before := by
  induction arguments using List.reverseRecOn generalizing count with
  | nil =>
    obtain rfl : count = 0 := by simpa [depth] using opened.symm
    rfl
  | append_singleton text c ih =>
    have within := List.prefix_append text [c]
    have inside := fun beginning (start : beginning <+: text) =>
      nested beginning (start.trans within)
    have nonneg := nested text within
    have ahead : (text.reverse ++ '<' :: before).head? = text.getLast?.or (some '<') := by
      rw [List.head?_append, List.head?_reverse, List.head?_cons]
    rw [depth_concat, Option.or_none] at opened
    rw [List.reverse_append, List.reverse_singleton, List.singleton_append, List.cons_append]
    by_cases opens : c = '<'
    · subst opens
      obtain ⟨less, rfl⟩ : ∃ less : Nat, count = less + 1 := by
        simp only [weight, if_true] at opened
        exact ⟨count - 1, by omega⟩
      have inner : depth none text = less := by
        simp only [weight, if_true] at opened
        omega
      exact ih less inner inside
    by_cases closes : c = '>'
    · subst closes
      rw [dropArguments?, ahead]
      by_cases arrow : text.getLast? = some '-'
      · rw [arrow, Option.some_or, if_pos rfl]
        exact ih count (by simpa [weight, arrow] using opened) inside
      · have bracket : text.getLast?.or (some '<') ≠ some '-' := by
          cases last : text.getLast? <;> simp_all
        have inner : depth none text = (count + 1 : Nat) := by
          simp [weight, arrow] at opened
          omega
        rw [if_neg bracket]
        exact ih (count + 1) inner inside
    · have other : dropArguments? (count + 1) (c :: (text.reverse ++ '<' :: before)) =
          dropArguments? (count + 1) (text.reverse ++ '<' :: before) := by
        simp [dropArguments?]
      rw [other]
      exact ih count (by simpa [weight, opens, closes] using opened) inside

/-- A list of type arguments is dropped with its brackets. -/
theorem stripArguments?_arguments (balanced : Balanced arguments)
    (ends : arguments.getLast? ≠ some '-') :
    stripArguments? (path ++ '<' :: (arguments ++ ['>'])).reverse = some path.reverse := by
  have bracket : (arguments.reverse ++ '<' :: path.reverse).head? ≠ some '-' := by
    rw [List.head?_append, List.head?_reverse]
    cases last : arguments.getLast? <;> simp_all
  have written : (path ++ '<' :: (arguments ++ ['>'])).reverse =
      '>' :: (arguments.reverse ++ '<' :: path.reverse) := by simp
  rw [written, stripArguments?, List.head?_cons, if_pos rfl, dropArguments?, if_neg bracket]
  exact dropArguments?_eq 0 balanced.1 balanced.2

/-- A path that does not end in a bracket is left as it is. -/
theorem stripArguments?_path (ends : path.getLast? ≠ some '>') :
    stripArguments? path.reverse = some path.reverse := by
  rw [stripArguments?, List.head?_reverse, if_neg ends]

end Scan

/-! ## The last segment -/

section Segment

/-- A text without colons is passed whole. -/
theorem lastSegment_append {name : List Char} (plain : ':' ∉ name) (segment before : List Char) :
    lastSegment segment (name.reverse ++ before) = lastSegment (name ++ segment) before := by
  induction name using List.reverseRecOn generalizing segment with
  | nil => rfl
  | append_singleton rest c ih =>
    obtain ⟨others, here⟩ : ':' ∉ rest ∧ ¬ ':' = c := by simpa using plain
    have passed (segment before : List Char) :
        lastSegment segment (c :: before) = lastSegment (c :: segment) before := by
      cases before <;> simp [lastSegment, Ne.symm here]
    rw [List.reverse_append, List.reverse_singleton, List.singleton_append, List.cons_append, passed,
      ih others, List.append_assoc, List.singleton_append]

/-- The last segment of a path is what stands behind its last double colon. -/
theorem lastSegment_path {scope name : List Char}
    (path : scope = [] ∨ ∃ outer, scope = outer ++ [':', ':']) (plain : ':' ∉ name) :
    lastSegment [] (scope ++ name).reverse = name := by
  rw [List.reverse_append, lastSegment_append plain, List.append_nil]
  rcases path with rfl | ⟨outer, rfl⟩
  · rfl
  · simp [lastSegment]

end Segment

/-! ## Identifiers -/

/-- A letter or an underscore, then letters, numerals and underscores, but more than an underscore
alone. -/
def IsIdentifier (name : List Char) : Prop :=
  ∃ head rest, name = head :: rest ∧ (head = '_' ∨ Text.alphabetic.contains head = true) ∧
    (∀ c ∈ rest, c = '_' ∨ Text.isAlphanumeric c = true) ∧ name ≠ ['_']

theorem isIdentifier_iff {name : List Char} : isIdentifier name = true ↔ IsIdentifier name := by
  cases name with
  | nil => simp [isIdentifier, IsIdentifier]
  | cons head rest => simp [isIdentifier, IsIdentifier, and_assoc, imp_iff_not_or]

instance : DecidablePred IsIdentifier := fun _ => decidable_of_iff _ isIdentifier_iff

/-- The full name of the type of a function pointer. -/
def IsPointer (typeName : String) : Prop :=
  "fn(".toList <+: typeName.toList ∨ "for<".toList <+: typeName.toList

instance : DecidablePred IsPointer := fun typeName =>
  inferInstanceAs (Decidable ("fn(".toList <+: typeName.toList ∨ "for<".toList <+: typeName.toList))

/-- The name of a function item is the last segment of what is left without type arguments, if that
is an identifier. -/
theorem identifierOf_eq {typeName : String} {path : List Char} (item : ¬ IsPointer typeName)
    (stripped : stripArguments? typeName.toList.reverse = some path) :
    identifierOf typeName =
      if IsIdentifier (lastSegment [] path) then some (String.ofList (lastSegment [] path))
      else none := by
  have unmarked : ¬ ("fn(".toList.isPrefixOf typeName.toList ||
      "for<".toList.isPrefixOf typeName.toList) = true := by
    rwa [Bool.or_eq_true, List.isPrefixOf_iff_prefix, List.isPrefixOf_iff_prefix]
  unfold identifierOf
  simp only [unmarked, stripped, isIdentifier_iff]
  rfl

/-- A function item is named by what stands between its path and its type arguments, if that is an
identifier; else it has no name. The arguments may hold whatever balances, brackets of arrows
aside. -/
theorem identifierOf_item {scope name arguments : String}
    (path : scope = "" ∨ ∃ outer, scope = outer ++ "::")
    (plain : ∀ c ∈ name.toList, c ≠ ':' ∧ c ≠ '<' ∧ c ≠ '>')
    (balanced : Balanced arguments.toList) (ends : arguments.toList.getLast? ≠ some '-') :
    (¬ IsPointer (scope ++ name) →
        identifierOf (scope ++ name) = if IsIdentifier name.toList then some name else none) ∧
      (¬ IsPointer (scope ++ name ++ "<" ++ arguments ++ ">") →
        identifierOf (scope ++ name ++ "<" ++ arguments ++ ">") =
          if IsIdentifier name.toList then some name else none) := by
  have colonless : ':' ∉ name.toList := fun member => (plain _ member).1 rfl
  have outside : scope.toList = [] ∨ ∃ outer, scope.toList = outer ++ [':', ':'] := by
    rcases path with rfl | ⟨outer, rfl⟩
    · exact .inl rfl
    · exact .inr ⟨outer.toList, String.toList_append ..⟩
  have segment : lastSegment [] (scope ++ name).toList.reverse = name.toList := by
    rw [String.toList_append, lastSegment_path outside colonless]
  have unbracketed : (scope ++ name).toList.getLast? ≠ some '>' := by
    rw [String.toList_append, List.getLast?_append]
    cases last : name.toList.getLast? with
    | some c => simpa using (plain c (List.mem_of_getLast? last)).2.2
    | none => rcases outside with empty | ⟨outer, written⟩ <;> simp [*]
  constructor
  · intro item
    rw [identifierOf_eq item (stripArguments?_path unbracketed), segment, String.ofList_toList]
  · intro item
    have written : (scope ++ name ++ "<" ++ arguments ++ ">").toList =
        (scope ++ name).toList ++ '<' :: (arguments.toList ++ ['>']) := by
      simp
    have stripped : stripArguments? (scope ++ name ++ "<" ++ arguments ++ ">").toList.reverse =
        some (scope ++ name).toList.reverse := by
      rw [written, stripArguments?_arguments balanced ends]
    rw [identifierOf_eq item stripped, segment, String.ofList_toList]

/-- The list of type arguments holds an arrow and lists of its own. -/
theorem identifierOf_apply :
    Balanced "fn(Vec<u8>) -> Option<Box<u8>>, [u8; 4]".toList ∧
      identifierOf "crate::apply" = some "apply" ∧
      identifierOf "crate::apply<fn(Vec<u8>) -> Option<Box<u8>>, [u8; 4]>" = some "apply" := by
  have balanced : Balanced "fn(Vec<u8>) -> Option<Box<u8>>, [u8; 4]".toList := by decide
  have path : "crate::" = "" ∨ ∃ outer, "crate::" = outer ++ "::" := .inr ⟨"crate", rfl⟩
  have plain : ∀ c ∈ "apply".toList, c ≠ ':' ∧ c ≠ '<' ∧ c ≠ '>' := by simp
  have named := identifierOf_item path plain balanced (by decide)
  exact ⟨balanced, named.1 (by decide), named.2 (by decide)⟩

end Hybrid.Naming
