import Hybrid.Error
import Hybrid.Term

/-! # Hybrid functions

The function of a hybrid attribute as a program over the scope that it is read in. Most programs
are composed of constants, reads of sibling attributes and operations on terms; the rest lets a
program choose by side, recover from errors, keep count, and use other classes and hybrids by the
names that they have in the directory of the reader.
-/

namespace Hybrid

/-- The program of a hybrid function. -/
inductive Body where
  /-- A value. -/
  | constant (value : Value)
  /-- An expression. -/
  | expression (expr : Expr)
  /-- An attribute of the scope by name. -/
  | byName (name : String)
  /-- An attribute of the scope by value. -/
  | byValue (name : String)
  /-- A named reference, on either side. -/
  | reference (name : String)
  | combine (operator : Operator) (lhs rhs : Body)
  | negate (operand : Body)
  | call (name : String) (arguments : List Body)
  /-- An error of its own. -/
  | fail (error : HybridError)
  /-- One program on classes and another on instances. -/
  | bySide (onClass onInstance : Body)
  /-- One of two programs, by whether two terms are equal. -/
  | ifEqual (lhs rhs same different : Body)
  /-- Programs one after the other, with the result of the last. -/
  | sequence (bodies : List Body)
  /-- A program, or another if it fails. -/
  | recover (body fallback : Body)
  /-- A program, or the text of its error. -/
  | explain (body : Body)
  /-- The next number of a counter. -/
  | count (counter : String)
  | isInstance
  | className
  /-- A description of the scope. -/
  | describeScope
  /-- Forgets what is cached for a hybrid. -/
  | reset (hybrid : String)
  /-- The expression of a hybrid of a class. -/
  | ofClass (modelClass name : String)
  /-- An attribute of an instance of a class; of the scope's own instance if none is named. -/
  | ofInstance (modelClass : String) (instance? : Option String) (name : String)

end Hybrid
