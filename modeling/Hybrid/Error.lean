import Hybrid.Value.Arithmetic

/-! # Errors

Why a hybrid attribute cannot be named, a class not be built or an attribute not be read.
-/

namespace Hybrid

/-- The cause of a failure. -/
inductive HybridError where
  /-- A function without an identifier to take a name from. -/
  | anonymousFunction (typeName : String)
  /-- A name in the expression of a hybrid is no attribute of the class. -/
  | unresolvedReference (hybrid name className : String)
  /-- A hybrid is needed for its own evaluation. -/
  | cyclicDependency (className : String) (chain : List String)
  /-- An instance holds no value for a field. -/
  | missingField (className field : String)
  | unknownAttribute (className name : String)
  /-- A plain field has no value on the class. -/
  | notAHybrid (className name : String)
  | duplicateAttribute (className name : String)
  /-- Arithmetic on values failed. -/
  | arithmetic (error : ArithmeticError)
  /-- A hybrid function failed of its own accord. -/
  | evaluation (message : String)
  /-- More hybrids are under evaluation than there are to evaluate. -/
  | exhausted
  deriving DecidableEq

def HybridError.message : HybridError → String
  | .anonymousFunction typeName =>
    "Cannot infer a hybrid attribute name from `" ++ typeName ++
      "`. Anonymous functions must be decorated with an explicit name."
  | .unresolvedReference hybrid name className =>
    "Hybrid attribute `" ++ hybrid ++ "` of class `" ++ className ++ "` references `" ++ name ++
      "`, which is neither a field nor a hybrid attribute of that class."
  | .cyclicDependency className chain =>
    "Hybrid attributes of class `" ++ className ++ "` form a dependency cycle: " ++
      String.intercalate " -> " chain
  | .missingField className field =>
    "Instance of class `" ++ className ++ "` has no value for field `" ++ field ++ "`."
  | .unknownAttribute className name =>
    "Class `" ++ className ++ "` has no attribute `" ++ name ++ "`."
  | .notAHybrid className name =>
    "`" ++ name ++ "` is a plain field of class `" ++ className ++ "`, not a hybrid attribute."
  | .duplicateAttribute className name =>
    "Class `" ++ className ++ "` declares attribute `" ++ name ++ "` more than once."
  | .arithmetic error => error.message
  | .evaluation message => "Hybrid attribute evaluation failed: " ++ message
  | .exhausted => "Hybrid attribute evaluation does not end."

end Hybrid
