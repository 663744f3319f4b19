import Hybrid.Term

/-! # Events

What the library reports while classes are built and attributes are read.
-/

namespace Hybrid

/-- A reported event. -/
inductive Event where
  | builtClass (name : String) (attributes : Nat)
  | replacedCapability (kind : TermKind)
  | builtHybrid (className hybrid : String) (expression : Term) (dependencies : Nat)
  | resetHybrid (hybrid : String) (dropped : Nat)
  | classHit (className hybrid : String)
  | instanceHit (className hybrid : String)
  | evaluated (className hybrid : String) (value : Term)
  | readsField (className hybrid field : String)
  | purged (dropped left : Nat)

/-- How much a reader of the events has to care for detail to see one. -/
inductive Event.Level where
  | debug
  | trace

namespace Event

def level : Event → Level
  | .builtClass _ _ | .replacedCapability _ | .builtHybrid _ _ _ _ | .resetHybrid _ _ => .debug
  | .classHit _ _ | .instanceHit _ _ | .evaluated _ _ _ | .readsField _ _ _ | .purged _ _ => .trace

/-- The text of an event; the identity of a class is left out. -/
def message : Event → String
  | .builtClass name attributes =>
    "Built model class `" ++ name ++ "` (<id>) with " ++ toString attributes ++ " attributes"
  | .replacedCapability kind => "Replaced expression wrapper for kind " ++ kind.name
  | .builtHybrid className hybrid expression dependencies =>
    "Built hybrid `" ++ className ++ "." ++ hybrid ++ "` = " ++ expression.display ++ " (" ++
      toString dependencies ++ " direct dependencies)"
  | .resetHybrid hybrid dropped =>
    "Reset caches of hybrid `" ++ hybrid ++ "` (" ++ toString dropped ++
      " class wrappers dropped)"
  | .classHit className hybrid => "Class cache hit for `" ++ className ++ "." ++ hybrid ++ "`"
  | .instanceHit className hybrid =>
    "Instance cache hit for `" ++ className ++ "." ++ hybrid ++ "`"
  | .evaluated className hybrid value =>
    "Evaluated `" ++ className ++ "." ++ hybrid ++ "` on an instance: " ++ value.display
  | .readsField className hybrid field =>
    "`" ++ className ++ "." ++ hybrid ++ "` reads field `" ++ field ++ "`"
  | .purged dropped left =>
    "Purged " ++ toString dropped ++ " dead instance entries, " ++ toString left ++ " left"

end Event

end Hybrid
