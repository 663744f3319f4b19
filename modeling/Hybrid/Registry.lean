import Hybrid.Expr.References
import Hybrid.Identity
import Hybrid.Table
import Hybrid.Term

/-! # Wrapping class-level results

A registry maps sorts of terms to capabilities. The capability of a term decides whether it is
native, and then it is left as it is, or else bundles it with the names that it depends on. The
resolver of dependencies sees only those names.
-/

namespace Hybrid

/-- How a capability wraps. -/
inductive WrappingRule where
  /-- Values and literals are native; an expression depends on the fields that it refers to. -/
  | standard
  /-- Terms of the listed sorts are native; every expression depends on `names`. -/
  | listed (native : List TermKind) (names : List String)
  /-- As `listed`, and an expression is wrapped into a call. -/
  | enclosing (native : List TermKind) (names : List String)

/-- A wrapping capability. -/
structure Capability where
  id : CapabilityId
  rule : WrappingRule

/-- An expression with the names that it depends on, each once. -/
structure Bundle where
  expression : Expr
  dependencies : List String

/-- A term as a registry leaves it. -/
inductive Wrapped where
  | plain (term : Term)
  | expression (bundle : Bundle)

/-- The capabilities of a registry by sort of terms. -/
abbrev Registry := Table TermKind Capability

/-- The names of a list in order of first occurrence. -/
def distinct (names : List String) : List String :=
  names.foldl (fun kept name => if kept.contains name then kept else kept ++ [name]) []

namespace Bundle

/-- Bundles an expression with names, which are kept once each. -/
def ofNames (expression : Expr) (names : List String) : Bundle :=
  ⟨expression, distinct names⟩

/-- Equality of the expressions and of the names in order. -/
def beq (a b : Bundle) : Bool :=
  a.expression == b.expression && a.dependencies == b.dependencies

instance : BEq Bundle := ⟨beq⟩

end Bundle

namespace Wrapped

/-- The names that a term depends on; a plain one depends on none. -/
def dependencies : Wrapped → List String
  | .plain _ => []
  | .expression bundle => bundle.dependencies

/-- The wrapped thing as a term again. -/
def toTerm : Wrapped → Term
  | .plain term => term
  | .expression bundle => .symbolic bundle.expression

end Wrapped

namespace WrappingRule

/-- Whether a term is left as it is. -/
def isNative : WrappingRule → Term → Bool
  | .standard, .native _ => true
  | .standard, .symbolic expr => expr.asLiteral?.isSome
  | .listed native _, term => native.contains term.kind
  | .enclosing native _, term => native.contains term.kind

/-- Bundles an expression. -/
def wrap : WrappingRule → Expr → Bundle
  | .standard, expr => .ofNames expr expr.fieldReferences
  | .listed _ names, expr => .ofNames expr names
  | .enclosing _ names, expr => .ofNames (.function "wrapped" [expr]) names

end WrappingRule

/-- The capability that covers expressions where no other is registered. -/
def Capability.builtIn : Capability :=
  ⟨⟨0⟩, .standard⟩

namespace Registry

/-- A registry that handles every sort of expressions in the standard way. -/
def standard : Registry :=
  ⟨(TermKind.all.filter (·.isSymbolic)).map fun kind => (kind, .builtIn)⟩

/-- Wraps a term with the capability of its sort; a value that is not native is bundled as a
literal. -/
def wrap (registry : Registry) (term : Term) : Wrapped :=
  match registry.get? term.kind with
  | none => .plain term
  | some capability =>
    if capability.rule.isNative term then .plain term
    else .expression (capability.rule.wrap term.toExpr)

/-- The sorts of terms with a capability, in order of declaration. -/
def kinds (registry : Registry) : List TermKind :=
  TermKind.all.filter fun kind => (registry.get? kind).isSome

end Registry

end Hybrid
