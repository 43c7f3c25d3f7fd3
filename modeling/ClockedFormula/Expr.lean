import ClockedFormula.Value
/-!
# Expressions

The syntax tree of a formula.  Every function call carries the identity of its node, under which the
formula keeps what the call remembers.  An expression that stands in a tree twice brings the same
identities twice, and both places share their memory.
-/

namespace ClockedFormula

/-- The identity of a function call. -/
structure NodeId where
  number : Nat
deriving DecidableEq

inductive UnaryOperator where
  | not
  | negate
  | bitwiseNot
deriving DecidableEq

inductive BinaryOperator where
  | and
  | or
  | equal
  | notEqual
  | less
  | lessOrEqual
  | greater
  | greaterOrEqual
  | plus
  | minus
  | times
  | divide
  | modulo
  | bitwiseAnd
  | bitwiseOr
  | bitwiseXor
  | leftShift
  | rightShift
deriving DecidableEq

/-- An expression. -/
inductive Expr where
  | literal (v : Value)
  | identifier (name : String)
  | unary (op : UnaryOperator) (operand : Expr)
  | binary (op : BinaryOperator) (left right : Expr)
  | conditional (condition thenBranch elseBranch : Expr)
  | call (id : NodeId) (name : String) (arguments : List Expr)

/-- What an expression is, without its parts. -/
inductive ExprForm where
  | literal
  | identifier
  | unary
  | binary
  | conditional
  | call
deriving DecidableEq

namespace Expr

def form : Expr → ExprForm
  | literal _ => .literal
  | identifier _ => .identifier
  | unary _ _ => .unary
  | binary _ _ _ => .binary
  | conditional _ _ _ => .conditional
  | call _ _ _ => .call

mutual

/-- Identity and name of every function call, a call before the calls in its arguments and those from
left to right. -/
def calls : Expr → List (NodeId × String)
  | literal _ => []
  | identifier _ => []
  | unary _ operand => operand.calls
  | binary _ left right => left.calls ++ right.calls
  | conditional condition thenBranch elseBranch =>
    condition.calls ++ thenBranch.calls ++ elseBranch.calls
  | call id name arguments => (id, name) :: callsOfAll arguments

/-- The calls of several expressions, one after the other. -/
def callsOfAll : List Expr → List (NodeId × String)
  | [] => []
  | e :: rest => e.calls ++ callsOfAll rest

end

end Expr

end ClockedFormula
