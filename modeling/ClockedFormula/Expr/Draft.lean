import ClockedFormula.Expr
/-!
# Drafts of expressions

A draft is an expression whose calls have no identities yet.  Numbering it gives every call a fresh
one.  A draft can refer by name to expressions that are numbered already; they bring their identities
along, so two such references stand for the same calls.
-/

namespace ClockedFormula

/-- An expression before its calls are numbered. -/
inductive Draft where
  | literal (v : Value)
  | identifier (name : String)
  | unary (op : UnaryOperator) (operand : Draft)
  | binary (op : BinaryOperator) (left right : Draft)
  | conditional (condition thenBranch elseBranch : Draft)
  | call (name : String) (arguments : List Draft)
  /-- A numbered expression of this name. -/
  | shared (name : String)

/-- Numbering counts the identities given out, and fails at a name that stands for no expression. -/
abbrev Numbering (α : Type) : Type := StateT Nat Option α

namespace Numbering

/-- An identity that was not given out before. -/
def fresh : Numbering NodeId := fun next => some (⟨next⟩, next + 1)

end Numbering

namespace Draft

mutual

/-- Number the calls of a draft, given the expressions to which it can refer. -/
def number (known : List (String × Expr)) : Draft → Numbering Expr
  | literal v => return .literal v
  | identifier name => return .identifier name
  | unary op operand => return .unary op (← operand.number known)
  | binary op left right => do
    let left ← left.number known
    let right ← right.number known
    return .binary op left right
  | conditional condition thenBranch elseBranch => do
    let condition ← condition.number known
    let thenBranch ← thenBranch.number known
    let elseBranch ← elseBranch.number known
    return .conditional condition thenBranch elseBranch
  | call name arguments => do
    let id ← Numbering.fresh
    let arguments ← numberAll known arguments
    return .call id name arguments
  | shared name => fun next => (known.lookup name).map fun e => (e, next)

/-- Number the calls of several drafts, one after the other. -/
def numberAll (known : List (String × Expr)) : List Draft → Numbering (List Expr)
  | [] => return []
  | draft :: rest => do
    let e ← draft.number known
    let others ← numberAll known rest
    return e :: others

end

/-- Number named drafts in order; a later one can refer to an earlier one. -/
def numberNamed (known : List (String × Expr)) :
    List (String × Draft) → Numbering (List (String × Expr))
  | [] => return known
  | (name, draft) :: rest => do
    let e ← draft.number known
    numberNamed ((name, e) :: known) rest

end Draft

end ClockedFormula
