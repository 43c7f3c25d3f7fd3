import ClockedFormula.Handler
import ClockedFormula.NodeMemory
import ClockedFormula.RandomStream
import ClockedFormula.Text.LowerCase
/-!
# Formulas and their bindings

A formula is an expression with the options, bindings and handlers under which it is evaluated.  What
its evaluations leave behind is not part of the formula: the memory of its calls, its random numbers
and its cancel flag live in a store, which a formula shares with its clones.

A name may be bound to a value or to a formula, which is then evaluated under its own options,
handlers and store, but sees the bindings of the formula around it in front of its own.
-/

namespace ClockedFormula

/-- A formula. -/
structure Formula where
  expression : Expr
  options : Options
  bindings : Table String (Binding Formula)
  identifierHandlers : List Handler
  functionHandlers : List Handler
  store : StoreId

/-- The bindings of names, in order of insertion. -/
abbrev Bindings : Type := Table String (Binding Formula)

namespace Bindings

/-- The binding of a name: that of exactly this name, and otherwise, if names match in any case, the
first whose name is the same in lower case. -/
def find? (bindings : Bindings) (ignoreCase : Bool) (name : String) : Option (Binding Formula) :=
  (bindings.get? name).or <|
    if ignoreCase then
      let folded := Text.lowerCase name
      (bindings.entries.find? fun entry => Text.lowerCase entry.1 == folded).map Prod.snd
    else none

end Bindings

/-! ## Formulas in the eyes of handlers -/

mutual

/-- What a handler sees of a formula; its chains of handlers are not to be seen. -/
def Formula.view : Formula → FormulaView
  | ⟨expression, options, bindings, _, _, store⟩ =>
    ⟨expression, options, Formula.viewOfTable bindings, store⟩

/-- What a handler sees of a table of bindings. -/
def Formula.viewOfTable : Table String (Binding Formula) → Table String (Binding FormulaView)
  | ⟨entries⟩ => ⟨Formula.viewOfEntries entries⟩

def Formula.viewOfEntries :
    List (String × Binding Formula) → List (String × Binding FormulaView)
  | [] => []
  | entry :: rest => Formula.viewOfEntry entry :: Formula.viewOfEntries rest

def Formula.viewOfEntry : String × Binding Formula → String × Binding FormulaView
  | (name, binding) => (name, Binding.view binding)

/-- What a handler sees of a binding. -/
def Binding.view : Binding Formula → Binding FormulaView
  | .value v => .value v
  | .formula f => .formula f.view

end

namespace Formula

/-- A formula without bindings and handlers. -/
def ofExpr (expression : Expr) (options : Options) (store : StoreId) : Formula where
  expression := expression
  options := options
  bindings := .empty
  identifierHandlers := []
  functionHandlers := []
  store := store

/-- Bind a name; a name that is bound keeps its place. -/
def bind (f : Formula) (name : String) (binding : Binding Formula) : Formula :=
  { f with bindings := f.bindings.insert name binding }

/-- Take back the binding of a name. -/
def unbind (f : Formula) (name : String) : Formula :=
  { f with bindings := f.bindings.erase name }

def addIdentifierHandler (f : Formula) (handler : Handler) : Formula :=
  { f with identifierHandlers := f.identifierHandlers ++ [handler] }

def addFunctionHandler (f : Formula) (handler : Handler) : Formula :=
  { f with functionHandlers := f.functionHandlers ++ [handler] }

def hasHandlers (f : Formula) : Bool :=
  !f.identifierHandlers.isEmpty || !f.functionHandlers.isEmpty

/-- The numbers of handlers in words. -/
def handlerSummary (f : Formula) : String :=
  let identifiers := f.identifierHandlers.length
  let functions := f.functionHandlers.length
  s!"Extensions \x7b parameter_resolvers: {identifiers}, function_resolvers: {functions} \x7d"

/-- The calls of a function, named in any case of its ASCII letters, in the order of the text. -/
def callsTo (f : Formula) (name : String) : List NodeId :=
  (f.expression.calls.filter fun call => Text.equalIgnoringAsciiCase call.2 name).map Prod.fst

end Formula

end ClockedFormula
