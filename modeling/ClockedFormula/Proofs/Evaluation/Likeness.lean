import ClockedFormula.Proofs.Walk.Congruence

namespace ClockedFormula

open Walk

/-!
# Evaluations of one expression in two contexts

An expression looks into its context in three places only: for the binding of a name, and where the handlers
for identifiers and for function calls are asked.  Two contexts are alike, for a relation between walks, if
they go together in these three places and have everything else in common.  Then the evaluations of an
expression in them are related.

Which bindings and which handlers go together is left open.  A name may be bound to two different formulas, as
long as entering them is related.
-/

/-- Whether two bindings are the same value, or formulas that are alike. -/
inductive Binding.Like {φ : Type} (alike : φ → φ → Prop) : Binding φ → Binding φ → Prop
  | value (v : Value) : Like alike (.value v) (.value v)
  | formula {f g : φ} (formulas : alike f g) : Like alike (.formula f) (.formula g)

namespace Context

/-- Whether two contexts have everything in common but bindings and handlers. -/
structure SameSetting (context other : Context) : Prop where
  options : context.options = other.options
  store : context.store = other.store
  clock : context.clock = other.clock
  root : context.root = other.root

namespace SameSetting

variable {context other : Context} (same : context.SameSetting other)

include same

theorem foldName_eq (name : String) : other.foldName name = context.foldName name := by
  rw [foldName, foldName, same.options]

theorem clockReading?_eq (name : String) : other.clockReading? name = context.clockReading? name := by
  unfold clockReading? endsWith
  rw [same.options, same.clock]

/-- Built-in functions look neither at bindings nor at handlers. -/
theorem callFunction_eq (id : NodeId) (name : String) (arguments : List Argument) :
    callFunction other id name arguments = callFunction context id name arguments := by
  unfold callFunction callTemporal beginCall
  rw [same.options, same.store, same.clock]

end SameSetting

/-- Whether two contexts go together in all places in which an expression looks into its context. -/
structure Alike (related : Walk.Relation) (alike : Formula → Formula → Prop) (context other : Context) :
    Prop extends SameSetting context other where
  finds : ∀ name, Option.Rel (Binding.Like alike) (context.find? name) (other.find? name)
  identifiers : ∀ name, related (consult context context.identifierHandlers name [])
    (consult other other.identifierHandlers name [])
  functions : ∀ name {arguments others : List Argument}, related.OfArguments arguments others →
    SameViews arguments others → related (consult context context.functionHandlers name arguments)
      (consult other other.functionHandlers name others)

end Context

namespace Walk.Calling

variable {related : Walk.Relation} {context other : Context}
  {alike : Formula → Formula → Prop} {enter enterAlso : Context → Formula → Walk Value}

theorem evaluateIdentifier_alike (calling : Calling related)
    (contexts : context.Alike related alike other)
    (enters : ∀ {f g}, alike f g → related (enter context f) (enterAlso other g)) (name : String) :
    related (ClockedFormula.evaluateIdentifier enter context name)
      (ClockedFormula.evaluateIdentifier enterAlso other name) := by
  unfold ClockedFormula.evaluateIdentifier
  rw [contexts.clockReading?_eq, contexts.foldName_eq]
  have finds := contexts.finds name
  generalize context.find? name = found, other.find? name = also at finds ⊢
  cases finds with
  | some bindings =>
    cases bindings with
    | value v => exact calling.yields v
    | formula formulas => exact enters formulas
  | none =>
    cases context.clockReading? name with
    | some v => exact calling.yields v
    | none =>
      apply calling.sequences (contexts.identifiers _)
      intro claimed
      cases claimed with
      | some v => exact calling.yields v
      | none => exact calling.stops _

theorem evaluateCall_alike (calling : Calling related)
    (contexts : context.Alike related alike other) {arguments others : List Argument}
    (agree : related.OfArguments arguments others) (same : SameViews arguments others) (id : NodeId)
    (name : String) :
    related (ClockedFormula.evaluateCall context id name arguments)
      (ClockedFormula.evaluateCall other id name others) := by
  have notes : ∀ v, related
      (Walk.modifyMemory context.store (fun memory => memory.recordResult id v) >>= fun _ => pure v)
      (Walk.modifyMemory context.store (fun memory => memory.recordResult id v) >>= fun _ => pure v) :=
    fun v => calling.sequences (calling.records context.store id v) fun _ => calling.yields v
  unfold ClockedFormula.evaluateCall
  rw [contexts.foldName_eq, contexts.callFunction_eq, ← contexts.store]
  apply calling.sequences (contexts.functions _ agree same)
  intro claimed
  cases claimed with
  | some v => exact notes v
  | none => exact calling.sequences (calling.callFunction agree id name) notes

/-- Evaluations of an expression are related in contexts that are alike. -/
theorem evaluate_alike (calling : Calling related)
    (contexts : context.Alike related alike other)
    (enters : ∀ {f g}, alike f g → related (enter context f) (enterAlso other g)) (e : Expr) :
    related (ClockedFormula.evaluate enter context e)
      (ClockedFormula.evaluate enterAlso other e) := by
  induction e using Expr.induct_composed with
  | literal v => exact calling.yields v
  | identifier name => exact calling.evaluateIdentifier_alike contexts enters name
  | composed e count recipe parts composed ih =>
    rw [composed.evaluate_eq, composed.evaluate_eq]
    exact calling.followPlain ih recipe
  | call id name arguments ih =>
    exact calling.evaluateCall_alike contexts (Walk.Relation.ofArguments_delay ih)
      (sameViews_delay enter enterAlso context other arguments) id name

end Walk.Calling

end ClockedFormula
