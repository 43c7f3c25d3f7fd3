import ClockedFormula.Proofs.Evaluation.Composition
import ClockedFormula.Proofs.Evaluation.Occasion
import ClockedFormula.Proofs.Formula.Tree
import ClockedFormula.Proofs.Function.Failure
import ClockedFormula.Proofs.Value.Exact

namespace ClockedFormula

open Walk

/-!
# How evaluations without handlers can fail

A formula can be evaluated without handlers if neither it nor any formula in its tree of bindings has
some.  Then nobody looks at the cancel flag, nothing is dropped, and all failures are those of operators,
functions and names.
-/

/-- Whether an interruption can come about without handlers. -/
def Interruption.Documented : Interruption → Prop
  | failed e => e.Documented
  | dropped => False
  | exhausted => True

/-- Whether a walk is interrupted only in ways that are documented. -/
abbrev Walk.Documented {α : Type} (walk : Walk α) : Prop := walk.StopsOnly Interruption.Documented

/-! ## Calls -/

section Calls

variable {context : Context} {count : Nat} {operands : Fin count → Walk Value}

theorem callOperands_documented (asks : ∀ position, (operands position).Documented) (id : NodeId)
    (name : String) : (callOperands context id name count operands).Documented := by
  cases resolved : Function.resolve name context.options.ignoreCase with
  | error e =>
    rw [callOperands_unresolved resolved]
    exact .stops (Function.resolve_documented name _ e resolved)
  | ok f =>
    cases f with
    | math f =>
      rw [callOperands_math resolved]
      cases accepted : f.recipe? context.options.roundAwayFromZero count with
      | none => exact .stops trivial
      | some recipe => exact (MathFunction.recipe?_documented accepted).followPlain asks
    | temporal f =>
      rw [callOperands_registered resolved]
      cases accepted : f.recipe? count with
      | none => exact .stops trivial
      | some recipe =>
        have begins : (beginCall context id).Documented :=
          .of_ok fun world => ⟨_, _, beginCall_eq context id world⟩
        have reads : (Workspace.read context.store id).Documented :=
          .of_ok fun world => ⟨_, _, Workspace.read_eq context.store id world⟩
        have writes : ∀ workspace, (Workspace.write context.store id workspace).Documented :=
          fun workspace => .of_ok fun world => ⟨_, _, Workspace.write_eq context.store id workspace world⟩
        exact begins.bind fun progress =>
          (TemporalFunction.recipe?_documented accepted _).follow asks reads writes

/-- A call is handed on to where its function is known, with all the arguments for which the function asks. -/
theorem callFunction_documented {arguments : List Argument}
    (asks : ∀ argument ∈ arguments, argument.value.Documented) (id : NodeId) (name : String) :
    (callFunction context id name arguments).Documented := by
  rw [callFunction_eq_callOperands rfl]
  exact callOperands_documented (fun position => asks _ (List.get_mem arguments position)) id name

theorem evaluateCall_documented {arguments : List Argument} (unhandled : context.functionHandlers = [])
    (asks : ∀ argument ∈ arguments, argument.value.Documented) (id : NodeId) (name : String) :
    (evaluateCall context id name arguments).Documented := by
  unfold evaluateCall
  rw [unhandled]
  refine (callFunction_documented asks id name).bind fun v => ?_
  exact .of_ok fun world => ⟨v, _, bind_ok (recordResult_eq context.store id v world) _⟩

end Calls

/-! ## Expressions and formulas -/

/-- Whether a context has no handlers, and no bindings to formulas but to some. -/
structure Context.Unhandled (all : List Formula) (context : Context) : Prop where
  identifiers : context.identifierHandlers = []
  functions : context.functionHandlers = []
  within : Bindings.Within all context.bindings

section Evaluations

variable {all : List Formula} {context : Context}

theorem evaluateIdentifier_documented {enter : Context → Formula → Walk Value}
    (unhandled : context.Unhandled all) (enters : ∀ f ∈ all, (enter context f).Documented)
    (name : String) : (evaluateIdentifier enter context name).Documented := by
  unfold evaluateIdentifier
  cases found : context.find? name with
  | some binding =>
    cases binding with
    | value v => exact .yields v
    | formula f => exact enters f (unhandled.within.find? found)
  | none =>
    cases context.clockReading? name with
    | some v => exact .yields v
    | none =>
      rw [unhandled.identifiers]
      exact .stops trivial

theorem evaluate_documented {enter : Context → Formula → Walk Value}
    (unhandled : context.Unhandled all) (enters : ∀ f ∈ all, (enter context f).Documented)
    (e : Expr) : (evaluate enter context e).Documented := by
  induction e using Expr.induct_composed with
  | literal v => exact .yields v
  | identifier name => exact evaluateIdentifier_documented unhandled enters name
  | composed e count recipe parts composed ih =>
    rw [composed.evaluate_eq]
    have fails : recipe.Documented := by
      cases composed with
      | unary op operand => exact op.recipe_documented
      | binary op left right => exact op.recipe_documented
      | conditional condition thenBranch elseBranch => exact choose_documented
    exact fails.followPlain ih
  | call id name arguments ih =>
    refine evaluateCall_documented unhandled.functions (fun argument member => ?_) id name
    rw [delay_eq_map] at member
    rcases List.mem_map.mp member with ⟨e, present, rfl⟩
    exact ih e present

theorem walk_documented (tree : ∀ f ∈ all, f.hasHandlers = false ∧ Bindings.Within all f.bindings)
    (depth : Nat) (unhandled : context.Unhandled all) (e : Expr) :
    (walk depth context e).Documented := by
  induction depth generalizing context e with
  | zero => exact .stops trivial
  | succ depth ih =>
    refine evaluate_documented unhandled (fun f known => ?_) e
    rcases tree f known with ⟨handlers, within⟩
    have nobody := Formula.handlers_eq_nil handlers
    exact ih ⟨nobody.1, nobody.2, within.overlay unhandled.within⟩ f.expression

end Evaluations

theorem timeValue_standsFor {clock : Clock} {time : UInt64} (shows : clock.time = some time) :
    (Context.timeValue clock).StandsFor time.toNat := by
  have known : Context.timeValue clock = Value.exactOr time.toNat (.ofNat time.toNat) := by
    rw [Context.timeValue, shows]
  rw [known]
  exact Value.exactOr_standsFor _ _

namespace Formula

/-- Without handlers, an evaluation fails only in ways that are documented, whatever is in the stores and
whether it is cancelled or not.  On the way a call is given to a function exactly if it has a recipe for so
many arguments, no integer overflows, and none is divided by zero. -/
theorem fails_as_documented (f : Formula) (unhandled : ∀ g ∈ f :: f.inner, g.hasHandlers = false)
    (depth : Nat) (clock : Clock) (world : World) :
    (∀ e, (f.evaluateTo depth clock world).1 = .finished (.error e) → e.Documented) ∧
      (∀ (function : Function) (count : Nat),
        function.checkArity count = .ok () ↔ function.Takes count) ∧
      (∀ operation exact, Value.Computes operation exact → ∀ left right a b,
        Operands.ofValues left right = .ok (.integers a b) →
          Value.Settles (operation left right) (exact a.toInt b.toInt)) ∧
      (∀ op exact, BinaryOperator.OnBits op exact → ∀ left right a b,
        left.toUInt16 = .ok a → right.toUInt16 = .ok b →
          ∃ i : Int64, ((op.recipe : Recipe Unit 2 Value).run
            (operandsOfTwo (.ok left) (.ok right)) ()).1 = .ok (.integer i) ∧
              i.toInt = exact a.toNat b.toNat) ∧
      (∀ v a, v.toUInt16 = .ok a → ∃ i : Int64,
        UnaryOperator.bitwiseNot.apply v = .ok (.integer i) ∧ i.toInt = 2 ^ 16 - 1 - a.toNat) ∧
      ∀ time, clock.time = some time → (Context.timeValue clock).StandsFor time.toNat := by
  have tree : ∀ g ∈ f.inner, g.hasHandlers = false ∧ Bindings.Within f.inner g.bindings :=
    fun g inside => ⟨unhandled g (List.mem_cons_of_mem f inside), bindings_within_of_mem inside⟩
  have nobody := handlers_eq_nil (unhandled f List.mem_cons_self)
  have begins : (Context.ofFormula f clock).Unhandled f.inner :=
    ⟨nobody.1, nobody.2, f.bindings_within⟩
  have stops := walk_documented tree depth begins f.expression
  refine ⟨fun e failed => ?_, fun function count => function.checkArity_eq_ok_iff count,
    fun _ _ computes _ _ _ _ integers => computes.settles integers,
    fun _ _ onBits _ _ _ _ first second => onBits.run_eq rfl rfl first second,
    fun _ _ known => UnaryOperator.bitwiseNot_exact known, fun _ shows => timeValue_standsFor shows⟩
  unfold evaluateTo at failed
  cases outcome : walk depth (Context.ofFormula f clock) f.expression world with
  | ok v after =>
    rw [outcome] at failed
    cases failed
  | error reason after =>
    have known := stops world reason after outcome
    rw [outcome] at failed
    cases reason with
    | failed e =>
      cases failed
      exact known
    | dropped => exact known.elim
    | exhausted => cases failed

/-- A remainder by zero. -/
def remainder : Formula :=
  .ofExpr (.binary .modulo (.literal (.integer 7)) (.literal (.integer 0))) .default ⟨1⟩

/-- A name that is bound to a remainder by zero. -/
def indivisible : Formula :=
  (Formula.ofExpr (.identifier "rest") .default ⟨0⟩).bind "rest" (.formula remainder)

/-- An evaluation without handlers goes on to the division by zero although it is cancelled. -/
theorem indivisible_fails :
    (∀ g ∈ indivisible :: indivisible.inner, g.hasHandlers = false) ∧
      (indivisible.evaluateTo 2 .blank (World.empty.setCancelled ⟨0⟩ true)).1 =
        .finished (.error .divisionByZero) ∧ EvalError.divisionByZero.Documented := by
  have alone : remainder.inner = [] := by
    rw [inner_eq_innerOfTable]
    rfl
  have inside : indivisible.inner = [remainder] := by
    have bound : indivisible.bindings = ⟨[("rest", .formula remainder)]⟩ := rfl
    rw [inner_eq_innerOfTable, bound, innerOfTable, innerOfEntries, innerOfEntry, innerOfBinding, alone]
    rfl
  have unhandled : ∀ g ∈ indivisible :: indivisible.inner, g.hasHandlers = false := by
    rw [inside]
    simp [indivisible, remainder, hasHandlers, Formula.bind, ofExpr]
  have failed : (indivisible.evaluateTo 2 .blank (World.empty.setCancelled ⟨0⟩ true)).1 =
      .finished (.error .divisionByZero) := rfl
  exact ⟨unhandled, failed, (fails_as_documented indivisible unhandled 2 .blank _).1 _ failed⟩

end Formula

end ClockedFormula
