import ClockedFormula.Expr

namespace ClockedFormula

/-!
# The function calls in an expression

A formula keeps one memory for every identity of a call.  Wherever an expression stands in a tree, it
brings its identities along, so one identity can occur many times; but all these occurrences are the
same call with the same arguments.  This is what `Expr.Consistent` says.  A consistent expression has
no call inside its own arguments, since those are smaller than the call.  All expressions that come of
numbering are consistent; this is shown in `ClockedFormula.Proofs.Expr.Numbering`.
-/

/-- A function call as it stands in an expression. -/
structure Application where
  id : NodeId
  name : String
  arguments : List Expr

/-- The expression that a function call is. -/
def Application.expression (application : Application) : Expr :=
  .call application.id application.name application.arguments

namespace Expr

/-- Induction over expressions, with a hypothesis for every argument of a call. -/
@[elab_as_elim, induction_eliminator]
theorem induct {motive : Expr → Prop} (literal : ∀ v, motive (.literal v))
    (identifier : ∀ name, motive (.identifier name))
    (unary : ∀ op operand, motive operand → motive (.unary op operand))
    (binary : ∀ op left right, motive left → motive right → motive (.binary op left right))
    (conditional : ∀ condition thenBranch elseBranch, motive condition → motive thenBranch →
      motive elseBranch → motive (.conditional condition thenBranch elseBranch))
    (call : ∀ id name arguments, (∀ e ∈ arguments, motive e) → motive (.call id name arguments)) :
    ∀ e, motive e
  | .literal v => literal v
  | .identifier name => identifier name
  | .unary op operand =>
    unary op operand (induct literal identifier unary binary conditional call operand)
  | .binary op left right =>
    binary op left right (induct literal identifier unary binary conditional call left)
      (induct literal identifier unary binary conditional call right)
  | .conditional condition thenBranch elseBranch =>
    conditional condition thenBranch elseBranch
      (induct literal identifier unary binary conditional call condition)
      (induct literal identifier unary binary conditional call thenBranch)
      (induct literal identifier unary binary conditional call elseBranch)
  | .call id name arguments =>
    call id name arguments fun e _member =>
      induct literal identifier unary binary conditional call e

mutual

/-- The function calls in an expression, in the order of `Expr.calls`, with their arguments. -/
def applications : Expr → List Application
  | literal _ => []
  | identifier _ => []
  | unary _ operand => operand.applications
  | binary _ left right => left.applications ++ right.applications
  | conditional condition thenBranch elseBranch =>
    condition.applications ++ thenBranch.applications ++ elseBranch.applications
  | call id name arguments => ⟨id, name, arguments⟩ :: applicationsOfAll arguments

/-- The function calls in several expressions, one after the other. -/
def applicationsOfAll : List Expr → List Application
  | [] => []
  | e :: rest => e.applications ++ applicationsOfAll rest

end

theorem mem_applicationsOfAll {application : Application} {es : List Expr} :
    application ∈ applicationsOfAll es ↔ ∃ e ∈ es, application ∈ e.applications := by
  induction es with
  | nil => simp [applicationsOfAll]
  | cons e rest ih => simp [applicationsOfAll, ih]

/-- The calls inside a call of an expression are calls of the expression. -/
theorem applications_subset_of_mem {e : Expr} {application : Application}
    (member : application ∈ e.applications) :
    application.expression.applications ⊆ e.applications := by
  induction e with
  | literal v => cases member
  | identifier name => cases member
  | unary op operand ih => exact ih member
  | binary op left right ihLeft ihRight =>
    rcases List.mem_append.mp member with inLeft | inRight
    · intro _ inside
      exact List.mem_append_left _ (ihLeft inLeft inside)
    · intro _ inside
      exact List.mem_append_right _ (ihRight inRight inside)
  | conditional condition thenBranch elseBranch ihCondition ihThen ihElse =>
    rcases List.mem_append.mp member with inFirst | inElse
    · rcases List.mem_append.mp inFirst with inCondition | inThen
      · intro _ inside
        exact List.mem_append_left _ (List.mem_append_left _ (ihCondition inCondition inside))
      · intro _ inside
        exact List.mem_append_left _ (List.mem_append_right _ (ihThen inThen inside))
    · intro _ inside
      exact List.mem_append_right _ (ihElse inElse inside)
  | call id name arguments ih =>
    rcases List.mem_cons.mp member with itself | within
    · rw [itself]
      exact List.Subset.refl _
    · rcases mem_applicationsOfAll.mp within with ⟨e, argument, within⟩
      intro _ inside
      exact List.mem_cons_of_mem _
        (mem_applicationsOfAll.mpr ⟨e, argument, ih e argument within inside⟩)

/-- `Expr.calls` lists the same calls without their arguments. -/
theorem calls_eq_map_applications (e : Expr) :
    e.calls = e.applications.map fun application => (application.id, application.name) := by
  induction e with
  | literal v => rfl
  | identifier name => rfl
  | unary op operand ih => rw [calls, applications, ih]
  | binary op left right ihLeft ihRight =>
    rw [calls, applications, ihLeft, ihRight, List.map_append]
  | conditional condition thenBranch elseBranch ihCondition ihThen ihElse =>
    rw [calls, applications, ihCondition, ihThen, ihElse, List.map_append, List.map_append]
  | call id name arguments ih =>
    have all : callsOfAll arguments = (applicationsOfAll arguments).map fun application =>
        (application.id, application.name) := by
      induction arguments with
      | nil => rfl
      | cons e rest ihRest =>
        rw [callsOfAll, applicationsOfAll, ih e List.mem_cons_self,
          ihRest fun other member => ih other (List.mem_cons_of_mem e member), List.map_append]
    rw [calls, applications, all, List.map_cons]

/-- An expression is not smaller than the calls in it. -/
theorem sizeOf_le_of_mem_applications {e : Expr} {application : Application}
    (member : application ∈ e.applications) : sizeOf application.expression ≤ sizeOf e := by
  induction e with
  | literal v => simp [applications] at member
  | identifier name => simp [applications] at member
  | unary op operand ih =>
    have smaller := ih member
    simp only [unary.sizeOf_spec]
    omega
  | binary op left right ihLeft ihRight =>
    simp only [binary.sizeOf_spec]
    rcases List.mem_append.mp member with inLeft | inRight
    · have smaller := ihLeft inLeft
      omega
    · have smaller := ihRight inRight
      omega
  | conditional condition thenBranch elseBranch ihCondition ihThen ihElse =>
    simp only [conditional.sizeOf_spec]
    rcases List.mem_append.mp member with inFirst | inElse
    · rcases List.mem_append.mp inFirst with inCondition | inThen
      · have smaller := ihCondition inCondition
        omega
      · have smaller := ihThen inThen
        omega
    · have smaller := ihElse inElse
      omega
  | call id name arguments ih =>
    rcases List.mem_cons.mp member with itself | inside
    · rw [itself]
      exact Nat.le_refl _
    · rcases mem_applicationsOfAll.mp inside with ⟨e, argument, member⟩
      have smaller := ih e argument member
      have shorter := List.sizeOf_lt_of_mem argument
      simp only [call.sizeOf_spec]
      omega

/-- Calls with one identity are one call. -/
def Consistent (e : Expr) : Prop :=
  ∀ first ∈ e.applications, ∀ second ∈ e.applications, first.id = second.id → first = second

namespace Consistent

variable {e : Expr}

/-- A part of a consistent expression is consistent. -/
theorem of_subset {part : Expr} (consistent : e.Consistent)
    (subset : part.applications ⊆ e.applications) : part.Consistent := by
  intro first inFirst second inSecond
  exact consistent first (subset inFirst) second (subset inSecond)

theorem argument {id : NodeId} {name : String} {arguments : List Expr}
    (consistent : (call id name arguments).Consistent) (member : e ∈ arguments) : e.Consistent :=
  consistent.of_subset fun _ inside =>
    List.mem_cons_of_mem _ (mem_applicationsOfAll.mpr ⟨e, member, inside⟩)

/-- No call of a consistent expression stands inside its own arguments. -/
theorem ne_of_mem_argument {id : NodeId} {name : String} {arguments : List Expr}
    (consistent : (call id name arguments).Consistent) {argument : Expr}
    (member : argument ∈ arguments) {inner : Application}
    (inside : inner ∈ argument.applications) : inner.id ≠ id := by
  intro same
  have whole : inner = ⟨id, name, arguments⟩ :=
    consistent inner (List.mem_cons_of_mem _ (mem_applicationsOfAll.mpr ⟨argument, member, inside⟩))
      ⟨id, name, arguments⟩ List.mem_cons_self same
  have small := sizeOf_le_of_mem_applications inside
  have shorter := List.sizeOf_lt_of_mem member
  subst whole
  simp only [Application.expression, call.sizeOf_spec] at small
  omega

end Consistent

end Expr

end ClockedFormula
