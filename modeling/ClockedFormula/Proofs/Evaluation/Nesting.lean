import ClockedFormula.Proofs.Evaluation.Occasion
import ClockedFormula.Proofs.Evaluation.Tracing
import ClockedFormula.Proofs.Walk.Agreement
import Mathlib.Algebra.BigOperators.Group.Finset.Basic
import Mathlib.Algebra.Order.BigOperators.Group.Finset

namespace ClockedFormula

open Walk

/-!
# How deep formulas are nested

Formulas are opened inside one another, and the bindings around a formula come before its own.  So a
name inside a formula can lead back to the formula itself, and then a walk goes on for ever.

This is the only way in which a walk can fail to end.  The formulas that a walk opens are all in the tree
of bindings, which is finite.  If they are nested deeper than there are formulas, then some of them are
open inside themselves.  The main statement turns this round: a walk in which no formula is open more
than so many times at once comes to a value or an error, and the bound on the depth plays no part in it.
-/

/-! ## The bound on the depth -/

/-- A walk that a bound on the depth does not interrupt does not depend on the bound. -/
theorem walk_agrees {depth more : Nat} (lower : depth ≤ more) (context : Context) (e : Expr) :
    AgreesUnless .exhausted (walk depth context e) (walk more context e) := by
  induction depth generalizing more context e with
  | zero => exact fun world => .inl ⟨world, rfl⟩
  | succ depth ih =>
    cases more with
    | zero => omega
    | succ more =>
      have lowerInside : depth ≤ more := by omega
      have catches : Relation.Catches (AgreesUnless .exhausted) := .outcome nofun
      rw [walk, walk]
      exact (AgreesUnless.congruence .exhausted context.root).evaluate catches
        (fun f => ih lowerInside (context.enter f) f.expression) e

/-! ## The formulas that are open -/

/-- Whether the formulas that a walk opens are among the given ones, each of those that are open at an
event was opened by an earlier one, and the walk is exhausted only by a formula that is opened inside so
many others. -/
structure Law.Nests (all : List Formula) (depth : Nat) (_ : World) (events : List Event)
    (stop : Option Interruption) (_ : World) : Prop where
  within : ∀ event ∈ events, ∀ g, event.happening = .opens g → g ∈ all
  chain : ∀ event ∈ events, ∀ g outer, g :: outer <:+ event.opened →
    ∃ earlier ∈ events, earlier.happening = .opens g ∧ earlier.opened = outer
  reached : stop = some .exhausted →
    ∃ event ∈ events, ∃ g, event.happening = .opens g ∧ event.opened.length = depth

namespace Law.Nests

variable {all : List Formula} {depth : Nat} {first second third last : World}
  {es later : List Event} {stop : Option Interruption}

/-- A single step opens no formula and is not exhausted. -/
theorem step (outside : ∀ event ∈ es, event.opened = [])
    (opensNone : ∀ event ∈ es, ∀ g, event.happening ≠ .opens g) (going : stop ≠ some .exhausted) :
    Nests all depth first es stop last where
  within event member g opens := absurd opens (opensNone event member g)
  chain event member g outer suffix := by
    rw [outside event member, List.suffix_nil] at suffix
    cases suffix
  reached exhausted := absurd exhausted going

theorem append (here : Nests all depth first es none second)
    (there : Nests all depth second later stop third) :
    Nests all depth first (es ++ later) stop third where
  within event member g opens := by
    rcases List.mem_append.mp member with early | late
    · exact here.within event early g opens
    · exact there.within event late g opens
  chain event member g outer suffix := by
    rcases List.mem_append.mp member with early | late
    · rcases here.chain event early g outer suffix with ⟨earlier, inside, opens⟩
      exact ⟨earlier, List.mem_append_left later inside, opens⟩
    · rcases there.chain event late g outer suffix with ⟨earlier, inside, opens⟩
      exact ⟨earlier, List.mem_append_right es inside, opens⟩
  reached exhausted := by
    rcases there.reached exhausted with ⟨event, member, deep⟩
    exact ⟨event, List.mem_append_right es member, deep⟩

theorem underHandler (kept : Nests all depth first es stop last) :
    Nests all depth first (es.map .underHandler) (stop.bind Interruption.uncaught?) last where
  within := List.forall_mem_map.mpr kept.within
  chain := by
    refine List.forall_mem_map.mpr fun event member g outer suffix => ?_
    rcases kept.chain event member g outer suffix with ⟨earlier, inside, opens⟩
    exact ⟨earlier.underHandler, List.mem_map_of_mem inside, opens⟩
  reached exhausted := by
    have itself : stop = some .exhausted := by
      rcases Option.bind_eq_some_iff.mp exhausted with ⟨reason, stopped, uncaught⟩
      cases reason with
      | failed e => cases uncaught
      | dropped => cases uncaught
      | exhausted => exact stopped
    rcases kept.reached itself with ⟨event, member, deep⟩
    exact ⟨event.underHandler, List.mem_map_of_mem member, deep⟩

/-- Opening a formula puts everything that happens inside one level deeper. -/
theorem opening {f : Formula} (bound : f ∈ all) (kept : Nests all depth first es stop last) :
    Nests all (depth + 1) first
      (.outside first (.opens f) :: es.map (.insideFormula f)) stop last where
  within event member g opens := by
    rcases List.mem_cons.mp member with rfl | inside
    · cases opens
      exact bound
    · rcases List.mem_map.mp inside with ⟨inner, innerMember, rfl⟩
      exact kept.within inner innerMember g opens
  chain event member g outer suffix := by
    rcases List.mem_cons.mp member with rfl | inside
    · rw [Event.outside, List.suffix_nil] at suffix
      cases suffix
    · rcases List.mem_map.mp inside with ⟨inner, innerMember, rfl⟩
      -- The outermost of the open formulas is the one that is opened here, and the others have been
      -- opened inside it.
      rcases List.suffix_concat_iff.mp suffix with none | ⟨before, parts, suffixInside⟩
      · cases none
      · cases before with
        | nil =>
          cases parts
          exact ⟨_, List.mem_cons_self, rfl, rfl⟩
        | cons innermost rest =>
          cases parts
          rcases kept.chain inner innerMember g rest suffixInside with ⟨earlier, early, opens, same⟩
          refine ⟨earlier.insideFormula f, List.mem_cons_of_mem _ (List.mem_map_of_mem early), opens, ?_⟩
          exact congrArg (· ++ [f]) same
  reached exhausted := by
    rcases kept.reached exhausted with ⟨event, member, g, opens, deep⟩
    refine ⟨event.insideFormula f, List.mem_cons_of_mem _ (List.mem_map_of_mem member), g, opens, ?_⟩
    rw [Event.insideFormula, List.length_append, deep, List.length_singleton]

/-- A formula that may not be opened exhausts the walk. -/
theorem refusal {f : Formula} (bound : f ∈ all) (world : World) :
    Nests all 0 world [.outside world (.opens f)] (some .exhausted) world where
  within event member g opens := by
    rw [List.mem_singleton.mp member] at opens
    cases opens
    exact bound
  chain event member g outer suffix := by
    rw [List.mem_singleton.mp member, Event.outside, List.suffix_nil] at suffix
    cases suffix
  reached _ := ⟨_, List.mem_singleton_self _, f, rfl, rfl⟩

theorem basic (all : List Formula) (depth : Nat) (root : StoreId) :
    Law.Basic root (Nests all depth) where
  idle world := .step (by simp) (by simp) (by simp)
  fails e world := .step (by simp) (by simp) (by simp)
  compose := .append
  changes store change world spares := .step (by simp) (by simp) (by simp)
  cancels place world := .step (by simp) (by simp) (by simp)
  notes note world := .step (by simp [Event.byHandler]) (by simp [Event.byHandler]) (by simp)
  asks handler name world going :=
    .step (by simp [Event.outside]) (by simp [Event.outside]) (by simp)
  declines world cancelled := .step (by simp [Event.outside]) (by simp [Event.outside]) (by simp)
  drops world cancelled := .step (by simp [Event.byHandler]) (by simp [Event.byHandler]) (by simp)
  resumes world going := .step (by simp [Event.byHandler]) (by simp [Event.byHandler]) (by simp)
  catches := .underHandler

/-- The formula that an event opens, and the formulas around it, were opened one inside the other. -/
theorem openers (nests : Nests all depth first es stop last) {event : Event} (member : event ∈ es)
    {f g : Formula} (opens : event.happening = .opens f) {outer : List Formula}
    (suffix : g :: outer <:+ f :: event.opened) :
    ∃ opener ∈ es, opener.happening = .opens g ∧ opener.opened = outer := by
  rcases List.suffix_cons_iff.mp suffix with whole | inside
  · cases whole
    exact ⟨event, member, opens, rfl⟩
  · exact nests.chain event member g outer inside

end Law.Nests

/-- A walk nests formulas of the tree only, and is exhausted only at its bound. -/
theorem walk_nests {all : List Formula} (closed : ∀ g ∈ all, Bindings.Within all g.bindings)
    (depth : Nat) {context : Context} (within : Bindings.Within all context.bindings) (e : Expr) :
    Keeps (Law.Nests all depth) (walk (depth + 1) context e) (walkEvents (depth + 1) context e) := by
  induction depth generalizing context e with
  | zero =>
    have refused : ∀ name f, context.find? name = some (.formula f) →
        Keeps (Law.Nests all 0) (walk 0 (context.enter f) f.expression)
          (openingEvents (fun outer f => walkEvents 0 (outer.enter f) f.expression) context f) :=
      fun name f found world => .refusal (within.find? found) world
    exact (Law.Nests.basic all 0 context.root).keeps_evaluate refused e
  | succ depth ih =>
    have opened : ∀ name f, context.find? name = some (.formula f) →
        Keeps (Law.Nests all (depth + 1)) (walk (depth + 1) (context.enter f) f.expression)
          (openingEvents (fun outer f => walkEvents (depth + 1) (outer.enter f) f.expression)
            context f) := by
      intro name f found world
      have bound : f ∈ all := within.find? found
      have withinInside : Bindings.Within all (context.enter f).bindings :=
        (closed f bound).overlay within
      exact .opening bound (ih withinInside f.expression world)
    exact (Law.Nests.basic all (depth + 1) context.root).keeps_evaluate opened e

/-! ## Walks that end -/

/-- A list is not longer than its members allow, if each of them occurs only so many times. -/
theorem length_le_of_not_reopened {α : Type} {all l : List α} {times : Nat} (within : l ⊆ all)
    (bounded : ∀ a outer, a :: outer <:+ l → ¬ (List.replicate times a).Sublist outer) :
    l.length ≤ all.length * times := by
  classical
  have counts : ∀ a ∈ l.toFinset, l.count a ≤ times := by
    intro a _
    refine Nat.le_of_not_lt fun more => ?_
    have often : (List.replicate (times + 1) a).Sublist l := List.replicate_sublist_iff.mpr more
    rw [List.replicate_succ, List.cons_sublist_iff] at often
    -- The first occurrence has all the others behind it.
    rcases often with ⟨before, after, parts, member, others⟩
    rcases List.mem_iff_append.mp member with ⟨inner, between, split⟩
    have suffix : a :: (between ++ after) <:+ l := by
      rw [parts, split, List.append_assoc]
      exact List.suffix_append inner _
    exact bounded a (between ++ after) suffix (others.trans (List.sublist_append_right between after))
  have subset : l.toFinset ⊆ all.toFinset := by
    intro a member
    rw [List.mem_toFinset] at member ⊢
    exact within member
  calc l.length = ∑ a ∈ l.toFinset, l.count a := (List.sum_toFinset_count_eq_length l).symm
    _ ≤ l.toFinset.card * times := Finset.sum_le_card_nsmul _ _ _ counts
    _ ≤ all.length * times :=
      Nat.mul_le_mul_right times ((Finset.card_le_card subset).trans all.toFinset_card_le)

namespace Formula

/-- Whether a walk up to a depth never opens a formula that is open so many times already, so that no
formula is open more often than that at once. -/
def OpenAtMost (f : Formula) (times depth : Nat) (clock : Clock) (world : World) : Prop :=
  ∀ event ∈ f.eventsTo depth clock world, ∀ g, event.happening = .opens g →
    ¬ (List.replicate times g).Sublist event.opened

variable {f : Formula} {times : Nat} {clock : Clock} {world : World}

/-- A walk that has room for all formulas of the tree so many times is not exhausted, if none of them is
open more often at once. -/
theorem not_exhausted_of_openAtMost
    (bounded : f.OpenAtMost times (f.inner.length * times + 1) clock world) :
    (walk (f.inner.length * times + 1) (Context.ofFormula f clock) f.expression).interruption? world ≠
      some .exhausted := by
  intro exhausted
  have within : Bindings.Within f.inner (Context.ofFormula f clock).bindings := f.bindings_within
  have nests := walk_nests (fun g inside => bindings_within_of_mem inside) (f.inner.length * times)
    within f.expression world
  rcases nests.reached exhausted with ⟨event, member, g, opens, deep⟩
  have inTree : g :: event.opened ⊆ f.inner := by
    intro h present
    rcases List.mem_iff_append.mp present with ⟨before, outer, parts⟩
    have suffix : h :: outer <:+ g :: event.opened := by
      rw [parts]
      exact List.suffix_append before _
    rcases nests.openers member opens suffix with ⟨opener, inside, alsoOpens, _⟩
    exact nests.within opener inside h alsoOpens
  have short : (g :: event.opened).length ≤ f.inner.length * times := by
    refine length_le_of_not_reopened inTree fun h outer suffix => ?_
    rcases nests.openers member opens suffix with ⟨opener, inside, alsoOpens, around⟩
    rw [← around]
    exact bounded opener inside h alsoOpens
  rw [List.length_cons, deep] at short
  omega

/-- A walk in which no formula is open more than so many times at once comes to a value or an error.  It
comes to the same within every bound on the depth that has room for all formulas of the tree so many
times. -/
theorem ends_of_openAtMost
    (bounded : f.OpenAtMost times (f.inner.length * times + 1) clock world) :
    ∃ result after, ∀ depth, f.inner.length * times < depth →
      f.evaluateTo depth clock world = (.finished result, after) := by
  have going := not_exhausted_of_openAtMost bounded
  unfold interruption? at going
  have known : ∃ result after,
      conclusion (walk (f.inner.length * times + 1) (Context.ofFormula f clock) f.expression world) =
        (.finished result, after) := by
    cases outcome : walk (f.inner.length * times + 1) (Context.ofFormula f clock) f.expression
        world with
    | ok v after => exact ⟨_, after, rfl⟩
    | error reason after =>
      rw [outcome] at going
      cases reason with
      | failed e => exact ⟨_, after, rfl⟩
      | dropped => exact ⟨_, after, rfl⟩
      | exhausted => exact absurd rfl going
  rcases known with ⟨result, after, finished⟩
  refine ⟨result, after, fun depth room => ?_⟩
  rw [evaluateTo_eq]
  rcases walk_agrees room (Context.ofFormula f clock) f.expression world with ⟨last, stopped⟩ | same
  · rw [stopped] at going
    exact absurd rfl going
  · rw [same]
    exact finished

/-- An inch, in sixteenths. -/
def inch : Formula := .ofExpr (.literal (.integer 16)) .default ⟨0⟩

/-- A square inch. -/
def square : Formula :=
  (Formula.ofExpr (.binary .times (.identifier "inch") (.identifier "inch")) .default ⟨1⟩).bind
    "inch" (.formula inch)

/-- A stamp of a square inch. -/
def stamp : Formula :=
  (Formula.ofExpr (.identifier "area") .default ⟨2⟩).bind "area" (.formula square)

/-- The inch is opened twice inside the square, but never inside itself, so the walk ends. -/
theorem stamp_ends :
    stamp.OpenAtMost 1 3 .blank World.empty ∧
    (∃ result after, stamp.evaluateAt .blank World.empty = (.finished result, after)) ∧
    (stamp.evaluateAt .blank World.empty).1.value? = some (.integer 256) := by
  have told : stamp.eventsTo 3 .blank World.empty =
      [.outside World.empty (.opens square), ⟨.opens inch, World.empty, 0, [square]⟩,
        ⟨.opens inch, World.empty, 0, [square]⟩] := rfl
  have apart : inch ≠ square := fun same => by
    have stores := congrArg (fun f => f.store.number) same
    cases stores
  have bounded : stamp.OpenAtMost 1 3 .blank World.empty := by
    intro event member g opens again
    rw [told] at member
    rw [List.replicate_one, List.singleton_sublist] at again
    simp only [List.mem_cons, List.not_mem_nil, or_false] at member
    rcases member with rfl | rfl | rfl
    · cases again
    · cases opens
      exact apart (List.mem_singleton.mp again)
    · cases opens
      exact apart (List.mem_singleton.mp again)
  -- The tree of the stamp has two formulas, the square and the inch.
  have size : stamp.inner.length * 1 + 1 = 3 := rfl
  rw [← size] at bounded
  rcases ends_of_openAtMost bounded with ⟨result, after, ends⟩
  have value : (stamp.evaluateAt .blank World.empty).1.value? = some (.integer 256) := by
    decide +kernel
  exact ⟨bounded, ⟨result, after, ends depthLimit (by decide)⟩, value⟩

/-- A formula that asks for a name. -/
def echo : Formula := .ofExpr (.identifier "a") .default ⟨0⟩

/-- The same under its own name. -/
def echoing : Formula := echo.bind "a" (.formula echo)

/-- Inside the bindings of the echo the name leads back to the echo, at every depth. -/
theorem walk_echo (depth : Nat) {context : Context} (around : context.bindings = echoing.bindings)
    (world : World) :
    walk depth context echo.expression world = .error .exhausted world := by
  induction depth generalizing context with
  | zero => rfl
  | succ depth ih =>
    have found : context.find? "a" = some (.formula echo) := by
      rw [Context.find?, around]
      rfl
    have inside : (context.enter echo).bindings = echoing.bindings := by
      rw [Context.enter, around]
      rfl
    have entered := ih inside
    rw [walk]
    change evaluateIdentifier (fun outer f => walk depth (outer.enter f) f.expression) context "a"
      world = _
    rw [evaluateIdentifier, found]
    exact entered

/-- The echo has no end: no bound on the depth lets its walk come to a value or an error. -/
theorem echoing_never_ends :
    ¬ ∃ depth result, (echoing.evaluateTo depth .blank World.empty).1 = .finished result := by
  rintro ⟨depth, result, finished⟩
  have exhausted : walk depth (Context.ofFormula echoing .blank) echoing.expression World.empty =
      .error .exhausted World.empty := walk_echo depth rfl World.empty
  rw [evaluateTo_eq, exhausted] at finished
  cases finished

end Formula

end ClockedFormula
