import ClockedFormula.Proofs.Evaluation.Moment
import ClockedFormula.Proofs.Function.Passage

namespace ClockedFormula

open Walk

/-!
# The meaning of an expression at a step of the clock

A walk changes what its calls remember, and a call that stands in several places is met several times.
At one step of the clock this cannot be seen.  The first visit of a call goes by what its node
remembered when the walk began; every later visit repeats the first.  So an expression has a meaning
that is told from this memory alone, without any walk: a value, and the calls that are made.

The main statement is that a walk comes to the meaning.  Its invariant is a condition on nodes: each of
them is as it was at first, or it is settled, and so is everything that its call has asked for.
-/

/-- What an expression comes to, and the calls that are made for it. -/
structure Meaning where
  value : Attempt Value
  calls : List Application

instance : Inhabited Meaning := ⟨.ok .null, []⟩

namespace Meaning

variable {count : Nat}

/-- The meaning of a recipe over parts. -/
def composed (recipe : Recipe Unit count Value) (parts : Fin count → Meaning) : Meaning where
  value := (recipe.run (fun position => (parts position).value) ()).1
  calls := (recipe.asked (fun position => (parts position).value) ()).flatMap fun position =>
    (parts position).calls

/-- The meaning of a call. -/
def applied (context : Context) (memory : NodeId → NodeState) (application : Application)
    (parts : Fin count → Meaning) : Meaning :=
  let through := passage context application.name (fun position => (parts position).value)
    (memory application.id)
  ⟨through.value, (through.asked.flatMap fun position => (parts position).calls) ++ [application]⟩

end Meaning

mutual

/-- The meaning of an expression, given what its nodes remember. -/
def meaning (context : Context) (memory : NodeId → NodeState) : Expr → Meaning
  | .literal v => ⟨.ok v, []⟩
  | .identifier name => ⟨context.reading name, []⟩
  | .unary op operand => .composed op.recipe fun _ => meaning context memory operand
  | .binary op left right =>
    .composed op.recipe
      (operandsOfTwo (meaning context memory left) (meaning context memory right))
  | .conditional condition thenBranch elseBranch =>
    .composed choose
      (operandsOfThree (meaning context memory condition) (meaning context memory thenBranch)
        (meaning context memory elseBranch))
  | .call id name arguments =>
    .applied context memory ⟨id, name, arguments⟩
      fun position : Fin arguments.length => (meaningOfAll context memory arguments).getD position
        default

/-- The meanings of several expressions. -/
def meaningOfAll (context : Context) (memory : NodeId → NodeState) : List Expr → List Meaning
  | [] => []
  | e :: rest => meaning context memory e :: meaningOfAll context memory rest

end

variable {context : Context} {memory : NodeId → NodeState}

theorem meaningOfAll_eq_map (arguments : List Expr) :
    meaningOfAll context memory arguments = arguments.map (meaning context memory) := by
  induction arguments with
  | nil => rfl
  | cons e rest ih => rw [meaningOfAll, ih, List.map_cons]

theorem Composed.meaning_eq {e : Expr} {count : Nat} {recipe : Recipe Unit count Value}
    {parts : Fin count → Expr} (composed : Composed e count recipe parts) (context : Context)
    (memory : NodeId → NodeState) :
    meaning context memory e =
      .composed recipe fun position => meaning context memory (parts position) := by
  cases composed with
  | unary op operand => rw [meaning]
  | binary op left right => rw [meaning, map_operandsOfTwo (meaning context memory)]
  | conditional condition thenBranch elseBranch =>
    rw [meaning, map_operandsOfThree (meaning context memory)]

namespace Application

/-- The meaning of an argument of a call. -/
def part (context : Context) (memory : NodeId → NodeState) (application : Application)
    (position : Fin application.arguments.length) : Meaning :=
  meaning context memory (application.arguments.get position)

/-- The passage through a call, from what its node remembers at first. -/
def passage (context : Context) (memory : NodeId → NodeState) (application : Application) :
    Passage application.arguments.length :=
  ClockedFormula.passage context application.name
    (fun position => (application.part context memory position).value) (memory application.id)

/-- The calls that are made for the arguments of a call. -/
def innerCalls (context : Context) (memory : NodeId → NodeState) (application : Application) :
    List Application :=
  (application.passage context memory).asked.flatMap fun position =>
    (application.part context memory position).calls

theorem meaning_expression (application : Application) :
    meaning context memory application.expression =
      ⟨(application.passage context memory).value,
        application.innerCalls context memory ++ [application]⟩ := by
  have parts : (fun position : Fin application.arguments.length =>
      (meaningOfAll context memory application.arguments).getD position default) =
      application.part context memory := by
    funext position
    simp [meaningOfAll_eq_map, part]
  rw [expression, meaning, parts]
  rfl

end Application

/-! ## The calls of a meaning -/

theorem calls_subset (context : Context) (memory : NodeId → NodeState) (e : Expr) :
    (meaning context memory e).calls ⊆ e.applications := by
  induction e using Expr.induct_composed with
  | literal v => exact List.nil_subset _
  | identifier name => exact List.nil_subset _
  | composed e count recipe parts composed ih =>
    rw [composed.meaning_eq]
    intro application member
    rcases List.mem_flatMap.mp member with ⟨position, _, inside⟩
    exact composed.applications_subset position (ih position inside)
  | call id name arguments ih =>
    have known : meaning context memory (.call id name arguments) = _ :=
      Application.meaning_expression ⟨id, name, arguments⟩
    rw [known]
    intro application member
    rcases List.mem_append.mp member with inner | itself
    · rcases List.mem_flatMap.mp inner with ⟨position, _, inside⟩
      have argument := List.get_mem arguments position
      exact List.mem_cons_of_mem _ (applications_subset_ofAll argument (ih _ argument inside))
    · rw [List.mem_singleton.mp itself]
      exact List.mem_cons_self

/-- What a call asks for is called by whatever makes the call. -/
theorem calls_closed (e : Expr) {application : Application}
    (member : application ∈ (meaning context memory e).calls) :
    (meaning context memory application.expression).calls ⊆ (meaning context memory e).calls := by
  induction e using Expr.induct_composed with
  | literal v => cases member
  | identifier name => cases member
  | composed e count recipe parts composed ih =>
    rw [composed.meaning_eq] at member ⊢
    rcases List.mem_flatMap.mp member with ⟨position, asked, inside⟩
    intro _ called
    exact List.mem_flatMap.mpr ⟨position, asked, ih position inside called⟩
  | call id name arguments ih =>
    have known : meaning context memory (.call id name arguments) = _ :=
      Application.meaning_expression ⟨id, name, arguments⟩
    rw [known] at member ⊢
    rcases List.mem_append.mp member with inner | itself
    · rcases List.mem_flatMap.mp inner with ⟨position, asked, inside⟩
      have argument := List.get_mem arguments position
      intro _ called
      exact List.mem_append_left _
        (List.mem_flatMap.mpr ⟨position, asked, ih _ argument inside called⟩)
    · rw [List.mem_singleton.mp itself, Application.meaning_expression]
      exact List.Subset.refl _

/-! ## Nodes in a walk -/

/-- Whether a node is as it was at first. -/
def Untouched (context : Context) (memory : NodeId → NodeState) (world : World)
    (application : Application) : Prop :=
  (world.node context.store application.id).carried = (memory application.id).carried

/-- Whether a node is as its call leaves it. -/
def Settled (context : Context) (memory : NodeId → NodeState) (world : World)
    (application : Application) : Prop :=
  (world.node context.store application.id).carried =
    (application.passage context memory).node.carried

/-- Whether all that a call makes is settled, the call included. -/
def Done (context : Context) (memory : NodeId → NodeState) (world : World)
    (application : Application) : Prop :=
  ∀ called ∈ (meaning context memory application.expression).calls,
    Settled context memory world called

/-- Whether an expression can be evaluated to its meaning: each of its calls is still to come, or it is
done with. -/
def Ready (context : Context) (memory : NodeId → NodeState) (world : World) (e : Expr) : Prop :=
  ∀ application ∈ e.applications,
    Untouched context memory world application ∨ Done context memory world application

/-- Whether calls lead from one world to another: they are settled there, and no other nodes are
touched.  Nothing is said about the node of a call that is under way. -/
structure Reaches (context : Context) (memory : NodeId → NodeState) (underWay : List NodeId)
    (calls : List Application) (first second : World) : Prop where
  settled : ∀ called ∈ calls, Settled context memory second called
  apart : ∀ called ∈ calls, called.id ∉ underWay
  frame : ∀ id, id ∉ underWay → (∀ called ∈ calls, called.id ≠ id) →
    second.node context.store id = first.node context.store id

namespace Reaches

variable {underWay : List NodeId} {calls later : List Application} {first second third : World}

theorem nil (context : Context) (memory : NodeId → NodeState) (underWay : List NodeId)
    (world : World) : Reaches context memory underWay [] world world :=
  ⟨fun _ => nofun, fun _ => nofun, fun _ _ _ => rfl⟩

/-- What is settled stays so, since the calls of one expression are told apart by their nodes. -/
theorem settled_of_settled {whole : Expr} (consistent : whole.Consistent)
    (reaches : Reaches context memory underWay calls first second)
    (inside : calls ⊆ whole.applications) {called : Application}
    (present : called ∈ whole.applications) (other : called.id ∉ underWay)
    (settled : Settled context memory first called) : Settled context memory second called := by
  by_cases touched : ∃ again ∈ calls, again.id = called.id
  · rcases touched with ⟨again, member, same⟩
    rw [← consistent again (inside member) called present same]
    exact reaches.settled again member
  · have untouched : ∀ again ∈ calls, again.id ≠ called.id :=
      fun again member same => touched ⟨again, member, same⟩
    rw [Settled, reaches.frame called.id other untouched]
    exact settled

theorem append {whole : Expr} (consistent : whole.Consistent)
    (here : Reaches context memory underWay calls first second)
    (there : Reaches context memory [] later second third)
    (apart : ∀ called ∈ later, called.id ∉ underWay) (inside : calls ⊆ whole.applications)
    (within : later ⊆ whole.applications) :
    Reaches context memory underWay (calls ++ later) first third := by
  refine ⟨?_, ?_, ?_⟩
  · intro called member
    rcases List.mem_append.mp member with early | late
    · exact there.settled_of_settled consistent within (inside early) List.not_mem_nil
        (here.settled called early)
    · exact there.settled called late
  · intro called member
    rcases List.mem_append.mp member with early | late
    · exact here.apart called early
    · exact apart called late
  · intro id own others
    rw [there.frame id List.not_mem_nil fun called member =>
        others called (List.mem_append_right _ member),
      here.frame id own fun called member => others called (List.mem_append_left _ member)]

/-- Calls that were settled before can be counted among those that lead to a world. -/
theorem extend {whole : Expr} (consistent : whole.Consistent)
    (reaches : Reaches context memory underWay calls first second)
    (inside : later ⊆ whole.applications) (subset : calls ⊆ later)
    (known : ∀ called ∈ later, called ∈ calls ∨ Settled context memory first called)
    (apart : ∀ called ∈ later, called.id ∉ underWay) :
    Reaches context memory underWay later first second := by
  refine ⟨?_, apart, ?_⟩
  · intro called member
    rcases known called member with made | before
    · exact reaches.settled called made
    · exact reaches.settled_of_settled consistent (List.Subset.trans subset inside)
        (inside member) (apart called member) before
  · intro id own others
    exact reaches.frame id own fun called made => others called (subset made)

/-- The node of a call under way may change. -/
theorem change_own {id : NodeId} (reaches : Reaches context memory [id] calls first second)
    (same : ∀ other, other ≠ id →
      third.node context.store other = second.node context.store other) :
    Reaches context memory [id] calls first third := by
  refine ⟨?_, reaches.apart, ?_⟩
  · intro called member
    have distinct : called.id ≠ id :=
      fun equal => reaches.apart called member (List.mem_singleton.mpr equal)
    rw [Settled, same called.id distinct]
    exact reaches.settled called member
  · intro other own others
    rw [same other fun equal => own (List.mem_singleton.mpr equal)]
    exact reaches.frame other own others

/-- A call that is not under way any more. -/
theorem complete {application : Application}
    (reaches : Reaches context memory [application.id] calls first second)
    (same : ∀ id, id ≠ application.id →
      third.node context.store id = second.node context.store id)
    (settled : Settled context memory third application) :
    Reaches context memory [] (calls ++ [application]) first third := by
  refine ⟨?_, fun _ _ => List.not_mem_nil, ?_⟩
  · intro called member
    rcases List.mem_append.mp member with inner | itself
    · have other : called.id ≠ application.id :=
        fun equal => reaches.apart called inner (List.mem_singleton.mpr equal)
      rw [Settled, same called.id other]
      exact reaches.settled called inner
    · rw [List.mem_singleton.mp itself]
      exact settled
  · intro id _ others
    have other : id ≠ application.id :=
      fun equal => others application (List.mem_append_right _ List.mem_cons_self) equal.symm
    rw [same id other]
    exact reaches.frame id (fun member => other (List.mem_singleton.mp member))
      fun called inner => others called (List.mem_append_left _ inner)

/-- Calls that are made again leave the nodes as they were. -/
theorem carried_again (reaches : Reaches context memory [] calls first second)
    (again : Reaches context memory [] calls second third) (id : NodeId) :
    (third.node context.store id).carried = (second.node context.store id).carried := by
  by_cases touched : ∃ called ∈ calls, called.id = id
  · rcases touched with ⟨called, made, rfl⟩
    exact (again.settled called made).trans (reaches.settled called made).symm
  · rw [again.frame id List.not_mem_nil fun called made same => touched ⟨called, made, same⟩]

/-- An expression that could be evaluated before some calls can be evaluated after them. -/
theorem ready {whole : Expr} (consistent : whole.Consistent)
    (reaches : Reaches context memory underWay calls first second)
    (inside : calls ⊆ whole.applications)
    (closed : ∀ called ∈ calls, (meaning context memory called.expression).calls ⊆ calls)
    {e : Expr} (within : e.applications ⊆ whole.applications)
    (apart : ∀ application ∈ e.applications, application.id ∉ underWay)
    (ready : Ready context memory first e) : Ready context memory second e := by
  intro application member
  by_cases touched : ∃ called ∈ calls, called.id = application.id
  · rcases touched with ⟨called, made, same⟩
    have itself := consistent called (inside made) application (within member) same
    subst itself
    exact .inr fun other asked => reaches.settled other (closed called made asked)
  · have untouched : ∀ called ∈ calls, called.id ≠ application.id :=
      fun called made same => touched ⟨called, made, same⟩
    rcases ready application member with still | done
    · refine .inl ?_
      rw [Untouched, reaches.frame application.id (apart application member) untouched]
      exact still
    · apply Or.inr
      intro other asked
      have present := Expr.applications_subset_of_mem member (calls_subset _ _ _ asked)
      exact reaches.settled_of_settled consistent inside (within present) (apart other present)
        (done other asked)

end Reaches

/-! ## Parts of an expression -/

/-- The calls of several parts, one part after the other. -/
def callsOf {count : Nat} (context : Context) (memory : NodeId → NodeState)
    (parts : Fin count → Expr) (positions : List (Fin count)) : List Application :=
  positions.flatMap fun position => (meaning context memory (parts position)).calls

/-- Parts of a consistent expression, none of whose calls is under way. -/
structure Parts {count : Nat} (whole : Expr) (underWay : List NodeId) (parts : Fin count → Expr) :
    Prop where
  consistent : whole.Consistent
  inside : ∀ position, (parts position).applications ⊆ whole.applications
  apart : ∀ position, ∀ called ∈ (parts position).applications, called.id ∉ underWay

namespace Parts

variable {count : Nat} {whole : Expr} {underWay : List NodeId} {parts : Fin count → Expr}
  {before : List (Fin count)} {world other after : World}

theorem callsOf_subset (divided : Parts whole underWay parts) (positions : List (Fin count)) :
    callsOf context memory parts positions ⊆ whole.applications := by
  intro called member
  rcases List.mem_flatMap.mp member with ⟨position, _, made⟩
  exact divided.inside position (calls_subset _ _ _ made)

theorem callsOf_apart (divided : Parts whole underWay parts) (positions : List (Fin count)) :
    ∀ called ∈ callsOf context memory parts positions, called.id ∉ underWay := by
  intro called member
  rcases List.mem_flatMap.mp member with ⟨position, _, made⟩
  exact divided.apart position called (calls_subset _ _ _ made)

/-- What the calls of the parts ask for is among the calls of the parts. -/
theorem callsOf_closed (positions : List (Fin count)) :
    ∀ called ∈ callsOf context memory parts positions,
      (meaning context memory called.expression).calls ⊆
        callsOf context memory parts positions := by
  intro called member
  rcases List.mem_flatMap.mp member with ⟨position, asked, inside⟩
  intro _ inner
  exact List.mem_flatMap.mpr ⟨position, asked, calls_closed _ inside inner⟩

/-- Every part can be evaluated after some of them. -/
theorem ready (divided : Parts whole underWay parts)
    (reached : Reaches context memory underWay (callsOf context memory parts before) world other)
    (first : ∀ position, Ready context memory world (parts position)) (position : Fin count) :
    Ready context memory other (parts position) :=
  reached.ready divided.consistent (divided.callsOf_subset before) (callsOf_closed before)
    (divided.inside position) (divided.apart position) (first position)

/-- One more part is evaluated after some of them. -/
theorem ask (divided : Parts whole underWay parts) {position : Fin count}
    (reached : Reaches context memory underWay (callsOf context memory parts before) world other)
    (goes : Reaches context memory [] (meaning context memory (parts position)).calls other
      after) :
    Reaches context memory underWay (callsOf context memory parts (before ++ [position])) world
      after := by
  have made := calls_subset context memory (parts position)
  rw [callsOf, List.flatMap_append, List.flatMap_singleton]
  exact reached.append divided.consistent goes
    (fun called member => divided.apart position called (made member))
    (divided.callsOf_subset before) (List.Subset.trans made (divided.inside position))

end Parts

theorem Composed.divides {whole e : Expr} (consistent : whole.Consistent) {count : Nat}
    {recipe : Recipe Unit count Value} {parts : Fin count → Expr}
    (composed : Composed e count recipe parts) (inside : e.applications ⊆ whole.applications) :
    Parts whole [] parts := by
  refine ⟨consistent, ?_, ?_⟩
  · intro position
    exact List.Subset.trans (composed.applications_subset position) inside
  · intro position called member
    exact List.not_mem_nil

theorem Application.applications_argument (application : Application)
    (position : Fin application.arguments.length) :
    (application.arguments.get position).applications ⊆ application.expression.applications := by
  intro called member
  apply List.mem_cons_of_mem
  exact applications_subset_ofAll (List.get_mem application.arguments position) member

theorem Application.divides {whole : Expr} (consistent : whole.Consistent)
    (application : Application)
    (inside : application.expression.applications ⊆ whole.applications) :
    Parts whole [application.id] application.arguments.get := by
  refine ⟨consistent, ?_, ?_⟩
  · intro position
    exact List.Subset.trans (application.applications_argument position) inside
  · intro position called member equal
    have argument := List.get_mem application.arguments position
    have other := (consistent.of_subset inside).ne_of_mem_argument argument member
    exact other (List.mem_singleton.mp equal)

/-! ## Walks come to meanings -/

/-- What an evaluation from a world has to come to. -/
def ComesTo (enter : Context → Formula → Walk Value) (context : Context)
    (memory : NodeId → NodeState) (e : Expr) (world : World) : Prop :=
  ∃ after, evaluate enter context e world = conclude (meaning context memory e).value after ∧
    Reaches context memory [] (meaning context memory e).calls world after ∧
    after.random context.store = world.random context.store

section Walks

variable {enter : Context → Formula → Walk Value} {whole : Expr}

theorem Ready.of_subset {e part : Expr} (subset : part.applications ⊆ e.applications)
    {world : World} (ready : Ready context memory world e) : Ready context memory world part := by
  intro application member
  exact ready application (subset member)

/-- What accompanies a recipe over parts: the calls of the parts that were asked for lead from the
first world to the present one. -/
theorem Parts.accompanies {count : Nat} {parts : Fin count → Expr}
    (divided : Parts whole [] parts)
    (known : ∀ position world, Ready context memory world (parts position) →
      ComesTo enter context memory (parts position) world)
    {world : World} (first : ∀ position, Ready context memory world (parts position)) :
    Recipe.Accompanies (fun position => evaluate enter context (parts position))
      (fun position => (meaning context memory (parts position)).value)
      (pure () : Walk Unit) (fun _ => pure ()) fun before _ other =>
        Reaches context memory [] (callsOf context memory parts before) world other ∧
          other.random context.store = world.random context.store where
  asks before position _ other holds := by
    rcases known position other (divided.ready holds.1 first position) with
      ⟨after, evaluated, goes, kept⟩
    exact ⟨after, evaluated, divided.ask holds.1 goes, kept.trans holds.2⟩
  reads _ _ _ _ := rfl
  writes _ _ _ other holds := ⟨other, rfl, holds⟩

/-- What attends a call: the calls of the arguments that were asked for lead from the first world to
the present one, apart from the node of the call itself. -/
theorem Application.attends {application : Application}
    (divided : Parts whole [application.id] application.arguments.get)
    (known : ∀ e ∈ application.arguments, ∀ world, Ready context memory world e →
      ComesTo enter context memory e world)
    {world : World}
    (first : ∀ position, Ready context memory world (application.arguments.get position)) :
    Attends context.store application.id
      (fun position => evaluate enter context (application.arguments.get position))
      (fun position => (application.part context memory position).value) fun before other =>
        Reaches context memory [application.id]
          (callsOf context memory application.arguments.get before) world other where
  asks before position other reached := by
    have argument := List.get_mem application.arguments position
    rcases known _ argument other (divided.ready reached first position) with
      ⟨after, evaluated, goes, kept⟩
    refine ⟨after, evaluated, divided.ask reached goes, ?_, kept⟩
    apply goes.frame application.id List.not_mem_nil
    intro called member equal
    exact divided.apart position called (calls_subset _ _ _ member) (List.mem_singleton.mpr equal)
  registers _ state other reached := reached.change_own fun _ distinct =>
    World.node_setNode_of_ne other context.store distinct state
  writes _ workspace other reached := reached.change_own fun _ distinct =>
    World.node_setWorkspace_of_ne other context.store distinct workspace

/-- A recipe over parts that come to their meanings comes to its own. -/
theorem Composed.comesTo {e : Expr} {count : Nat} {recipe : Recipe Unit count Value}
    {parts : Fin count → Expr} (composed : Composed e count recipe parts)
    (divided : Parts whole [] parts)
    (known : ∀ position world, Ready context memory world (parts position) →
      ComesTo enter context memory (parts position) world)
    {world : World} (ready : Ready context memory world e) :
    ComesTo enter context memory e world := by
  have first := fun position => ready.of_subset (composed.applications_subset position)
  rcases Recipe.follow_eq_run
      (divided.accompanies known first) recipe [] () world ⟨.nil _ _ _ _, rfl⟩ with
    ⟨after, followed, reached, spared⟩
  rw [ComesTo, composed.evaluate_eq, composed.meaning_eq]
  exact ⟨after, followed, reached, spared⟩

/-- A node that is as it was at first, or done with, is passed through in the same way. -/
theorem Application.passage_of_ready {now : UInt64} (clocked : context.clock.step = some now)
    (application : Application) (steady : context.Steady application.name) {world : World}
    (ready : Untouched context memory world application ∨ Done context memory world application) :
    ∃ again : Passage application.arguments.length,
      again = ClockedFormula.passage context application.name
          (fun position => (application.part context memory position).value)
          (world.node context.store application.id) ∧
        again.value = (application.passage context memory).value ∧
        again.node.carried = (application.passage context memory).node.carried ∧
        again.asked ⊆ (application.passage context memory).asked ∧
        ∀ called ∈ application.innerCalls context memory,
          called ∈ again.asked.flatMap (fun position =>
            (application.part context memory position).calls) ∨
          Settled context memory world called := by
  refine ⟨_, rfl, ?_⟩
  rcases ready with still | done
  · rcases passage_alike steady
        (fun position => (application.part context memory position).value) still with
      ⟨value, carried, asked⟩
    rw [asked]
    exact ⟨value, carried, List.Subset.refl _, fun called member => .inl member⟩
  · have itself : application ∈ (meaning context memory application.expression).calls := by
      rw [application.meaning_expression]
      exact List.mem_append_right _ List.mem_cons_self
    rcases passage_alike steady
      (fun position => (application.part context memory position).value) (done application itself) with
      ⟨value, carried, asked⟩
    rcases passage_again steady clocked
      (fun position => (application.part context memory position).value)
      (memory application.id) rfl with ⟨sameValue, sameNode, fewer⟩
    refine ⟨value.trans sameValue, carried.trans (congrArg NodeState.carried sameNode),
      asked ▸ fewer, fun called member => .inr (done called ?_)⟩
    rw [application.meaning_expression]
    exact List.mem_append_left _ member

/-- A call whose arguments come to their meanings comes to its own. -/
theorem Application.comesTo (plain : context.Plain) {now : UInt64}
    (clocked : context.clock.step = some now) (application : Application)
    (steady : context.Steady application.name)
    (divided : Parts whole [application.id] application.arguments.get)
    (known : ∀ e ∈ application.arguments, ∀ world, Ready context memory world e →
      ComesTo enter context memory e world)
    {world : World} (ready : Ready context memory world application.expression) :
    ComesTo enter context memory application.expression world := by
  have first := fun position => ready.of_subset (application.applications_argument position)
  rcases application.passage_of_ready clocked steady (ready application List.mem_cons_self) with
    ⟨again, same, value, carried, fewer, covered⟩
  rcases callOperands_passage steady (Application.attends divided known first) (.nil _ _ _ world) with
    ⟨after, called, reached, left, spared⟩
  rw [← same] at called reached left
  rw [value] at called
  have settled : Settled context memory after application := left.trans carried
  have reached : Reaches context memory [application.id] (application.innerCalls context memory)
      world after := by
    refine reached.extend divided.consistent (divided.callsOf_subset _) ?_ covered
      (divided.callsOf_apart _)
    intro inner member
    rcases List.mem_flatMap.mp member with ⟨position, asked, made⟩
    exact List.mem_flatMap.mpr ⟨position, fewer asked, made⟩
  have walked : evaluate enter context application.expression world = _ :=
    evaluate_call_plain enter plain application.id application.name application.arguments world
  rw [called] at walked
  rw [ComesTo, application.meaning_expression]
  cases outcome : (application.passage context memory).value with
  | ok v =>
    rw [outcome] at walked
    refine ⟨_, walked, reached.complete (fun id distinct =>
      World.node_setNode_of_ne after context.store distinct _) ?_, ?_⟩
    · rw [Settled, World.node_setNode_self]
      exact settled
    · rw [World.random_setNode]
      exact spared
  | error e =>
    rw [outcome] at walked
    exact ⟨after, walked, reached.complete (fun _ _ => rfl) settled, spared⟩

/-- A walk that is ready comes to the meaning of its expression. -/
theorem evaluate_comesTo (enter : Context → Formula → Walk Value) (plain : context.Plain)
    {now : UInt64}
    (clocked : context.clock.step = some now) (consistent : whole.Consistent)
    (steady : ∀ application ∈ whole.applications, context.Steady application.name) {e : Expr}
    (inside : e.applications ⊆ whole.applications) {world : World}
    (ready : Ready context memory world e) : ComesTo enter context memory e world := by
  induction e using Expr.induct_composed generalizing world with
  | literal v => exact ⟨world, rfl, .nil _ _ _ _, rfl⟩
  | identifier name => exact ⟨world, evaluateIdentifier_plain plain name world, .nil _ _ _ _, rfl⟩
  | composed e count recipe parts composed ih =>
    have divided := composed.divides consistent inside
    exact composed.comesTo divided
      (fun position world ready => ih position (divided.inside position) ready) ready
  | call id name arguments ih =>
    have divided := Application.divides consistent ⟨id, name, arguments⟩ inside
    refine Application.comesTo plain clocked ⟨id, name, arguments⟩
      (steady _ (inside List.mem_cons_self)) divided (fun e member world ready => ?_) ready
    exact ih e member (fun _ within => inside
      (List.mem_cons_of_mem _ (applications_subset_ofAll member within))) ready

end Walks

end ClockedFormula
