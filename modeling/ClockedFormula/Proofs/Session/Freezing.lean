import ClockedFormula.Proofs.Session.Course

namespace ClockedFormula

open MemoryOperation TemporalFunction Walk

/-!
# Frozen values

A call of `init` keeps the value to which it has come, and every later call gives this value without
evaluating the argument, until the call is reset or starts a new run.

There is one thing to add.  A call waits for its argument, and a name in the argument can lead back to the
formula, so that the same call is made inside itself.  Then the inner call comes to a value first, and calls
in between find that value; but the outer one has not seen it, and puts down its own value in the end.  So
what is kept is the value of the call that has come to one last.
-/

/-- The value of a call that comes to one. -/
def Moment.value? (call : Moment) : Option Value :=
  match call.ending with
  | .ok v => some v
  | .error _ => none

namespace Moment

variable {call : Moment}

theorem value?_eq_some {v : Value} : call.value? = some v ↔ call.ending = .ok v := by
  rw [value?]
  cases call.ending <;> simp

theorem value?_eq_none (fails : ∀ v, call.ending ≠ .ok v) : call.value? = none := by
  rw [value?]
  cases ended : call.ending with
  | ok v => exact absurd ended (fails v)
  | error reason => rfl

end Moment

/-- What is frozen goes when a call starts a new run. -/
theorem NodeState.held?_beginCall (state : NodeState) (step : Option UInt64) (resetOnNewRun : Bool) :
    init.held? (state.beginCall step resetOnNewRun).2 =
      if resetOnNewRun && goesBack step state.lastStep then none else init.held? state := by
  rw [beginCall_snd]
  cases resetOnNewRun && goesBack step state.lastStep <;> rfl

/-- What is told of a call of `init`: the step at which it was made last, and the value that it keeps. -/
structure Kept where
  lastStep : Option UInt64
  value : Option Value

namespace Kept

/-- What is kept after a turn of the call.  A call that fails changes nothing. -/
def goOn : Turn → Kept → Kept
  | .begins call, kept =>
    ⟨call.context.clock.step.or kept.lastStep,
      if call.context.options.resetOnNewRun && goesBack call.context.clock.step kept.lastStep then none
      else kept.value⟩
  | .ends call, kept => { kept with value := call.value?.or kept.value }
  | .feeds _ _ _, kept => kept
  | .resets _ _, _ | .resetsAll _, _ | .founds _, _ => ⟨none, none⟩

def account : Account Kept where
  reads state := ⟨state.lastStep, init.held? state⟩
  goesOn := goOn

theorem account_right {node : SingleCall} (freezes : node.function = init) : account.Right node where
  begins := by
    intro call _ state
    simp only [account, goOn, state.held?_beginCall]
    rw [state.beginCall_snd]
  comes := by
    intro call v _ ended state
    simp only [account, goOn, Moment.value?_eq_some.mpr ended, freezes]
    rfl
  stops := by
    intro call reason _ ended state
    have fails : ∀ v, call.ending ≠ .ok v := by simp [ended]
    simp only [account, goOn, Moment.value?_eq_none fails]
    rfl
  feeds _ _ := rfl
  resets _ := rfl
  resetsAll _ := rfl
  founds _ := rfl

end Kept

/-- The value that a call of `init` keeps after some turns, the last one first. -/
def keptValue (node : SingleCall) (past : List Turn) : Option Value :=
  (Kept.account.after node past).value

/-- Whether a call that begins after some turns starts a new run. -/
def Moment.startsRunAfter (call : Moment) (node : SingleCall) (past : List Turn) : Bool :=
  call.context.options.resetOnNewRun &&
    goesBack call.context.clock.step (Kept.account.after node past).lastStep

/-- Whether some turns, the last one first, leave alone what a call has frozen before them: they neither
reset the call nor start a new run of it, and a call that comes to a value has also begun among them. -/
def LeavesKept (node : SingleCall) (before : List Turn) : List Turn → Prop
  | [] => True
  | turn :: between =>
    (turn.Concerns node.store node.id →
      match turn with
      | .begins call => call.startsRunAfter node (between ++ before) = false
      | .ends call => ∀ v, call.ending = .ok v → .begins call ∈ between
      | .feeds _ _ _ => True
      | .resets _ _ | .resetsAll _ | .founds _ => False) ∧
    LeavesKept node before between

/-- Whether the last thing that has happened to a call has taken away what it kept: it was reset, or it began
and started a new run.  Nothing is kept either as long as nothing has happened to it. -/
def Forgets (node : SingleCall) : List Turn → Prop
  | [] => True
  | turn :: past =>
    if turn.Concerns node.store node.id then
      match turn with
      | .begins call => call.startsRunAfter node past = true
      | .resets _ _ | .resetsAll _ | .founds _ => True
      | .ends _ | .feeds _ _ _ => False
    else Forgets node past

/-- Whether no call among some turns has come to a value. -/
def NoneComes (node : SingleCall) (between : List Turn) : Prop :=
  ∀ call, .ends call ∈ between → call.At node.store node.id → ∀ v, call.ending ≠ .ok v

theorem keptValue_of_forgets {node : SingleCall} {past : List Turn} (forgets : Forgets node past) :
    keptValue node past = none := by
  induction past with
  | nil => rfl
  | cons turn past ih =>
    unfold Forgets at forgets
    by_cases concerns : turn.Concerns node.store node.id
    · rw [if_pos concerns] at forgets
      rw [keptValue, Account.after_of_concerns concerns]
      cases turn with
      | begins call => exact if_pos forgets
      | resets | resetsAll | founds => rfl
      | ends | feeds => exact forgets.elim
    · rw [if_neg concerns] at forgets
      rw [keptValue, Account.after_of_not concerns]
      exact ih forgets

/-- Nothing is kept until a call comes to a value. -/
theorem keptValue_of_noneComes {node : SingleCall} {before between : List Turn}
    (forgets : Forgets node before) (noneComes : NoneComes node between) :
    keptValue node (between ++ before) = none := by
  induction between with
  | nil => exact keptValue_of_forgets forgets
  | cons turn between ih =>
    have earlier : keptValue node (between ++ before) = none :=
      ih fun call ends => noneComes call (List.mem_cons_of_mem _ ends)
    rw [List.cons_append]
    by_cases concerns : turn.Concerns node.store node.id
    · rw [keptValue, Account.after_of_concerns concerns]
      cases turn with
      | begins call =>
        by_cases starts : call.startsRunAfter node (between ++ before) = true
        · exact if_pos starts
        · exact (if_neg starts).trans earlier
      | ends call =>
        have fails := noneComes call List.mem_cons_self concerns
        simp only [Kept.account, Kept.goOn, Moment.value?_eq_none fails]
        exact earlier
      | feeds => exact earlier
      | resets | resetsAll | founds => rfl
    · rw [keptValue, Account.after_of_not concerns]
      exact earlier

theorem SingleCall.GivesAtOnce.value?_eq {node : SingleCall} {call : Moment} {v : Value}
    (gives : node.GivesAtOnce call v) : call.value? = some v := by
  rw [Moment.value?, Moment.ending, ending_ok gives.1]

/-- One more turn leaves alone what is kept, if the calls in between have given it. -/
theorem keptValue_of_leaves {node : SingleCall} {before between : List Turn} {turn : Turn} {v : Value}
    (kept : keptValue node (between ++ before) = some v)
    (leaves : LeavesKept node before (turn :: between))
    (given : ∀ call, .begins call ∈ between → call.At node.store node.id → node.GivesAtOnce call v) :
    keptValue node (turn :: between ++ before) = some v := by
  rw [List.cons_append]
  by_cases concerns : turn.Concerns node.store node.id
  · rw [keptValue, Account.after_of_concerns concerns]
    have leaves := leaves.1 concerns
    cases turn with
    | begins call => exact (if_neg (Bool.eq_false_iff.mp leaves)).trans kept
    | ends call =>
      simp only [Kept.account, Kept.goOn]
      cases ended : call.ending with
      | ok w =>
        have gives := given call (leaves w ended) concerns
        rw [gives.value?_eq, Option.some_or]
      | error reason =>
        have fails : ∀ w, call.ending ≠ .ok w := by simp [ended]
        rw [Moment.value?_eq_none fails, Option.none_or]
        exact kept
    | feeds => exact kept
    | resets | resetsAll | founds => exact leaves.elim
  · rw [keptValue, Account.after_of_not concerns]
    exact kept

namespace Session

variable {unclaimed : StoreId → Prop} {past : List Turn} {session : Session} {f : Formula}
  {node : SingleCall}

/-- A call gives what is kept when it begins, and evaluates its argument if nothing is kept. -/
theorem Course.gives_kept (course : Course unclaimed past session) (known : f ∈ session.all)
    (alone : unclaimed f.store) (has : f.Has node) (freezes : node.function = init) {call : Moment}
    {later earlier : List Turn} (moment : past = later ++ .begins call :: earlier)
    (place : call.At node.store node.id) :
    match keptValue node (.begins call :: earlier) with
    | some v => node.GivesAtOnce call v
    | none => node.GivesArgument call :=
  course.gives (Kept.account_right freezes) (fun _ => freezes ▸ rfl) known alone has moment place

/-- What a call has come to is kept as long as the turns leave it, and all calls that begin meanwhile give
it. -/
theorem Course.keeps (course : Course unclaimed past session) (known : f ∈ session.all)
    (alone : unclaimed f.store) (has : f.Has node) (freezes : node.function = init) {done : Moment}
    {later between before : List Turn} (moment : past = later ++ (between ++ .ends done :: before))
    (place : done.At node.store node.id) {v : Value} (ended : done.ending = .ok v)
    (leaves : LeavesKept node (.ends done :: before) between) :
    keptValue node (between ++ .ends done :: before) = some v ∧
      ∀ call, .begins call ∈ between → call.At node.store node.id → node.GivesAtOnce call v := by
  induction between generalizing later with
  | nil =>
    have concerns : Turn.Concerns node.store node.id (.ends done) := place
    refine ⟨?_, nofun⟩
    rw [keptValue, List.nil_append, Account.after_of_concerns concerns]
    exact congrArg (Option.or · _) (Moment.value?_eq_some.mpr ended)
  | cons turn between ih =>
    have shifted : past = later ++ [turn] ++ (between ++ .ends done :: before) := by
      rw [moment, List.append_assoc]
      rfl
    rcases ih shifted leaves.2 with ⟨kept, given⟩
    have still := keptValue_of_leaves kept leaves given
    refine ⟨still, fun call member also => ?_⟩
    rcases List.mem_cons.mp member with begins | earlier
    · subst begins
      have here : past = later ++ .begins call :: (between ++ .ends done :: before) := moment
      have gives := course.gives_kept known alone has freezes here also
      rw [List.cons_append] at still
      rwa [still] at gives
    · exact given call earlier also

/-- A call of `init` that has come to a value gives it in all later calls without evaluating the argument, and
changes nothing but its own memory, until it is reset or starts a new run, or until a call of it comes to a
value that was under way already.  What is frozen is then the value of that call.  The first call after a
reset or at the start of a new run evaluates the argument, and so does every further one as long as none has
come to a value. -/
theorem init_freezes (course : Course unclaimed past session) (known : f ∈ session.all)
    (alone : unclaimed f.store) (has : f.Has node) (freezes : node.function = init) :
    (∀ later between before done v, past = later ++ (between ++ .ends done :: before) →
      done.At node.store node.id → done.ending = .ok v →
      LeavesKept node (.ends done :: before) between →
      ∀ call, .begins call ∈ between → call.At node.store node.id → node.GivesAtOnce call v) ∧
    ∀ later between before call earlier, past = later ++ .begins call :: earlier →
      call.At node.store node.id → .begins call :: earlier = between ++ before →
      Forgets node before → NoneComes node between → node.GivesArgument call := by
  refine ⟨fun later between before done v moment place ended leaves =>
    (course.keeps known alone has freezes moment place ended leaves).2,
    fun later between before call earlier moment place split forgets noneComes => ?_⟩
  have nothing : keptValue node (.begins call :: earlier) = none :=
    split ▸ keptValue_of_noneComes forgets noneComes
  have gives := course.gives_kept known alone has freezes moment place
  rwa [nothing] at gives

/-! ## A level that is frozen -/

def initialExpression : Expr := .call ⟨0⟩ "init" [.identifier "x"]

/-- An initial level under a parameter. -/
def initialLevel (x : Int64) : Formula :=
  (Formula.ofExpr initialExpression .default ⟨0⟩).bind "x" (.value (.integer x))

def initialCall : SingleCall where
  store := ⟨0⟩
  options := .default
  id := ⟨0⟩
  name := "init"
  argument := .identifier "x"
  function := init
  resolved := by decide
  single := rfl

def initialDraft : FormulaDraft :=
  ⟨.literal .null, .default, [("x", .value (.integer 4))], [], []⟩

/-- The session of this formula. -/
def initialSession : Session := (empty.define? initialExpression initialDraft).getD empty

/-- The session after the level is evaluated at a step and its parameter has changed. -/
def settledSession : Session where
  formulas := [initialLevel 7]
  world := ((initialLevel 4).evaluateTo 1 ⟨none, some 3, none⟩ initialSession.world).2

theorem initialExpression_consistent : initialExpression.Consistent :=
  fun _ inFirst _ inSecond same => List.inj_on_of_nodup_map (by decide) inFirst inSecond same

/-- A first call freezes the parameter, and the next one, made without a step, still gives it when the
parameter has changed. -/
theorem initialLevel_freezes :
    ∃ first second : Moment,
      (initialLevel 4).turnsTo 1 ⟨none, some 3, none⟩ initialSession.world =
        [.begins first, .ends first] ∧
      (initialLevel 7).turnsTo 1 ⟨none, none, none⟩ settledSession.world =
        [.begins second, .ends second] ∧
      initialCall.GivesArgument first ∧ first.ending = .ok (.integer 4) ∧
      initialCall.GivesAtOnce second (.integer 4) := by
  have evaluated : ∃ first : Moment, (initialLevel 4).turnsTo 1 ⟨none, some 3, none⟩
      initialSession.world = [.begins first, .ends first] ∧ first.At ⟨0⟩ ⟨0⟩ ∧
      first.context.clock.step = some 3 ∧ first.ending = .ok (.integer 4) :=
    ⟨_, rfl, by decide, rfl, rfl⟩
  have again : ∃ second : Moment, (initialLevel 7).turnsTo 1 ⟨none, none, none⟩
      settledSession.world = [.begins second, .ends second] ∧ second.At ⟨0⟩ ⟨0⟩ ∧
      second.context.clock.step = none :=
    ⟨_, rfl, by decide, rfl⟩
  rcases evaluated with ⟨first, firstTurns, firstPlace, firstStep, comes⟩
  rcases again with ⟨second, secondTurns, secondPlace, secondStep⟩
  have founded : Course (fun _ => True) [.founds ⟨0⟩] initialSession :=
    .step .empty (.defines initialExpression_consistent (fun _ => rfl)
      (rfl : empty.define? initialExpression initialDraft = some initialSession))
  have known : initialLevel 4 ∈ initialSession.all := mem_all_of_mem List.mem_cons_self
  have settled : Course (fun _ => True) [.ends first, .begins first, .founds ⟨0⟩] settledSession := by
    have frozen := founded.step (.evaluates 1 ⟨none, some 3, none⟩ known)
    rw [firstTurns] at frozen
    have found : initialSession.formulas[0]? = some (initialLevel 4) := rfl
    exact frozen.step (.rebinds (initialLevel 7).bindings found nofun)
  have changed : initialLevel 7 ∈ settledSession.all := mem_all_of_mem List.mem_cons_self
  have course := settled.step (.evaluates 1 ⟨none, none, none⟩ changed)
  rw [secondTurns] at course
  have has : (initialLevel 7).Has initialCall := ⟨rfl, rfl, List.mem_cons_self⟩
  rcases init_freezes course changed trivial has rfl with ⟨frozen, thawed⟩
  refine ⟨first, second, firstTurns, secondTurns, ?_, comes, ?_⟩
  · refine thawed [.ends second, .begins second, .ends first] [.begins first] [.founds ⟨0⟩] first
      [.founds ⟨0⟩] rfl firstPlace rfl ?_ ?_
    · simp [Forgets, Turn.Concerns, initialCall]
    · simp [NoneComes]
  · refine frozen [.ends second] [.begins second] [.begins first, .founds ⟨0⟩] first (.integer 4) rfl
      firstPlace comes ⟨fun _ => ?_, trivial⟩ second List.mem_cons_self secondPlace
    simp [Moment.startsRunAfter, secondStep, goesBack]

/-! ## A call inside itself -/

/-- An initial level whose argument leads back to the formula, if the parameter that it tests is not bound. -/
def echoExpression : Expr :=
  .call ⟨0⟩ "init" [.conditional (.identifier "flag_Dt")
    (.binary .plus (.identifier "a") (.literal (.integer 1))) (.literal (.integer 5))]

def plainEcho : Formula := Formula.ofExpr echoExpression .default ⟨0⟩

/-- The clone in which the call comes to 5. -/
def innerEcho : Formula := plainEcho.bind "flag_Dt" (.value (.boolean false))

/-- The formula in which the call comes to one more than the inner one. -/
def outerEcho : Formula := plainEcho.bind "a" (.formula innerEcho)

def echoCall : SingleCall where
  store := ⟨0⟩
  options := .default
  id := ⟨0⟩
  name := "init"
  argument := .conditional (.identifier "flag_Dt")
    (.binary .plus (.identifier "a") (.literal (.integer 1))) (.literal (.integer 5))
  function := init
  resolved := by decide
  single := rfl

def echoSession : Session :=
  (empty.define? echoExpression ⟨.literal .null, .default, [], [], []⟩).getD empty

/-- The session with the clone, in which both formulas are bound. -/
def boundEchoes : Session where
  formulas := [outerEcho, innerEcho]
  world := echoSession.world.host ⟨0⟩

theorem boundEchoes_course : Course (fun _ => True) [.founds ⟨0⟩] boundEchoes := by
  have consistent : echoExpression.Consistent :=
    fun _ inFirst _ inSecond same => List.inj_on_of_nodup_map (by decide) inFirst inSecond same
  have defined : empty.define? echoExpression ⟨.literal .null, .default, [], [], []⟩ =
      some echoSession := rfl
  have founded : Course (fun _ => True) [.founds ⟨0⟩] echoSession :=
    .step .empty (.defines consistent (fun _ => rfl) defined)
  have plain : plainEcho ∈ echoSession.all := mem_all_of_mem List.mem_cons_self
  have cloned := founded.step (.clones plain)
  have second : [plainEcho, plainEcho][1]? = some plainEcho := rfl
  have bound := cloned.step (.rebinds innerEcho.bindings second nofun)
  have first : [plainEcho, innerEcho][0]? = some plainEcho := rfl
  refine bound.step (.rebinds outerEcho.bindings first ?_)
  intro f member
  have same : f = innerEcho := List.mem_singleton.mp member
  rw [same]
  exact mem_all_of_mem (List.mem_cons_of_mem _ List.mem_cons_self)

/-- The session after the formula is evaluated. -/
def echoed : Session where
  formulas := boundEchoes.formulas
  world := (outerEcho.evaluateTo 2 ⟨none, some 1, some .one⟩ boundEchoes.world).2

/-- A call can freeze another value after the first one.  The inner call of an echo comes to 5, no call begins
before the next step, nothing is reset, and then the call gives 6. -/
theorem echo_freezes_again :
    ∃ (past : List Turn) (session : Session) (done call : Moment) (later between before : List Turn),
      Course (fun _ => True) past session ∧ outerEcho ∈ session.all ∧ outerEcho.Has echoCall ∧
      echoCall.function = init ∧
      past = later ++ .begins call :: (between ++ .ends done :: before) ∧
      done.At echoCall.store echoCall.id ∧ call.At echoCall.store echoCall.id ∧
      (∀ turn ∈ between, ∃ other, turn = .ends other) ∧
      done.context.clock.step = some 1 ∧ call.context.clock.step = some 2 ∧
      done.ending = .ok (.integer 5) ∧ call.ending = .ok (.integer 6) := by
  have evaluated : ∃ outer inner : Moment, outerEcho.turnsTo 2 ⟨none, some 1, some .one⟩
      boundEchoes.world = [.begins outer, .begins inner, .ends inner, .ends outer] ∧
      inner.At ⟨0⟩ ⟨0⟩ ∧ inner.context.clock.step = some 1 ∧ inner.ending = .ok (.integer 5) :=
    ⟨_, _, rfl, by decide, rfl, rfl⟩
  have again : ∃ next : Moment, outerEcho.turnsTo 2 ⟨none, some 2, some .one⟩ echoed.world =
      [.begins next, .ends next] ∧
      next.At ⟨0⟩ ⟨0⟩ ∧ next.context.clock.step = some 2 ∧ next.ending = .ok (.integer 6) :=
    ⟨_, rfl, by decide, rfl, Moment.value?_eq_some.mp (by decide +kernel)⟩
  rcases evaluated with ⟨outer, inner, turns, innerPlace, innerStep, innerEnding⟩
  rcases again with ⟨next, nextTurns, nextPlace, nextStep, nextEnding⟩
  have known : outerEcho ∈ boundEchoes.all := mem_all_of_mem List.mem_cons_self
  have still : outerEcho ∈ echoed.all := mem_all_of_mem List.mem_cons_self
  have first : Course (fun _ => True)
      [.ends outer, .ends inner, .begins inner, .begins outer, .founds ⟨0⟩] echoed := by
    have evaluated := boundEchoes_course.step (.evaluates 2 ⟨none, some 1, some .one⟩ known)
    rwa [turns] at evaluated
  have course := first.step (.evaluates 2 ⟨none, some 2, some .one⟩ still)
  rw [nextTurns] at course
  refine ⟨_, _, inner, next, [.ends next], [.ends outer], [.begins inner, .begins outer, .founds ⟨0⟩],
    course, mem_all_of_mem List.mem_cons_self, ⟨rfl, rfl, List.mem_cons_self⟩, rfl, rfl, innerPlace,
    nextPlace, ?_, innerStep, nextStep, innerEnding, nextEnding⟩
  intro turn member
  exact ⟨outer, List.mem_singleton.mp member⟩

end Session

end ClockedFormula
