/-!
# Runs of a partial step function

A machine answers an action with its next state, or refuses the action.  A run
is a list of actions executed from the left.  `Meets` restricts a run: every
action it takes satisfies a guard in the state in which it is taken, so an
invariant that only guarded steps preserve still holds at the end of the run.
`trace` collects what the actions of a run show.  A service answers every
input; one service refines another if their answers are the same.
-/

namespace RainTyping

/-- A partial step function over labelled actions. -/
abbrev Machine (State : Type u) (Action : Type v) :=
  State → Action → Option State

namespace Machine

variable {State : Type u} {Action : Type v}

/-- Execute every action in turn; `none` as soon as one of them is refused. -/
def run (step : Machine State Action) (state : State) :
    List Action → Option State
  | [] => some state
  | action :: actions =>
      (step state action).bind fun next => run step next actions

/-- Every action the run takes meets `guard` in the state it is taken in. -/
def Meets (step : Machine State Action) (guard : State → Action → Prop)
    (state : State) : List Action → Prop
  | [] => True
  | action :: actions =>
      guard state action ∧
        match step state action with
        | none => True
        | some next => Meets step guard next actions

instance decidableMeets (step : Machine State Action)
    (guard : State → Action → Prop)
    [∀ state action, Decidable (guard state action)] :
    ∀ (state : State) (actions : List Action),
      Decidable (Meets step guard state actions)
  | _, [] => isTrue trivial
  | state, action :: actions =>
      match outcome : step state action with
      | none =>
          decidable_of_iff (guard state action) (by simp [Meets, outcome])
      | some next =>
          have : Decidable (Meets step guard next actions) :=
            decidableMeets step guard next actions
          decidable_of_iff
            (guard state action ∧ Meets step guard next actions)
            (by simp [Meets, outcome])

variable {step : Machine State Action}

@[simp] theorem run_nil (state : State) : run step state [] = some state :=
  rfl

theorem run_cons_eq_some_iff
    {state final : State} {action : Action} {actions : List Action} :
    run step state (action :: actions) = some final ↔
      ∃ next, step state action = some next ∧
        run step next actions = some final := by
  simp [run, Option.bind_eq_some_iff]

/-- A run splits after any prefix of its actions. -/
theorem run_append_eq_some_iff
    {state final : State} {first second : List Action} :
    run step state (first ++ second) = some final ↔
      ∃ middle, run step state first = some middle ∧
        run step middle second = some final := by
  induction first generalizing state with
  | nil => simp
  | cons action first induction =>
      simp only [List.cons_append, run_cons_eq_some_iff, induction]
      constructor
      · rintro ⟨next, stepped, middle, ran, rest⟩
        exact ⟨middle, ⟨next, stepped, ran⟩, rest⟩
      · rintro ⟨middle, ⟨next, stepped, ran⟩, rest⟩
        exact ⟨next, stepped, middle, ran, rest⟩

/-- What guarded steps preserve holds at the end of a guarded run. -/
theorem run_invariant
    (invariant : State → Prop) {guard : State → Action → Prop}
    (preserved : ∀ state action next,
      invariant state → guard state action →
        step state action = some next → invariant next)
    {state final : State} {actions : List Action}
    (initial : invariant state)
    (meets : Meets step guard state actions)
    (ran : run step state actions = some final) :
    invariant final := by
  induction actions generalizing state with
  | nil =>
      cases ran
      exact initial
  | cons action actions induction =>
      obtain ⟨next, stepped, rest⟩ := run_cons_eq_some_iff.mp ran
      simp only [Meets, stepped] at meets
      exact induction (preserved state action next initial meets.1 stepped)
        meets.2 rest

theorem meets_true (state : State) (actions : List Action) :
    Meets step (fun _ _ => True) state actions := by
  induction actions generalizing state with
  | nil => trivial
  | cons action actions induction =>
      refine ⟨trivial, ?_⟩
      cases step state action with
      | none => trivial
      | some next => exact induction next

/-- A guard on the actions alone is met action by action. -/
theorem meets_of_forall
    {guard : State → Action → Prop} {actions : List Action}
    (allowed : ∀ action ∈ actions, ∀ state, guard state action)
    (state : State) : Meets step guard state actions := by
  induction actions generalizing state with
  | nil => trivial
  | cons action actions induction =>
      refine ⟨allowed action List.mem_cons_self state, ?_⟩
      cases step state action with
      | none => trivial
      | some next =>
          exact induction (fun later member =>
            allowed later (List.mem_cons_of_mem _ member)) next

/-- What every step preserves holds at the end of every run. -/
theorem run_preserves
    (invariant : State → Prop)
    (preserved : ∀ state action next,
      invariant state → step state action = some next → invariant next)
    {state final : State} {actions : List Action}
    (initial : invariant state)
    (ran : run step state actions = some final) :
    invariant final := by
  apply run_invariant invariant _ initial (meets_true state actions) ran
  intro state action next holds _ stepped
  exact preserved state action next holds stepped

/-- Where every step is a run of another machine on a view of the state, every
run is. -/
theorem run_simulates
    {Model : Type u'} {ModelAction : Type v'}
    {model : Machine Model ModelAction} (view : State → Model)
    (simulated : ∀ state action next, step state action = some next →
      ∃ actions, run model (view state) actions = some (view next))
    {state final : State} {actions : List Action}
    (ran : run step state actions = some final) :
    ∃ modelActions, run model (view state) modelActions =
      some (view final) := by
  induction actions generalizing state with
  | nil =>
      cases ran
      exact ⟨[], rfl⟩
  | cons action actions induction =>
      obtain ⟨next, stepped, rest⟩ := run_cons_eq_some_iff.mp ran
      obtain ⟨first, ranFirst⟩ := simulated state action next stepped
      obtain ⟨second, ranSecond⟩ := induction rest
      exact ⟨first ++ second,
        run_append_eq_some_iff.mpr ⟨_, ranFirst, ranSecond⟩⟩

/-- What the actions of a run show, in their order. -/
def trace {Event : Type w} (step : Machine State Action)
    (observe : State → Action → Option Event) (state : State) :
    List Action → List Event
  | [] => []
  | action :: actions =>
      match step state action with
      | none => []
      | some next =>
          (observe state action).toList ++ trace step observe next actions

/-- An invariant of the state and of what the run has shown so far. -/
theorem run_trace_invariant
    {Event : Type w} {observe : State → Action → Option Event}
    (invariant : State → List Event → Prop) {guard : State → Action → Prop}
    (preserved : ∀ state shown action next,
      invariant state shown → guard state action →
        step state action = some next →
          invariant next (shown ++ (observe state action).toList))
    {state final : State} {shown : List Event} {actions : List Action}
    (initial : invariant state shown)
    (meets : Meets step guard state actions)
    (ran : run step state actions = some final) :
    invariant final (shown ++ trace step observe state actions) := by
  induction actions generalizing state shown with
  | nil =>
      cases ran
      rw [trace, List.append_nil]
      exact initial
  | cons action actions induction =>
      obtain ⟨next, stepped, rest⟩ := run_cons_eq_some_iff.mp ran
      simp only [Meets, stepped] at meets
      simp only [trace, stepped, ← List.append_assoc]
      exact induction
        (preserved state shown action next initial meets.1 stepped) meets.2
        rest

/-- A run takes no more productive actions than there is work at its start. -/
theorem run_work
    (invariant : State → Nat → Prop) {guard productive : Action → Prop}
    [DecidablePred productive]
    (preserved : ∀ state action next work,
      invariant state work → guard action → step state action = some next →
        ∃ left, invariant next left ∧
          left + (if productive action then 1 else 0) ≤ work)
    {state final : State} {actions : List Action} {work : Nat}
    (initial : invariant state work)
    (guarded : ∀ action ∈ actions, guard action)
    (ran : run step state actions = some final) :
    ∃ left, invariant final left ∧
      left + actions.countP (fun action => productive action) ≤ work := by
  induction actions generalizing state work with
  | nil =>
      cases ran
      exact ⟨work, initial, Nat.le_refl work⟩
  | cons action actions induction =>
      obtain ⟨next, stepped, rest⟩ := run_cons_eq_some_iff.mp ran
      obtain ⟨between, holds, spent⟩ := preserved state action next work
        initial (guarded action List.mem_cons_self) stepped
      obtain ⟨left, holdsLast, spentLater⟩ := induction holds
        (fun later member => guarded later (List.mem_cons_of_mem _ member))
        rest
      refine ⟨left, holdsLast, ?_⟩
      rw [List.countP_cons]
      simp only [decide_eq_true_eq]
      omega

/-- Where some action makes the work less until all is done, a run gets it
done. -/
theorem exists_run_done
    {invariant : State → Nat → Prop} {done : State → Prop}
    {guard : Action → Prop}
    (progress : ∀ state work, invariant state work →
      done state ∨ ∃ action next left, guard action ∧
        step state action = some next ∧ invariant next left ∧ left < work)
    {state : State} {work : Nat} (initial : invariant state work) :
    ∃ actions final left, (∀ action ∈ actions, guard action) ∧
      run step state actions = some final ∧ invariant final left ∧
        done final := by
  induction work using Nat.strongRecOn generalizing state with
  | ind work induction =>
      rcases progress state work initial with
        finished | ⟨action, next, left, allowed, stepped, holds, less⟩
      · exact ⟨[], state, work, by simp, rfl, initial, finished⟩
      · obtain ⟨actions, final, last, allowedLater, ran, holdsLast,
          finished⟩ := induction left less holds
        refine ⟨action :: actions, final, last, ?_,
          run_cons_eq_some_iff.mpr ⟨next, stepped, ran⟩, holdsLast, finished⟩
        intro later member
        rcases List.mem_cons.mp member with rfl | member
        · exact allowed
        · exact allowedLater later member

theorem Meets.and
    {first second : State → Action → Prop}
    {state : State} {actions : List Action}
    (meetsFirst : Meets step first state actions)
    (meetsSecond : Meets step second state actions) :
    Meets step (fun state action => first state action ∧ second state action)
      state actions := by
  induction actions generalizing state with
  | nil => trivial
  | cons action actions induction =>
      refine ⟨⟨meetsFirst.1, meetsSecond.1⟩, ?_⟩
      have firstRest := meetsFirst.2
      have secondRest := meetsSecond.2
      cases outcome : step state action with
      | none => trivial
      | some next =>
          rw [outcome] at firstRest secondRest
          exact induction firstRest secondRest

/-- Where an invariant of a guarded run makes the guard a stronger one. -/
theorem Meets.strengthen
    {weak strong : State → Action → Prop} (invariant : State → Prop)
    (preserved : ∀ state action next,
      invariant state → weak state action →
        step state action = some next → invariant next)
    (stronger : ∀ state action,
      invariant state → weak state action → strong state action)
    {state : State} {actions : List Action}
    (initial : invariant state) (meets : Meets step weak state actions) :
    Meets step strong state actions := by
  induction actions generalizing state with
  | nil => trivial
  | cons action actions induction =>
      obtain ⟨here, later⟩ := meets
      refine ⟨stronger state action initial here, ?_⟩
      cases outcome : step state action with
      | none => trivial
      | some next =>
          rw [outcome] at later
          exact induction (preserved state action next initial here outcome)
            later

end Machine

/-- A total step function that answers its inputs. -/
abbrev Service (State : Type u) (Input : Type v) (Answer : Type w) :=
  State → Input → Answer × State

namespace Service

variable {State : Type u} {Model : Type u'} {Input : Type v} {Answer : Type w}

/-- The answers to the inputs, and the state behind them. -/
def run (step : Service State Input Answer) (state : State) :
    List Input → List Answer × State
  | [] => ([], state)
  | input :: inputs =>
      let (answer, next) := step state input
      let (answers, final) := run step next inputs
      (answer :: answers, final)

/-- A relation that every input keeps, with the same answer on both sides. -/
theorem run_refines
    {step : Service State Input Answer} {spec : Service Model Input Answer}
    (relation : State → Model → Prop)
    (refined : ∀ state model input, relation state model →
      (step state input).1 = (spec model input).1 ∧
        relation (step state input).2 (spec model input).2)
    {state : State} {model : Model} (initial : relation state model)
    (inputs : List Input) :
    (run step state inputs).1 = (run spec model inputs).1 ∧
      relation (run step state inputs).2 (run spec model inputs).2 := by
  induction inputs generalizing state model with
  | nil => exact ⟨rfl, initial⟩
  | cons input inputs induction =>
      obtain ⟨answer, related⟩ := refined state model input initial
      obtain ⟨answers, final⟩ := induction related
      refine ⟨?_, final⟩
      simp only [run]
      rw [answer, answers]

end Service

end RainTyping
