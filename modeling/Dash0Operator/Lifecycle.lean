import Dash0Operator.Basic

/-! The watch lifecycle of one third-party resource kind (`third_party_crd_common.go`).
`maybeStartWatchingThirdPartyResources` and `stopWatchingThirdPartyResources` hold
`ControllerStopFunctionLock` for their whole body, so each is one step here. The goroutine that
a start launches runs `SetControllerStopFunction(nil)` without the lock once
`resourceController.Start` returns, after a cancellation or with an error: that is the `exit`
step, and it may come at any point after the launch. -/

namespace Dash0Operator.Lifecycle

/-- The lifecycle state of one kind. Sub-controllers are numbered in launch order; the stored stop
function is named by the number of the sub-controller whose context it cancels. -/
structure State where
  crdExists : Bool
  apiConfig : Option ApiConfig
  controllerStopFunction : Option Nat
  launched : Nat
  cancelled : Nat → Bool
  exited : Nat → Bool

def initial : State := ⟨false, none, none, 0, fun _ => false, fun _ => false⟩

/-- `IsWatching()`: the stored stop function is non-nil. -/
def State.isWatching (s : State) : Bool := s.controllerStopFunction.isSome

/-- A sub-controller that was launched, whose context was not cancelled and whose `Start` has not
returned. -/
def State.Live (s : State) (index : Nat) : Prop :=
  index < s.launched ∧ s.cancelled index = false ∧ s.exited index = false

instance (s : State) : DecidablePred s.Live := fun _ => inferInstanceAs (Decidable (_ ∧ _))

/-- The steps of the lifecycle. `created` and `watched` are whether `controller.NewTypedUnmanaged`
and `resourceController.Watch` succeed; `exit index` is the return of `Start` in the goroutine of
sub-controller `index`. -/
inductive Event where
  | maybeStart (isStartup created watched : Bool)
  | stop
  | setCrdExists (crdExists : Bool)
  | setApiEndpointAndDataset (apiConfig : ApiConfig)
  | removeApiEndpointAndDataset
  | exit (index : Nat)

/-- `isStartup` only decides whether a missing API endpoint is logged. -/
def maybeStartWatchingThirdPartyResources (s : State) (_isStartup created watched : Bool) : State :=
  if s.isWatching then s
  else if !s.crdExists then s
  else if !isValidApiConfig s.apiConfig then s
  else if !created then s
  else if !watched then s
  else { s with controllerStopFunction := some s.launched, launched := s.launched + 1 }

/-- The informer removal only logs its errors, so it leaves no trace in the state. -/
def stopWatchingThirdPartyResources (s : State) : State :=
  match s.controllerStopFunction with
  | none => s
  | some index =>
    { s with cancelled := Function.update s.cancelled index true, controllerStopFunction := none }

def exitSubController (s : State) (index : Nat) : State :=
  if index < s.launched ∧ s.exited index = false then
    { s with exited := Function.update s.exited index true, controllerStopFunction := none }
  else s

def step (s : State) : Event → State
  | .maybeStart isStartup created watched =>
    maybeStartWatchingThirdPartyResources s isStartup created watched
  | .stop => stopWatchingThirdPartyResources s
  | .setCrdExists crdExists => { s with crdExists }
  | .setApiEndpointAndDataset apiConfig => { s with apiConfig := some apiConfig }
  | .removeApiEndpointAndDataset => { s with apiConfig := none }
  | .exit index => exitSubController s index

def run (s : State) (events : List Event) : State := events.foldl step s

@[simp] theorem run_nil (s : State) : run s [] = s := rfl

@[simp] theorem run_append (s : State) (first rest : List Event) :
    run s (first ++ rest) = run (run s first) rest := List.foldl_append _ _ _ _

theorem run_cons (s : State) (event : Event) (rest : List Event) :
    run s (event :: rest) = run (step s event) rest := rfl

/-- What the lifecycle is meant to keep in every reachable state: at most one live
sub-controller, and the stored stop function is exactly the live one's. -/
def WatchInvariant (s : State) : Prop :=
  (∀ first second, s.Live first → s.Live second → first = second) ∧
    ∀ index, s.controllerStopFunction = some index ↔ s.Live index

/-! ### What each step can do -/

theorem maybeStart_cases (s : State) (isStartup created watched : Bool) :
    maybeStartWatchingThirdPartyResources s isStartup created watched = s ∨
      (s.controllerStopFunction = none ∧
        maybeStartWatchingThirdPartyResources s isStartup created watched =
          { s with controllerStopFunction := some s.launched, launched := s.launched + 1 }) := by
  unfold maybeStartWatchingThirdPartyResources
  split_ifs with watching <;> simp_all [State.isWatching]

theorem exit_cases (s : State) (index : Nat) :
    exitSubController s index = s ∨
      (index < s.launched ∧ s.exited index = false ∧
        exitSubController s index =
          { s with exited := Function.update s.exited index true, controllerStopFunction := none }) := by
  unfold exitSubController
  split_ifs with running
  · exact .inr ⟨running.1, running.2, rfl⟩
  · exact .inl rfl

@[simp] theorem live_launch (s : State) (index : Nat)
    (fresh : s.cancelled s.launched = false ∧ s.exited s.launched = false) :
    ({ s with controllerStopFunction := some s.launched, launched := s.launched + 1 } : State).Live index ↔
      s.Live index ∨ index = s.launched := by
  simp only [State.Live]
  constructor
  · rintro ⟨below, live⟩
    rcases Nat.lt_succ_iff_lt_or_eq.mp below with below | rfl
    · exact .inl ⟨below, live⟩
    · exact .inr rfl
  · rintro (⟨below, live⟩ | rfl)
    · exact ⟨Nat.lt_succ_of_lt below, live⟩
    · exact ⟨Nat.lt_succ_self _, fresh⟩

@[simp] theorem live_cancel (s : State) (stopped index : Nat) :
    ({ s with cancelled := Function.update s.cancelled stopped true, controllerStopFunction := none } :
      State).Live index ↔ s.Live index ∧ index ≠ stopped := by
  by_cases same : index = stopped
  · subst same; simp [State.Live]
  · simp [State.Live, Function.update_noteq same, same]

@[simp] theorem live_exit (s : State) (returned index : Nat) :
    ({ s with exited := Function.update s.exited returned true, controllerStopFunction := none } :
      State).Live index ↔ s.Live index ∧ index ≠ returned := by
  by_cases same : index = returned
  · subst same; simp [State.Live]
  · simp [State.Live, Function.update_noteq same, same]

/-! ### Every reachable state is well formed -/

/-- Numbers not yet launched were never cancelled nor returned, and a stored stop function always
cancels a live sub-controller: the handle is never stale. -/
structure Wellformed (s : State) : Prop where
  fresh : ∀ index, s.launched ≤ index → s.cancelled index = false ∧ s.exited index = false
  stopFunctionLive : ∀ index, s.controllerStopFunction = some index → s.Live index

theorem wellformed_initial : Wellformed initial :=
  ⟨fun _ _ => ⟨rfl, rfl⟩, fun _ stored => nomatch stored⟩

theorem wellformed_step {s : State} (wellformed : Wellformed s) (event : Event) :
    Wellformed (step s event) := by
  cases event with
  | maybeStart isStartup created watched =>
    rcases maybeStart_cases s isStartup created watched with same | ⟨-, launch⟩
    · simpa only [step, same] using wellformed
    · simp only [step, launch]
      refine ⟨fun index above => wellformed.fresh index (by simp at above; omega), fun index stored => ?_⟩
      simp only [Option.some.injEq] at stored
      subst stored
      exact (live_launch s _ (wellformed.fresh _ le_rfl)).mpr (.inr rfl)
  | stop =>
    simp only [step, stopWatchingThirdPartyResources]
    split
    · exact wellformed
    · rename_i stopped stored
      have below := (wellformed.stopFunctionLive stopped stored).1
      refine ⟨fun index above => ?_, fun _ none_stored => nomatch none_stored⟩
      simp only [Function.update_noteq (show index ≠ stopped by simp at above; omega)]
      exact wellformed.fresh index above
  | setCrdExists | setApiEndpointAndDataset | removeApiEndpointAndDataset =>
    exact ⟨wellformed.fresh, wellformed.stopFunctionLive⟩
  | exit returned =>
    rcases exit_cases s returned with same | ⟨below, -, exited⟩
    · simpa only [step, same] using wellformed
    · simp only [step, exited]
      refine ⟨fun index above => ?_, fun _ none_stored => nomatch none_stored⟩
      simp only [Function.update_noteq (show index ≠ returned by simp at above; omega)]
      exact wellformed.fresh index above

/-! ### The watch invariant, and the step that breaks it -/

/-- The return of `Start` in the goroutine of a cancelled sub-controller while another one's stop
function is stored: its `SetControllerStopFunction(nil)` clears the other one's. -/
def LateExit (s : State) : Event → Prop
  | .exit index =>
    index < s.launched ∧ s.exited index = false ∧ s.cancelled index = true ∧ s.isWatching = true
  | _ => False

instance (s : State) : (event : Event) → Decidable (LateExit s event)
  | .exit _ => inferInstanceAs (Decidable (_ ∧ _))
  | .maybeStart .. | .stop | .setCrdExists _ | .setApiEndpointAndDataset _ | .removeApiEndpointAndDataset =>
    inferInstanceAs (Decidable False)

def Timely : State → List Event → Prop
  | _, [] => True
  | s, event :: rest => ¬LateExit s event ∧ Timely (step s event) rest

instance decidableTimely : (s : State) → (events : List Event) → Decidable (Timely s events)
  | _, [] => inferInstanceAs (Decidable True)
  | s, event :: rest =>
    have := decidableTimely (step s event) rest
    inferInstanceAs (Decidable (¬LateExit s event ∧ Timely (step s event) rest))

theorem not_live_of_stopped {s : State} (invariant : WatchInvariant s)
    (stopped : s.controllerStopFunction = none) (index : Nat) : ¬s.Live index := fun live => by
  simpa [stopped] using (invariant.2 index).mpr live

theorem watchInvariant_of_none {s : State} (stopped : s.controllerStopFunction = none)
    (none_live : ∀ index, ¬s.Live index) : WatchInvariant s :=
  ⟨fun first _ live _ => (none_live first live).elim, fun index => by simp [stopped, none_live]⟩

theorem watchInvariant_initial : WatchInvariant initial :=
  watchInvariant_of_none rfl fun _ live => Nat.not_lt_zero _ live.1

theorem watchInvariant_step {s : State} (wellformed : Wellformed s) (invariant : WatchInvariant s)
    {event : Event} (timely : ¬LateExit s event) : WatchInvariant (step s event) := by
  cases event with
  | maybeStart isStartup created watched =>
    rcases maybeStart_cases s isStartup created watched with same | ⟨stopped, launch⟩
    · simpa only [step, same] using invariant
    · have only : ∀ index, (step s (.maybeStart isStartup created watched)).Live index ↔
          index = s.launched := fun index => by
        simp only [step, launch, live_launch s index (wellformed.fresh _ le_rfl),
          not_live_of_stopped invariant stopped index, false_or]
      refine ⟨fun first second hf hs => ((only first).mp hf).trans ((only second).mp hs).symm,
        fun index => ?_⟩
      rw [only]
      simp only [step, launch, Option.some.injEq, eq_comm]
  | stop =>
    simp only [step, stopWatchingThirdPartyResources]
    split
    · exact invariant
    · rename_i stopped stored
      refine watchInvariant_of_none rfl fun index live => ?_
      rw [live_cancel] at live
      exact live.2 (Option.some.inj (((invariant.2 index).mpr live.1).symm.trans stored))
  | setCrdExists | setApiEndpointAndDataset | removeApiEndpointAndDataset => exact invariant
  | exit returned =>
    rcases exit_cases s returned with same | ⟨below, running, exited⟩
    · simpa only [step, same] using invariant
    · simp only [step, exited]
      refine watchInvariant_of_none rfl fun index live => ?_
      rw [live_exit] at live
      cases stored : s.controllerStopFunction with
      | none => exact not_live_of_stopped invariant stored index live.1
      | some current =>
        have uncancelled : s.cancelled returned = false := by
          simpa [LateExit, State.isWatching, stored, below, running] using timely
        have both := invariant.1 index returned live.1 ⟨below, uncancelled, running⟩
        exact live.2 both

/-- The watch invariant holds along every run in which no cancelled sub-controller returns while
another one's stop function is stored. -/
theorem watchInvariant_run {s : State} (wellformed : Wellformed s) (invariant : WatchInvariant s)
    {events : List Event} (timely : Timely s events) : WatchInvariant (run s events) := by
  induction events generalizing s with
  | nil => exact invariant
  | cons event rest ih =>
    exact ih (wellformed_step wellformed event) (watchInvariant_step wellformed invariant timely.1)
      timely.2

def timelyTrace : List Event :=
  [.setCrdExists true, .setApiEndpointAndDataset ⟨"https://api.dash0.com", ""⟩,
    .maybeStart true true true, .stop, .exit 0, .maybeStart false true true]

theorem watchInvariant_timely_trace :
    Timely initial timelyTrace ∧ WatchInvariant (run initial timelyTrace) :=
  ⟨by decide, watchInvariant_run wellformed_initial watchInvariant_initial (by decide)⟩

/-- CRD and API endpoint present; a watch is started and stopped, a second one is started, and only
then does the first sub-controller's `Start` return; then a third start. -/
def lateExitTrace : List Event :=
  [.setCrdExists true, .setApiEndpointAndDataset ⟨"https://api.dash0.com", ""⟩,
    .maybeStart true true true, .stop, .maybeStart false true true, .exit 0,
    .maybeStart false true true]

theorem late_exit_leaves_two_watches :
    (run initial lateExitTrace).Live 1 ∧ (run initial lateExitTrace).Live 2 ∧
      (run initial (lateExitTrace ++ [.stop])).Live 1 ∧
      (run initial (lateExitTrace ++ [.stop])).isWatching = false := by
  decide

end Dash0Operator.Lifecycle
