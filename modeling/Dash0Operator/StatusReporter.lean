import Dash0Operator.Basic

/-! Concurrent runs of `writeSynchronizationResult` against the API server. The server is a
versioned store: a status update succeeds only if the object written carries the current
`resourceVersion`, and each success increments it. A run re-fetches the monitoring resource,
merges its own result with `UpdateSynchronizationResultsInStatus` and updates the status, in up to
three attempts (`retry.OnError` with `Steps: 3`, every error retried). A scheduler interleaves the
Get and Update calls of all runs and decides which of them fail. -/

namespace Dash0Operator.StatusReporter

abbrev StatusKey := String × String

variable {E : Type}

structure MonitoringResource (E : Type) where
  resourceVersion : Nat
  status : StatusKey → Option E

/-- What `UpdateSynchronizationResultsInStatus` does for one run: it rewrites only the entry of the
run's own kind and qualified name. -/
structure StatusUpdate (E : Type) where
  key : StatusKey
  apply : (StatusKey → Option E) → StatusKey → Option E
  frame : ∀ status other, other ≠ key → apply status other = status other

/-- Where a run is: before the Get of an attempt, before the Update of an attempt with the copy it
fetched, done, or out of attempts. Attempts are numbered from `0`. -/
inductive Phase (E : Type) where
  | fetching (attempt : Nat)
  | updating (attempt : Nat) (fetched : MonitoringResource E)
  | succeeded
  | exhausted

structure System (E : Type) where
  stored : MonitoringResource E
  phase : Nat → Phase E

def initial (stored : MonitoringResource E) : System E := ⟨stored, fun _ => .fetching 0⟩

def retryAfter (attempt : Nat) : Phase E :=
  if attempt + 1 < 3 then .fetching (attempt + 1) else .exhausted

/-- The next call of run `index`; `ok` is whether it goes through. An Update whose object is not at
the current resource version is rejected as a conflict. -/
def step (updates : Nat → StatusUpdate E) (sys : System E) (index : Nat) (ok : Bool) : System E :=
  match sys.phase index with
  | .fetching attempt =>
    if ok then { sys with phase := Function.update sys.phase index (.updating attempt sys.stored) }
    else { sys with phase := Function.update sys.phase index (retryAfter attempt) }
  | .updating attempt fetched =>
    if ok ∧ fetched.resourceVersion = sys.stored.resourceVersion then
      { stored := ⟨sys.stored.resourceVersion + 1, (updates index).apply fetched.status⟩
        phase := Function.update sys.phase index .succeeded }
    else { sys with phase := Function.update sys.phase index (retryAfter attempt) }
  | .succeeded => sys
  | .exhausted => sys

/-- The scheduler's choices, in order: which run makes its next call, and whether it succeeds. -/
def run (updates : Nat → StatusUpdate E) (sys : System E) (schedule : List (Nat × Bool)) : System E :=
  schedule.foldl (fun sys choice => step updates sys choice.1 choice.2) sys

@[simp] theorem run_nil (updates : Nat → StatusUpdate E) (sys : System E) : run updates sys [] = sys :=
  rfl

@[simp] theorem run_cons (updates : Nat → StatusUpdate E) (sys : System E) (index : Nat) (ok : Bool)
    (schedule : List (Nat × Bool)) :
    run updates sys ((index, ok) :: schedule) = run updates (step updates sys index ok) schedule := rfl

theorem run_append (updates : Nat → StatusUpdate E) (sys : System E) (first rest : List (Nat × Bool)) :
    run updates sys (first ++ rest) = run updates (run updates sys first) rest :=
  List.foldl_append _ _ _ _

/-! ### What one call can do -/

theorem step_cases (updates : Nat → StatusUpdate E) (sys : System E) (index : Nat) (ok : Bool) :
    (step updates sys index ok).stored = sys.stored ∨
      ∃ attempt fetched, sys.phase index = .updating attempt fetched ∧
        fetched.resourceVersion = sys.stored.resourceVersion ∧
        (step updates sys index ok).stored =
          ⟨sys.stored.resourceVersion + 1, (updates index).apply fetched.status⟩ ∧
        (step updates sys index ok).phase index = .succeeded := by
  unfold step
  split
  · split_ifs <;> exact .inl rfl
  · rename_i attempt fetched current
    split_ifs with commit
    · exact .inr ⟨attempt, fetched, current, commit.2, rfl, by simp⟩
    · exact .inl rfl
  · exact .inl rfl
  · exact .inl rfl

theorem step_phase_other (updates : Nat → StatusUpdate E) (sys : System E) {index other : Nat}
    (ok : Bool) (different : other ≠ index) :
    (step updates sys index ok).phase other = sys.phase other := by
  unfold step
  split <;> (try split_ifs) <;> simp [Function.update_noteq different]

theorem step_succeeded (updates : Nat → StatusUpdate E) (sys : System E) {index : Nat} (ok : Bool)
    (done : sys.phase index = .succeeded) : step updates sys index ok = sys := by
  simp [step, done]

theorem step_to_updating (updates : Nat → StatusUpdate E) (sys : System E) {index attempt : Nat}
    {ok : Bool} {fetched : MonitoringResource E}
    (fetching : (step updates sys index ok).phase index = .updating attempt fetched) :
    fetched = sys.stored ∧ (step updates sys index ok).stored = sys.stored := by
  unfold step at fetching ⊢
  split at fetching <;> (try split_ifs at fetching) <;> simp_all [retryAfter] <;> split_ifs at fetching

/-! ### Fetched copies stay honest -/

def FreshCopies (sys : System E) : Prop :=
  ∀ index attempt fetched, sys.phase index = .updating attempt fetched →
    fetched.resourceVersion ≤ sys.stored.resourceVersion ∧
      (fetched.resourceVersion = sys.stored.resourceVersion → fetched.status = sys.stored.status)

theorem freshCopies_initial (stored : MonitoringResource E) : FreshCopies (initial stored) :=
  fun _ _ _ fetching => by cases fetching

theorem freshCopies_step (updates : Nat → StatusUpdate E) {sys : System E} (fresh : FreshCopies sys)
    (index : Nat) (ok : Bool) : FreshCopies (step updates sys index ok) := by
  intro other attempt fetched fetching
  by_cases same : other = index
  · subst same
    obtain ⟨rfl, unchanged⟩ := step_to_updating updates sys fetching
    simp [unchanged]
  · rw [step_phase_other updates sys ok same] at fetching
    obtain ⟨behind, current⟩ := fresh other attempt fetched fetching
    rcases step_cases updates sys index ok with unchanged | ⟨_, _, _, _, committed, _⟩
    · exact unchanged ▸ ⟨behind, current⟩
    · rw [committed]
      refine ⟨Nat.le_succ_of_le behind, fun ahead => ?_⟩
      dsimp only at ahead
      omega

theorem freshCopies_run (updates : Nat → StatusUpdate E) {sys : System E} (fresh : FreshCopies sys)
    (schedule : List (Nat × Bool)) : FreshCopies (run updates sys schedule) := by
  induction schedule generalizing sys with
  | nil => exact fresh
  | cons choice rest ih => exact ih (freshCopies_step updates fresh choice.1 choice.2)

/-! ### Commits replace only the committing run's entry -/

theorem step_commits_own_entry (updates : Nat → StatusUpdate E) {sys : System E}
    (fresh : FreshCopies sys) (index : Nat) (ok : Bool) :
    (step updates sys index ok).stored = sys.stored ∨
      ((step updates sys index ok).stored.resourceVersion = sys.stored.resourceVersion + 1 ∧
        (step updates sys index ok).stored.status = (updates index).apply sys.stored.status) := by
  rcases step_cases updates sys index ok with unchanged | ⟨attempt, fetched, fetching, current, committed, _⟩
  · exact .inl unchanged
  · rw [committed, ← (fresh index attempt fetched fetching).2 current]
    exact .inr ⟨rfl, rfl⟩

theorem step_keeps_other_entry (updates : Nat → StatusUpdate E) {sys : System E}
    (fresh : FreshCopies sys) (index : Nat) (ok : Bool) {key : StatusKey}
    (other : key ≠ (updates index).key) :
    (step updates sys index ok).stored.status key = sys.stored.status key := by
  rcases step_commits_own_entry updates fresh index ok with unchanged | ⟨-, committed⟩
  · rw [unchanged]
  · rw [committed, (updates index).frame _ _ other]

theorem run_keeps_other_entry (updates : Nat → StatusUpdate E) {sys : System E}
    (fresh : FreshCopies sys) {key : StatusKey} (schedule : List (Nat × Bool))
    (others : ∀ choice ∈ schedule, key ≠ (updates choice.1).key) :
    (run updates sys schedule).stored.status key = sys.stored.status key := by
  induction schedule generalizing sys with
  | nil => rfl
  | cons choice rest ih =>
    rw [List.forall_mem_cons] at others
    rw [run_cons, ih (freshCopies_step updates fresh _ _) others.2,
      step_keeps_other_entry updates fresh _ _ others.1]

/-! ### A run that gives up wrote nothing -/

theorem run_succeeded_stays (updates : Nat → StatusUpdate E) {sys : System E} {index : Nat}
    (done : sys.phase index = .succeeded) (schedule : List (Nat × Bool)) :
    (run updates sys schedule).phase index = .succeeded := by
  induction schedule generalizing sys with
  | nil => exact done
  | cons choice rest ih =>
    obtain ⟨other, ok⟩ := choice
    rw [run_cons]
    apply ih
    by_cases same : index = other
    · rw [← same, step_succeeded updates sys _ done]; exact done
    · rw [step_phase_other updates sys _ same]; exact done

theorem exhausted_run_wrote_nothing (updates : Nat → StatusUpdate E) (sys : System E)
    {index : Nat} {ok : Bool} {before after : List (Nat × Bool)}
    (exhausted : (run updates sys (before ++ (index, ok) :: after)).phase index = .exhausted) :
    (step updates (run updates sys before) index ok).stored = (run updates sys before).stored := by
  rcases step_cases updates (run updates sys before) index ok with unchanged | ⟨-, -, -, -, -, done⟩
  · exact unchanged
  · rw [run_append, run_cons, run_succeeded_stays updates done] at exhausted
    cases exhausted

/-- For every interleaving of the calls of any number of runs and every pattern of failed calls,
from any stored monitoring resource: each call leaves the stored object alone or commits the status
current at that moment with only the committing run's entry replaced; calls of runs for other keys
never change an entry; and no call of a run that ran out of attempts changed the stored object. -/
theorem concurrent_status_writes_lose_no_update (updates : Nat → StatusUpdate E)
    (stored : MonitoringResource E) (schedule : List (Nat × Bool)) :
    let sys := run updates (initial stored) schedule
    (∀ index ok, (step updates sys index ok).stored = sys.stored ∨
        ((step updates sys index ok).stored.resourceVersion = sys.stored.resourceVersion + 1 ∧
          (step updates sys index ok).stored.status = (updates index).apply sys.stored.status ∧
          ∀ key, key ≠ (updates index).key →
            (step updates sys index ok).stored.status key = sys.stored.status key)) ∧
      (∀ key later, (∀ choice ∈ later, key ≠ (updates choice.1).key) →
        (run updates sys later).stored.status key = sys.stored.status key) ∧
      (∀ index before ok after, schedule = before ++ (index, ok) :: after →
        sys.phase index = .exhausted →
        (step updates (run updates (initial stored) before) index ok).stored =
          (run updates (initial stored) before).stored) := by
  have fresh := freshCopies_run updates (freshCopies_initial stored) schedule
  refine ⟨fun index ok => ?_, fun key later others => run_keeps_other_entry updates fresh later others,
    fun index before ok after split exhausted => ?_⟩
  · rcases step_commits_own_entry updates fresh index ok with unchanged | ⟨version, committed⟩
    · exact .inl unchanged
    · exact .inr ⟨version, committed, fun _ other => step_keeps_other_entry updates fresh index ok other⟩
  · subst split
    exact exhausted_run_wrote_nothing updates _ exhausted

end Dash0Operator.StatusReporter
