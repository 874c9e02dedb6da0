import Dash0Operator.Webhook

/-! The workload handlers of the admission webhook (`dash0_webhook.go`): `preProcess`, the
ignore-once and opt-out checks, the workload modifier and `postProcess` with the events they
queue, and `Handle` calling the handler its routing finds. The universal decoder, the label helpers
of `util`, the `Modify…` functions of `workloads`, `json.Marshal` and the JSON patch of
`admission.PatchResponseFromRaw` are not in the repository: they are the fields of
`Collaborators`, free in every theorem. -/

namespace Dash0Operator.Webhook

/-- The `admission.Response` values the handlers build: `Allowed`, `Errored` with its status code,
and the patch `PatchResponseFromRaw` computes. -/
inductive AdmissionResponse where
  | allowed (message : String)
  | errored (code : Nat) (message : String)
  | patch (patches : String)
  deriving DecidableEq, Repr

/-- The events the handlers queue with `util.Queue…InstrumentationEvent`. -/
inductive InstrumentationEvent where
  | failedInstrumentation (err : String)
  | noInstrumentationNecessary
  | successfulInstrumentation
  deriving DecidableEq, Repr

/-- What the handler of a workload type `W` calls outside the repository: `decoder.Decode`,
`util.CheckAndDeleteIgnoreOnceLabel` (whether the label was there, and the workload without it),
`util.HasOptedOutOfInstrumenation`, the type's `Modify…` (`hasBeenModified` and the modified
workload), `json.Marshal`, and the JSON patch from the request's raw object to a marshalled one. -/
structure Collaborators (W : Type) where
  decode : String → Except String W
  checkAndDeleteIgnoreOnceLabel : W → Bool × W
  hasOptedOutOfInstrumenation : W → Bool
  modify : W → Bool × W
  marshal : W → Except String String
  createPatch : String → String → Except String String

variable {W : Type}

/-- `http.StatusInternalServerError`. -/
def statusInternalServerError : Nat := 500

/-- `admission.PatchResponseFromRaw`: a patch that cannot be computed is answered with `Errored`. -/
def patchResponseFromRaw (c : Collaborators W) (original current : String) : AdmissionResponse :=
  match c.createPatch original current with
  | .error err => .errored statusInternalServerError err
  | .ok patches => .patch patches

/-- `preProcess`: the decoded workload, or the answer and event for an object that does not
decode. -/
def preProcess (c : Collaborators W) (raw gvkLabel : String) :
    Except (AdmissionResponse × List InstrumentationEvent) W :=
  match c.decode raw with
  | .error err =>
    let err := "cannot parse resource into a " ++ gvkLabel ++ ": " ++ err
    .error (.errored statusInternalServerError err, [.failedInstrumentation err])
  | .ok resource => .ok resource

def postProcess (c : Collaborators W) (raw : String) (resource : W) (hasBeenModified ignored : Bool) :
    AdmissionResponse × List InstrumentationEvent :=
  if !ignored && !hasBeenModified then (.allowed "no changes", [.noInstrumentationNecessary])
  else
    match c.marshal resource with
    | .error err =>
      (.allowed ("error when marshalling modfied resource to JSON: " ++ err), [.failedInstrumentation err])
    | .ok marshalled =>
      if ignored then (patchResponseFromRaw c raw marshalled, [])
      else (patchResponseFromRaw c raw marshalled, [.successfulInstrumentation])

/-- The body the six workload handlers share; each passes its own opt-out message. -/
def handleWorkload (c : Collaborators W) (optOutMessage raw gvkLabel : String) :
    AdmissionResponse × List InstrumentationEvent :=
  match preProcess c raw gvkLabel with
  | .error responseIfFailed => responseIfFailed
  | .ok resource =>
    match c.checkAndDeleteIgnoreOnceLabel resource with
    | (true, resource) => postProcess c raw resource false true
    | (false, resource) =>
      if c.hasOptedOutOfInstrumenation resource then (.allowed optOutMessage, [])
      else
        let (hasBeenModified, resource) := c.modify resource
        postProcess c raw resource hasBeenModified false

def handleCronJob (c : Collaborators W) (raw gvkLabel : String) :
    AdmissionResponse × List InstrumentationEvent :=
  handleWorkload c "not instrumenting this resource due to dash0.com/opt-out=true" raw gvkLabel

def handleDaemonSet (c : Collaborators W) (raw gvkLabel : String) :
    AdmissionResponse × List InstrumentationEvent :=
  handleWorkload c "not instrumenting this resource due to dash0.com/opt-out=true" raw gvkLabel

def handleDeployment (c : Collaborators W) (raw gvkLabel : String) :
    AdmissionResponse × List InstrumentationEvent :=
  handleWorkload c "not instrumenting this resource due to dash0.com/opt-out=true" raw gvkLabel

def handleJob (c : Collaborators W) (raw gvkLabel : String) :
    AdmissionResponse × List InstrumentationEvent :=
  handleWorkload c "not instrumenting this resource due to dash0.com/opt-out=true" raw gvkLabel

def handleReplicaSet (c : Collaborators W) (raw gvkLabel : String) :
    AdmissionResponse × List InstrumentationEvent :=
  handleWorkload c "not instrumenting this resource due to dash0.com/opt-out=true" raw gvkLabel

/-- Its opt-out message names the label `dash0.com/out-out`. -/
def handleStatefulSet (c : Collaborators W) (raw gvkLabel : String) :
    AdmissionResponse × List InstrumentationEvent :=
  handleWorkload c "not instrumenting this resource due to dash0.com/out-out=true" raw gvkLabel

structure Workloads (W : Type) where
  cronJob : Collaborators W
  job : Collaborators W
  daemonSet : Collaborators W
  deployment : Collaborators W
  replicaSet : Collaborators W
  statefulSet : Collaborators W

/-- `fallbackRoute`. -/
def fallbackRoute (gvkLabel : String) : AdmissionResponse × List InstrumentationEvent :=
  (.allowed ("resource type not supported: " ++ gvkLabel), [])

/-- The call `Handle` makes of the `resourceHandler` it routes to. -/
def callHandler (w : Workloads W) (raw gvkLabel : String) :
    ResourceHandler → AdmissionResponse × List InstrumentationEvent
  | .handleCronJob => handleCronJob w.cronJob raw gvkLabel
  | .handleJob => handleJob w.job raw gvkLabel
  | .handleDaemonSet => handleDaemonSet w.daemonSet raw gvkLabel
  | .handleDeployment => handleDeployment w.deployment raw gvkLabel
  | .handleReplicaSet => handleReplicaSet w.replicaSet raw gvkLabel
  | .handleStatefulSet => handleStatefulSet w.statefulSet raw gvkLabel
  | .fallbackRoute => fallbackRoute gvkLabel

/-- `Handle` with the handler it routes to called; `none` is the panic of a nil handler. -/
def HandleRequest (w : Workloads W) (group version kind raw : String) :
    Option (AdmissionResponse × List InstrumentationEvent) :=
  let gvkLabel := group ++ "/" ++ version ++ "." ++ kind
  (routeFor routes group kind version).map (callHandler w raw gvkLabel)

/-- The collaborators a handler's call uses; `fallbackRoute` uses none. -/
def collaboratorsOf (w : Workloads W) : ResourceHandler → Option (Collaborators W)
  | .handleCronJob => some w.cronJob
  | .handleJob => some w.job
  | .handleDaemonSet => some w.daemonSet
  | .handleDeployment => some w.deployment
  | .handleReplicaSet => some w.replicaSet
  | .handleStatefulSet => some w.statefulSet
  | .fallbackRoute => none

/-! ### The paths through one handler -/

section Paths

variable (c : Collaborators W) (raw : String)

theorem patchResponseFromRaw_errored {current : String} {code : Nat} {message : String}
    (answer : patchResponseFromRaw c raw current = .errored code message) :
    code = 500 ∧ c.createPatch raw current = .error message := by
  unfold patchResponseFromRaw at answer
  split at answer <;> cases answer
  exact ⟨rfl, ‹_›⟩

theorem postProcess_answer (resource : W) (hasBeenModified ignored : Bool) :
    (∃ message, (postProcess c raw resource hasBeenModified ignored).1 = .allowed message) ∨
      ∃ marshalled, (postProcess c raw resource hasBeenModified ignored).1 =
        patchResponseFromRaw c raw marshalled := by
  unfold postProcess
  split
  · exact .inl ⟨_, rfl⟩
  · split
    · exact .inl ⟨_, rfl⟩
    · split <;> exact .inr ⟨_, rfl⟩

theorem postProcess_events (resource : W) (hasBeenModified ignored : Bool) :
    (postProcess c raw resource hasBeenModified ignored).2.length ≤ 1 ∧
      (.successfulInstrumentation ∈ (postProcess c raw resource hasBeenModified ignored).2 ↔
        ignored = false ∧ hasBeenModified = true ∧ ∃ marshalled, c.marshal resource = .ok marshalled) := by
  unfold postProcess
  cases ignored <;> cases hasBeenModified <;> cases c.marshal resource <;> simp

variable {optOutMessage gvkLabel : String}

theorem handleWorkload_of_decode_error {err : String} (decoded : c.decode raw = .error err) :
    handleWorkload c optOutMessage raw gvkLabel =
      (.errored 500 ("cannot parse resource into a " ++ gvkLabel ++ ": " ++ err),
        [.failedInstrumentation ("cannot parse resource into a " ++ gvkLabel ++ ": " ++ err)]) := by
  simp only [handleWorkload, preProcess, decoded, statusInternalServerError]

theorem handleWorkload_of_ignore_once {resource resource' : W} (decoded : c.decode raw = .ok resource)
    (labelled : c.checkAndDeleteIgnoreOnceLabel resource = (true, resource')) :
    handleWorkload c optOutMessage raw gvkLabel = postProcess c raw resource' false true := by
  simp only [handleWorkload, preProcess, decoded, labelled]

theorem handleWorkload_of_opted_out {resource resource' : W} (decoded : c.decode raw = .ok resource)
    (unlabelled : c.checkAndDeleteIgnoreOnceLabel resource = (false, resource'))
    (optedOut : c.hasOptedOutOfInstrumenation resource' = true) :
    handleWorkload c optOutMessage raw gvkLabel = (.allowed optOutMessage, []) := by
  simp only [handleWorkload, preProcess, decoded, unlabelled, optedOut, if_true]

theorem handleWorkload_of_modify {resource resource' modified : W} {hasBeenModified : Bool}
    (decoded : c.decode raw = .ok resource)
    (unlabelled : c.checkAndDeleteIgnoreOnceLabel resource = (false, resource'))
    (notOptedOut : c.hasOptedOutOfInstrumenation resource' = false)
    (modifiedBy : c.modify resource' = (hasBeenModified, modified)) :
    handleWorkload c optOutMessage raw gvkLabel = postProcess c raw modified hasBeenModified false := by
  simp only [handleWorkload, preProcess, decoded, unlabelled, notOptedOut, modifiedBy]
  rfl

theorem handleWorkload_cases :
    (∃ err, c.decode raw = .error err ∧ handleWorkload c optOutMessage raw gvkLabel =
      (.errored 500 ("cannot parse resource into a " ++ gvkLabel ++ ": " ++ err),
        [.failedInstrumentation ("cannot parse resource into a " ++ gvkLabel ++ ": " ++ err)])) ∨
    ∃ resource resource', c.decode raw = .ok resource ∧
      ((c.checkAndDeleteIgnoreOnceLabel resource = (true, resource') ∧
          handleWorkload c optOutMessage raw gvkLabel = postProcess c raw resource' false true) ∨
        (c.checkAndDeleteIgnoreOnceLabel resource = (false, resource') ∧
          c.hasOptedOutOfInstrumenation resource' = true ∧
          handleWorkload c optOutMessage raw gvkLabel = (.allowed optOutMessage, [])) ∨
        ∃ hasBeenModified modified, c.checkAndDeleteIgnoreOnceLabel resource = (false, resource') ∧
          c.hasOptedOutOfInstrumenation resource' = false ∧
          c.modify resource' = (hasBeenModified, modified) ∧
          handleWorkload c optOutMessage raw gvkLabel = postProcess c raw modified hasBeenModified false) := by
  cases decoded : c.decode raw with
  | error err => exact .inl ⟨err, rfl, handleWorkload_of_decode_error c raw decoded⟩
  | ok resource =>
    right
    rcases labelled : c.checkAndDeleteIgnoreOnceLabel resource with ⟨ignoreOnce, resource'⟩
    refine ⟨resource, resource', rfl, ?_⟩
    cases ignoreOnce with
    | true => exact .inl ⟨labelled, handleWorkload_of_ignore_once c raw decoded labelled⟩
    | false =>
      cases optedOut : c.hasOptedOutOfInstrumenation resource' with
      | true => exact .inr (.inl ⟨labelled, rfl, handleWorkload_of_opted_out c raw decoded labelled optedOut⟩)
      | false =>
        rcases modifiedBy : c.modify resource' with ⟨hasBeenModified, modified⟩
        exact .inr (.inr ⟨hasBeenModified, modified, labelled, rfl, rfl,
          handleWorkload_of_modify c raw decoded labelled optedOut modifiedBy⟩)

theorem postProcess_errored (resource : W) (hasBeenModified ignored : Bool) {code : Nat}
    {message : String} {events : List InstrumentationEvent}
    (answer : postProcess c raw resource hasBeenModified ignored = (.errored code message, events)) :
    code = 500 ∧ ∃ current, c.createPatch raw current = .error message := by
  rcases postProcess_answer c raw resource hasBeenModified ignored with ⟨_, allowed⟩ | ⟨current, patched⟩
  · rw [answer] at allowed; cases allowed
  · rw [answer] at patched
    exact ⟨(patchResponseFromRaw_errored c raw patched.symm).1, current,
      (patchResponseFromRaw_errored c raw patched.symm).2⟩

theorem handleWorkload_errored {code : Nat} {message : String} {events : List InstrumentationEvent}
    (answer : handleWorkload c optOutMessage raw gvkLabel = (.errored code message, events)) :
    code = 500 ∧ ((∃ err, c.decode raw = .error err ∧
        message = "cannot parse resource into a " ++ gvkLabel ++ ": " ++ err ∧
        events = [.failedInstrumentation message]) ∨
      ∃ current, c.createPatch raw current = .error message) := by
  rcases handleWorkload_cases c raw with ⟨err, decoded, call⟩ |
    ⟨resource, resource', -, ⟨-, call⟩ | ⟨-, -, call⟩ | ⟨hasBeenModified, modified, -, -, -, call⟩⟩ <;>
    rw [call] at answer
  · cases answer
    exact ⟨rfl, .inl ⟨err, decoded, rfl, rfl⟩⟩
  · exact (postProcess_errored c raw _ _ _ answer).imp_right .inr
  · cases answer
  · exact (postProcess_errored c raw _ _ _ answer).imp_right .inr

end Paths

/-! ### What the webhook answers -/

theorem callHandler_cases (w : Workloads W) (raw gvkLabel : String) (handler : ResourceHandler) :
    (collaboratorsOf w handler = none ∧ callHandler w raw gvkLabel handler = fallbackRoute gvkLabel) ∨
      ∃ c optOutMessage, collaboratorsOf w handler = some c ∧
        callHandler w raw gvkLabel handler = handleWorkload c optOutMessage raw gvkLabel := by
  cases handler
  case fallbackRoute => exact .inl ⟨rfl, rfl⟩
  all_goals exact .inr ⟨_, _, rfl, rfl⟩

/-- The webhook turns a request down only when the object does not decode into the routed
workload type, or when the patch to the modified object cannot be computed; then with status 500,
and for an object that does not decode with the decoder's error and one failure event. -/
theorem webhook_rejects_only_unparsable_or_unpatchable (w : Workloads W)
    (group version kind raw : String) {code : Nat} {message : String}
    {events : List InstrumentationEvent}
    (answer : HandleRequest w group version kind raw = some (.errored code message, events)) :
    code = 500 ∧ ∃ handler c, routeFor routes group kind version = some handler ∧
      collaboratorsOf w handler = some c ∧
      ((∃ err, c.decode raw = .error err ∧
          message = "cannot parse resource into a " ++ group ++ "/" ++ version ++ "." ++ kind ++
            ": " ++ err ∧ events = [.failedInstrumentation message]) ∨
        ∃ current, c.createPatch raw current = .error message) := by
  obtain ⟨handler, routed, called⟩ := Option.map_eq_some'.mp answer
  rcases callHandler_cases w raw (group ++ "/" ++ version ++ "." ++ kind) handler with
    ⟨-, fallback⟩ | ⟨c, optOutMessage, uses, call⟩
  · rw [fallback] at called; cases called
  · rw [call] at called
    obtain ⟨isInternal, rejected⟩ := handleWorkload_errored c raw called
    exact ⟨isInternal, handler, c, routed, uses, rejected⟩

/-- A workload handler queues at most one event, and the success event exactly when the modifier
changed a decoded, unlabelled, not opted-out workload that then marshals. -/
theorem handler_reports_success_iff_instrumented (c : Collaborators W)
    (optOutMessage raw gvkLabel : String) :
    (handleWorkload c optOutMessage raw gvkLabel).2.length ≤ 1 ∧
      (.successfulInstrumentation ∈ (handleWorkload c optOutMessage raw gvkLabel).2 ↔
        ∃ resource resource' modified marshalled, c.decode raw = .ok resource ∧
          c.checkAndDeleteIgnoreOnceLabel resource = (false, resource') ∧
          c.hasOptedOutOfInstrumenation resource' = false ∧
          c.modify resource' = (true, modified) ∧ c.marshal modified = .ok marshalled) := by
  rcases handleWorkload_cases c raw with ⟨err, decoded, call⟩ |
    ⟨resource, resource', decoded, ⟨labelled, call⟩ | ⟨labelled, optedOut, call⟩ |
      ⟨hasBeenModified, modified, labelled, notOptedOut, modifiedBy, call⟩⟩ <;> rw [call]
  · simp [decoded]
  · obtain ⟨single, success⟩ := postProcess_events c raw resource' false true
    exact ⟨single, success.trans (by simp [decoded, labelled])⟩
  · simp [decoded, labelled, optedOut]
  · obtain ⟨single, success⟩ := postProcess_events c raw modified hasBeenModified false
    exact ⟨single, success.trans (by simp [decoded, labelled, notOptedOut, modifiedBy, and_assoc])⟩

theorem handleStatefulSet_differs_only_when_opted_out (c : Collaborators W) (raw gvkLabel : String) :
    handleStatefulSet c raw gvkLabel = handleDeployment c raw gvkLabel ∨
      handleStatefulSet c raw gvkLabel =
          (.allowed "not instrumenting this resource due to dash0.com/out-out=true", []) ∧
        handleDeployment c raw gvkLabel =
          (.allowed "not instrumenting this resource due to dash0.com/opt-out=true", []) := by
  unfold handleStatefulSet handleDeployment
  rcases decoded : c.decode raw with err | resource
  · exact .inl (by rw [handleWorkload_of_decode_error c raw decoded, handleWorkload_of_decode_error c raw decoded])
  rcases labelled : c.checkAndDeleteIgnoreOnceLabel resource with ⟨_ | _, resource'⟩
  · cases optedOut : c.hasOptedOutOfInstrumenation resource'
    · rcases modifiedBy : c.modify resource' with ⟨hasBeenModified, modified⟩
      exact .inl (by rw [handleWorkload_of_modify c raw decoded labelled optedOut modifiedBy,
        handleWorkload_of_modify c raw decoded labelled optedOut modifiedBy])
    · exact .inr ⟨handleWorkload_of_opted_out c raw decoded labelled optedOut,
        handleWorkload_of_opted_out c raw decoded labelled optedOut⟩
  · exact .inl (by rw [handleWorkload_of_ignore_once c raw decoded labelled,
      handleWorkload_of_ignore_once c raw decoded labelled])

/-! ### Samples -/

/-- Workloads as their JSON text: the empty text does not decode, `ignore-once` carries the
ignore-once label, `opt-out` has opted out, and the modifier appends its instrumentation. -/
def sampleCollaborators : Collaborators String where
  decode raw := if raw = "" then .error "unexpected end of JSON input" else .ok raw
  checkAndDeleteIgnoreOnceLabel resource :=
    if resource = "ignore-once" then (true, "unlabelled") else (false, resource)
  hasOptedOutOfInstrumenation resource := resource == "opt-out"
  modify resource := (true, resource ++ "+dash0")
  marshal resource := .ok resource
  createPatch original current := .ok (original ++ "->" ++ current)

def sampleWorkloads : Workloads String :=
  ⟨sampleCollaborators, sampleCollaborators, sampleCollaborators, sampleCollaborators,
    sampleCollaborators, sampleCollaborators⟩

theorem sample_undecodable_deployment_rejected :
    500 = 500 ∧ ∃ handler c, routeFor routes "apps" "Deployment" "v1" = some handler ∧
      collaboratorsOf sampleWorkloads handler = some c ∧
      ((∃ err, c.decode "" = .error err ∧
          "cannot parse resource into a apps/v1.Deployment: unexpected end of JSON input" =
            "cannot parse resource into a " ++ "apps" ++ "/" ++ "v1" ++ "." ++ "Deployment" ++ ": " ++
              err ∧
          [InstrumentationEvent.failedInstrumentation
              "cannot parse resource into a apps/v1.Deployment: unexpected end of JSON input"] =
            [.failedInstrumentation
              "cannot parse resource into a apps/v1.Deployment: unexpected end of JSON input"]) ∨
        ∃ current, c.createPatch "" current =
          .error "cannot parse resource into a apps/v1.Deployment: unexpected end of JSON input") :=
  webhook_rejects_only_unparsable_or_unpatchable sampleWorkloads "apps" "v1" "Deployment" "" rfl

end Dash0Operator.Webhook
