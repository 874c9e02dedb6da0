import Dash0Operator.DesiredStateConsistency

/-! `OTelColResourceManager` (`otelcol_resources.go`) against the API server. The server stores
objects under their keys and stores `defaults` of an object written to it (the fields it fills in
itself); every call may fail, with the failures of the calls read one after the other, so every
behaviour of the server and the network is one `ApiServer`. `createEmptyReceiverFor` cannot fail for
the kinds of the desired state, all of which `scheme.Scheme` knows.

`CreateOrUpdateOpenTelemetryCollectorResources` in `otelcol_resources.go` builds its `oTelColConfig`
with the fields `IngressEndpoint`, `SecretRef` and `AuthorizationToken`, which the `oTelColConfig` of
`desired_state.go` does not have (it has `Export`, `SelfMonitoringConfiguration` and
`DevelopmentMode`), so the two files do not compile together. The model takes the config as an
input: the loop and its calls are the source's, the config is any `OTelColConfig`. -/

namespace Dash0Operator.CollectorResources

open DesiredState

inductive ApiError where
  | notFound
  | alreadyExists
  | other (message : String)
  deriving DecidableEq, Repr

/-- `apierrors.IsNotFound`. -/
def ApiError.isNotFound : ApiError → Bool
  | .notFound => true
  | _ => false

/-- The API server: what it stores, what it stores for an object written to it, and the failures of
its calls, of which the first `calls` are used up. -/
structure ApiServer where
  stored : Key → Option Object
  defaults : Object → Object
  defaults_key : ∀ object, (defaults object).key = object.key
  faults : Nat → Option String
  calls : Nat

namespace ApiServer

def tick (server : ApiServer) : ApiServer := { server with calls := server.calls + 1 }

def store (server : ApiServer) (key : Key) (object : Option Object) : ApiServer :=
  { server with stored := Function.update server.stored key object }

/-- `Client.Get` into a receiver of the object's kind. -/
def get (server : ApiServer) (key : Key) : Except ApiError Object × ApiServer :=
  match server.faults server.calls, server.stored key with
  | some message, _ => (.error (.other message), server.tick)
  | none, none => (.error .notFound, server.tick)
  | none, some object => (.ok object, server.tick)

def create (server : ApiServer) (object : Object) : Option ApiError × ApiServer :=
  match server.faults server.calls, server.stored object.key with
  | some message, _ => (some (.other message), server.tick)
  | none, some _ => (some .alreadyExists, server.tick)
  | none, none => (none, server.tick.store object.key (some (server.defaults object)))

/-- `Client.Update` of an object without a resource version: it replaces the stored object. -/
def update (server : ApiServer) (object : Object) : Option ApiError × ApiServer :=
  match server.faults server.calls, server.stored object.key with
  | some message, _ => (some (.other message), server.tick)
  | none, none => (some .notFound, server.tick)
  | none, some _ => (none, server.tick.store object.key (some (server.defaults object)))

def delete (server : ApiServer) (object : Object) : Option ApiError × ApiServer :=
  match server.faults server.calls, server.stored object.key with
  | some message, _ => (some (.other message), server.tick)
  | none, none => (some .notFound, server.tick)
  | none, some _ => (none, server.tick.store object.key none)

section Calls

variable (server : ApiServer) (key : Key) (object : Option Object)

@[simp] theorem tick_stored : server.tick.stored = server.stored := rfl
@[simp] theorem tick_defaults : server.tick.defaults = server.defaults := rfl
@[simp] theorem tick_faults : server.tick.faults = server.faults := rfl
@[simp] theorem store_stored : (server.store key object).stored = Function.update server.stored key object := rfl
@[simp] theorem store_defaults : (server.store key object).defaults = server.defaults := rfl
@[simp] theorem store_faults : (server.store key object).faults = server.faults := rfl

def Reliable : Prop := ∀ n, server.faults n = none

theorem get_server : (server.get key).2 = server.tick := by
  unfold get; split <;> rfl

/-- The outcome of a write call: it failed and only counted the call, or it went through and
stored `value` under `key`. -/
def WriteOutcome (key : Key) (value : Option Object) : Option ApiError × ApiServer → Prop
  | (some _, server') => server' = server.tick
  | (none, server') => server' = server.tick.store key value

theorem create_outcome (o : Object) : server.WriteOutcome o.key (some (server.defaults o)) (server.create o) := by
  unfold create; split <;> rfl

theorem update_outcome (o : Object) : server.WriteOutcome o.key (some (server.defaults o)) (server.update o) := by
  unfold update; split <;> rfl

theorem delete_outcome (o : Object) : server.WriteOutcome o.key none (server.delete o) := by
  unfold delete; split <;> rfl

end Calls

end ApiServer

/-- The error of a manager call: the desired state could not be assembled, an API call failed, or
`errors.Join` of the failed deletions. -/
inductive ManagerError where
  | assembly (message : String)
  | api (err : ApiError)
  | joined (errs : List ApiError)
  deriving DecidableEq, Repr

/-- `updateResource`: update, fetch the object again and compare it with the one fetched before
(`reflect.DeepEqual`). -/
def updateResource (server : ApiServer) (existingObject desiredObject : Object) :
    (Bool × Option ApiError) × ApiServer :=
  match server.update desiredObject with
  | (some err, server) => ((false, some err), server)
  | (none, server) =>
    match server.get desiredObject.key with
    | (.error err, server) => ((false, some err), server)
    | (.ok updatedObject, server) => ((existingObject ≠ updatedObject, none), server)

/-- `createOrUpdateResource`: whether the object is new, whether it changed, and the error. -/
def createOrUpdateResource (server : ApiServer) (desiredObject : Object) :
    (Bool × Bool × Option ApiError) × ApiServer :=
  match server.get desiredObject.key with
  | (.error err, server) =>
    if !err.isNotFound then ((false, false, some err), server)
    else
      match server.create desiredObject with
      | (some err, server) => ((false, false, some err), server)
      | (none, server) => ((true, false, none), server)
  | (.ok existingObject, server) =>
    match updateResource server existingObject desiredObject with
    | ((_, some err), server) => ((false, false, some err), server)
    | ((hasChanged, none), server) => ((false, hasChanged, none), server)

/-- The loop of `CreateOrUpdateOpenTelemetryCollectorResources` over the desired state. -/
def createOrUpdateAll (server : ApiServer) :
    List Object → Bool → Bool → (Bool × Bool × Option ManagerError) × ApiServer
  | [], resourcesHaveBeenCreated, resourcesHaveBeenUpdated =>
    ((resourcesHaveBeenCreated, resourcesHaveBeenUpdated, none), server)
  | desiredResource :: rest, resourcesHaveBeenCreated, resourcesHaveBeenUpdated =>
    match createOrUpdateResource server desiredResource with
    | ((_, _, some err), server) => ((resourcesHaveBeenCreated, resourcesHaveBeenUpdated, some (.api err)), server)
    | ((isNew, isChanged, none), server) =>
      if isNew then createOrUpdateAll server rest true resourcesHaveBeenUpdated
      else if isChanged then createOrUpdateAll server rest resourcesHaveBeenCreated true
      else createOrUpdateAll server rest resourcesHaveBeenCreated resourcesHaveBeenUpdated

/-- `CreateOrUpdateOpenTelemetryCollectorResources`: whether resources were created, whether
resources were updated, and the error. -/
def CreateOrUpdateOpenTelemetryCollectorResources (c : Collaborators) (config : OTelColConfig)
    (server : ApiServer) : (Bool × Bool × Option ManagerError) × ApiServer :=
  match assembleDesiredState c config with
  | (_, some err) => ((false, false, some (.assembly err)), server)
  | (desiredState, none) => createOrUpdateAll server desiredState false false

/-- The loop of `DeleteResources`: every object is deleted, the errors are collected. -/
def deleteAll (server : ApiServer) : List Object → List ApiError → List ApiError × ApiServer
  | [], allErrors => (allErrors, server)
  | object :: rest, allErrors =>
    match server.delete object with
    | (some err, server) => deleteAll server rest (allErrors ++ [err])
    | (none, server) => deleteAll server rest allErrors

def DeleteResources (c : Collaborators) (config : OTelColConfig) (server : ApiServer) :
    Option ManagerError × ApiServer :=
  match assembleDesiredState c config with
  | (_, some err) => (some (.assembly err), server)
  | (allObjects, none) =>
    match deleteAll server allObjects [] with
    | ([], server) => (none, server)
    | (allErrors, server) => (some (.joined allErrors), server)

/-! ## What the calls write -/

open ApiServer

/-- `server'` is `server` after calls that kept its defaults and its faults and stored, under every
key they changed, a value `allowed` there. -/
structure Writes (allowed : Key → Option Object → Prop) (server server' : ApiServer) : Prop where
  defaults : server'.defaults = server.defaults
  faults : server'.faults = server.faults
  stored : ∀ key, server'.stored key = server.stored key ∨ allowed key (server'.stored key)

namespace Writes

variable {allowed : Key → Option Object → Prop} {server server' server'' : ApiServer}

theorem refl (server : ApiServer) : Writes allowed server server := ⟨rfl, rfl, fun _ => .inl rfl⟩

theorem tick (server : ApiServer) : Writes allowed server server.tick := ⟨rfl, rfl, fun _ => .inl rfl⟩

theorem trans (first : Writes allowed server server') (second : Writes allowed server' server'') :
    Writes allowed server server'' := by
  refine ⟨second.defaults.trans first.defaults, second.faults.trans first.faults, fun key => ?_⟩
  rcases second.stored key with same | written
  · rw [same]; exact first.stored key
  · exact .inr written

theorem mono {allowed' : Key → Option Object → Prop} (writes : Writes allowed server server')
    (weaker : ∀ key value, allowed key value → allowed' key value) : Writes allowed' server server' :=
  ⟨writes.defaults, writes.faults, fun key => (writes.stored key).imp_right (weaker _ _)⟩

end Writes

theorem ApiServer.WriteOutcome.writes {server : ApiServer} {key : Key} {value : Option Object}
    {outcome : Option ApiError × ApiServer} (h : server.WriteOutcome key value outcome) :
    Writes (fun key' value' => key' = key ∧ value' = value) server outcome.2 := by
  obtain ⟨_ | _, server'⟩ := outcome <;> simp only [WriteOutcome] at h <;> subst h
  · refine ⟨rfl, rfl, fun key' => ?_⟩
    by_cases same : key' = key
    · subst same; simp
    · simp [same]
  · exact Writes.tick server

theorem ApiServer.WriteOutcome.stored_of_ok {server server' : ApiServer} {key : Key} {value : Option Object}
    (h : server.WriteOutcome key value (none, server')) : server'.stored key = value := by
  simp [WriteOutcome] at h; simp [h]

/-! ## Reconciling, for every behaviour of the server -/

/-- What `createOrUpdateResource` may write: the server's version of the object, under its key. -/
def WritesObject (defaults : Object → Object) (o : Object) (key : Key) (value : Option Object) : Prop :=
  key = o.key ∧ value = some (defaults o)

theorem updateResource_writes (server : ApiServer) (existingObject o : Object) :
    Writes (WritesObject server.defaults o) server (updateResource server existingObject o).2 ∧
      ((updateResource server existingObject o).1.2 = none →
        (updateResource server existingObject o).2.stored o.key = some (server.defaults o)) := by
  unfold updateResource
  have outcome := update_outcome server o
  generalize server.update o = updated at outcome
  obtain ⟨_ | err, server1⟩ := updated
  · dsimp only
    have got := get_server server1 o.key
    generalize server1.get o.key = call at got
    obtain ⟨answer, server2⟩ := call
    obtain rfl : server2 = server1.tick := got
    have writes := outcome.writes.trans (Writes.tick server1)
    cases answer
    · exact ⟨writes, by simp⟩
    · exact ⟨writes, fun _ => outcome.stored_of_ok⟩
  · exact ⟨outcome.writes, by simp⟩

theorem createOrUpdateResource_writes (server : ApiServer) (o : Object) :
    Writes (WritesObject server.defaults o) server (createOrUpdateResource server o).2 ∧
      ((createOrUpdateResource server o).1.2.2 = none →
        (createOrUpdateResource server o).2.stored o.key = some (server.defaults o)) := by
  unfold createOrUpdateResource
  have got := get_server server o.key
  generalize server.get o.key = call at got
  obtain ⟨answer, server1⟩ := call
  obtain rfl : server1 = server.tick := got
  cases answer with
  | error err =>
    dsimp only
    split
    · exact ⟨Writes.tick server, by simp⟩
    · have outcome := create_outcome server.tick o
      generalize server.tick.create o = created at outcome
      obtain ⟨_ | err', server2⟩ := created
      · exact ⟨(Writes.tick server).trans outcome.writes, fun _ => outcome.stored_of_ok⟩
      · exact ⟨(Writes.tick server).trans outcome.writes, by simp⟩
  | ok existingObject =>
    dsimp only
    obtain ⟨writes, stored⟩ := updateResource_writes server.tick existingObject o
    generalize updateResource server.tick existingObject o = updated at writes stored
    obtain ⟨⟨hasChanged, _ | err⟩, server2⟩ := updated
    · exact ⟨(Writes.tick server).trans writes, fun _ => stored rfl⟩
    · exact ⟨(Writes.tick server).trans writes, by simp⟩

/-- What a run over `objects` may write: the server's version of one of them, under its key. -/
def WritesDesired (defaults : Object → Object) (objects : List Object) (key : Key) (value : Option Object) :
    Prop :=
  ∃ o ∈ objects, WritesObject defaults o key value

theorem createOrUpdateAll_writes (objects : List Object) (server : ApiServer) (created updated : Bool) :
    Writes (WritesDesired server.defaults objects) server (createOrUpdateAll server objects created updated).2 := by
  induction objects generalizing server created updated with
  | nil => exact Writes.refl server
  | cons o rest ih =>
    have writes := (createOrUpdateResource_writes server o).1
    unfold createOrUpdateAll
    generalize createOrUpdateResource server o = call at writes
    obtain ⟨⟨isNew, isChanged, _ | err⟩, server1⟩ := call
    · have restRun : ∀ created updated,
          Writes (WritesDesired server.defaults (o :: rest)) server (createOrUpdateAll server1 rest created updated).2 :=
        fun created updated => (writes.mono fun _ _ written => ⟨o, List.mem_cons_self o rest, written⟩).trans
          ((writes.defaults ▸ ih server1 created updated).mono fun _ _ ⟨o', member, written⟩ =>
            ⟨o', List.mem_cons_of_mem o member, written⟩)
      dsimp only
      split_ifs <;> exact restRun _ _
    · exact writes.mono fun _ _ written => ⟨o, List.mem_cons_self o rest, written⟩

theorem Writes.stored_of_not_mem {defaults : Object → Object} {objects : List Object} {server server' : ApiServer}
    (writes : Writes (WritesDesired defaults objects) server server') {key : Key}
    (outside : key ∉ objects.map Object.key) : server'.stored key = server.stored key :=
  (writes.stored key).resolve_right fun ⟨_, member, sameKey, _⟩ => outside (sameKey ▸ List.mem_map_of_mem _ member)

theorem createOrUpdateAll_stores_on_success (objects : List Object) (nodup : (objects.map Object.key).Nodup)
    (server : ApiServer) (created updated : Bool)
    (noError : (createOrUpdateAll server objects created updated).1.2.2 = none) :
    ∀ o ∈ objects, (createOrUpdateAll server objects created updated).2.stored o.key = some (server.defaults o) := by
  induction objects generalizing server created updated with
  | nil => simp
  | cons o rest ih =>
    obtain ⟨fresh, nodupRest⟩ := List.nodup_cons.mp nodup
    obtain ⟨writes, stored⟩ := createOrUpdateResource_writes server o
    unfold createOrUpdateAll at noError ⊢
    generalize createOrUpdateResource server o = call at writes stored noError
    obtain ⟨⟨isNew, isChanged, _ | err⟩, server1⟩ := call
    · have restRun : ∀ created updated, (createOrUpdateAll server1 rest created updated).1.2.2 = none →
          ∀ o' ∈ o :: rest, (createOrUpdateAll server1 rest created updated).2.stored o'.key =
            some (server.defaults o') := by
        intro created updated restNoError o' member
        rcases List.mem_cons.mp member with rfl | later
        · rw [(createOrUpdateAll_writes rest server1 created updated).stored_of_not_mem fresh, stored rfl]
        · rw [ih nodupRest server1 created updated restNoError o' later, writes.defaults]
      dsimp only at noError ⊢
      split_ifs at noError ⊢ <;> exact restRun _ _ noError
    · simp at noError

/-- For every behaviour of the API server, a reconciliation keeps what the server does and stores
nothing but, under the key of a desired object, the server's version of it: it deletes nothing and
touches no other object. -/
theorem reconcile_writes_only_desired_objects (c : Collaborators) (config : OTelColConfig) (server : ApiServer) :
    let result := CreateOrUpdateOpenTelemetryCollectorResources c config server
    result.2.defaults = server.defaults ∧ result.2.faults = server.faults ∧
      ∀ key, result.2.stored key = server.stored key ∨
        ∃ o ∈ (assembleDesiredState c config).1, o.key = key ∧ result.2.stored key = some (server.defaults o) := by
  unfold CreateOrUpdateOpenTelemetryCollectorResources
  split
  · exact ⟨rfl, rfl, fun _ => .inl rfl⟩
  · next objects assembled =>
    have writes := createOrUpdateAll_writes objects server false false
    exact ⟨writes.defaults, writes.faults, fun key => (writes.stored key).imp_right
      fun ⟨o, member, sameKey, written⟩ => ⟨o, by rw [assembled]; exact member, sameKey.symm, written⟩⟩

/-- For every behaviour of the API server, a reconciliation that reports no error has stored every
desired object as the server defaults it. -/
theorem reconcile_success_means_converged {c : Collaborators} (contract : c.Contract) {config : OTelColConfig}
    {objects : List Object} (assembled : assembleDesiredState c config = (objects, none)) (server : ApiServer)
    (noError : (CreateOrUpdateOpenTelemetryCollectorResources c config server).1.2.2 = none) :
    ∀ o ∈ objects, (CreateOrUpdateOpenTelemetryCollectorResources c config server).2.stored o.key =
      some (server.defaults o) := by
  simp only [CreateOrUpdateOpenTelemetryCollectorResources, assembled] at noError ⊢
  exact createOrUpdateAll_stores_on_success objects (DesiredState.keys_nodup contract assembled) server false false
    noError

/-! ## Reconciling on a server whose calls go through -/

/-- `(isNew, isChanged)` for an object of the desired state and what the server holds under its key. -/
def changeOf (defaults : Object → Object) (desiredObject : Object) : Option Object → Bool × Bool
  | none => (true, false)
  | some existingObject => (false, decide (existingObject ≠ defaults desiredObject))

theorem createOrUpdateResource_of_reliable {server : ApiServer} (reliable : server.Reliable) (o : Object) :
    (createOrUpdateResource server o).1 =
      ((changeOf server.defaults o (server.stored o.key)).1, (changeOf server.defaults o (server.stored o.key)).2,
        none) := by
  cases present : server.stored o.key <;>
    simp [createOrUpdateResource, updateResource, ApiServer.get, ApiServer.create, ApiServer.update, reliable _,
      present, changeOf, ApiError.isNotFound]

theorem any_congr_of_mem {α : Type} {l : List α} {f g : α → Bool} (same : ∀ x ∈ l, f x = g x) :
    l.any f = l.any g := by
  induction l with
  | nil => rfl
  | cons x l ih => simp only [List.any_cons, same x (List.mem_cons_self _ _),
      ih fun y member => same y (List.mem_cons_of_mem _ member)]

theorem createOrUpdateAll_of_reliable (objects : List Object) (nodup : (objects.map Object.key).Nodup)
    {server : ApiServer} (reliable : server.Reliable) (created updated : Bool) :
    (createOrUpdateAll server objects created updated).1 =
      (created || objects.any (fun o => (changeOf server.defaults o (server.stored o.key)).1),
        updated || objects.any (fun o => (changeOf server.defaults o (server.stored o.key)).2), none) := by
  induction objects generalizing server created updated with
  | nil => simp [createOrUpdateAll]
  | cons o rest ih =>
    obtain ⟨fresh, nodupRest⟩ := List.nodup_cons.mp nodup
    have flags := createOrUpdateResource_of_reliable reliable o
    have writes := (createOrUpdateResource_writes server o).1.mono
      fun key value written => (⟨o, List.mem_singleton_self o, written⟩ : WritesDesired _ [o] key value)
    generalize server1_def : (createOrUpdateResource server o).2 = server1 at writes
    have call : createOrUpdateResource server o = (_, server1) := Prod.ext flags server1_def
    have reliable1 : server1.Reliable := fun n => by rw [writes.faults]; exact reliable n
    have sameChange : ∀ o' ∈ rest, changeOf server1.defaults o' (server1.stored o'.key) =
        changeOf server.defaults o' (server.stored o'.key) := fun o' member => by
      rw [writes.defaults, writes.stored_of_not_mem fun inside => fresh (by simp_all)]
    have step : createOrUpdateAll server (o :: rest) created updated =
        createOrUpdateAll server1 rest (created || (changeOf server.defaults o (server.stored o.key)).1)
          (updated || (changeOf server.defaults o (server.stored o.key)).2) := by
      rw [createOrUpdateAll, call]
      rcases server.stored o.key with _ | existing
      · simp [changeOf]
      · by_cases differs : existing = server.defaults o <;> simp [changeOf, differs]
    rw [step, ih nodupRest reliable1, any_congr_of_mem fun o' member => congrArg Prod.fst (sameChange o' member),
      any_congr_of_mem fun o' member => congrArg Prod.snd (sameChange o' member)]
    simp [Bool.or_assoc]

theorem any_changeOf_new (defaults : Object → Object) (stored : Key → Option Object) (objects : List Object) :
    objects.any (fun o => (changeOf defaults o (stored o.key)).1) = true ↔ ∃ o ∈ objects, stored o.key = none := by
  simp only [List.any_eq_true]
  refine exists_congr fun o => and_congr_right fun _ => ?_
  cases stored o.key <;> simp [changeOf]

theorem any_changeOf_changed (defaults : Object → Object) (stored : Key → Option Object) (objects : List Object) :
    objects.any (fun o => (changeOf defaults o (stored o.key)).2) = true ↔
      ∃ o ∈ objects, ∃ existing, stored o.key = some existing ∧ existing ≠ defaults o := by
  simp only [List.any_eq_true]
  refine exists_congr fun o => and_congr_right fun _ => ?_
  cases stored o.key <;> simp [changeOf]

theorem reconcile_of_reliable {c : Collaborators} (contract : c.Contract) {config : OTelColConfig}
    {objects : List Object} (assembled : assembleDesiredState c config = (objects, none))
    {server : ApiServer} (reliable : server.Reliable) :
    let result := CreateOrUpdateOpenTelemetryCollectorResources c config server
    result.1 = (objects.any (fun o => (changeOf server.defaults o (server.stored o.key)).1),
        objects.any (fun o => (changeOf server.defaults o (server.stored o.key)).2), none) ∧
      (∀ o ∈ objects, result.2.stored o.key = some (server.defaults o)) ∧
      Writes (WritesDesired server.defaults objects) server result.2 := by
  have nodup := DesiredState.keys_nodup contract assembled
  have flags := createOrUpdateAll_of_reliable objects nodup reliable false false
  simp only [CreateOrUpdateOpenTelemetryCollectorResources, assembled]
  exact ⟨flags, createOrUpdateAll_stores_on_success objects nodup server false false (by rw [flags]),
    createOrUpdateAll_writes objects server false false⟩

/-- On a server whose calls go through, a reconciliation reports no error, reports resources as
created exactly when a desired object was missing and as updated exactly when one was stored other
than the server's version of it, and leaves every desired object stored that way and every other
object as it was. -/
theorem createOrUpdate_converges {c : Collaborators} (contract : c.Contract) {config : OTelColConfig}
    {objects : List Object} (assembled : assembleDesiredState c config = (objects, none))
    {server : ApiServer} (reliable : server.Reliable) :
    let result := CreateOrUpdateOpenTelemetryCollectorResources c config server
    result.1.2.2 = none ∧
      (result.1.1 = true ↔ ∃ o ∈ objects, server.stored o.key = none) ∧
      (result.1.2.1 = true ↔
        ∃ o ∈ objects, ∃ existing, server.stored o.key = some existing ∧ existing ≠ server.defaults o) ∧
      (∀ o ∈ objects, result.2.stored o.key = some (server.defaults o)) ∧
      (∀ key ∉ objects.map Object.key, result.2.stored key = server.stored key) := by
  obtain ⟨flags, desired, writes⟩ := reconcile_of_reliable contract assembled reliable
  dsimp only
  rw [flags]
  exact ⟨rfl, by simpa using any_changeOf_new server.defaults server.stored objects,
    by simpa using any_changeOf_changed server.defaults server.stored objects, desired,
    fun _ outside => writes.stored_of_not_mem outside⟩

/-- A second reconciliation right after one that went through reports nothing created and nothing
updated, and leaves every stored object as it is. -/
theorem createOrUpdate_is_idempotent {c : Collaborators} (contract : c.Contract) {config : OTelColConfig}
    {objects : List Object} (assembled : assembleDesiredState c config = (objects, none))
    {server : ApiServer} (reliable : server.Reliable) :
    let first := CreateOrUpdateOpenTelemetryCollectorResources c config server
    let second := CreateOrUpdateOpenTelemetryCollectorResources c config first.2
    second.1 = (false, false, none) ∧ second.2.stored = first.2.stored := by
  obtain ⟨-, desired, writes⟩ := reconcile_of_reliable contract assembled reliable
  dsimp only
  generalize (CreateOrUpdateOpenTelemetryCollectorResources c config server).2 = first at desired writes ⊢
  have reliable' : first.Reliable := fun n => by rw [writes.faults]; exact reliable n
  obtain ⟨flags, -, writes'⟩ := reconcile_of_reliable contract assembled reliable'
  have unchanged : ∀ o ∈ objects, changeOf first.defaults o (first.stored o.key) = (false, false) :=
    fun o member => by simp [desired o member, writes.defaults, changeOf]
  refine ⟨?_, funext fun key => ?_⟩
  · rw [flags]
    simp only [Prod.mk.injEq, List.any_eq_false, and_true]
    exact ⟨fun o member => by simp [unchanged o member], fun o member => by simp [unchanged o member]⟩
  · rcases writes'.stored key with same | ⟨o, member, rfl, written⟩
    · exact same
    · rw [written, desired o member, writes.defaults]

/-! ## Deleting -/

/-- What `DeleteResources` may write: nothing, under the key of a desired object. -/
def DeletesDesired (objects : List Object) (key : Key) (value : Option Object) : Prop :=
  key ∈ objects.map Object.key ∧ value = none

theorem deleteAll_writes (objects : List Object) (server : ApiServer) (allErrors : List ApiError) :
    Writes (DeletesDesired objects) server (deleteAll server objects allErrors).2 := by
  induction objects generalizing server allErrors with
  | nil => exact Writes.refl server
  | cons o rest ih =>
    have writes := (delete_outcome server o).writes.mono fun key value (written : key = o.key ∧ value = none) =>
      (⟨written.1 ▸ List.mem_map_of_mem Object.key (List.mem_cons_self o rest), written.2⟩ :
        DeletesDesired (o :: rest) key value)
    unfold deleteAll
    generalize server.delete o = call at writes
    obtain ⟨_ | err, server1⟩ := call <;>
      exact writes.trans ((ih server1 _).mono fun _ _ ⟨inside, deleted⟩ =>
        ⟨List.map_subset _ (List.subset_cons_self o rest) inside, deleted⟩)

theorem deleteAll_errors_prefix (objects : List Object) (server : ApiServer) (allErrors : List ApiError) :
    allErrors <+: (deleteAll server objects allErrors).1 := by
  induction objects generalizing server allErrors with
  | nil => exact List.prefix_refl allErrors
  | cons o rest ih =>
    unfold deleteAll
    obtain ⟨_ | err, server1⟩ := server.delete o
    · exact ih server1 allErrors
    · exact (List.prefix_append allErrors [err]).trans (ih server1 _)

theorem deleteAll_removes_on_success (objects : List Object) (server : ApiServer)
    (noError : (deleteAll server objects []).1 = []) :
    ∀ o ∈ objects, (deleteAll server objects []).2.stored o.key = none := by
  induction objects generalizing server with
  | nil => simp
  | cons o rest ih =>
    have outcome := delete_outcome server o
    unfold deleteAll at noError ⊢
    generalize server.delete o = call at outcome noError
    obtain ⟨_ | err, server1⟩ := call
    · intro o' member
      rcases List.mem_cons.mp member with rfl | later
      · rcases (deleteAll_writes rest server1 []).stored o'.key with same | ⟨-, deleted⟩
        · rw [same, outcome.stored_of_ok]
        · exact deleted
      · exact ih server1 noError o' later
    · obtain ⟨more, errors⟩ := deleteAll_errors_prefix rest server1 [err]
      simp only [List.nil_append] at noError
      simp [noError] at errors

theorem deleteAll_of_reliable (objects : List Object) (nodup : (objects.map Object.key).Nodup)
    {server : ApiServer} (reliable : server.Reliable) (allErrors : List ApiError) :
    (deleteAll server objects allErrors).1 =
      allErrors ++ (objects.filter fun o => (server.stored o.key).isNone).map fun _ => ApiError.notFound := by
  induction objects generalizing server allErrors with
  | nil => simp [deleteAll]
  | cons o rest ih =>
    obtain ⟨fresh, nodupRest⟩ := List.nodup_cons.mp nodup
    cases present : server.stored o.key with
    | none =>
      have call : server.delete o = (some .notFound, server.tick) := by
        simp [ApiServer.delete, reliable _, present]
      rw [deleteAll, call]
      simp [ih nodupRest (show server.tick.Reliable from reliable), present]
    | some existing =>
      have call : server.delete o = (none, server.tick.store o.key none) := by
        simp [ApiServer.delete, reliable _, present]
      have restKeys : ∀ o' ∈ rest, (server.tick.store o.key none).stored o'.key = server.stored o'.key :=
        fun o' member => Function.update_noteq (fun (same : o'.key = o.key) => fresh (same ▸ List.mem_map_of_mem _ member)) _ _
      rw [deleteAll, call]
      simp only [ih nodupRest (show (server.tick.store o.key none).Reliable from reliable), List.filter_cons, present,
        Option.isNone_some, List.filter_congr fun o' member => congrArg Option.isNone (restKeys o' member)]
      rfl

theorem deleteAll_removes_of_reliable (objects : List Object) {server : ApiServer} (reliable : server.Reliable)
    (allErrors : List ApiError) : ∀ o ∈ objects, (deleteAll server objects allErrors).2.stored o.key = none := by
  induction objects generalizing server allErrors with
  | nil => simp
  | cons o rest ih =>
    have outcome := delete_outcome server o
    have removed : (server.delete o).2.stored o.key = none := by
      cases present : server.stored o.key <;> simp [ApiServer.delete, reliable _, present]
    unfold deleteAll
    generalize server.delete o = call at outcome removed
    obtain ⟨_ | err, server1⟩ := call <;>
    · have reliable1 : server1.Reliable := fun n => by rw [outcome.writes.faults]; exact reliable n
      intro o' member
      rcases List.mem_cons.mp member with rfl | later
      · rcases (deleteAll_writes rest server1 _).stored o'.key with same | ⟨-, deleted⟩
        · exact same.trans removed
        · exact deleted
      · exact ih reliable1 _ o' later

theorem DeleteResources_of_assembled {c : Collaborators} {config : OTelColConfig} {objects : List Object}
    (assembled : assembleDesiredState c config = (objects, none)) (server : ApiServer) :
    DeleteResources c config server =
      (if (deleteAll server objects []).1 = [] then none else some (.joined (deleteAll server objects []).1),
        (deleteAll server objects []).2) := by
  simp only [DeleteResources, assembled]
  split <;> simp_all

/-- For every behaviour of the API server, `DeleteResources` keeps what the server does and removes
nothing but desired objects, and when it reports no error none of them is left. -/
theorem delete_removes_only_desired_objects (c : Collaborators) (config : OTelColConfig) (server : ApiServer) :
    let result := DeleteResources c config server
    result.2.defaults = server.defaults ∧ result.2.faults = server.faults ∧
      (∀ key, result.2.stored key = server.stored key ∨
        key ∈ (assembleDesiredState c config).1.map Object.key ∧ result.2.stored key = none) ∧
      (result.1 = none → ∀ o ∈ (assembleDesiredState c config).1, result.2.stored o.key = none) := by
  rcases assembled : assembleDesiredState c config with ⟨objects, _ | err⟩
  · have writes := deleteAll_writes objects server []
    rw [DeleteResources_of_assembled assembled]
    refine ⟨writes.defaults, writes.faults, writes.stored, fun noError => ?_⟩
    split_ifs at noError with errors
    exact deleteAll_removes_on_success objects server errors
  · simp [DeleteResources, assembled]

/-- On a server whose calls go through, `DeleteResources` removes exactly the desired objects and
reports one `NotFound` for each of them that was already gone, so that a second `DeleteResources`
reports one for every desired object. -/
theorem delete_reports_every_missing_object {c : Collaborators} (contract : c.Contract) {config : OTelColConfig}
    {objects : List Object} (assembled : assembleDesiredState c config = (objects, none))
    {server : ApiServer} (reliable : server.Reliable) :
    let result := DeleteResources c config server
    (∀ key, result.2.stored key = if key ∈ objects.map Object.key then none else server.stored key) ∧
      result.1 = (if (objects.filter fun o => (server.stored o.key).isNone) = [] then none
        else some (.joined ((objects.filter fun o => (server.stored o.key).isNone).map fun _ => .notFound))) ∧
      (DeleteResources c config result.2).1 = some (.joined (objects.map fun _ => .notFound)) := by
  have nodup := DesiredState.keys_nodup contract assembled
  have writes := deleteAll_writes objects server []
  have removed := deleteAll_removes_of_reliable objects reliable []
  have stored : ∀ key, (deleteAll server objects []).2.stored key =
      if key ∈ objects.map Object.key then none else server.stored key := fun key => by
    split_ifs with inside
    · obtain ⟨o, member, rfl⟩ := List.mem_map.mp inside
      exact removed o member
    · exact (writes.stored key).resolve_right fun written => inside written.1
  have reliable' : (deleteAll server objects []).2.Reliable := fun n => by rw [writes.faults]; exact reliable n
  obtain ⟨_, _, _, _, -, -, -, -, listed⟩ := assembleDesiredState_eq_ok assembled
  simp only [DeleteResources_of_assembled assembled, deleteAll_of_reliable objects nodup reliable,
    deleteAll_of_reliable objects nodup reliable', List.nil_append, List.map_eq_nil_iff]
  refine ⟨stored, trivial, ?_⟩
  rw [List.filter_eq_self.mpr fun o member => by simp [removed o member]]
  simp [listed]

/-! ## The sample configuration against an empty server -/

def emptyServer : ApiServer := ⟨fun _ => none, id, fun _ => rfl, fun _ => none, 0⟩

def sampleObjects : List Object := (assembleDesiredState sampleCollaborators sampleConfig).1

def reconciledServer : ApiServer :=
  (CreateOrUpdateOpenTelemetryCollectorResources sampleCollaborators sampleConfig emptyServer).2

theorem sample_reconcile_converged :
    reconciledServer.stored (Object.configMap (assembleFilelogOffsetsConfigMap sampleConfig)).key =
      some (.configMap (assembleFilelogOffsetsConfigMap sampleConfig)) :=
  reconcile_success_means_converged sampleCollaborators_contract
    (show assembleDesiredState sampleCollaborators sampleConfig = (sampleObjects, none) from rfl) emptyServer
    (by decide) _ (by decide)

theorem sample_reconcile_creates_everything :
    let result := CreateOrUpdateOpenTelemetryCollectorResources sampleCollaborators sampleConfig emptyServer
    result.1.2.2 = none ∧
      (result.1.1 = true ↔ ∃ o ∈ sampleObjects, emptyServer.stored o.key = none) ∧
      (result.1.2.1 = true ↔
        ∃ o ∈ sampleObjects, ∃ existing, emptyServer.stored o.key = some existing ∧ existing ≠ emptyServer.defaults o) ∧
      (∀ o ∈ sampleObjects, result.2.stored o.key = some (emptyServer.defaults o)) ∧
      (∀ key ∉ sampleObjects.map Object.key, result.2.stored key = emptyServer.stored key) :=
  createOrUpdate_converges sampleCollaborators_contract
    (show assembleDesiredState sampleCollaborators sampleConfig = (sampleObjects, none) from rfl)
    (show emptyServer.Reliable from fun _ => rfl)

theorem sample_reconcile_twice :
    (CreateOrUpdateOpenTelemetryCollectorResources sampleCollaborators sampleConfig reconciledServer).1 =
        (false, false, none) ∧
      (CreateOrUpdateOpenTelemetryCollectorResources sampleCollaborators sampleConfig reconciledServer).2.stored =
        reconciledServer.stored :=
  createOrUpdate_is_idempotent sampleCollaborators_contract
    (show assembleDesiredState sampleCollaborators sampleConfig = (sampleObjects, none) from rfl)
    (show emptyServer.Reliable from fun _ => rfl)

theorem sample_delete_removes_offsets_config_map :
    (DeleteResources sampleCollaborators sampleConfig reconciledServer).2.stored
      (Object.configMap (assembleFilelogOffsetsConfigMap sampleConfig)).key = none :=
  (delete_removes_only_desired_objects sampleCollaborators sampleConfig reconciledServer).2.2.2 (by decide) _
    (by decide)

theorem sample_delete_on_empty_server :
    let result := DeleteResources sampleCollaborators sampleConfig emptyServer
    (∀ key, result.2.stored key = if key ∈ sampleObjects.map Object.key then none else emptyServer.stored key) ∧
      result.1 = (if (sampleObjects.filter fun o => (emptyServer.stored o.key).isNone) = [] then none
        else some (.joined ((sampleObjects.filter fun o => (emptyServer.stored o.key).isNone).map
          fun _ => .notFound))) ∧
      (DeleteResources sampleCollaborators sampleConfig result.2).1 =
        some (.joined (sampleObjects.map fun _ => .notFound)) :=
  delete_reports_every_missing_object sampleCollaborators_contract
    (show assembleDesiredState sampleCollaborators sampleConfig = (sampleObjects, none) from rfl)
    (show emptyServer.Reliable from fun _ => rfl)

end Dash0Operator.CollectorResources
