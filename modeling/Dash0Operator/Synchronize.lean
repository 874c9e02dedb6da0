import Dash0Operator.Http

/-! The synchronization engine of `third_party_crd_common.go`: `validatePreconditions`,
`synchronizeViaApi` and the status `writeSynchronizationResult` records. The collaborators of a
third-party kind (`IsSynchronizationEnabled`, `MapResourceToHttpRequests`) enter as functions, and
the lookup of the monitoring resource as its result. -/

namespace Dash0Operator.Synchronize

open Http

inductive SynchronizationStatus where
  | successful
  | partiallySuccessful
  | failed
  deriving DecidableEq, Repr

inductive ApiAction where
  | upsert
  | delete
  deriving DecidableEq, Repr

/-- The namespace and name of the third-party resource, the only parts of it the engine reads. -/
structure ThirdPartyResource where
  k8sNamespace : String
  k8sName : String
  deriving DecidableEq, Repr

structure PreconditionValidationResult (M : Type) where
  synchronizeResource : Bool
  monitoringResource : Option M := none
  authToken : String := ""
  apiEndpoint : String := ""
  dataset : String := ""
  k8sNamespace : String := ""
  k8sName : String := ""

/-- What `MapResourceToHttpRequests` returns. -/
structure MappingResult where
  itemsTotal : Int
  httpRequests : List HttpRequestWithItemName
  validationIssues : GoMap (List String)
  synchronizationErrors : GoMap String

/-- The parts of a `ThirdPartyResourceReconciler` the engine calls, with the state they read. -/
structure ResourceReconciler (M : Type) where
  shortName : String
  authToken : String
  apiConfig : Option ApiConfig
  isSynchronizationEnabled : M → Bool
  mapResourceToHttpRequests : PreconditionValidationResult M → ApiAction → MappingResult

/-- The arguments `synchronizeViaApi` hands to `writeSynchronizationResult`. -/
structure SynchronizationResult (M : Type) where
  monitoringResource : Option M
  itemsTotal : Int
  succesfullySynchronized : List String
  validationIssuesPerItem : GoMap (List String)
  synchronizationErrorsPerItem : GoMap String

variable {M : Type}

/-- `lookup` is the result of `util.FindUniqueOrMostRecentResourceInScope`; `datasetDefault` is
`util.DatasetDefault`, which this model takes as given. -/
def validatePreconditions (r : ResourceReconciler M) (lookup : Except String (Option M))
    (datasetDefault : String) (thirdPartyResource : ThirdPartyResource) :
    PreconditionValidationResult M :=
  match lookup with
  | .error _ => { synchronizeResource := false }
  | .ok none => { synchronizeResource := false }
  | .ok (some monitoringResource) =>
    if !r.isSynchronizationEnabled monitoringResource then { synchronizeResource := false }
    else if !isValidApiConfig r.apiConfig then { synchronizeResource := false }
    else if r.authToken = "" then { synchronizeResource := false }
    else match r.apiConfig with
      | none => { synchronizeResource := false }
      | some apiConfig =>
        { synchronizeResource := true
          monitoringResource := some monitoringResource
          authToken := r.authToken
          apiEndpoint := apiConfig.endpoint
          dataset := if apiConfig.dataset = "" then datasetDefault else apiConfig.dataset
          k8sNamespace := thirdPartyResource.k8sNamespace
          k8sName := thirdPartyResource.k8sName }

/-- The HTTP stage of `synchronizeViaApi`: the requests run only when there is one. -/
def executeMapped (shortName : String) (httpRequests : List HttpRequestWithItemName)
    (client : HttpClient) : (List String × GoMap String) × HttpClient :=
  if httpRequests.length > 0 then executeAllHttpRequests shortName httpRequests client
  else (([], .empty), client)

/-- The merge of `maps.Copy(synchronizationErrors, httpErrors)`, done only when there are HTTP
errors. -/
def mergeErrors (synchronizationErrors httpErrors : GoMap String) : GoMap String :=
  if httpErrors.len > 0 then synchronizationErrors.copy httpErrors else synchronizationErrors

/-- `synchronizeViaApi`: `none` when it returns before `writeSynchronizationResult`. When the mapping
yields no request, no validation issue and no error, the source only logs that it is skipping. -/
def synchronizeViaApi (r : ResourceReconciler M) (lookup : Except String (Option M))
    (datasetDefault : String) (thirdPartyResource : ThirdPartyResource) (action : ApiAction)
    (client : HttpClient) : Option (SynchronizationResult M) × HttpClient :=
  let preconditionChecksResult := validatePreconditions r lookup datasetDefault thirdPartyResource
  if !preconditionChecksResult.synchronizeResource then (none, client)
  else
    let mapping := r.mapResourceToHttpRequests preconditionChecksResult action
    let ((successfullySynchronized, httpErrors), client) :=
      executeMapped r.shortName mapping.httpRequests client
    (some
      { monitoringResource := preconditionChecksResult.monitoringResource
        itemsTotal := mapping.itemsTotal
        succesfullySynchronized := successfullySynchronized
        validationIssuesPerItem := mapping.validationIssues
        synchronizationErrorsPerItem := mergeErrors mapping.synchronizationErrors httpErrors },
      client)

/-- The status classification at the start of `writeSynchronizationResult`. -/
def synchronizationStatus (succesfullySynchronized : List String)
    (validationIssuesPerItem : GoMap (List String)) (synchronizationErrorsPerItem : GoMap String) :
    SynchronizationStatus :=
  if succesfullySynchronized.length > 0 ∧ validationIssuesPerItem.len = 0 ∧
      synchronizationErrorsPerItem.len = 0 then .successful
  else if succesfullySynchronized.length > 0 then .partiallySuccessful
  else .failed

/-- The contract `synchronizeViaApi` relies on: the requests' item names are distinct, and none of
them has a validation issue or a synchronization error from the mapping. -/
structure MappingContract (mapping : MappingResult) : Prop where
  distinct : (mapping.httpRequests.map (·.itemName)).Nodup
  noIssue : ∀ req ∈ mapping.httpRequests, req.itemName ∉ mapping.validationIssues.keys
  noError : ∀ req ∈ mapping.httpRequests, req.itemName ∉ mapping.synchronizationErrors.keys

theorem executeMapped_spec (shortName : String) (reqs : List HttpRequestWithItemName)
    (client : HttpClient) :
    (executeMapped shortName reqs client).1.1 = successes (outcomes shortName reqs client) ∧
      ((reqs.map (·.itemName)).Nodup → ∀ entry,
        entry ∈ (executeMapped shortName reqs client).1.2.entries ↔
          entry ∈ failures (outcomes shortName reqs client)) := by
  unfold executeMapped
  split_ifs with nonempty
  · exact executeAllHttpRequests_spec shortName reqs client
  · obtain rfl : reqs = [] := List.eq_nil_of_length_eq_zero (by omega)
    simp [outcomes, requestResults, successes, failures, GoMap.empty]

theorem mem_mergeErrors (synchronizationErrors httpErrors : GoMap String) (entry : String × String) :
    entry ∈ (mergeErrors synchronizationErrors httpErrors).entries ↔
      entry ∈ httpErrors.entries ∨ (entry ∈ synchronizationErrors.entries ∧ entry.1 ∉ httpErrors.keys) := by
  unfold mergeErrors
  split_ifs with nonempty
  · exact GoMap.mem_copy _ _ _
  · have none : httpErrors.entries = [] := List.eq_nil_of_length_eq_zero (by simpa [GoMap.len] using nonempty)
    simp [GoMap.keys, none]

theorem synchronizeViaApi_proceeds (r : ResourceReconciler M) (lookup : Except String (Option M))
    (datasetDefault : String) (thirdPartyResource : ThirdPartyResource) (action : ApiAction)
    (client : HttpClient)
    (proceed : (validatePreconditions r lookup datasetDefault thirdPartyResource).synchronizeResource) :
    let preconditions := validatePreconditions r lookup datasetDefault thirdPartyResource
    let mapping := r.mapResourceToHttpRequests preconditions action
    let executed := executeMapped r.shortName mapping.httpRequests client
    synchronizeViaApi r lookup datasetDefault thirdPartyResource action client =
      (some
        { monitoringResource := preconditions.monitoringResource
          itemsTotal := mapping.itemsTotal
          succesfullySynchronized := executed.1.1
          validationIssuesPerItem := mapping.validationIssues
          synchronizationErrorsPerItem := mergeErrors mapping.synchronizationErrors executed.1.2 },
        executed.2) := by
  simp [synchronizeViaApi, proceed]

theorem mem_keys_of_entries {m : GoMap String} {entries : List (String × String)}
    (same : ∀ entry, entry ∈ m.entries ↔ entry ∈ entries) (key : String) :
    key ∈ m.keys ↔ key ∈ entries.map Prod.fst := by
  simp only [GoMap.mem_keys, same, List.mem_map]
  exact ⟨fun ⟨value, mem⟩ => ⟨_, mem, rfl⟩, fun ⟨⟨_, value⟩, mem, same⟩ => ⟨value, same ▸ mem⟩⟩

theorem successes_subset {outcomes : List (HttpRequestWithItemName × Option RetryableError)}
    {name : String} (succeeded : name ∈ successes outcomes) :
    name ∈ (outcomes.map Prod.fst).map (·.itemName) := by
  obtain ⟨req, mem, rfl⟩ := mem_successes.mp succeeded
  exact List.mem_map_of_mem _ (List.mem_map_of_mem Prod.fst mem)

section Contract

variable {shortName : String} {mapping : MappingResult} {client : HttpClient}

theorem mem_requests_of_success {name : String}
    (succeeded : name ∈ successes (outcomes shortName mapping.httpRequests client)) :
    ∃ req ∈ mapping.httpRequests, req.itemName = name := by
  simpa [outcomes_requests] using successes_subset succeeded

theorem mem_requests_of_failure {key : String}
    (failed : key ∈ (failures (outcomes shortName mapping.httpRequests client)).map Prod.fst) :
    ∃ req ∈ mapping.httpRequests, req.itemName = key := by
  simpa using failures_keys_subset _ _ failed

theorem merged_errors (contract : MappingContract mapping) (entry : String × String) :
    entry ∈ (mergeErrors mapping.synchronizationErrors
        (executeMapped shortName mapping.httpRequests client).1.2).entries ↔
      entry ∈ mapping.synchronizationErrors.entries ∨
        entry ∈ failures (outcomes shortName mapping.httpRequests client) := by
  have executed := (executeMapped_spec shortName mapping.httpRequests client).2 contract.distinct
  rw [mem_mergeErrors, executed, mem_keys_of_entries executed, or_comm]
  refine or_congr_left ⟨fun ⟨mem, _⟩ => mem, fun mem => ⟨mem, fun failed => ?_⟩⟩
  obtain ⟨req, present, same⟩ := mem_requests_of_failure failed
  exact contract.noError req present (same ▸ (GoMap.mem_keys _ _).mpr ⟨_, mem⟩)

end Contract

/-- For every mapping that keeps the contract and reports no item both as a validation issue and as
a synchronization error, and every answer of the Dash0 API: `executeAllHttpRequests` returns the
succeeded items in order and the failed ones with their messages; the errors written are the
mapping's and the HTTP ones, none overwritten; and the succeeded items, the items with validation
issues and the items with errors are pairwise apart and cover every request and every key the
mapping reported. -/
theorem synchronizeViaApi_partitions_items (r : ResourceReconciler M)
    (lookup : Except String (Option M)) (datasetDefault : String)
    (thirdPartyResource : ThirdPartyResource) (action : ApiAction) (client : HttpClient)
    (mapping : MappingResult)
    (proceed : (validatePreconditions r lookup datasetDefault thirdPartyResource).synchronizeResource)
    (mapped : r.mapResourceToHttpRequests (validatePreconditions r lookup datasetDefault thirdPartyResource)
      action = mapping)
    (contract : MappingContract mapping)
    (apart : ∀ key ∈ mapping.validationIssues.keys, key ∉ mapping.synchronizationErrors.keys) :
    (executeAllHttpRequests r.shortName mapping.httpRequests client).1.1 =
        successes (outcomes r.shortName mapping.httpRequests client) ∧
      (∀ entry, entry ∈ (executeAllHttpRequests r.shortName mapping.httpRequests client).1.2.entries ↔
        entry ∈ failures (outcomes r.shortName mapping.httpRequests client)) ∧
      ∃ result client', synchronizeViaApi r lookup datasetDefault thirdPartyResource action client =
          (some result, client') ∧
        result.succesfullySynchronized = successes (outcomes r.shortName mapping.httpRequests client) ∧
        (∀ entry, entry ∈ result.synchronizationErrorsPerItem.entries ↔
          entry ∈ mapping.synchronizationErrors.entries ∨
            entry ∈ failures (outcomes r.shortName mapping.httpRequests client)) ∧
        (∀ name ∈ result.succesfullySynchronized,
          name ∉ result.validationIssuesPerItem.keys ∧ name ∉ result.synchronizationErrorsPerItem.keys) ∧
        (∀ key ∈ result.validationIssuesPerItem.keys, key ∉ result.synchronizationErrorsPerItem.keys) ∧
        (∀ req ∈ mapping.httpRequests, req.itemName ∈ result.succesfullySynchronized ∨
          req.itemName ∈ result.synchronizationErrorsPerItem.keys) ∧
        (∀ key ∈ mapping.validationIssues.keys ++ mapping.synchronizationErrors.keys,
          key ∈ result.validationIssuesPerItem.keys ∨ key ∈ result.synchronizationErrorsPerItem.keys) := by
  have synchronized := synchronizeViaApi_proceeds r lookup datasetDefault thirdPartyResource action
    client proceed
  simp only [mapped] at synchronized
  obtain ⟨succeeded, -⟩ := executeMapped_spec r.shortName mapping.httpRequests client
  have merged := @merged_errors r.shortName mapping client contract
  have errorKeys := mem_keys_of_entries fun entry => (merged entry).trans List.mem_append.symm
  simp only [List.map_append, List.mem_append] at errorKeys
  refine ⟨(executeAllHttpRequests_spec _ _ _).1, (executeAllHttpRequests_spec _ _ _).2 contract.distinct,
    _, _, synchronized, succeeded, merged, ?_, ?_, ?_, ?_⟩
  · intro name mem
    rw [succeeded] at mem
    obtain ⟨req, present, rfl⟩ := mem_requests_of_success mem
    refine ⟨contract.noIssue req present, fun inErrors => ?_⟩
    rcases (errorKeys _).mp inErrors with fromMapping | failed
    · exact contract.noError req present (by simpa [GoMap.keys] using fromMapping)
    · exact successes_not_failed _ _ _ contract.distinct mem failed
  · intro key issue inErrors
    rcases (errorKeys _).mp inErrors with fromMapping | failed
    · exact apart key issue (by simpa [GoMap.keys] using fromMapping)
    · obtain ⟨req, present, rfl⟩ := mem_requests_of_failure failed
      exact contract.noIssue req present issue
  · intro req present
    rcases successes_or_failed r.shortName mapping.httpRequests client present with ok | failed
    · exact .inl (succeeded ▸ ok)
    · exact .inr ((errorKeys _).mpr (.inr failed))
  · intro key reported
    rcases List.mem_append.mp reported with issue | fromMapping
    · exact .inl issue
    · exact .inr ((errorKeys _).mpr (.inl (by simpa [GoMap.keys] using fromMapping)))

/-- A kind whose mapping returns `mapping` for every resource, with a valid API config and token. -/
def constantReconciler (mapping : MappingResult) : ResourceReconciler Unit where
  shortName := "dashboard"
  authToken := "auth-token"
  apiConfig := some ⟨"https://api.dash0.com", ""⟩
  isSynchronizationEnabled := fun _ => true
  mapResourceToHttpRequests := fun _ _ => mapping

def acceptingClient : HttpClient := ⟨fun _ => .response 200 (some ""), 0⟩

def sampleMapping : MappingResult :=
  ⟨3, [⟨"a", "https://api.dash0.com/api/dashboards/a"⟩], ⟨[("b", ["no display name"])], by decide⟩,
    ⟨[("c", "cannot convert")], by decide⟩⟩

theorem synchronizeViaApi_partitions_sample :
    let r := constantReconciler sampleMapping
    let lookup : Except String (Option Unit) := .ok (some ())
    let resource : ThirdPartyResource := ⟨"ns", "dashboards"⟩
    let outs := outcomes r.shortName sampleMapping.httpRequests acceptingClient
    (validatePreconditions r lookup "default" resource).synchronizeResource ∧
      MappingContract sampleMapping ∧
      (∀ key ∈ sampleMapping.validationIssues.keys, key ∉ sampleMapping.synchronizationErrors.keys) ∧
      (executeAllHttpRequests r.shortName sampleMapping.httpRequests acceptingClient).1.1 = successes outs ∧
      (∀ entry, entry ∈ (executeAllHttpRequests r.shortName sampleMapping.httpRequests acceptingClient).1.2.entries ↔
        entry ∈ failures outs) ∧
      ∃ result client', synchronizeViaApi r lookup "default" resource .upsert acceptingClient =
          (some result, client') ∧
        result.succesfullySynchronized = successes outs ∧
        (∀ entry, entry ∈ result.synchronizationErrorsPerItem.entries ↔
          entry ∈ sampleMapping.synchronizationErrors.entries ∨ entry ∈ failures outs) ∧
        (∀ name ∈ result.succesfullySynchronized,
          name ∉ result.validationIssuesPerItem.keys ∧ name ∉ result.synchronizationErrorsPerItem.keys) ∧
        (∀ key ∈ result.validationIssuesPerItem.keys, key ∉ result.synchronizationErrorsPerItem.keys) ∧
        (∀ req ∈ sampleMapping.httpRequests, req.itemName ∈ result.succesfullySynchronized ∨
          req.itemName ∈ result.synchronizationErrorsPerItem.keys) ∧
        (∀ key ∈ sampleMapping.validationIssues.keys ++ sampleMapping.synchronizationErrors.keys,
          key ∈ result.validationIssuesPerItem.keys ∨ key ∈ result.synchronizationErrorsPerItem.keys) :=
  ⟨rfl, ⟨by decide, by decide, by decide⟩, by decide,
    synchronizeViaApi_partitions_items (constantReconciler sampleMapping) (.ok (some ())) "default"
      ⟨"ns", "dashboards"⟩ .upsert acceptingClient sampleMapping rfl rfl ⟨by decide, by decide, by decide⟩
      (by decide)⟩

def overlappingMapping : MappingResult :=
  ⟨1, [], ⟨[("a", ["no display name"])], by decide⟩, ⟨[("a", "cannot convert")], by decide⟩⟩

/-- The contract on the requests holds vacuously, yet the item is both a validation issue and a
synchronization error of what is written. -/
theorem overlapping_mapping_reports_item_twice :
    MappingContract overlappingMapping ∧
      ∃ result, synchronizeViaApi (constantReconciler overlappingMapping) (.ok (some ())) "default"
          ⟨"ns", "dashboards"⟩ .upsert acceptingClient = (some result, acceptingClient) ∧
        "a" ∈ result.validationIssuesPerItem.keys ∧ "a" ∈ result.synchronizationErrorsPerItem.keys :=
  ⟨⟨by decide, by decide, by decide⟩, _, rfl, by decide, by decide⟩

/-! ### The recorded status -/

theorem synchronizationStatus_spec (succesfullySynchronized : List String)
    (validationIssuesPerItem : GoMap (List String)) (synchronizationErrorsPerItem : GoMap String) :
    let status := synchronizationStatus succesfullySynchronized validationIssuesPerItem
      synchronizationErrorsPerItem
    (status = .successful ↔ succesfullySynchronized ≠ [] ∧ validationIssuesPerItem.len = 0 ∧
        synchronizationErrorsPerItem.len = 0) ∧
      (status = .partiallySuccessful ↔ succesfullySynchronized ≠ [] ∧
        (validationIssuesPerItem.len ≠ 0 ∨ synchronizationErrorsPerItem.len ≠ 0)) ∧
      (status = .failed ↔ succesfullySynchronized = []) := by
  simp only [synchronizationStatus, List.length_pos, ne_eq]
  split_ifs with whole part <;> simp_all
  tauto

theorem len_eq_zero_of_entries {m : GoMap String} {entries : List (String × String)}
    (same : ∀ entry, entry ∈ m.entries ↔ entry ∈ entries) : m.len = 0 ↔ entries = [] := by
  rw [GoMap.len_eq_zero_iff, List.eq_nil_iff_forall_not_mem]
  exact forall_congr' fun entry => not_congr (same entry)

theorem successes_eq_nil {outcomes : List (HttpRequestWithItemName × Option RetryableError)} :
    successes outcomes = [] ↔ ∀ outcome ∈ outcomes, outcome.2 ≠ none := by
  simp [successes, List.filter_eq_nil_iff]

theorem failures_eq_nil {outcomes : List (HttpRequestWithItemName × Option RetryableError)} :
    failures outcomes = [] ↔ ∀ outcome ∈ outcomes, outcome.2 = none := by
  simp [failures, List.filterMap_eq_nil_iff, Option.map_eq_none']

/-- For every mapping that keeps the contract and every answer of the Dash0 API, the status
`writeSynchronizationResult` records is `Successful` iff some request ran and all succeeded with no
validation issue and no mapping error, `PartiallySuccessful` iff some request succeeded and
something else did not, and `Failed` iff no request succeeded. -/
theorem recorded_status_classifies_outcomes (r : ResourceReconciler M)
    (lookup : Except String (Option M)) (datasetDefault : String)
    (thirdPartyResource : ThirdPartyResource) (action : ApiAction) (client : HttpClient)
    (mapping : MappingResult)
    (proceed : (validatePreconditions r lookup datasetDefault thirdPartyResource).synchronizeResource)
    (mapped : r.mapResourceToHttpRequests (validatePreconditions r lookup datasetDefault thirdPartyResource)
      action = mapping)
    (contract : MappingContract mapping) :
    ∃ result client', synchronizeViaApi r lookup datasetDefault thirdPartyResource action client =
        (some result, client') ∧
      let status := synchronizationStatus result.succesfullySynchronized
        result.validationIssuesPerItem result.synchronizationErrorsPerItem
      let outs := outcomes r.shortName mapping.httpRequests client
      (status = .successful ↔ outs ≠ [] ∧ (∀ outcome ∈ outs, outcome.2 = none) ∧
          mapping.validationIssues.len = 0 ∧ mapping.synchronizationErrors.len = 0) ∧
        (status = .partiallySuccessful ↔ (∃ outcome ∈ outs, outcome.2 = none) ∧
          ((∃ outcome ∈ outs, outcome.2 ≠ none) ∨ mapping.validationIssues.len ≠ 0 ∨
            mapping.synchronizationErrors.len ≠ 0)) ∧
        (status = .failed ↔ ∀ outcome ∈ outs, outcome.2 ≠ none) := by
  have synchronized := synchronizeViaApi_proceeds r lookup datasetDefault thirdPartyResource action
    client proceed
  simp only [mapped] at synchronized
  refine ⟨_, _, synchronized, ?_⟩
  obtain ⟨succeeded, -⟩ := executeMapped_spec r.shortName mapping.httpRequests client
  have merged := @merged_errors r.shortName mapping client contract
  have noErrors := len_eq_zero_of_entries fun entry => (merged entry).trans List.mem_append.symm
  have mappingErrors :=
    @len_eq_zero_of_entries mapping.synchronizationErrors mapping.synchronizationErrors.entries fun _ => Iff.rfl
  obtain ⟨successful, partly, failed⟩ := synchronizationStatus_spec (successes (outcomes r.shortName
    mapping.httpRequests client)) mapping.validationIssues
    (mergeErrors mapping.synchronizationErrors (executeMapped r.shortName mapping.httpRequests client).1.2)
  simp only [succeeded, ne_eq, successes_eq_nil, noErrors, List.append_eq_nil, failures_eq_nil,
    ← mappingErrors] at successful partly failed ⊢
  rw [successful, partly, failed]
  generalize outcomes r.shortName mapping.httpRequests client = outs
  push_neg
  refine ⟨⟨fun ⟨⟨_, mem, _⟩, issues, errors, all⟩ => ⟨List.ne_nil_of_mem mem, all, issues, errors⟩,
    fun ⟨nonempty, all, issues, errors⟩ => ?_⟩, and_congr_right fun _ => ?_, Iff.rfl⟩
  · obtain ⟨outcome, mem⟩ := List.exists_mem_of_ne_nil _ nonempty
    exact ⟨⟨outcome, mem, all outcome mem⟩, issues, errors, all⟩
  · by_cases noErrors : mapping.synchronizationErrors.len = 0 <;> simp [noErrors, or_comm]

theorem recorded_status_sample :
    let r := constantReconciler sampleMapping
    let lookup : Except String (Option Unit) := .ok (some ())
    let resource : ThirdPartyResource := ⟨"ns", "dashboards"⟩
    (validatePreconditions r lookup "default" resource).synchronizeResource ∧ MappingContract sampleMapping ∧
      ∃ result client', synchronizeViaApi r lookup "default" resource .upsert acceptingClient =
          (some result, client') ∧
        let status := synchronizationStatus result.succesfullySynchronized
          result.validationIssuesPerItem result.synchronizationErrorsPerItem
        let outs := outcomes r.shortName sampleMapping.httpRequests acceptingClient
        (status = .successful ↔ outs ≠ [] ∧ (∀ outcome ∈ outs, outcome.2 = none) ∧
            sampleMapping.validationIssues.len = 0 ∧ sampleMapping.synchronizationErrors.len = 0) ∧
          (status = .partiallySuccessful ↔ (∃ outcome ∈ outs, outcome.2 = none) ∧
            ((∃ outcome ∈ outs, outcome.2 ≠ none) ∨ sampleMapping.validationIssues.len ≠ 0 ∨
              sampleMapping.synchronizationErrors.len ≠ 0)) ∧
          (status = .failed ↔ ∀ outcome ∈ outs, outcome.2 ≠ none) :=
  ⟨rfl, ⟨by decide, by decide, by decide⟩,
    recorded_status_classifies_outcomes (constantReconciler sampleMapping) (.ok (some ())) "default"
      ⟨"ns", "dashboards"⟩ .upsert acceptingClient sampleMapping rfl rfl ⟨by decide, by decide, by decide⟩⟩

theorem empty_mapping_writes_failed (r : ResourceReconciler M) (lookup : Except String (Option M))
    (datasetDefault : String) (thirdPartyResource : ThirdPartyResource) (action : ApiAction)
    (client : HttpClient) (mapping : MappingResult)
    (proceed : (validatePreconditions r lookup datasetDefault thirdPartyResource).synchronizeResource)
    (mapped : r.mapResourceToHttpRequests (validatePreconditions r lookup datasetDefault thirdPartyResource)
      action = mapping)
    (noRequests : mapping.httpRequests = []) :
    ∃ result, synchronizeViaApi r lookup datasetDefault thirdPartyResource action client =
        (some result, client) ∧ result.succesfullySynchronized = [] ∧
      synchronizationStatus result.succesfullySynchronized result.validationIssuesPerItem
        result.synchronizationErrorsPerItem = .failed := by
  have synchronized := synchronizeViaApi_proceeds r lookup datasetDefault thirdPartyResource action
    client proceed
  simp only [mapped, noRequests] at synchronized
  exact ⟨_, synchronized, rfl, (synchronizationStatus_spec _ _ _).2.2.mpr rfl⟩

def emptyMapping : MappingResult := ⟨0, [], .empty, .empty⟩

theorem empty_mapping_records_failed :
    ∃ result, synchronizeViaApi (constantReconciler emptyMapping) (.ok (some ())) "default"
        ⟨"ns", "dashboards"⟩ .upsert acceptingClient = (some result, acceptingClient) ∧
      synchronizationStatus result.succesfullySynchronized result.validationIssuesPerItem
        result.synchronizationErrorsPerItem = .failed := by
  obtain ⟨result, ran, -, failed⟩ := empty_mapping_writes_failed (constantReconciler emptyMapping) (.ok (some ()))
    "default" ⟨"ns", "dashboards"⟩ .upsert acceptingClient emptyMapping rfl rfl rfl
  exact ⟨result, ran, failed⟩

end Dash0Operator.Synchronize
