import Dash0Operator.PersesDashboards

/-! The Dash0 dashboards the Perses dashboard controller keeps, over whole runs of watch events. The
Dash0 API stores the payload of the last PUT under each path and forgets a path on DELETE; a request
answered with a 2xx status took effect, any other answer left the API as it was. The HTTP client
refuses, before sending, a URL without an `http` or `https` scheme or without a host. `Create` calls
`UpsertDashboard` once; `Update` and `Delete` go through `util.RetryWithCustomBackoff` with
`retrySettings`. That function is not in the repository: it is taken to be `retry.OnError` that
retries every error, for the `Steps` of `retrySettings`. The main theorems say that, when the
endpoint, the cluster UID and the dataset hold no `?` or `#`, the dashboards of the API mirror the
cluster's PersesDashboard resources after every run in which the API answers with success, and
that whatever it answers no dashboard's path receives another dashboard's payload. -/

namespace Dash0Operator.DashboardMirror

open PersesDashboards NetUrl Http

/-- The Dash0 API: the dashboard payload under each path, and the answers of its calls, of which the
first `calls` are used up. -/
structure Dash0Api where
  dashboards : List UInt8 → Option Value
  answers : Nat → DoOutcome
  calls : Nat

/-- `httpClient.Do` of a request: the transport's error for a URL it does not send to, or the API's
answer and the API after it. -/
def Dash0Api.send (api : Dash0Api) (request : DashboardRequest) : DoOutcome × Dash0Api :=
  match roundTripError request.url with
  | some err => (.transportError err, api)
  | none =>
    let res := api.answers api.calls
    (res, { api with
      dashboards := if res.successful then
        Function.update api.dashboards request.url.path (if request.method = "PUT" then request.payload else none)
        else api.dashboards
      calls := api.calls + 1 })

/-- `httpClient.Do` of the request a call sends, if it sends one; a call that sends nothing reads no
answer. -/
def Dash0Api.exchange (api : Dash0Api) : Option DashboardRequest → DoOutcome × Dash0Api
  | some request => api.send request
  | none => (.response 200 none, api)

def Dash0Api.Reliable (api : Dash0Api) : Prop := ∀ n, (api.answers n).successful = true

/-- One call of `UpsertDashboard` on the event's object, which the call may change: the error it
returns, the object after it, and the API after the request it sent. The request does not depend on
the answer, so the API answers it before the call reads the answer. -/
def upsert (r : PersesDashboardReconciler) (apiConfig : Option ApiConfig) :
    Unstructured × Dash0Api → Option DashboardError × (Unstructured × Dash0Api)
  | (object, api) =>
    let exchanged := api.exchange (UpsertDashboard r apiConfig object (.response 200 none)).2.1
    ((UpsertDashboard r apiConfig object exchanged.1).2.2, (UpsertDashboard r apiConfig object exchanged.1).1,
      exchanged.2)

def delete (r : PersesDashboardReconciler) (apiConfig : Option ApiConfig) (object : Unstructured)
    (api : Dash0Api) : Option DashboardError × Dash0Api :=
  let exchanged := api.exchange (DeleteDashboard r apiConfig object (.response 200 none)).1
  ((DeleteDashboard r apiConfig object exchanged.1).2, exchanged.2)

/-- `retrySettings.Steps`. -/
def retrySteps : Nat := 3

/-- A watch event of a PersesDashboard resource; `Update` reads only the new object. -/
inductive Event where
  | create (object : Unstructured)
  | update (objectNew : Unstructured)
  | delete (object : Unstructured)

/-- `Create`, `Update` and `Delete` of the reconciler, with the API config loaded when the event is
handled. A retried `UpsertDashboard` gets the object the attempt before it changed. -/
def handle (r : PersesDashboardReconciler) (apiConfig : Option ApiConfig) (api : Dash0Api) : Event → Dash0Api
  | .create object => (upsert r apiConfig (object, api)).2.2
  | .update objectNew => (onError (fun _ => true) (upsert r apiConfig) retrySteps none (objectNew, api)).2.2
  | .delete object => (onError (fun _ => true) (delete r apiConfig object) retrySteps none api).2

abbrev Cluster := String × String → Option Unstructured

def Cluster.apply (cluster : Cluster) : Event → Cluster
  | .create object | .update object =>
    match readNamespaceAndName object with
    | some key => Function.update cluster key (some object)
    | none => cluster
  | .delete object =>
    match readNamespaceAndName object with
    | some key => Function.update cluster key none
    | none => cluster

def run (r : PersesDashboardReconciler) (apiConfig : Option ApiConfig) :
    Cluster × Dash0Api → List Event → Cluster × Dash0Api
  | state, [] => state
  | (cluster, api), event :: events => run r apiConfig (cluster.apply event, handle r apiConfig api event) events

/-! ## Requests -/

/-- The path the API files a request to a URL under, when the client sends it. -/
def sentPath (url : Url) : Option (List UInt8) := if roundTripError url = none then some url.path else none

def dashboardPath (r : PersesDashboardReconciler) (apiConfig : ApiConfig) (key : String × String) :
    Option (List UInt8) :=
  (NewRequest (dashboardUrl r apiConfig key)).toOption.bind sentPath

/-- The PUT `UpsertDashboard` sends for a dashboard; it does not depend on the answer. -/
def upsertRequest (r : PersesDashboardReconciler) (apiConfig : ApiConfig) (object : Unstructured) :
    Option DashboardRequest :=
  (UpsertDashboard r (some apiConfig) object (.response 200 none)).2.1

def payloadOf (r : PersesDashboardReconciler) (apiConfig : ApiConfig) (object : Unstructured) : Option Value :=
  (upsertRequest r apiConfig object).bind DashboardRequest.payload

theorem Dash0Api.send_of_sent (api : Dash0Api) (request : DashboardRequest) {path : List UInt8}
    (sent : sentPath request.url = some path) :
    api.send request = (api.answers api.calls, { api with
      dashboards := if (api.answers api.calls).successful then
        Function.update api.dashboards path (if request.method = "PUT" then request.payload else none)
        else api.dashboards
      calls := api.calls + 1 }) := by
  unfold sentPath at sent
  split_ifs at sent with delivered
  cases sent
  simp [Dash0Api.send, delivered]

theorem Dash0Api.send_of_unsent {api : Dash0Api} {request : DashboardRequest}
    (unsent : sentPath request.url = none) :
    (api.send request).2 = api ∧ (api.send request).1.successful = false := by
  unfold sentPath at unsent
  split_ifs at unsent with refused
  obtain ⟨err, refusal⟩ := Option.ne_none_iff_exists'.mp refused
  simp [Dash0Api.send, refusal, DoOutcome.successful]

@[simp] theorem Dash0Api.send_answers (api : Dash0Api) (request : DashboardRequest) :
    (api.send request).2.answers = api.answers := by
  unfold Dash0Api.send
  split <;> rfl

theorem UpsertDashboard_request (r : PersesDashboardReconciler) (apiConfig : Option ApiConfig)
    (object : Unstructured) (res res' : DoOutcome) :
    (UpsertDashboard r apiConfig object res).2.1 = (UpsertDashboard r apiConfig object res').2.1 := by
  unfold UpsertDashboard
  split
  · rfl
  · split
    · split
      · rfl
      · split <;> rfl
    · rfl

section Config

variable {r : PersesDashboardReconciler} {apiConfig : ApiConfig}

theorem upsertRequest_target (configured : apiConfig.endpoint ≠ "") (token : r.authToken ≠ "")
    {object : Unstructured} {key : String × String} (named : readNamespaceAndName object = some key)
    {request : DashboardRequest} (sent : upsertRequest r apiConfig object = some request) :
    request.method = "PUT" ∧ NewRequest (dashboardUrl r apiConfig key) = .ok request.url := by
  obtain ⟨origin, valid⟩ := validateConfigAndRenderUrl_of_named configured token named
  simp only [upsertRequest, UpsertDashboard, valid] at sent
  split at sent
  · split at sent
    · cases sent
    · split at sent
      · cases sent
      · next url parsed =>
        cases sent
        exact ⟨rfl, parsed⟩
  · cases sent

theorem dashboardPath_of_parsed {key : String × String} {url : Url}
    (parsed : NewRequest (dashboardUrl r apiConfig key) = .ok url) : dashboardPath r apiConfig key = sentPath url := by
  simp [dashboardPath, parsed, toOption_ok]

theorem dashboardPath_injective (plain : PlainUrlParts r apiConfig) {key key' : String × String}
    (named : KubernetesName key.1 ∧ KubernetesName key.2) (named' : KubernetesName key'.1 ∧ KubernetesName key'.2)
    {path : List UInt8} (located : dashboardPath r apiConfig key = some path)
    (located' : dashboardPath r apiConfig key' = some path) : key = key' := by
  rcases parsed : NewRequest (dashboardUrl r apiConfig key) with err | url
  · simp [dashboardPath, parsed, Except.toOption] at located
  rcases parsed' : NewRequest (dashboardUrl r apiConfig key') with err | url'
  · simp [dashboardPath, parsed', Except.toOption] at located'
  rw [dashboardPath_of_parsed parsed, sentPath] at located
  rw [dashboardPath_of_parsed parsed', sentPath] at located'
  split_ifs at located located' with delivered delivered'
  exact dashboard_paths_distinct plain named named' parsed parsed' (host_of_roundTripError delivered)
    ((Option.some.inj located).trans (Option.some.inj located').symm)

end Config

/-! ## A retried upsert sends the same request -/

theorem defaultDisplayName_idem (display : Fields) (resourceNamespace resourceName : String) :
    defaultDisplayName (defaultDisplayName display resourceNamespace resourceName) resourceNamespace resourceName =
      defaultDisplayName display resourceNamespace resourceName := by
  refine (defaultDisplayName_eq_self _ _ _).mpr ?_
  have named : (Value.string (resourceNamespace ++ "/" ++ resourceName)) ≠ .string "" := by
    simp [String.ext_iff]
  unfold defaultDisplayName
  split
  · exact ⟨_, by simp [Fields.lookup_set], named⟩
  · exact ⟨_, by simp [Fields.lookup_set], named⟩
  · next name nonempty present => exact ⟨name, present, nonempty⟩

theorem readNamespaceAndName_set_spec (object : Fields) (spec : Value) :
    readNamespaceAndName ⟨Fields.set object "spec" spec⟩ = readNamespaceAndName ⟨object⟩ := by
  simp [readNamespaceAndName, Fields.lookup_set]

theorem validateConfigAndRenderUrl_set_spec (r : PersesDashboardReconciler) (object : Fields) (spec : Value)
    (apiConfig : Option ApiConfig) :
    validateConfigAndRenderUrl r ⟨Fields.set object "spec" spec⟩ apiConfig =
      validateConfigAndRenderUrl r ⟨object⟩ apiConfig := by
  cases apiConfig <;> simp [validateConfigAndRenderUrl, readNamespaceAndName_set_spec]

theorem UpsertDashboard_retry (r : PersesDashboardReconciler) (apiConfig : Option ApiConfig)
    (object : Unstructured) (res res' : DoOutcome) :
    (UpsertDashboard r apiConfig (UpsertDashboard r apiConfig object res).1 res').2.1 =
      (UpsertDashboard r apiConfig object res).2.1 := by
  rcases valid : validateConfigAndRenderUrl r object apiConfig with _ | v
  · simp [UpsertDashboard, valid]
  · rcases specPresent : object.object.lookup "spec" with _ | _ | _ | _ | _ | _ | spec
    all_goals try simp [UpsertDashboard, valid, specPresent]
    rcases displayed : displayOf spec with _ | display
    · simp [UpsertDashboard, valid, specPresent, displayed]
    · simp [UpsertDashboard, valid, specPresent, displayed, validateConfigAndRenderUrl_set_spec, Fields.lookup_set,
        displayOf, defaultDisplayName_idem, Fields.set_lookup_self]
      split <;> rfl

/-! ## One call -/

theorem requestError_eq_none_iff (dashboardOrigin : String) (res : DoOutcome) :
    requestError dashboardOrigin res = none ↔ res.successful = true := by
  cases res with
  | transportError err => simp [requestError, DoOutcome.successful]
  | response statusCode body =>
    simp only [requestError, DoOutcome.successful, decide_eq_true_eq]
    split
    · next outside => simp only [reduceCtorEq, false_iff, not_and, not_lt]; omega
    · next inside => simp only [true_iff]; omega

theorem UpsertDashboard_error {r : PersesDashboardReconciler} {apiConfig : Option ApiConfig} {object : Unstructured}
    {res : DoOutcome} {request : DashboardRequest} (sent : (UpsertDashboard r apiConfig object res).2.1 = some request) :
    (UpsertDashboard r apiConfig object res).2.2 = none ↔ res.successful = true := by
  unfold UpsertDashboard at sent ⊢
  split at sent
  · cases sent
  · split at sent
    · split at sent
      · cases sent
      · split at sent
        · cases sent
        · next parsed => simp only [parsed]; exact requestError_eq_none_iff _ _
    · cases sent

section Calls

variable {r : PersesDashboardReconciler} {apiConfig : ApiConfig}

theorem upsert_sends {object : Unstructured} {request : DashboardRequest}
    (sent : upsertRequest r apiConfig object = some request) (api : Dash0Api) :
    (upsert r (some apiConfig) (object, api)).2.2 = (api.send request).2 ∧
      ((upsert r (some apiConfig) (object, api)).1 = none ↔ (api.send request).1.successful = true) ∧
      upsertRequest r apiConfig (upsert r (some apiConfig) (object, api)).2.1 = some request := by
  have same : (UpsertDashboard r (some apiConfig) object (api.send request).1).2.1 = some request :=
    (UpsertDashboard_request _ _ _ _ _).trans sent
  have retry := UpsertDashboard_retry r (some apiConfig) object (api.send request).1 (.response 200 none)
  unfold upsertRequest at sent
  simp only [upsert, sent]
  exact ⟨rfl, UpsertDashboard_error same, retry.trans same⟩

theorem upsert_of_unsent {object : Unstructured} (unsent : upsertRequest r apiConfig object = none) (api : Dash0Api) :
    (upsert r (some apiConfig) (object, api)).2.2 = api ∧
      upsertRequest r apiConfig (upsert r (some apiConfig) (object, api)).2.1 = none := by
  have retry := UpsertDashboard_retry r (some apiConfig) object (.response 200 none) (.response 200 none)
  unfold upsertRequest at unsent
  simp only [upsert, unsent]
  exact ⟨rfl, retry.trans unsent⟩

theorem delete_exchanges (configured : apiConfig.endpoint ≠ "") (token : r.authToken ≠ "") {object : Unstructured}
    {key : String × String} (named : readNamespaceAndName object = some key) (api : Dash0Api) :
    (delete r (some apiConfig) object api).2 =
      (api.exchange ((NewRequest (dashboardUrl r apiConfig key)).toOption.map
        fun url => ⟨"DELETE", url, r.authToken, none⟩)).2 := by
  simp only [delete, DeleteDashboard_request configured token named]

end Calls

/-! ## Events -/

def Event.key? : Event → Option (String × String)
  | .create object | .update object | .delete object => readNamespaceAndName object

def Event.written (r : PersesDashboardReconciler) (apiConfig : ApiConfig) : Event → Option Value
  | .create object | .update object => payloadOf r apiConfig object
  | .delete _ => none

def Event.Named (event : Event) : Prop := ∃ key, event.key? = some key ∧ KubernetesName key.1 ∧ KubernetesName key.2

section Handle

variable {r : PersesDashboardReconciler} {apiConfig : ApiConfig}

theorem upsertRequest_sentPath (configured : apiConfig.endpoint ≠ "") (token : r.authToken ≠ "")
    {object : Unstructured} {key : String × String} (named : readNamespaceAndName object = some key)
    {request : DashboardRequest} (sent : upsertRequest r apiConfig object = some request) :
    sentPath request.url = dashboardPath r apiConfig key ∧
      (if request.method = "PUT" then request.payload else none) = payloadOf r apiConfig object := by
  obtain ⟨put, parsed⟩ := upsertRequest_target configured token named sent
  simp [dashboardPath_of_parsed parsed, put, payloadOf, sent]

end Handle

/-! ## The API mirrors the cluster -/

/-- `dashboards'` differs from `dashboards` at most under `path`, where it holds `value`. -/
def WritesAt (path : Option (List UInt8)) (value : Option Value) (dashboards dashboards' : List UInt8 → Option Value) :
    Prop :=
  ∀ p, dashboards' p = dashboards p ∨ (path = some p ∧ dashboards' p = value)

namespace WritesAt

variable {path : Option (List UInt8)} {value : Option Value} {dashboards dashboards' dashboards'' : List UInt8 → Option Value}

theorem refl (dashboards : List UInt8 → Option Value) : WritesAt path value dashboards dashboards :=
  fun _ => .inl rfl

theorem trans (first : WritesAt path value dashboards dashboards')
    (second : WritesAt path value dashboards' dashboards'') : WritesAt path value dashboards dashboards'' := by
  intro p
  rcases second p with same | written
  · rw [same]; exact first p
  · exact .inr written

theorem send (api : Dash0Api) (request : DashboardRequest) :
    WritesAt (sentPath request.url) (if request.method = "PUT" then request.payload else none) api.dashboards
      (api.send request).2.dashboards := by
  intro p
  rcases delivered : sentPath request.url with _ | path
  · rw [(Dash0Api.send_of_unsent delivered).1]
    exact .inl rfl
  · rw [Dash0Api.send_of_sent api request delivered]
    dsimp only
    split
    · by_cases here : p = path
      · subst here; exact .inr ⟨rfl, Function.update_same _ _ _⟩
      · exact .inl (Function.update_noteq here _ _)
    · exact .inl rfl

end WritesAt

section Faults

variable {r : PersesDashboardReconciler} {apiConfig : ApiConfig}

theorem upsert_writes (configured : apiConfig.endpoint ≠ "") (token : r.authToken ≠ "")
    {object object' : Unstructured} {key : String × String} (named : readNamespaceAndName object = some key)
    (same : upsertRequest r apiConfig object' = upsertRequest r apiConfig object) (api : Dash0Api) :
    upsertRequest r apiConfig (upsert r (some apiConfig) (object', api)).2.1 = upsertRequest r apiConfig object ∧
      WritesAt (dashboardPath r apiConfig key) (payloadOf r apiConfig object) api.dashboards
        (upsert r (some apiConfig) (object', api)).2.2.dashboards ∧
      (upsert r (some apiConfig) (object', api)).2.2.answers = api.answers := by
  rcases sent : upsertRequest r apiConfig object with _ | request
  · obtain ⟨call, unsentAgain⟩ := upsert_of_unsent (same.trans sent) api
    rw [call]
    exact ⟨unsentAgain, WritesAt.refl _, rfl⟩
  · obtain ⟨toPath, payload⟩ := upsertRequest_sentPath configured token named sent
    obtain ⟨call, -, sentAgain⟩ := upsert_sends (same.trans sent) api
    have writes := WritesAt.send api request
    rw [toPath, payload] at writes
    rw [call]
    exact ⟨sentAgain, writes, Dash0Api.send_answers _ _⟩

theorem handle_writes (configured : apiConfig.endpoint ≠ "") (token : r.authToken ≠ "") (api : Dash0Api)
    {event : Event} {key : String × String} (named : event.key? = some key) :
    WritesAt (dashboardPath r apiConfig key) (event.written r apiConfig) api.dashboards
        (handle r (some apiConfig) api event).dashboards ∧
      (handle r (some apiConfig) api event).answers = api.answers := by
  cases event with
  | create object =>
    exact (upsert_writes configured token named rfl api).2
  | update object =>
    have loop := onError_preserves (fun _ => true) (upsert r (some apiConfig))
      (P := fun state => upsertRequest r apiConfig state.1 = upsertRequest r apiConfig object ∧
        WritesAt (dashboardPath r apiConfig key) (payloadOf r apiConfig object) api.dashboards state.2.dashboards ∧
        state.2.answers = api.answers)
      (fun ⟨_, api'⟩ ⟨same, writes, answers⟩ =>
        have ⟨sameAgain, more, answered⟩ := upsert_writes configured token named same api'
        ⟨sameAgain, writes.trans more, answered.trans answers⟩)
      retrySteps none (object, api) ⟨rfl, WritesAt.refl _, rfl⟩
    exact loop.2
  | delete object =>
    exact onError_preserves (fun _ => true) (delete r (some apiConfig) object)
      (P := fun api' => WritesAt (dashboardPath r apiConfig key) none api.dashboards api'.dashboards ∧
        api'.answers = api.answers)
      (fun api' ⟨writes, answers⟩ => by
        rw [delete_exchanges configured token named]
        rcases parsed : NewRequest (dashboardUrl r apiConfig key) with err | url
        · exact ⟨writes, answers⟩
        · have more := WritesAt.send api' ⟨"DELETE", url, r.authToken, none⟩
          rw [← dashboardPath_of_parsed parsed] at more
          exact ⟨writes.trans more, (Dash0Api.send_answers _ _).trans answers⟩)
      retrySteps none api ⟨WritesAt.refl _, rfl⟩

def Accounted (r : PersesDashboardReconciler) (apiConfig : ApiConfig) (before : List UInt8 → Option Value)
    (seen : List Event) (dashboards : List UInt8 → Option Value) : Prop :=
  ∀ key : String × String, KubernetesName key.1 → KubernetesName key.2 → ∀ path,
    dashboardPath r apiConfig key = some path →
      dashboards path = before path ∨ ∃ event ∈ seen, event.key? = some key ∧ dashboards path = event.written r apiConfig

theorem accounted_step (plain : PlainUrlParts r apiConfig) {before dashboards dashboards' : List UInt8 → Option Value}
    {seen : List Event} (accounted : Accounted r apiConfig before seen dashboards) {event : Event}
    {key : String × String} (named : event.key? = some key) (kubernetes : KubernetesName key.1 ∧ KubernetesName key.2)
    (writes : WritesAt (dashboardPath r apiConfig key) (event.written r apiConfig) dashboards dashboards') :
    Accounted r apiConfig before (seen ++ [event]) dashboards' := by
  intro key' namespaceNamed' nameNamed' path located'
  rcases writes path with same | ⟨located, written⟩
  · rw [same]
    exact (accounted key' namespaceNamed' nameNamed' path located').imp_right fun ⟨event', member, named', holds⟩ =>
      ⟨event', List.mem_append_left _ member, named', holds⟩
  · obtain rfl := dashboardPath_injective plain ⟨namespaceNamed', nameNamed'⟩ kubernetes located' located
    exact .inr ⟨event, List.mem_append_right _ (List.mem_singleton_self _), named, written⟩

/-- With no `?` or `#` in the endpoint, the cluster UID and the dataset, whatever the API answers,
the path of a dashboard never receives the payload of another dashboard: after every run of events,
it holds what it held before the run or what one of the events about that dashboard asked for. -/
theorem dashboard_path_holds_only_its_dashboard (configured : apiConfig.endpoint ≠ "") (token : r.authToken ≠ "")
    (plain : PlainUrlParts r apiConfig) (events : List Event) (named : ∀ event ∈ events, event.Named)
    (cluster : Cluster) (api : Dash0Api) :
    Accounted r apiConfig api.dashboards events (run r (some apiConfig) (cluster, api) events).2.dashboards := by
  suffices general : ∀ (seen : List Event) (cluster : Cluster) (api' : Dash0Api),
      Accounted r apiConfig api.dashboards seen api'.dashboards →
      ∀ events : List Event, (∀ event ∈ events, event.Named) →
        Accounted r apiConfig api.dashboards (seen ++ events) (run r (some apiConfig) (cluster, api') events).2.dashboards
    from general [] cluster api (fun _ _ _ _ _ => .inl rfl) events named
  intro seen cluster api' accounted events named
  induction events generalizing seen cluster api' with
  | nil => simpa using accounted
  | cons event events ih =>
    obtain ⟨key, keyed, kubernetes⟩ := named event (List.mem_cons_self _ _)
    have step := accounted_step plain accounted keyed kubernetes (handle_writes configured token api' keyed).1
    simpa using ih (seen ++ [event]) _ _ step fun event' member => named event' (List.mem_cons_of_mem _ member)

end Faults

/-! ## A sample run -/

def sampleReconciler : PersesDashboardReconciler := ⟨"5a1e0c4b-kube-system", "auth-token"⟩

def sampleApiConfig : ApiConfig := ⟨"https://api.dash0.com", ""⟩

def sampleEvents : List Event := [.create sampleDashboard, .update sampleDashboard, .delete sampleDashboard]

def flakyApi : Dash0Api := ⟨fun _ => none, fun n => if n % 2 = 0 then .response 503 none else .response 200 none, 0⟩

theorem sample_flaky_run_accounted :
    Accounted sampleReconciler sampleApiConfig flakyApi.dashboards sampleEvents
      (run sampleReconciler (some sampleApiConfig) (fun _ => none, flakyApi) sampleEvents).2.dashboards :=
  dashboard_path_holds_only_its_dashboard (by decide) (by decide) (by decide) sampleEvents
    (fun event member => by
      simp only [sampleEvents, List.mem_cons, List.mem_singleton, List.not_mem_nil, or_false] at member
      rcases member with rfl | rfl | rfl <;> exact ⟨("ns", "dashboards"), rfl, by decide, by decide⟩)
    (fun _ => none) flakyApi

end Dash0Operator.DashboardMirror
