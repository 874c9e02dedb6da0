import Dash0Operator.Http
import Dash0Operator.NetUrl

/-! The Perses dashboard controller (`perses_dashboards_controller.go`). An unstructured object is
a tree of JSON values whose maps are Go maps; the map writes `UpsertDashboard` makes land in the
object it was handed, so the model returns the object after the call beside the request it sends.
`http.NewRequest` parses the dashboard URL, into which the dataset and the names are spliced
unescaped: a `#` or a `?` in the dataset cuts the dashboard's name off its URL. -/

namespace Dash0Operator.PersesDashboards

open Http NetUrl

inductive Value where
  | null
  | bool (value : Bool)
  | number (value : Int)
  | string (value : String)
  | array (items : List Value)
  | object (fields : List (String × Value))
  deriving Repr

/-- The entries of a Go `map[string]interface{}`. -/
abbrev Fields := List (String × Value)

/-- `m[key] = value`. -/
def Fields.set : Fields → String → Value → Fields
  | [], key, value => [(key, value)]
  | (field, current) :: rest, key, value =>
    if field = key then (key, value) :: rest else (field, current) :: Fields.set rest key value

theorem Fields.set_lookup_self (fields : Fields) (key : String) (value : Value)
    (present : fields.lookup key = some value) : Fields.set fields key value = fields := by
  induction fields with
  | nil => cases present
  | cons entry rest ih =>
    obtain ⟨field, current⟩ := entry
    by_cases same : field = key
    · subst same
      simp only [List.lookup_cons_self, Option.some.injEq] at present
      simp [Fields.set, present]
    · have skip : (key == field) = false := by simpa using Ne.symm same
      simp only [List.lookup_cons, skip] at present
      simp [Fields.set, same, ih present]

theorem Fields.lookup_set (fields : Fields) (key other : String) (value : Value) :
    (Fields.set fields key value).lookup other = if other = key then some value else fields.lookup other := by
  induction fields with
  | nil =>
    by_cases same : other = key
    · subst same; simp [Fields.set]
    · simp [Fields.set, List.lookup_cons, same, beq_eq_false_iff_ne.mpr same]
  | cons entry rest ih =>
    obtain ⟨field, current⟩ := entry
    by_cases here : other = field
    · subst here
      by_cases same : other = key
      · subst same; simp [Fields.set]
      · simp [Fields.set, same]
    · have skip : (other == field) = false := beq_eq_false_iff_ne.mpr here
      by_cases same : field = key
      · subst same; simp [Fields.set, List.lookup_cons, skip, here]
      · simp [Fields.set, same, List.lookup_cons, skip, ih]

structure Unstructured where
  object : Fields

structure PersesDashboardReconciler where
  pseudoClusterUid : String
  authToken : String

structure ValidationResult where
  resourceNamespace : String
  resourceName : String
  url : String
  origin : String
  authToken : String

/-- `metadata[attributeName]` when it is a non-empty string. -/
def readStringAttribute (metadata : Fields) (attributeName : String) : Option String :=
  match metadata.lookup attributeName with
  | some (.string value) => if value = "" then none else some value
  | _ => none

def readNamespaceAndName (persesDashboard : Unstructured) : Option (String × String) :=
  match persesDashboard.object.lookup "metadata" with
  | some (.object metadata) => do
    let resourceNamespace ← readStringAttribute metadata "namespace"
    let resourceName ← readStringAttribute metadata "name"
    pure (resourceNamespace, resourceName)
  | _ => none

/-- `strings.HasSuffix(s, "/")`: the byte of `/` is part of no other character's encoding. -/
def hasSlashSuffix (s : String) : Bool := s.toList.getLast? == some '/'

/-- The dashboard URL and the dashboard origin. The origin joins its parts with `_`, which
Kubernetes names cannot contain. -/
def renderDashboardUrl (r : PersesDashboardReconciler)
    (dash0ApiEndpoint resourceNamespace resourceName dataset : String) : String × String :=
  let dashboardOrigin := "dash0-operator_" ++ r.pseudoClusterUid ++ "_" ++ dataset ++ "_" ++
    resourceNamespace ++ "_" ++ resourceName
  let dash0ApiEndpoint := if hasSlashSuffix dash0ApiEndpoint then dash0ApiEndpoint
    else dash0ApiEndpoint ++ "/"
  (dash0ApiEndpoint ++ "api/dashboards/" ++ dashboardOrigin ++ "?dataset=" ++ dataset, dashboardOrigin)

def validateConfigAndRenderUrl (r : PersesDashboardReconciler) (persesDashboard : Unstructured) :
    Option ApiConfig → Option ValidationResult
  | none => none
  | some apiConfig =>
    if apiConfig.endpoint = "" then none
    else if r.authToken = "" then none
    else
      let dataset := if apiConfig.dataset = "" then "default" else apiConfig.dataset
      match readNamespaceAndName persesDashboard with
      | none => none
      | some (resourceNamespace, resourceName) =>
        let (dashboardUrl, dashboardOrigin) :=
          renderDashboardUrl r apiConfig.endpoint resourceNamespace resourceName dataset
        some ⟨resourceNamespace, resourceName, dashboardUrl, dashboardOrigin, r.authToken⟩

def handleNon2xxStatusCode (statusCode : Int) (dashboardOrigin : String) : Option String → String
  | none =>
    "unable to read the API response payload after receiving status code " ++ toString statusCode ++
      " when trying to udpate/create/delete the dashboard " ++ dashboardOrigin
  | some responseBody =>
    "unexpected status code " ++ toString statusCode ++
      " when updating/creating/deleting the dashboard " ++ dashboardOrigin ++ ", response body is " ++
      responseBody

/-- The errors `UpsertDashboard` and `DeleteDashboard` return: that of `http.NewRequest`, or one
they write. -/
inductive DashboardError where
  | newRequest (err : UrlError)
  | message (text : String)

/-- The error `UpsertDashboard` and `DeleteDashboard` return for the answer of `httpClient.Do`. -/
def requestError (dashboardOrigin : String) : DoOutcome → Option DashboardError
  | .transportError err => some (.message err)
  | .response statusCode body =>
    if statusCode < 200 ∨ statusCode ≥ 300 then
      some (.message (handleNon2xxStatusCode statusCode dashboardOrigin body))
    else none

/-- A request sent to the Dash0 API: method, parsed URL, the token of the `Authorization` header,
and the JSON body of a PUT. -/
structure DashboardRequest where
  method : String
  url : Url
  authToken : String
  payload : Option Value

/-- `display["name"] = namespace/name` when the name is missing or the empty string. -/
def defaultDisplayName (display : Fields) (resourceNamespace resourceName : String) : Fields :=
  match display.lookup "name" with
  | none => Fields.set display "name" (.string (resourceNamespace ++ "/" ++ resourceName))
  | some (.string "") => Fields.set display "name" (.string (resourceNamespace ++ "/" ++ resourceName))
  | some _ => display

/-- The display map `UpsertDashboard` works on: a fresh empty map when `spec.display` is nil. -/
def displayOf (spec : Fields) : Option Fields :=
  match spec.lookup "display" with
  | none => some []
  | some .null => some []
  | some (.object display) => some display
  | some _ => none

/-- `UpsertDashboard`: the object after the call, the request it sent, and the error it returned.
`res` is the answer of `httpClient.Do`. -/
def UpsertDashboard (r : PersesDashboardReconciler) (apiConfig : Option ApiConfig)
    (persesDashboard : Unstructured) (res : DoOutcome) :
    Unstructured × Option DashboardRequest × Option DashboardError :=
  match validateConfigAndRenderUrl r persesDashboard apiConfig with
  | none => (persesDashboard, none, none)
  | some valResult =>
    match persesDashboard.object.lookup "spec" with
    | some (.object spec) =>
      match displayOf spec with
      | none => (persesDashboard, none, none)
      | some display =>
        let spec := Fields.set spec "display"
          (.object (defaultDisplayName display valResult.resourceNamespace valResult.resourceName))
        (⟨Fields.set persesDashboard.object "spec" (.object spec)⟩,
          match NewRequest valResult.url with
          | .error err => (none, some (.newRequest err))
          | .ok url =>
            (some ⟨"PUT", url, valResult.authToken,
              some (.object [("kind", .string "PersesDashboard"), ("spec", .object spec)])⟩,
              requestError valResult.origin res))
    | _ => (persesDashboard, none, none)

def DeleteDashboard (r : PersesDashboardReconciler) (apiConfig : Option ApiConfig)
    (persesDashboard : Unstructured) (res : DoOutcome) : Option DashboardRequest × Option DashboardError :=
  match validateConfigAndRenderUrl r persesDashboard apiConfig with
  | none => (none, none)
  | some valResult =>
    match NewRequest valResult.url with
    | .error err => (none, some (.newRequest err))
    | .ok url => (some ⟨"DELETE", url, valResult.authToken, none⟩, requestError valResult.origin res)

/-! ### Cutting at a separator -/

section Separator

variable {separator : Char}

theorem split_at_first_separator {head head' tail tail' : List Char} (plain : separator ∉ head)
    (plain' : separator ∉ head') (same : head ++ separator :: tail = head' ++ separator :: tail') :
    head = head' ∧ tail = tail' := by
  induction head generalizing head' with
  | nil =>
    cases head' with
    | nil => simpa using same
    | cons c rest =>
      simp only [List.nil_append, List.cons_append, List.cons.injEq] at same
      exact absurd (same.1 ▸ List.mem_cons_self c rest) plain'
  | cons c rest ih =>
    cases head' with
    | nil =>
      simp only [List.nil_append, List.cons_append, List.cons.injEq] at same
      exact absurd (same.1 ▸ List.mem_cons_self c rest) plain
    | cons c' rest' =>
      simp only [List.cons_append, List.cons.injEq] at same
      obtain ⟨rfl, rest_same⟩ := same
      have := ih (fun mem => plain (List.mem_cons_of_mem c mem))
        (fun mem => plain' (List.mem_cons_of_mem c mem)) rest_same
      exact ⟨congrArg _ this.1, this.2⟩

theorem split_at_last_separator {head head' tail tail' : List Char} (plain : separator ∉ tail)
    (plain' : separator ∉ tail') (same : head ++ separator :: tail = head' ++ separator :: tail') :
    head = head' ∧ tail = tail' := by
  have reversed := congrArg List.reverse same
  simp only [List.reverse_append, List.reverse_cons, List.append_assoc, List.singleton_append] at reversed
  obtain ⟨tails, heads⟩ := split_at_first_separator (by simpa using plain) (by simpa using plain') reversed
  exact ⟨List.reverse_injective heads, List.reverse_injective tails⟩

end Separator

/-! ### What `UpsertDashboard` does to the object it is handed -/

def HasDisplayName (persesDashboard : Unstructured) : Prop :=
  ∃ spec display name, persesDashboard.object.lookup "spec" = some (.object spec) ∧
    spec.lookup "display" = some (.object display) ∧ display.lookup "name" = some name ∧
    name ≠ .string ""

theorem defaultDisplayName_eq_self (display : Fields) (resourceNamespace resourceName : String) :
    defaultDisplayName display resourceNamespace resourceName = display ↔
      ∃ name, display.lookup "name" = some name ∧ name ≠ .string "" := by
  unfold defaultDisplayName
  split
  · rename_i missing
    refine ⟨fun same => ?_, fun ⟨_, present, _⟩ => by simp [missing] at present⟩
    have := congrArg (List.lookup "name") same
    simp [Fields.lookup_set, missing] at this
  · rename_i empty
    refine ⟨fun same => ?_, fun ⟨_, present, nonempty⟩ => ?_⟩
    · have := congrArg (List.lookup "name") same
      simp [Fields.lookup_set, empty, String.ext_iff] at this
    · rw [empty, Option.some.injEq] at present
      exact absurd present.symm nonempty
  · rename_i name nonempty present
    exact iff_of_true rfl ⟨name, present, nonempty⟩

/-- `UpsertDashboard` gets as far as the display: the config validates, the spec is a map, and its
display is a map or missing. -/
def ReachesDisplay (r : PersesDashboardReconciler) (apiConfig : Option ApiConfig)
    (persesDashboard : Unstructured) : Prop :=
  (validateConfigAndRenderUrl r persesDashboard apiConfig).isSome ∧
    ∃ spec display, persesDashboard.object.lookup "spec" = some (.object spec) ∧ displayOf spec = some display

/-- `UpsertDashboard` leaves the object it is handed as it was exactly when it returns before the
display or the dashboard already has a non-empty display name; otherwise it writes
`spec.display.name` into it, whether or not `http.NewRequest` then accepts the URL. -/
theorem upsert_leaves_object_iff (r : PersesDashboardReconciler) (apiConfig : Option ApiConfig)
    (persesDashboard : Unstructured) (res : DoOutcome) :
    (UpsertDashboard r apiConfig persesDashboard res).1 = persesDashboard ↔
      (ReachesDisplay r apiConfig persesDashboard → HasDisplayName persesDashboard) := by
  unfold UpsertDashboard
  split
  · next invalid => simp [ReachesDisplay, invalid]
  · rename_i valResult valid
    split
    · rename_i spec specPresent
      split
      · next noDisplay =>
        refine iff_of_true rfl fun ⟨_, spec', display, specPresent', displayed⟩ => ?_
        cases specPresent.symm.trans specPresent'
        cases noDisplay.symm.trans displayed
      · rename_i display displayed
        have reaches : ReachesDisplay r apiConfig persesDashboard :=
          ⟨by simp [valid], spec, display, specPresent, displayed⟩
        simp only [reaches, true_implies]
        constructor
        · intro same
          have specSame := congrArg (fun d : Unstructured => d.object.lookup "spec") same
          simp only [Fields.lookup_set, if_true, specPresent, Option.some.injEq, Value.object.injEq]
            at specSame
          have displayPresent := congrArg (List.lookup "display") specSame
          rw [Fields.lookup_set, if_pos rfl] at displayPresent
          simp only [displayOf, ← displayPresent, Option.some.injEq] at displayed
          obtain ⟨name, namePresent, nonempty⟩ := (defaultDisplayName_eq_self _ _ _).mp displayed
          exact ⟨spec, display, name, specPresent, displayed ▸ displayPresent.symm, namePresent, nonempty⟩
        · rintro ⟨spec', display', name, specPresent', displayPresent, namePresent, nonempty⟩
          cases specPresent.symm.trans specPresent'
          simp only [displayOf, displayPresent, Option.some.injEq] at displayed
          subst displayed
          rw [(defaultDisplayName_eq_self _ _ _).mpr ⟨name, namePresent, nonempty⟩,
            Fields.set_lookup_self _ _ _ displayPresent, Fields.set_lookup_self _ _ _ specPresent]
    · next notMap =>
      exact iff_of_true rfl fun ⟨_, spec, _, specPresent, _⟩ => (notMap spec specPresent).elim

def sampleDashboard : Unstructured :=
  ⟨[("metadata", .object [("namespace", .string "ns"), ("name", .string "dashboards")]),
    ("spec", .object [])]⟩

theorem upsert_writes_display_into_event_object :
    sampleDashboard.object.lookup "spec" = some (.object []) ∧
      (UpsertDashboard ⟨"5a1e0c4b-kube-system", "auth-token"⟩ (some ⟨"https://api.dash0.com", ""⟩)
        sampleDashboard (.response 200 (some ""))).1.object.lookup "spec" =
        some (.object [("display", .object [("name", .string "ns/dashboards")])]) :=
  ⟨rfl, rfl⟩

/-! ### The requests of one dashboard -/

/-- The dataset of a config, `default` when it is empty. -/
def datasetOf (apiConfig : ApiConfig) : String := if apiConfig.dataset = "" then "default" else apiConfig.dataset

def dashboardUrl (r : PersesDashboardReconciler) (apiConfig : ApiConfig) (key : String × String) : String :=
  (renderDashboardUrl r apiConfig.endpoint key.1 key.2 (datasetOf apiConfig)).1

section Config

variable {r : PersesDashboardReconciler} {apiConfig : ApiConfig}

theorem validateConfigAndRenderUrl_of_named (configured : apiConfig.endpoint ≠ "") (token : r.authToken ≠ "")
    {object : Unstructured} {key : String × String} (named : readNamespaceAndName object = some key) :
    ∃ origin, validateConfigAndRenderUrl r object (some apiConfig) =
      some ⟨key.1, key.2, dashboardUrl r apiConfig key, origin, r.authToken⟩ := by
  simp [validateConfigAndRenderUrl, configured, token, named, dashboardUrl, datasetOf]

theorem DeleteDashboard_request (configured : apiConfig.endpoint ≠ "") (token : r.authToken ≠ "")
    {object : Unstructured} {key : String × String} (named : readNamespaceAndName object = some key)
    (res : DoOutcome) :
    (DeleteDashboard r (some apiConfig) object res).1 =
      (NewRequest (dashboardUrl r apiConfig key)).toOption.map fun url => ⟨"DELETE", url, r.authToken, none⟩ := by
  obtain ⟨origin, valid⟩ := validateConfigAndRenderUrl_of_named configured token named
  simp only [DeleteDashboard, valid]
  cases NewRequest (dashboardUrl r apiConfig key) <;> rfl

theorem UpsertDashboard_url (configured : apiConfig.endpoint ≠ "") (token : r.authToken ≠ "")
    {object : Unstructured} {key : String × String} (named : readNamespaceAndName object = some key)
    {spec display : Fields} (specPresent : object.object.lookup "spec" = some (.object spec))
    (displayed : displayOf spec = some display) (res : DoOutcome) :
    (UpsertDashboard r (some apiConfig) object res).2.1.map DashboardRequest.url =
      (NewRequest (dashboardUrl r apiConfig key)).toOption := by
  obtain ⟨origin, valid⟩ := validateConfigAndRenderUrl_of_named configured token named
  simp only [UpsertDashboard, valid, specPresent, displayed]
  cases NewRequest (dashboardUrl r apiConfig key) <;> rfl

end Config

/-! ### Where the requests of a dashboard go -/

/-- The characters of Kubernetes object names: lower-case letters, digits, `-` and `.`. -/
def KubernetesName (s : String) : Prop := ∀ c ∈ s.toList, c.isLower ∨ c.isDigit ∨ c = '-' ∨ c = '.'

instance : DecidablePred KubernetesName := fun s =>
  inferInstanceAs (Decidable (∀ c ∈ s.toList, c.isLower ∨ c.isDigit ∨ c = '-' ∨ c = '.'))

theorem KubernetesName.not_mem {s : String} (named : KubernetesName s) {c : Char}
    (other : ¬(c.isLower ∨ c.isDigit ∨ c = '-' ∨ c = '.')) : c ∉ s.toList :=
  fun member => other (named c member)

theorem KubernetesName.unreserved {s : String} (named : KubernetesName s) : ∀ c ∈ s.toList, unreserved c := by
  intro c member
  rcases named c member with lower | digit | rfl | rfl
  · simp [NetUrl.unreserved, Char.isAlphanum, Char.isAlpha, lower]
  · simp [NetUrl.unreserved, Char.isAlphanum, digit]
  all_goals decide

/-- No `?` and no `#` in the texts the controller splices unescaped into every dashboard URL. -/
def PlainUrlParts (r : PersesDashboardReconciler) (apiConfig : ApiConfig) : Prop :=
  ∀ part ∈ [apiConfig.endpoint, r.pseudoClusterUid, datasetOf apiConfig], '?' ∉ part.toList ∧ '#' ∉ part.toList

instance (r : PersesDashboardReconciler) (apiConfig : ApiConfig) : Decidable (PlainUrlParts r apiConfig) :=
  inferInstanceAs (Decidable (∀ part ∈ [apiConfig.endpoint, r.pseudoClusterUid, datasetOf apiConfig],
    '?' ∉ part.toList ∧ '#' ∉ part.toList))

def dashboardUrlPrefix (r : PersesDashboardReconciler) (apiConfig : ApiConfig) : String :=
  (if hasSlashSuffix apiConfig.endpoint then apiConfig.endpoint else apiConfig.endpoint ++ "/") ++ "api/dashboards/" ++
    ("dash0-operator_" ++ r.pseudoClusterUid ++ "_" ++ datasetOf apiConfig ++ "_")

theorem dashboardUrl_toList (r : PersesDashboardReconciler) (apiConfig : ApiConfig) (key : String × String) :
    (dashboardUrl r apiConfig key).toList = (dashboardUrlPrefix r apiConfig).toList ++ (key.1 ++ "_" ++ key.2).toList ++
      '?' :: ("dataset=" ++ datasetOf apiConfig).toList := by
  simp only [dashboardUrl, renderDashboardUrl, dashboardUrlPrefix, String.toList, String.data_append, List.append_assoc]
  rfl

section Routes

variable {r : PersesDashboardReconciler} {apiConfig : ApiConfig}

theorem dashboardUrlPrefix_pathPrefix (plain : PlainUrlParts r apiConfig) :
    PathPrefix (dashboardUrlPrefix r apiConfig).toList := by
  have endpointPlain := (plain apiConfig.endpoint (by simp)).1
  have uidPlain := (plain r.pseudoClusterUid (by simp)).1
  have datasetPlain := (plain (datasetOf apiConfig) (by simp)).1
  have slashed : '?' ∉ (if hasSlashSuffix apiConfig.endpoint then apiConfig.endpoint else apiConfig.endpoint ++ "/").toList := by
    split_ifs <;> simp_all [String.toList, String.data_append]
  refine ⟨⟨(if hasSlashSuffix apiConfig.endpoint then apiConfig.endpoint else apiConfig.endpoint ++ "/").toList ++
    "api".toList, "dashboards".toList, ("dash0-operator_" ++ r.pseudoClusterUid ++ "_" ++ datasetOf apiConfig ++ "_").toList,
    ?_, by decide⟩, ?_, ?_⟩
  · simp only [dashboardUrlPrefix, String.toList, String.data_append, List.append_assoc]
    rfl
  · simp only [String.toList] at slashed uidPlain datasetPlain
    simp [dashboardUrlPrefix, String.toList, String.data_append, slashed, uidPlain, datasetPlain]
  · intro c last
    simp only [dashboardUrlPrefix, String.toList, String.data_append, List.getLast?_append] at last
    simp at last
    subst last
    decide

theorem unreserved_key {key : String × String} (named : KubernetesName key.1 ∧ KubernetesName key.2) :
    ∀ c ∈ (key.1 ++ "_" ++ key.2).toList, unreserved c := by
  intro c member
  simp only [String.toList, String.data_append, List.mem_append] at member
  rcases member with (inNamespace | underscore) | inName
  · exact named.1.unreserved c inNamespace
  · simp only [List.mem_singleton] at underscore
    subst underscore
    decide
  · exact named.2.unreserved c inName

theorem NewRequest_dashboardUrl (plain : PlainUrlParts r apiConfig) {key : String × String}
    (named : KubernetesName key.1 ∧ KubernetesName key.2) :
    (NewRequest (dashboardUrl r apiConfig key)).toOption =
      (parse ((dashboardUrlPrefix r apiConfig).toList ++ '?' :: ("dataset=" ++ datasetOf apiConfig).toList)).toOption.map
        (Url.withoutEmptyPort ∘ Url.extend (key.1 ++ "_" ++ key.2).toList) := by
  have endpointPlain := (plain apiConfig.endpoint (by simp)).2
  have uidPlain := (plain r.pseudoClusterUid (by simp)).2
  have datasetPlain := (plain (datasetOf apiConfig) (by simp)).2
  have noFragment : '#' ∉ (dashboardUrl r apiConfig key).toList := by
    have namespacePlain := named.1.not_mem (c := '#') (by decide)
    have namePlain := named.2.not_mem (c := '#') (by decide)
    simp only [String.toList] at endpointPlain uidPlain datasetPlain namespacePlain namePlain
    rw [dashboardUrl_toList]
    simp only [dashboardUrlPrefix]
    split_ifs <;> simp [String.toList, String.data_append, endpointPlain, uidPlain, datasetPlain, namespacePlain, namePlain]
  unfold NewRequest
  rw [toOption_map, Parse_toOption noFragment, dashboardUrl_toList,
    parse_append_unreserved (dashboardUrlPrefix_pathPrefix plain) (unreserved_key named), Option.map_map]

theorem dashboard_paths_distinct (plain : PlainUrlParts r apiConfig) {key key' : String × String}
    (named : KubernetesName key.1 ∧ KubernetesName key.2) (named' : KubernetesName key'.1 ∧ KubernetesName key'.2)
    {url url' : Url} (parsed : NewRequest (dashboardUrl r apiConfig key) = .ok url)
    (parsed' : NewRequest (dashboardUrl r apiConfig key') = .ok url') (hosted : url.host ≠ [])
    (same : url.path = url'.path) : key = key' := by
  have route := NewRequest_dashboardUrl plain named
  have route' := NewRequest_dashboardUrl plain named'
  rw [parsed, toOption_ok] at route
  rw [parsed', toOption_ok] at route'
  rcases shared : parse ((dashboardUrlPrefix r apiConfig).toList ++ '?' :: ("dataset=" ++ datasetOf apiConfig).toList)
    with err | base
  · rw [shared] at route
    cases route
  rw [shared, toOption_ok, Option.map_some'] at route route'
  cases route
  cases route'
  have rootless : base.rootless = [] := (parse_rootless shared).resolve_right fun empty => hosted (by
    simp [Url.withoutEmptyPort, removeEmptyPort, empty])
  simp only [Function.comp, Url.withoutEmptyPort, Url.extend_of_rootless rootless, List.append_cancel_left_eq] at same
  have names := utf8_injective_of_unreserved (unreserved_key named) (unreserved_key named') same
  simp only [String.toList, String.data_append, List.append_assoc, List.singleton_append] at names
  obtain ⟨namespaces, names⟩ := split_at_last_separator (named.2.not_mem (by decide)) (named'.2.not_mem (by decide)) names
  exact Prod.ext (String.ext namespaces) (String.ext names)

theorem fragment_in_dataset_hides_dashboard (dataset₁ dataset₂ : String)
    (dataset : datasetOf apiConfig = dataset₁ ++ "#" ++ dataset₂)
    (noFragment : '#' ∉ apiConfig.endpoint.toList ∧ '#' ∉ r.pseudoClusterUid.toList ∧ '#' ∉ dataset₁.toList)
    (noEscape : '%' ∉ dataset₁.toList ∧ '%' ∉ dataset₂.toList) {key key' : String × String}
    (named : KubernetesName key.1 ∧ KubernetesName key.2) (named' : KubernetesName key'.1 ∧ KubernetesName key'.2) :
    NewRequest (dashboardUrl r apiConfig key) = NewRequest (dashboardUrl r apiConfig key') := by
  let before := (if hasSlashSuffix apiConfig.endpoint then apiConfig.endpoint else apiConfig.endpoint ++ "/") ++
    "api/dashboards/" ++ ("dash0-operator_" ++ r.pseudoClusterUid ++ "_" ++ dataset₁)
  have cutOff : ∀ key : String × String, KubernetesName key.1 ∧ KubernetesName key.2 →
      NewRequest (dashboardUrl r apiConfig key) = NewRequest before := by
    intro key named
    have split : dashboardUrl r apiConfig key = String.mk (before.toList ++ '#' ::
        (dataset₂ ++ "_" ++ key.1 ++ "_" ++ key.2 ++ "?dataset=" ++ dataset₁ ++ "#" ++ dataset₂).toList) := by
      rw [String.ext_iff, ← String.toList, dashboardUrl_toList]
      simp [before, dashboardUrlPrefix, dataset, String.toList, String.data_append]
    have beforePlain : '#' ∉ before.toList := by
      obtain ⟨endpointPlain, uidPlain, datasetPlain⟩ := noFragment
      simp only [String.toList] at endpointPlain uidPlain datasetPlain
      simp only [before]
      split_ifs <;> simp [String.toList, String.data_append, endpointPlain, uidPlain, datasetPlain]
    have afterPlain : '%' ∉ (dataset₂ ++ "_" ++ key.1 ++ "_" ++ key.2 ++ "?dataset=" ++ dataset₁ ++ "#" ++ dataset₂).toList := by
      have namespacePlain := named.1.not_mem (c := '%') (by decide)
      have namePlain := named.2.not_mem (c := '%') (by decide)
      obtain ⟨datasetPlain, datasetPlain'⟩ := noEscape
      simp only [String.toList] at namespacePlain namePlain datasetPlain datasetPlain'
      simp [String.toList, String.data_append, namespacePlain, namePlain, datasetPlain, datasetPlain']
    rw [split, NewRequest, NewRequest, Parse_append_fragment beforePlain afterPlain]
    rfl
  rw [cutOff key named, cutOff key' named']

end Routes

def dashboardNamed (resourceNamespace resourceName : String) : Unstructured :=
  ⟨[("metadata", .object [("namespace", .string resourceNamespace), ("name", .string resourceName)]),
    ("spec", .object [])]⟩

theorem fragment_dataset_merges_dashboards (res : DoOutcome) :
    let r : PersesDashboardReconciler := ⟨"5a1e0c4b-kube-system", "auth-token"⟩
    let apiConfig : ApiConfig := ⟨"https://api.dash0.com", "x#y"⟩
    (renderDashboardUrl r apiConfig.endpoint "ns" "a" apiConfig.dataset).2 ≠
        (renderDashboardUrl r apiConfig.endpoint "ns" "b" apiConfig.dataset).2 ∧
      (UpsertDashboard r (some apiConfig) (dashboardNamed "ns" "a") res).2.1.map DashboardRequest.url =
        (UpsertDashboard r (some apiConfig) (dashboardNamed "ns" "b") res).2.1.map DashboardRequest.url ∧
      (DeleteDashboard r (some apiConfig) (dashboardNamed "ns" "a") res).1 =
        (DeleteDashboard r (some apiConfig) (dashboardNamed "ns" "b") res).1 ∧
      (DeleteDashboard r (some apiConfig) (dashboardNamed "ns" "a") res).1.map (fun request => request.url.path) =
        some (utf8 "/api/dashboards/dash0-operator_5a1e0c4b-kube-system_x".toList) := by
  intro r apiConfig
  have same : NewRequest (dashboardUrl r apiConfig ("ns", "a")) = NewRequest (dashboardUrl r apiConfig ("ns", "b")) :=
    @fragment_in_dataset_hides_dashboard r apiConfig "x" "y" rfl ⟨by decide, by decide, by decide⟩
      ⟨by decide, by decide⟩ ("ns", "a") ("ns", "b") ⟨by decide, by decide⟩ ⟨by decide, by decide⟩
  have configured : apiConfig.endpoint ≠ "" := by decide
  have token : r.authToken ≠ "" := by decide
  have namedA : readNamespaceAndName (dashboardNamed "ns" "a") = some ("ns", "a") := rfl
  have namedB : readNamespaceAndName (dashboardNamed "ns" "b") = some ("ns", "b") := rfl
  rw [UpsertDashboard_url configured token namedA rfl rfl, UpsertDashboard_url configured token namedB rfl rfl,
    DeleteDashboard_request configured token namedA, DeleteDashboard_request configured token namedB, same]
  exact ⟨by decide, rfl, rfl, rfl⟩

end Dash0Operator.PersesDashboards
