import Dash0Operator.Basic
import Mathlib.Data.List.Nodup

/-! The HTTP path of the synchronization engine: `executeSingleHttpRequest`,
`executeSingleHttpRequestWithRetry` and `executeAllHttpRequests`. The HTTP client is the sequence of
answers `HttpClient().Do` gives, read one call after the other, so every behaviour of the Dash0 API
and of the network is one such sequence. -/

namespace Dash0Operator.Http

/-- A prepared request and the item it synchronizes. Only the URL of the request is read here, for
the messages. -/
structure HttpRequestWithItemName where
  itemName : String
  url : String
  deriving DecidableEq, Repr

/-- One answer of `HttpClient().Do`: a transport error, or a response with its status code and its
body (`none` when reading the body fails). -/
inductive DoOutcome where
  | transportError (err : String)
  | response (statusCode : Int) (body : Option String)
  deriving DecidableEq, Repr

/-- The answers of the HTTP client, of which the first `calls` are used up. -/
structure HttpClient where
  responses : Nat → DoOutcome
  calls : Nat

/-- `HttpClient().Do`: the next answer. -/
def HttpClient.doRequest (client : HttpClient) : DoOutcome × HttpClient :=
  (client.responses client.calls, { client with calls := client.calls + 1 })

structure RetryableError where
  err : String
  retryable : Bool
  deriving DecidableEq, Repr

def convertNon2xxStatusCodeToError (shortName : String) (req : HttpRequestWithItemName)
    (statusCode : Int) : Option String → String
  | none =>
    "unable to read the API response payload after receiving status code " ++ toString statusCode ++
      " when trying to udpate/create/delete the " ++ shortName ++ " \"" ++ req.itemName ++ "\" at " ++
      req.url
  | some responseBody =>
    "unexpected status code " ++ toString statusCode ++ " when updating/creating/deleting the " ++
      shortName ++ " \"" ++ req.itemName ++ "\" at " ++ req.url ++ ", response body is " ++
      responseBody

/-- The error `executeSingleHttpRequest` makes of one answer of `Do`. -/
def executeSingleHttpRequest (shortName : String) (req : HttpRequestWithItemName) :
    DoOutcome → Option RetryableError
  | .transportError err => some ⟨err, true⟩
  | .response statusCode body =>
    if statusCode < 200 ∨ statusCode ≥ 300 then
      if statusCode ≥ 400 ∧ statusCode < 500 then
        some ⟨convertNon2xxStatusCodeToError shortName req statusCode body, false⟩
      else
        some ⟨convertNon2xxStatusCodeToError shortName req statusCode body, true⟩
    else none

/-- One attempt: one call of `Do`, classified. -/
def attempt (shortName : String) (req : HttpRequestWithItemName) (client : HttpClient) :
    Option RetryableError × HttpClient :=
  let (res, client) := client.doRequest
  (executeSingleHttpRequest shortName req res, client)

/-- `retry.OnError` with `Steps: 3`; `errors.As` finds the `retryableError` that every error of
`executeSingleHttpRequest` is. -/
def executeSingleHttpRequestWithRetry (shortName : String) (req : HttpRequestWithItemName)
    (client : HttpClient) : Option RetryableError × HttpClient :=
  onError RetryableError.retryable (attempt shortName req) 3 none client

/-- One turn of the loop of `executeAllHttpRequests`. -/
def executeRequest (shortName : String) (acc : (List String × GoMap String) × HttpClient)
    (req : HttpRequestWithItemName) : (List String × GoMap String) × HttpClient :=
  let ((successfullySynchronized, httpErrors), client) := acc
  match executeSingleHttpRequestWithRetry shortName req client with
  | (some err, client) => ((successfullySynchronized, httpErrors.insert req.itemName err.err), client)
  | (none, client) => ((successfullySynchronized ++ [req.itemName], httpErrors), client)

/-- The names of the items that were synchronized and the message of each item that failed. The
source turns an empty name slice into `nil`, which is the same list here. -/
def executeAllHttpRequests (shortName : String) (allRequests : List HttpRequestWithItemName)
    (client : HttpClient) : (List String × GoMap String) × HttpClient :=
  allRequests.foldl (executeRequest shortName) (([], GoMap.empty), client)

/-! ### The retry law of one request -/

def DoOutcome.successful : DoOutcome → Bool
  | .transportError _ => false
  | .response statusCode _ => 200 ≤ statusCode ∧ statusCode < 300

def DoOutcome.final : DoOutcome → Bool
  | .transportError _ => false
  | .response statusCode _ =>
    (200 ≤ statusCode ∧ statusCode < 300) ∨ (400 ≤ statusCode ∧ statusCode < 500)

def retryAttempts (client : HttpClient) : Nat :=
  match ((List.range 3).map fun i => client.responses (client.calls + i)).findIdx? DoOutcome.final with
  | some i => i + 1
  | none => 3

/-- How many answers `steps` steps of the retry loop read from position `calls` on. -/
def attemptCount (responses : Nat → DoOutcome) (calls : Nat) : Nat → Nat
  | 0 => 0
  | steps + 1 => if (responses calls).final then 1 else attemptCount responses (calls + 1) steps + 1

@[simp] theorem attempt_eq (shortName : String) (req : HttpRequestWithItemName) (client : HttpClient) :
    attempt shortName req client =
      (executeSingleHttpRequest shortName req (client.responses client.calls),
        { client with calls := client.calls + 1 }) := rfl

theorem executeSingleHttpRequest_eq_none_iff (shortName : String) (req : HttpRequestWithItemName)
    (res : DoOutcome) : executeSingleHttpRequest shortName req res = none ↔ res.successful := by
  cases res with
  | transportError => simp [executeSingleHttpRequest, DoOutcome.successful]
  | response statusCode body =>
    simp only [executeSingleHttpRequest, DoOutcome.successful]
    split_ifs <;> simp_all <;> omega

theorem executeSingleHttpRequest_final (shortName : String) (req : HttpRequestWithItemName)
    (res : DoOutcome) :
    (match executeSingleHttpRequest shortName req res with
      | none => true
      | some err => !err.retryable) = res.final := by
  cases res with
  | transportError => rfl
  | response statusCode body =>
    simp only [executeSingleHttpRequest, DoOutcome.final]
    split_ifs <;> simp_all
    omega

theorem onError_attempt (shortName : String) (req : HttpRequestWithItemName) (steps : Nat) :
    ∀ (lastErr : Option RetryableError) (client : HttpClient),
      onError RetryableError.retryable (attempt shortName req) (steps + 1) lastErr client =
        (executeSingleHttpRequest shortName req
            (client.responses (client.calls + attemptCount client.responses client.calls (steps + 1) - 1)),
          { client with calls := client.calls + attemptCount client.responses client.calls (steps + 1) }) := by
  induction steps with
  | zero =>
    intro lastErr client
    have final := executeSingleHttpRequest_final shortName req (client.responses client.calls)
    simp only [onError, attempt_eq, attemptCount]
    split <;> split_ifs <;> simp_all
  | succ steps ih =>
    intro lastErr client
    have final := executeSingleHttpRequest_final shortName req (client.responses client.calls)
    rw [onError, attempt_eq]
    cases result : executeSingleHttpRequest shortName req (client.responses client.calls) with
    | none => simp_all [attemptCount]
    | some err =>
      cases retryable : err.retryable
      · simp_all [attemptCount]
      · have more : attemptCount client.responses client.calls (steps + 1 + 1) =
            attemptCount client.responses (client.calls + 1) (steps + 1) + 1 := by
          simp_all [attemptCount]
        have shift : ∀ n, client.calls + 1 + n = client.calls + (n + 1) := fun n => by omega
        simp only [retryable, if_true, ih, more, shift]

theorem retryAttempts_eq (client : HttpClient) :
    retryAttempts client = attemptCount client.responses client.calls 3 := by
  simp only [retryAttempts, attemptCount, List.range_succ, List.range_zero, List.nil_append,
    List.map_append, List.map_cons, List.map_nil, List.cons_append, List.findIdx?_cons,
    List.findIdx?_nil, Nat.add_zero]
  split_ifs <;> rfl

/-- `executeSingleHttpRequestWithRetry` reads exactly `retryAttempts` answers and returns what
the last of them gives: `nil` for a 2xx, the error of a 4xx at once, and the last error after three
transport errors or 1xx, 3xx or 5xx answers. -/
theorem retry_stops_at_final_answer (shortName : String) (req : HttpRequestWithItemName)
    (client : HttpClient) :
    (executeSingleHttpRequestWithRetry shortName req client).2 =
        { client with calls := client.calls + retryAttempts client } ∧
      (executeSingleHttpRequestWithRetry shortName req client).1 =
        executeSingleHttpRequest shortName req (client.responses (client.calls + retryAttempts client - 1)) ∧
      ((executeSingleHttpRequestWithRetry shortName req client).1 = none ↔
        (client.responses (client.calls + retryAttempts client - 1)).successful) := by
  rw [retryAttempts_eq, executeSingleHttpRequestWithRetry, onError_attempt shortName req 2 none client]
  exact ⟨rfl, rfl, executeSingleHttpRequest_eq_none_iff _ _ _⟩

example : retryAttempts ⟨fun _ => .response 503 (some ""), 0⟩ = 3 := by decide
example : retryAttempts ⟨fun _ => .response 404 (some ""), 0⟩ = 1 := by decide

/-! ### All requests of one resource -/

def requestResults (shortName : String) :
    List HttpRequestWithItemName → HttpClient → List (Option RetryableError)
  | [], _ => []
  | req :: rest, client =>
    (executeSingleHttpRequestWithRetry shortName req client).1 ::
      requestResults shortName rest (executeSingleHttpRequestWithRetry shortName req client).2

def failures (outcomes : List (HttpRequestWithItemName × Option RetryableError)) :
    List (String × String) :=
  outcomes.filterMap fun outcome => outcome.2.map fun err => (outcome.1.itemName, err.err)

def successes (outcomes : List (HttpRequestWithItemName × Option RetryableError)) : List String :=
  (outcomes.filter fun outcome => outcome.2.isNone).map fun outcome => outcome.1.itemName

theorem failures_keys_subset (reqs : List HttpRequestWithItemName)
    (results : List (Option RetryableError)) {key : String}
    (failed : key ∈ (failures (reqs.zip results)).map Prod.fst) : key ∈ reqs.map (·.itemName) := by
  simp only [failures, List.mem_map, List.mem_filterMap, Option.map_eq_some'] at failed
  obtain ⟨_, ⟨⟨req, result⟩, mem, err, -, rfl⟩, rfl⟩ := failed
  exact List.mem_map_of_mem _ (List.of_mem_zip mem).1

theorem executeRequest_fold (shortName : String) (reqs : List HttpRequestWithItemName) :
    ∀ (acc : (List String × GoMap String) × HttpClient),
      (reqs.foldl (executeRequest shortName) acc).1.1 =
        acc.1.1 ++ successes (reqs.zip (requestResults shortName reqs acc.2)) := by
  induction reqs with
  | nil => simp [successes, requestResults]
  | cons req rest ih =>
    rintro ⟨⟨successfullySynchronized, httpErrors⟩, client⟩
    rw [List.foldl_cons, ih]
    simp only [executeRequest, requestResults, List.zip_cons_cons]
    cases executeSingleHttpRequestWithRetry shortName req client with
    | mk result client' => cases result <;> simp [successes]

theorem executeRequest_fold_errors (shortName : String) (reqs : List HttpRequestWithItemName)
    (distinct : (reqs.map (·.itemName)).Nodup) :
    ∀ (acc : (List String × GoMap String) × HttpClient) (entry : String × String),
      entry ∈ (reqs.foldl (executeRequest shortName) acc).1.2.entries ↔
        entry ∈ failures (reqs.zip (requestResults shortName reqs acc.2)) ∨
          (entry ∈ acc.1.2.entries ∧
            entry.1 ∉ (failures (reqs.zip (requestResults shortName reqs acc.2))).map Prod.fst) := by
  induction reqs with
  | nil => simp [failures, requestResults]
  | cons req rest ih =>
    rintro ⟨⟨successfullySynchronized, httpErrors⟩, client⟩ entry
    simp only [List.map_cons, List.nodup_cons] at distinct
    rw [List.foldl_cons, ih distinct.2]
    simp only [executeRequest, requestResults, List.zip_cons_cons]
    cases executeSingleHttpRequestWithRetry shortName req client with
    | mk result client' =>
      cases result with
      | none => simp [failures]
      | some err =>
        have fresh := mt (failures_keys_subset rest (requestResults shortName rest client')) distinct.1
        simp only [failures, List.filterMap_cons, Option.map_some'] at fresh ⊢
        exact GoMap.mem_insert_before _ _ _ _ fresh entry

theorem requestResults_length (shortName : String) (reqs : List HttpRequestWithItemName) :
    ∀ client, (requestResults shortName reqs client).length = reqs.length := by
  induction reqs with
  | nil => intro; rfl
  | cons req rest ih => intro client; simp [requestResults, ih]

def outcomes (shortName : String) (reqs : List HttpRequestWithItemName) (client : HttpClient) :
    List (HttpRequestWithItemName × Option RetryableError) :=
  reqs.zip (requestResults shortName reqs client)

theorem outcomes_requests (shortName : String) (reqs : List HttpRequestWithItemName)
    (client : HttpClient) : (outcomes shortName reqs client).map Prod.fst = reqs :=
  List.map_fst_zip _ _ (requestResults_length shortName reqs client).ge

theorem executeAllHttpRequests_spec (shortName : String) (reqs : List HttpRequestWithItemName)
    (client : HttpClient) :
    (executeAllHttpRequests shortName reqs client).1.1 = successes (outcomes shortName reqs client) ∧
      ((reqs.map (·.itemName)).Nodup → ∀ entry,
        entry ∈ (executeAllHttpRequests shortName reqs client).1.2.entries ↔
          entry ∈ failures (outcomes shortName reqs client)) :=
  ⟨executeRequest_fold shortName reqs _,
    fun distinct entry => by
      simpa [GoMap.empty] using executeRequest_fold_errors shortName reqs distinct (([], .empty), client) entry⟩

theorem mem_successes {outcomes : List (HttpRequestWithItemName × Option RetryableError)}
    {name : String} : name ∈ successes outcomes ↔ ∃ req, (req, none) ∈ outcomes ∧ req.itemName = name := by
  simp [successes]

theorem mem_failures_keys {outcomes : List (HttpRequestWithItemName × Option RetryableError)}
    {key : String} :
    key ∈ (failures outcomes).map Prod.fst ↔
      ∃ req err, (req, some err) ∈ outcomes ∧ req.itemName = key := by
  simp only [failures, List.mem_map, List.mem_filterMap, Option.map_eq_some']
  constructor
  · rintro ⟨_, ⟨⟨req, _⟩, mem, err, rfl, rfl⟩, rfl⟩
    exact ⟨req, err, mem, rfl⟩
  · rintro ⟨req, err, mem, rfl⟩
    exact ⟨_, ⟨_, mem, err, rfl, rfl⟩, rfl⟩

theorem successes_or_failed (shortName : String) (reqs : List HttpRequestWithItemName)
    (client : HttpClient) {req : HttpRequestWithItemName} (present : req ∈ reqs) :
    req.itemName ∈ successes (outcomes shortName reqs client) ∨
      req.itemName ∈ (failures (outcomes shortName reqs client)).map Prod.fst := by
  rw [← outcomes_requests shortName reqs client, List.mem_map] at present
  obtain ⟨⟨req, result⟩, mem, rfl⟩ := present
  cases result with
  | none => exact .inl (mem_successes.mpr ⟨req, mem, rfl⟩)
  | some err => exact .inr (mem_failures_keys.mpr ⟨req, err, mem, rfl⟩)

theorem successes_not_failed (shortName : String) (reqs : List HttpRequestWithItemName)
    (client : HttpClient) (distinct : (reqs.map (·.itemName)).Nodup) {name : String}
    (succeeded : name ∈ successes (outcomes shortName reqs client)) :
    name ∉ (failures (outcomes shortName reqs client)).map Prod.fst := by
  rintro failed
  obtain ⟨req, mem, rfl⟩ := mem_successes.mp succeeded
  obtain ⟨req', err, mem', same⟩ := mem_failures_keys.mp failed
  rw [← outcomes_requests shortName reqs client, List.map_map] at distinct
  have := List.inj_on_of_nodup_map distinct mem' mem same
  simp at this

end Dash0Operator.Http
