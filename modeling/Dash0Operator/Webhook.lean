import Mathlib.Data.List.Basic

/-! The routing of the admission webhook (`dash0_webhook.go`): the table from group, kind and
version to the handler of a workload type, `routeFor`, and which handler `Handle` calls. What the
handlers answer is in `WebhookHandlers`. -/

namespace Dash0Operator.Webhook

/-- The `resourceHandler` values the routing can hold. -/
inductive ResourceHandler where
  | handleCronJob
  | handleJob
  | handleDaemonSet
  | handleDeployment
  | handleReplicaSet
  | handleStatefulSet
  | fallbackRoute
  deriving DecidableEq, Repr

/-- `routing`: group, then kind, then version, each level a Go map. -/
abbrev Routing := List (String × List (String × List (String × ResourceHandler)))

def routes : Routing :=
  [("batch", [("CronJob", [("v1", .handleCronJob)]), ("Job", [("v1", .handleJob)])]),
    ("apps", [("DaemonSet", [("v1", .handleDaemonSet)]), ("Deployment", [("v1", .handleDeployment)]),
      ("ReplicaSet", [("v1", .handleReplicaSet)]), ("StatefulSet", [("v1", .handleStatefulSet)])])]

/-- `routeFor`; `none` is a nil `resourceHandler`. -/
def routeFor (r : Routing) (group kind version : String) : Option ResourceHandler :=
  match r.lookup group with
  | none => none
  | some routesForGroup =>
    match routesForGroup.lookup kind with
    | none => none
    | some routesForKind =>
      match routesForKind.lookup version with
      | none => some .fallbackRoute
      | some routesForVersion => some routesForVersion

inductive Response where
  | allowed (message : String)
  | handledBy (handler : ResourceHandler)
  deriving DecidableEq, Repr

/-- `Handle`: `none` when the handler `routeFor` returns is nil, whose call panics. -/
def Handle (group version kind : String) : Option Response :=
  let gvkLabel := group ++ "/" ++ version ++ "." ++ kind
  match routeFor routes group kind version with
  | none => none
  | some .fallbackRoute => some (.allowed ("resource type not supported: " ++ gvkLabel))
  | some handler => some (.handledBy handler)

theorem unknown_kind_gets_nil_handler :
    routeFor routes "" "Pod" "v1" = none ∧ Handle "" "v1" "Pod" = none ∧
      routeFor routes "apps" "Deployment" "v1beta1" = some .fallbackRoute := by
  decide

end Dash0Operator.Webhook
