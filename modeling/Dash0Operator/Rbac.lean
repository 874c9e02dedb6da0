import Dash0Operator.DesiredStateConsistency

/-! Kubernetes RBAC over the desired state of `desired_state.go`: which requests a service account
may make with the roles and bindings the operator deploys for its collectors. The authorizer is the
API server's: a request is allowed when a ClusterRoleBinding of the account grants a ClusterRole, or
a RoleBinding in the request's namespace grants a Role of that namespace or a ClusterRole, with a
rule that matches the verb, the API group, the resource and, when the rule lists resource names, the
object's name. Only the objects of the desired state are consulted, so the results say what the
operator's own objects grant. -/

namespace Dash0Operator.Rbac

open DesiredState

/-- The attributes of a resource request the authorizer reads. A cluster-scoped request has the
empty namespace, a request for a collection (`list`, `watch`, `create`) the empty name, and a
subresource is part of the resource (`nodes/stats`). -/
structure Request where
  verb : String
  apiGroup : String
  resource : String
  k8sNamespace : String
  name : String
  deriving DecidableEq, Repr

abbrev Account := String × String

def ruleAllows (rule : PolicyRule) (request : Request) : Prop :=
  (request.verb ∈ rule.verbs ∨ "*" ∈ rule.verbs) ∧
    (request.apiGroup ∈ rule.apiGroups ∨ "*" ∈ rule.apiGroups) ∧
    (request.resource ∈ rule.resources ∨ "*" ∈ rule.resources) ∧
    (rule.resourceNames = [] ∨ request.name ∈ rule.resourceNames)

instance (rule : PolicyRule) (request : Request) : Decidable (ruleAllows rule request) :=
  inferInstanceAs (Decidable (_ ∧ _))

def bindsAccount (binding : RoleBinding) (account : Account) : Prop :=
  ∃ subject ∈ binding.subjects, subject.kind = "ServiceAccount" ∧ account = (subject.k8sNamespace, subject.name)

instance (binding : RoleBinding) (account : Account) : Decidable (bindsAccount binding account) :=
  inferInstanceAs (Decidable (∃ subject ∈ binding.subjects, _))

def roleRules (objects : List Object) (roleRef : RoleRef) (k8sNamespace : String) : List PolicyRule :=
  objects.flatMap fun
    | .role role =>
      if roleRef.kind = "Role" ∧ role.meta.k8sNamespace = k8sNamespace ∧ role.meta.name = roleRef.name
      then role.rules else []
    | .clusterRole role => if roleRef.kind = "ClusterRole" ∧ role.meta.name = roleRef.name then role.rules else []
    | _ => []

def grants (objects : List Object) (account : Account) (request : Request) : Object → Prop
  | .clusterRoleBinding binding =>
    bindsAccount binding account ∧ ∃ rule ∈ roleRules objects binding.roleRef "", ruleAllows rule request
  | .roleBinding binding =>
    request.k8sNamespace ≠ "" ∧ binding.meta.k8sNamespace = request.k8sNamespace ∧ bindsAccount binding account ∧
      ∃ rule ∈ roleRules objects binding.roleRef binding.meta.k8sNamespace, ruleAllows rule request
  | _ => False

instance (objects : List Object) (account : Account) (request : Request) :
    DecidablePred (grants objects account request) := fun
  | .clusterRoleBinding _ => inferInstanceAs (Decidable (_ ∧ _))
  | .roleBinding _ => inferInstanceAs (Decidable (_ ∧ _))
  | .serviceAccount _ | .configMap _ | .role _ | .clusterRole _ | .service _ | .daemonSet _ | .deployment _ =>
    inferInstanceAs (Decidable False)

def Authorized (objects : List Object) (account : Account) (request : Request) : Prop :=
  ∃ object ∈ objects, grants objects account request object

instance (objects : List Object) (account : Account) (request : Request) :
    Decidable (Authorized objects account request) :=
  inferInstanceAs (Decidable (∃ object ∈ objects, _))

def daemonSetAccount (config : OTelColConfig) : Account :=
  (config.k8sNamespace, daemonsetServiceAccountName config.namePrefix)

def deploymentAccount (config : OTelColConfig) : Account :=
  (config.k8sNamespace, deploymentServiceAccountName config.namePrefix)

/-! ## What the desired state grants -/

theorem authorized_iff {c : Collaborators} {config : OTelColConfig}
    {objects : List Object} (assembled : assembleDesiredState c config = (objects, none))
    (account : Account) (request : Request) :
    Authorized objects account request ↔
      (account = daemonSetAccount config ∧
        ∃ rule ∈ (assembleClusterRoleForDaemonSet config).rules, ruleAllows rule request) ∨
      (request.k8sNamespace ≠ "" ∧ config.k8sNamespace = request.k8sNamespace ∧
        account = daemonSetAccount config ∧ ∃ rule ∈ (assembleRole config).rules, ruleAllows rule request) ∨
      (account = deploymentAccount config ∧
        ∃ rule ∈ (assembleClusterRoleForDeployment config).rules, ruleAllows rule request) := by
  obtain ⟨cm1, ds, cm2, dep, -, -, -, -, rfl⟩ := assembleDesiredState_eq_ok assembled
  simp [Authorized, grants, roleRules, bindsAccount, daemonSetAccount, deploymentAccount,
    assembleClusterRoleBindingForDaemonSet, assembleClusterRoleBindingForDeployment, assembleRoleBinding,
    assembleClusterRoleForDaemonSet, assembleClusterRoleForDeployment, assembleRole,
    DaemonSetClusterRoleName, DeploymentClusterRoleName, roleName, name_pair, append_left_inj,
    openTelemetryCollector, openTelemetryCollectorDeploymentNameSuffix]

theorem collector_accounts_write_only_config_maps {c : Collaborators} {config : OTelColConfig}
    {objects : List Object} (assembled : assembleDesiredState c config = (objects, none))
    {account : Account} {request : Request} (authorized : Authorized objects account request) :
    (account = daemonSetAccount config ∨ account = deploymentAccount config) ∧
      (request.verb ∉ ["get", "list", "watch"] →
        account = daemonSetAccount config ∧ request.verb ∈ ["update", "patch"] ∧ request.apiGroup = "" ∧
          request.resource = "configmaps" ∧ request.k8sNamespace = config.k8sNamespace) := by
  rcases (authorized_iff assembled account request).mp authorized with
    ⟨rfl, rules⟩ | ⟨-, own, rfl, rules⟩ | ⟨rfl, rules⟩
  · simp [assembleClusterRoleForDaemonSet, ruleAllows] at rules
    refine ⟨.inl rfl, fun write => ?_⟩
    simp only [List.mem_cons, List.mem_singleton, List.not_mem_nil, or_false, not_or] at write
    rcases rules with ⟨verb, -⟩ | ⟨verb, -⟩ | ⟨verb, -⟩ | ⟨verb, -⟩ <;> simp_all
  · simp [assembleRole, ruleAllows] at rules
    refine ⟨.inl rfl, fun write => ?_⟩
    simp only [List.mem_cons, List.mem_singleton, List.not_mem_nil, or_false, not_or] at write
    simp_all
  · simp [assembleClusterRoleForDeployment, ruleAllows] at rules
    refine ⟨.inr rfl, fun write => ?_⟩
    simp only [List.mem_cons, List.mem_singleton, List.not_mem_nil, or_false, not_or] at write
    rcases rules with ⟨verb, -⟩ | ⟨verb, -⟩ | ⟨verb, -⟩ | ⟨verb, -⟩ | ⟨verb, -⟩ <;> simp_all

/-- The filelog offset synch containers run as the DaemonSet's account, and that account may get,
update and patch the offsets ConfigMap: what `initOffsets` and `patchConfigMap` need. -/
theorem offsets_config_map_writable_by_daemonSet_pods {c : Collaborators} (contract : c.Contract)
    {config : OTelColConfig} {objects : List Object}
    (assembled : assembleDesiredState c config = (objects, none)) (namespaced : config.k8sNamespace ≠ "") :
    (∀ ds, Object.daemonSet ds ∈ objects →
      (ds.meta.k8sNamespace, ds.template.spec.serviceAccountName) = daemonSetAccount config) ∧
      ∀ verb ∈ ["get", "update", "patch"], Authorized objects (daemonSetAccount config)
        ⟨verb, "", "configmaps", config.k8sNamespace, FilelogReceiverOffsetsConfigMapName config.namePrefix⟩ := by
  constructor
  · obtain ⟨-, ds, -, -, -, h2, -, -, rfl⟩ := assembleDesiredState_eq_ok assembled
    obtain ⟨container, -, dsErased, -⟩ := assembleCollectorDaemonSet_eraseEnv contract h2
    intro ds' member
    obtain rfl : ds' = ds := by simpa using member
    exact Prod.ext (congrArg (·.meta.k8sNamespace) dsErased :)
      (congrArg (·.template.spec.serviceAccountName) dsErased :)
  · intro verb allowed
    rw [authorized_iff assembled]
    refine .inr (.inl ⟨namespaced, rfl, rfl, ?_⟩)
    simp only [List.mem_cons, List.mem_singleton, List.not_mem_nil, or_false] at allowed
    rcases allowed with rfl | rfl | rfl <;> simp [assembleRole, ruleAllows]

theorem sample_offsets_config_map_writable :
    let objects := (assembleDesiredState sampleCollaborators sampleConfig).1
    (∀ ds, Object.daemonSet ds ∈ objects →
      (ds.meta.k8sNamespace, ds.template.spec.serviceAccountName) = daemonSetAccount sampleConfig) ∧
      ∀ verb ∈ ["get", "update", "patch"], Authorized objects (daemonSetAccount sampleConfig)
        ⟨verb, "", "configmaps", sampleConfig.k8sNamespace,
          FilelogReceiverOffsetsConfigMapName sampleConfig.namePrefix⟩ :=
  offsets_config_map_writable_by_daemonSet_pods sampleCollaborators_contract
    (show assembleDesiredState sampleCollaborators sampleConfig = (_, none) from rfl) (by decide)

/-- The collector accounts reach ConfigMaps only in the operator's namespace. The DaemonSet's
ClusterRole rule for `configmaps` lists the one resource name `kube-system/aws-auth`, which names no
ConfigMap, since object names hold no `/`: the rule grants nothing. -/
theorem config_maps_readable_only_in_own_namespace {c : Collaborators} {config : OTelColConfig}
    {objects : List Object} (assembled : assembleDesiredState c config = (objects, none))
    {account : Account} {request : Request} (configMaps : request.resource = "configmaps")
    (objectName : '/' ∉ request.name.data) (authorized : Authorized objects account request) :
    request.k8sNamespace = config.k8sNamespace := by
  rcases (authorized_iff assembled account request).mp authorized with
    ⟨-, rules⟩ | ⟨-, own, -, -⟩ | ⟨-, rules⟩
  · simp [assembleClusterRoleForDaemonSet, ruleAllows, configMaps] at rules
    rw [rules.2.2] at objectName
    exact absurd objectName (by decide)
  · exact own.symm
  · simp [assembleClusterRoleForDeployment, ruleAllows, configMaps] at rules

def samplePatch : Request :=
  ⟨"patch", "", "configmaps", sampleConfig.k8sNamespace, FilelogReceiverOffsetsConfigMapName sampleConfig.namePrefix⟩

theorem sample_patch_is_confined :
    (daemonSetAccount sampleConfig = daemonSetAccount sampleConfig ∨
        daemonSetAccount sampleConfig = deploymentAccount sampleConfig) ∧
      (samplePatch.verb ∉ ["get", "list", "watch"] →
        daemonSetAccount sampleConfig = daemonSetAccount sampleConfig ∧ samplePatch.verb ∈ ["update", "patch"] ∧
          samplePatch.apiGroup = "" ∧ samplePatch.resource = "configmaps" ∧
          samplePatch.k8sNamespace = sampleConfig.k8sNamespace) :=
  collector_accounts_write_only_config_maps
    (show assembleDesiredState sampleCollaborators sampleConfig = (_, none) from rfl) (by decide)

theorem sample_patch_is_in_own_namespace : samplePatch.k8sNamespace = sampleConfig.k8sNamespace :=
  config_maps_readable_only_in_own_namespace
    (show assembleDesiredState sampleCollaborators sampleConfig = (_, none) from rfl)
    rfl (by decide) (show Authorized _ (daemonSetAccount sampleConfig) samplePatch by decide)

end Dash0Operator.Rbac
