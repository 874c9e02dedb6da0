import Dash0Operator.DesiredState

/-! What the assembled desired state guarantees for every configuration: no two objects share the
key the API server stores them under, every role, service account and configuration map an object
refers to is itself in the desired state, each workload selects its own pods and mounts only volumes
they declare, and the Service reaches the agent pods but not the cluster metrics collector. The
code outside `desired_state.go` enters through what its `Contract` states. -/

namespace Dash0Operator.DesiredState

/-! ## The environment of a container aside -/

/-- The container without its environment, which self-monitoring may change. -/
def Container.eraseEnv (container : Container) : Container := { container with env := [] }

def PodSpec.eraseEnv (spec : PodSpec) : PodSpec :=
  { spec with initContainers := spec.initContainers.map Container.eraseEnv
              containers := spec.containers.map Container.eraseEnv }

def DaemonSet.eraseEnv (ds : DaemonSet) : DaemonSet :=
  { ds with template := { ds.template with spec := ds.template.spec.eraseEnv } }

def Deployment.eraseEnv (deployment : Deployment) : Deployment :=
  { deployment with template := { deployment.template with spec := deployment.template.spec.eraseEnv } }

/-- What the operator's code outside `desired_state.go` does where the results below depend on it:
the collector configuration maps are named as the workloads' volumes mount them, in the collectors'
namespace, and self-monitoring changes only the environment of the workloads' containers. -/
structure Collaborators.Contract (c : Collaborators) : Prop where
  daemonSetConfigMap : ∀ config cm, c.assembleDaemonSetCollectorConfigMap config = .ok cm →
    cm.meta.name = DaemonSetCollectorConfigConfigMapName config.namePrefix ∧
      cm.meta.k8sNamespace = config.k8sNamespace
  deploymentConfigMap : ∀ config cm, c.assembleDeploymentCollectorConfigMap config = .ok cm →
    cm.meta.name = DeploymentCollectorConfigConfigMapName config.namePrefix ∧
      cm.meta.k8sNamespace = config.k8sNamespace
  daemonSetSelfMonitoring : ∀ config ds ds',
    c.enableSelfMonitoringInCollectorDaemonSet config ds = .ok ds' → ds'.eraseEnv = ds.eraseEnv
  deploymentSelfMonitoring : ∀ config deployment deployment',
    c.enableSelfMonitoringInCollectorDeployment config deployment = .ok deployment' →
      deployment'.eraseEnv = deployment.eraseEnv

/-! ## References, selection and mounts -/

/-- A `matchLabels` selector selects the labels when each of its entries is one of them. -/
def Selects (selector labels : List (String × String)) : Prop :=
  ∀ entry ∈ selector, labels.lookup entry.1 = some entry.2

instance (selector labels : List (String × String)) : Decidable (Selects selector labels) :=
  inferInstanceAs (Decidable (∀ entry ∈ selector, _))

def PodSpec.MountsDeclared (spec : PodSpec) : Prop :=
  ∀ container ∈ spec.initContainers ++ spec.containers, ∀ mount ∈ container.volumeMounts,
    mount.name ∈ spec.volumes.map Volume.name

def WellFormed (selector : List (String × String)) (template : PodTemplate) : Prop :=
  Selects selector template.labels ∧ template.spec.MountsDeclared

def roleRefKey (binding : RoleBinding) : Key :=
  ⟨binding.roleRef.apiGroup ++ "/v1", binding.roleRef.kind,
    if binding.roleRef.kind = "Role" then binding.meta.k8sNamespace else "", binding.roleRef.name⟩

def subjectKey (subject : Subject) : Key := ⟨"v1", subject.kind, subject.k8sNamespace, subject.name⟩

def podReferences (k8sNamespace : String) (spec : PodSpec) : List Key :=
  ⟨"v1", "ServiceAccount", k8sNamespace, spec.serviceAccountName⟩ ::
    spec.volumes.filterMap fun volume => match volume.source with
      | .configMap configMapName _ => some ⟨"v1", "ConfigMap", k8sNamespace, configMapName⟩
      | _ => none

def Object.references : Object → List Key
  | .roleBinding o | .clusterRoleBinding o => roleRefKey o :: o.subjects.map subjectKey
  | .daemonSet o => podReferences o.meta.k8sNamespace o.template.spec
  | .deployment o => podReferences o.meta.k8sNamespace o.template.spec
  | _ => []

/-! ## The assembly -/

theorem name_pair (namePrefix first second : String) :
    name namePrefix [first, second] = namePrefix ++ ("-" ++ first ++ "-" ++ second) := by
  simp only [name, String.intercalate, String.intercalate.go, String.append_assoc]

theorem append_left_inj (s : String) {t u : String} : s ++ t = s ++ u ↔ t = u := by
  simp only [String.ext_iff, String.data_append, List.append_cancel_left_eq]

theorem assembleDesiredState_eq_ok {c : Collaborators} {config : OTelColConfig} {objects : List Object}
    (assembled : assembleDesiredState c config = (objects, none)) :
    ∃ daemonSetCollectorConfigMap collectorDaemonSet deploymentCollectorConfigMap collectorDeployment,
      c.assembleDaemonSetCollectorConfigMap config = .ok daemonSetCollectorConfigMap ∧
      assembleCollectorDaemonSet c config = .ok collectorDaemonSet ∧
      c.assembleDeploymentCollectorConfigMap config = .ok deploymentCollectorConfigMap ∧
      assembleCollectorDeployment c config = .ok collectorDeployment ∧
      objects = [.serviceAccount (assembleServiceAccountForDaemonSet config), .configMap daemonSetCollectorConfigMap,
        .configMap (assembleFilelogOffsetsConfigMap config), .clusterRole (assembleClusterRoleForDaemonSet config),
        .clusterRoleBinding (assembleClusterRoleBindingForDaemonSet config), .role (assembleRole config),
        .roleBinding (assembleRoleBinding config), .service (assembleService config), .daemonSet collectorDaemonSet,
        .serviceAccount (assembleServiceAccountForDeployment config),
        .clusterRole (assembleClusterRoleForDeployment config),
        .clusterRoleBinding (assembleClusterRoleBindingForDeployment config), .configMap deploymentCollectorConfigMap,
        .deployment collectorDeployment] := by
  unfold assembleDesiredState at assembled
  split at assembled
  · cases assembled
  split at assembled
  · cases assembled
  split at assembled
  · cases assembled
  split at assembled
  · cases assembled
  rename_i _ cm1 h1 _ ds h2 _ cm2 h3 _ dep h4
  exact ⟨cm1, ds, cm2, dep, h1, h2, h3, h4, (Prod.mk.inj assembled).1.symm⟩

theorem assembleCollectorDaemonSet_eraseEnv {c : Collaborators} (contract : c.Contract)
    {config : OTelColConfig} {ds : DaemonSet} (assembled : assembleCollectorDaemonSet c config = .ok ds) :
    ∃ collectorContainer, assembleDaemonSetCollectorContainer c config = .ok collectorContainer ∧
      ds.eraseEnv = (collectorDaemonSet config collectorContainer).eraseEnv ∧
      (config.selfMonitoringEnabled = false → ds = collectorDaemonSet config collectorContainer) := by
  unfold assembleCollectorDaemonSet at assembled
  cases built : assembleDaemonSetCollectorContainer c config with
  | error err => rw [built] at assembled; cases assembled
  | ok collectorContainer =>
    rw [built] at assembled
    refine ⟨collectorContainer, rfl, ?_⟩
    cases enabled : config.selfMonitoringEnabled
    · simp only [enabled] at assembled
      cases assembled
      exact ⟨rfl, fun _ => rfl⟩
    · simp only [enabled] at assembled
      exact ⟨contract.daemonSetSelfMonitoring _ _ _ assembled, nofun⟩

theorem assembleCollectorDeployment_eraseEnv {c : Collaborators} (contract : c.Contract)
    {config : OTelColConfig} {deployment : Deployment}
    (assembled : assembleCollectorDeployment c config = .ok deployment) :
    ∃ collectorContainer, assembleDeploymentCollectorContainer c config = .ok collectorContainer ∧
      deployment.eraseEnv = (collectorDeployment config collectorContainer).eraseEnv ∧
      (config.selfMonitoringEnabled = false → deployment = collectorDeployment config collectorContainer) := by
  unfold assembleCollectorDeployment at assembled
  cases built : assembleDeploymentCollectorContainer c config with
  | error err => rw [built] at assembled; cases assembled
  | ok collectorContainer =>
    rw [built] at assembled
    refine ⟨collectorContainer, rfl, ?_⟩
    cases enabled : config.selfMonitoringEnabled
    · simp only [enabled] at assembled
      cases assembled
      exact ⟨rfl, fun _ => rfl⟩
    · simp only [enabled] at assembled
      exact ⟨contract.deploymentSelfMonitoring _ _ _ assembled, nofun⟩

theorem assembleDaemonSetCollectorContainer_mounts {c : Collaborators} {config : OTelColConfig}
    {container : Container} (assembled : assembleDaemonSetCollectorContainer c config = .ok container) :
    container.volumeMounts = assembleCollectorDaemonSetVolumeMounts := by
  unfold assembleDaemonSetCollectorContainer at assembled
  cases env : assembleCollectorEnvVars c config with
  | error err => rw [env] at assembled; cases assembled
  | ok collectorEnv => rw [env] at assembled; cases assembled; rfl

theorem assembleDeploymentCollectorContainer_mounts {c : Collaborators} {config : OTelColConfig}
    {container : Container} (assembled : assembleDeploymentCollectorContainer c config = .ok container) :
    container.volumeMounts = [collectorConfigVolume, collectorPidFileMountRW] := by
  unfold assembleDeploymentCollectorContainer at assembled
  cases env : assembleCollectorEnvVars c config with
  | error err => rw [env] at assembled; cases assembled
  | ok collectorEnv => rw [env] at assembled; cases assembled; rfl

theorem references_daemonSet_eraseEnv (ds : DaemonSet) :
    (Object.daemonSet ds.eraseEnv).references = (Object.daemonSet ds).references := rfl

theorem references_deployment_eraseEnv (deployment : Deployment) :
    (Object.deployment deployment.eraseEnv).references = (Object.deployment deployment).references := rfl

theorem mountsDeclared_eraseEnv (spec : PodSpec) : spec.eraseEnv.MountsDeclared ↔ spec.MountsDeclared := by
  simp only [PodSpec.MountsDeclared, PodSpec.eraseEnv, ← List.map_append, List.forall_mem_map]
  rfl

theorem wellFormed_daemonSet_of_eraseEnv {ds base : DaemonSet} (same : ds.eraseEnv = base.eraseEnv)
    (wellFormed : WellFormed base.selector base.template) : WellFormed ds.selector ds.template := by
  have selector : ds.selector = base.selector := (congrArg DaemonSet.selector same :)
  have podLabels : ds.template.labels = base.template.labels := (congrArg (·.template.labels) same :)
  have spec : ds.template.spec.eraseEnv = base.template.spec.eraseEnv := (congrArg (·.template.spec) same :)
  rw [WellFormed, selector, podLabels, ← mountsDeclared_eraseEnv, spec, mountsDeclared_eraseEnv]
  exact wellFormed

theorem wellFormed_deployment_of_eraseEnv {deployment base : Deployment}
    (same : deployment.eraseEnv = base.eraseEnv) (wellFormed : WellFormed base.selector base.template) :
    WellFormed deployment.selector deployment.template := by
  have selector : deployment.selector = base.selector := (congrArg Deployment.selector same :)
  have podLabels : deployment.template.labels = base.template.labels := (congrArg (·.template.labels) same :)
  have spec : deployment.template.spec.eraseEnv = base.template.spec.eraseEnv :=
    (congrArg (·.template.spec) same :)
  rw [WellFormed, selector, podLabels, ← mountsDeclared_eraseEnv, spec, mountsDeclared_eraseEnv]
  exact wellFormed

theorem collectorDaemonSet_wellFormed (config : OTelColConfig) {container : Container}
    (mounts : container.volumeMounts = assembleCollectorDaemonSetVolumeMounts) :
    WellFormed (collectorDaemonSet config container).selector (collectorDaemonSet config container).template := by
  refine ⟨show Selects daemonSetMatchLabels daemonSetMatchLabels by decide, ?_⟩
  simp [PodSpec.MountsDeclared, collectorDaemonSet, mounts, assembleCollectorDaemonSetVolumeMounts,
    assembleCollectorDaemonSetVolumes, assembleFileLogOffsetSynchInitContainer,
    assembleConfigurationReloaderContainer, assembleFileLogOffsetSynchContainer, collectorConfigVolume,
    collectorPidFileMountRW, filelogReceiverOffsetsVolumeMount]

theorem collectorDeployment_wellFormed (config : OTelColConfig) {container : Container}
    (mounts : container.volumeMounts = [collectorConfigVolume, collectorPidFileMountRW]) :
    WellFormed (collectorDeployment config container).selector (collectorDeployment config container).template := by
  refine ⟨show Selects deploymentMatchLabels deploymentMatchLabels by decide, ?_⟩
  simp [PodSpec.MountsDeclared, collectorDeployment, mounts, assembleCollectorDeploymentVolumes,
    assembleConfigurationReloaderContainer, collectorConfigVolume, collectorPidFileMountRW]

theorem keys_nodup {c : Collaborators} (contract : c.Contract) {config : OTelColConfig}
    {objects : List Object} (assembled : assembleDesiredState c config = (objects, none)) :
    (objects.map Object.key).Nodup := by
  obtain ⟨cm1, ds, cm2, dep, h1, h2, h3, h4, rfl⟩ := assembleDesiredState_eq_ok assembled
  obtain ⟨name1, ns1⟩ := contract.daemonSetConfigMap _ _ h1
  obtain ⟨name2, ns2⟩ := contract.deploymentConfigMap _ _ h3
  obtain ⟨container, -, dsErased, -⟩ := assembleCollectorDaemonSet_eraseEnv contract h2
  obtain ⟨container', -, depErased, -⟩ := assembleCollectorDeployment_eraseEnv contract h4
  have dsMeta : ds.meta = (collectorDaemonSet config container).meta :=
    (congrArg DaemonSet.meta dsErased :)
  have depMeta : dep.meta = (collectorDeployment config container').meta :=
    (congrArg Deployment.meta depErased :)
  simp [Object.key, Object.typeMeta, Object.meta, dsMeta, depMeta, name1, name2, ns1, ns2,
    collectorDaemonSet, collectorDeployment, assembleServiceAccountForDaemonSet,
    assembleFilelogOffsetsConfigMap, assembleClusterRoleForDaemonSet, assembleClusterRoleBindingForDaemonSet,
    assembleRole, assembleRoleBinding, assembleService, assembleServiceAccountForDeployment,
    assembleClusterRoleForDeployment, assembleClusterRoleBindingForDeployment,
    daemonsetServiceAccountName, deploymentServiceAccountName, FilelogReceiverOffsetsConfigMapName,
    DaemonSetCollectorConfigConfigMapName, DeploymentCollectorConfigConfigMapName, DaemonSetClusterRoleName,
    DeploymentClusterRoleName, DaemonSetClusterRoleBindingName, DeploymentClusterRoleBindingName, roleName,
    roleBindingName, ServiceName, DaemonSetName, DeploymentName, name_pair, append_left_inj,
    openTelemetryCollector, openTelemetryCollectorDaemonSetNameSuffix, openTelemetryCollectorDeploymentNameSuffix,
    rbacApiVersion, rbacApiGroup]

theorem references_resolve {c : Collaborators} (contract : c.Contract) {config : OTelColConfig}
    {objects : List Object} (assembled : assembleDesiredState c config = (objects, none)) :
    ∀ object ∈ objects, ∀ key ∈ object.references, ∃ target ∈ objects, target.key = key := by
  suffices resolve : ∀ object ∈ objects, ∀ key ∈ object.references, key ∈ objects.map Object.key from
    fun object member key referenced => List.mem_map.mp (resolve object member key referenced)
  generalize keys : objects.map Object.key = ks
  obtain ⟨cm1, ds, cm2, dep, h1, h2, h3, h4, rfl⟩ := assembleDesiredState_eq_ok assembled
  obtain ⟨name1, ns1⟩ := contract.daemonSetConfigMap _ _ h1
  obtain ⟨name2, ns2⟩ := contract.deploymentConfigMap _ _ h3
  obtain ⟨container, -, dsErased, -⟩ := assembleCollectorDaemonSet_eraseEnv contract h2
  obtain ⟨container', -, depErased, -⟩ := assembleCollectorDeployment_eraseEnv contract h4
  have dsMeta : ds.meta = (collectorDaemonSet config container).meta :=
    (congrArg DaemonSet.meta dsErased :)
  have depMeta : dep.meta = (collectorDeployment config container').meta :=
    (congrArg Deployment.meta depErased :)
  have dsRefs := references_daemonSet_eraseEnv ds
  rw [dsErased, references_daemonSet_eraseEnv] at dsRefs
  have depRefs := references_deployment_eraseEnv dep
  rw [depErased, references_deployment_eraseEnv] at depRefs
  simp only [List.map_cons, List.map_nil, Object.key, Object.typeMeta, Object.meta, dsMeta, depMeta, ns1, ns2,
    name1, name2] at keys
  subst keys
  simp only [List.forall_mem_cons, List.forall_mem_nil, ← dsRefs, ← depRefs]
  simp [Object.references, roleRefKey, subjectKey, podReferences, collectorDaemonSet, collectorDeployment,
    assembleCollectorDaemonSetVolumes, assembleCollectorDeploymentVolumes, assembleServiceAccountForDaemonSet,
    assembleFilelogOffsetsConfigMap, assembleClusterRoleForDaemonSet, assembleClusterRoleBindingForDaemonSet,
    assembleRole, assembleRoleBinding, assembleService, assembleServiceAccountForDeployment,
    assembleClusterRoleForDeployment, assembleClusterRoleBindingForDeployment, rbacApiVersion, rbacApiGroup]

/-- The desired state is self-contained: its objects have distinct keys, every reference in it names
one of its objects, both workloads select their own pods and mount only declared volumes, and the
Service reaches the agent pods and not the cluster metrics collector. -/
theorem desired_state_is_self_contained {c : Collaborators} (contract : c.Contract) {config : OTelColConfig}
    {objects : List Object} (assembled : assembleDesiredState c config = (objects, none)) :
    (objects.map Object.key).Nodup ∧
      (∀ object ∈ objects, ∀ key ∈ object.references, ∃ target ∈ objects, target.key = key) ∧
      (∀ ds, Object.daemonSet ds ∈ objects → WellFormed ds.selector ds.template) ∧
      (∀ deployment, Object.deployment deployment ∈ objects →
        WellFormed deployment.selector deployment.template) ∧
      (∀ service ds deployment, Object.service service ∈ objects → Object.daemonSet ds ∈ objects →
        Object.deployment deployment ∈ objects →
          Selects service.selector ds.template.labels ∧ ¬ Selects service.selector deployment.template.labels) := by
  refine ⟨keys_nodup contract assembled, references_resolve contract assembled, ?_⟩
  obtain ⟨-, ds, -, dep, -, h2, -, h4, rfl⟩ := assembleDesiredState_eq_ok assembled
  obtain ⟨container, built, dsErased, -⟩ := assembleCollectorDaemonSet_eraseEnv contract h2
  obtain ⟨container', built', depErased, -⟩ := assembleCollectorDeployment_eraseEnv contract h4
  have dsLabels : ds.template.labels = daemonSetMatchLabels := (congrArg (·.template.labels) dsErased :)
  have depLabels : dep.template.labels = deploymentMatchLabels := (congrArg (·.template.labels) depErased :)
  refine ⟨fun ds' member => ?_, fun dep' member => ?_, fun service ds' dep' hs hd hp => ?_⟩
  · obtain rfl : ds' = ds := by simpa using member
    exact wellFormed_daemonSet_of_eraseEnv dsErased
      (collectorDaemonSet_wellFormed config (assembleDaemonSetCollectorContainer_mounts built))
  · obtain rfl : dep' = dep := by simpa using member
    exact wellFormed_deployment_of_eraseEnv depErased
      (collectorDeployment_wellFormed config (assembleDeploymentCollectorContainer_mounts built'))
  · obtain rfl : service = assembleService config := by simpa using hs
    obtain rfl : ds' = ds := by simpa using hd
    obtain rfl : dep' = dep := by simpa using hp
    rw [dsLabels, depLabels]
    exact ⟨by simp only [assembleService]; decide, by simp only [assembleService]; decide⟩

def sampleCollaborators : Collaborators where
  assembleDaemonSetCollectorConfigMap config :=
    .ok ⟨⟨DaemonSetCollectorConfigConfigMapName config.namePrefix, config.k8sNamespace, labels false⟩, [], []⟩
  assembleDeploymentCollectorConfigMap config :=
    .ok ⟨⟨DeploymentCollectorConfigConfigMapName config.namePrefix, config.k8sNamespace, labels false⟩, [], []⟩
  createEnvVarForAuthorization dash0 envVarName := .ok ⟨envVarName, dash0.token.getD "", none⟩
  enableSelfMonitoringInCollectorDaemonSet _ ds := .ok ds
  enableSelfMonitoringInCollectorDeployment _ deployment := .ok deployment

theorem sampleCollaborators_contract : sampleCollaborators.Contract where
  daemonSetConfigMap _ _ rendered := by cases rendered; exact ⟨rfl, rfl⟩
  deploymentConfigMap _ _ rendered := by cases rendered; exact ⟨rfl, rfl⟩
  daemonSetSelfMonitoring _ _ _ changed := by cases changed; rfl
  deploymentSelfMonitoring _ _ _ changed := by cases changed; rfl

def sampleConfig : OTelColConfig :=
  ⟨"dash0-system", "dash0-operator", some ⟨"ingress.dash0.com:4317", "default", some "token", none⟩, true,
    ⟨"collector:1", "", "reloader:1", "", "offset-synch:1", "IfNotPresent"⟩, false⟩

theorem sample_state_is_self_contained :
    let objects := (assembleDesiredState sampleCollaborators sampleConfig).1
    (objects.map Object.key).Nodup ∧
      (∀ object ∈ objects, ∀ key ∈ object.references, ∃ target ∈ objects, target.key = key) ∧
      (∀ ds, Object.daemonSet ds ∈ objects → WellFormed ds.selector ds.template) ∧
      (∀ deployment, Object.deployment deployment ∈ objects →
        WellFormed deployment.selector deployment.template) ∧
      (∀ service ds deployment, Object.service service ∈ objects → Object.daemonSet ds ∈ objects →
        Object.deployment deployment ∈ objects →
          Selects service.selector ds.template.labels ∧ ¬ Selects service.selector deployment.template.labels) :=
  desired_state_is_self_contained sampleCollaborators_contract
    (show assembleDesiredState sampleCollaborators sampleConfig = (_, none) from rfl)

end Dash0Operator.DesiredState
