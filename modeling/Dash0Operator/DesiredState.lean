import Mathlib.Data.List.Nodup

/-! The Kubernetes objects the operator deploys for its OpenTelemetry collectors
(`desired_state.go`): a DaemonSet of agent collectors, with the filelog offset synch init container
and sidecar, a Deployment of the cluster metrics collector, their service accounts, RBAC objects,
configuration maps and the Service in front of the agents. The collector configuration maps, the
authorization environment variable and the self-monitoring changes come from code outside this file;
they are the `Collaborators` of the assembly. A Go map of labels or data is the list of its entries
in the order the source writes them. -/

namespace Dash0Operator.DesiredState

/-! ## Objects -/

/-- `metav1.ObjectMeta` as the assembled objects fill it; a cluster-scoped object has the empty
namespace. -/
structure ObjectMeta where
  name : String
  k8sNamespace : String
  labels : List (String × String)
  deriving DecidableEq, Repr

structure PolicyRule where
  apiGroups : List String
  resources : List String
  verbs : List String
  resourceNames : List String
  deriving DecidableEq, Repr

structure RoleRef where
  apiGroup : String
  kind : String
  name : String
  deriving DecidableEq, Repr

structure Subject where
  kind : String
  name : String
  k8sNamespace : String
  deriving DecidableEq, Repr

inductive EnvVarSource where
  | fieldRef (fieldPath : String)
  | secretKeyRef (name key : String)
  deriving DecidableEq, Repr

structure EnvVar where
  name : String
  value : String
  valueFrom : Option EnvVarSource
  deriving DecidableEq, Repr

structure VolumeMount where
  name : String
  mountPath : String
  readOnly : Bool
  deriving DecidableEq, Repr

inductive VolumeSource where
  | emptyDir (sizeLimit : String)
  | hostPath (path : String)
  | configMap (name : String) (items : List (String × String))
  deriving DecidableEq, Repr

structure Volume where
  name : String
  source : VolumeSource
  deriving DecidableEq, Repr

structure ContainerPort where
  name : String
  protocol : String
  containerPort : Nat
  hostPort : Option Nat
  deriving DecidableEq, Repr

structure Probe where
  path : String
  port : Nat
  deriving DecidableEq, Repr

/-- `corev1.Container`; the empty security context every container gets is left out. -/
structure Container where
  name : String
  args : List String
  image : String
  imagePullPolicy : String
  env : List EnvVar
  ports : List ContainerPort
  livenessProbe : Option Probe
  readinessProbe : Option Probe
  memoryLimit : String
  volumeMounts : List VolumeMount
  deriving DecidableEq, Repr

structure PodSpec where
  serviceAccountName : String
  shareProcessNamespace : Bool
  initContainers : List Container
  containers : List Container
  volumes : List Volume
  hostNetwork : Bool
  deriving DecidableEq, Repr

structure PodTemplate where
  labels : List (String × String)
  spec : PodSpec
  deriving DecidableEq, Repr

structure ServiceAccount where
  meta : ObjectMeta
  deriving DecidableEq, Repr

structure ConfigMap where
  meta : ObjectMeta
  data : List (String × String)
  binaryData : List (String × List UInt8)
  deriving DecidableEq, Repr

structure Role where
  meta : ObjectMeta
  rules : List PolicyRule
  deriving DecidableEq, Repr

structure RoleBinding where
  meta : ObjectMeta
  roleRef : RoleRef
  subjects : List Subject
  deriving DecidableEq, Repr

structure ServicePort where
  name : String
  port : Nat
  targetPort : Nat
  protocol : String
  appProtocol : Option String
  deriving DecidableEq, Repr

structure Service where
  meta : ObjectMeta
  type : String
  ports : List ServicePort
  selector : List (String × String)
  internalTrafficPolicy : String
  deriving DecidableEq, Repr

structure DaemonSet where
  meta : ObjectMeta
  selector : List (String × String)
  updateStrategy : String
  template : PodTemplate
  deriving DecidableEq, Repr

structure Deployment where
  meta : ObjectMeta
  replicas : Nat
  selector : List (String × String)
  strategy : String
  template : PodTemplate
  deriving DecidableEq, Repr

/-- A `client.Object` of the desired state. A ClusterRole has the shape of a Role and a
ClusterRoleBinding that of a RoleBinding. -/
inductive Object where
  | serviceAccount (sa : ServiceAccount)
  | configMap (cm : ConfigMap)
  | role (role : Role)
  | roleBinding (binding : RoleBinding)
  | clusterRole (role : Role)
  | clusterRoleBinding (binding : RoleBinding)
  | service (service : Service)
  | daemonSet (ds : DaemonSet)
  | deployment (deployment : Deployment)
  deriving DecidableEq, Repr

def Object.meta : Object → ObjectMeta
  | .serviceAccount o => o.meta
  | .configMap o => o.meta
  | .role o => o.meta
  | .roleBinding o => o.meta
  | .clusterRole o => o.meta
  | .clusterRoleBinding o => o.meta
  | .service o => o.meta
  | .daemonSet o => o.meta
  | .deployment o => o.meta

def rbacApiGroup : String := "rbac.authorization.k8s.io"

def rbacApiVersion : String := rbacApiGroup ++ "/v1"

/-- The `TypeMeta` every assembled object sets: its API version and kind. -/
def Object.typeMeta : Object → String × String
  | .serviceAccount _ => ("v1", "ServiceAccount")
  | .configMap _ => ("v1", "ConfigMap")
  | .role _ => (rbacApiVersion, "Role")
  | .roleBinding _ => (rbacApiVersion, "RoleBinding")
  | .clusterRole _ => (rbacApiVersion, "ClusterRole")
  | .clusterRoleBinding _ => (rbacApiVersion, "ClusterRoleBinding")
  | .service _ => ("v1", "Service")
  | .daemonSet _ => ("apps/v1", "DaemonSet")
  | .deployment _ => ("apps/v1", "Deployment")

/-- What the API server addresses an object by: the group version kind of the receiver
`createEmptyReceiverFor` makes, and `client.ObjectKeyFromObject`. -/
structure Key where
  apiVersion : String
  kind : String
  k8sNamespace : String
  name : String
  deriving DecidableEq, Repr

def Object.key (object : Object) : Key :=
  ⟨object.typeMeta.1, object.typeMeta.2, object.meta.k8sNamespace, object.meta.name⟩

/-! ## The configuration and the code outside this file -/

structure Images where
  collectorImage : String
  collectorImagePullPolicy : String
  configurationReloaderImage : String
  configurationReloaderImagePullPolicy : String
  filelogOffsetSynchImage : String
  filelogOffsetSynchImagePullPolicy : String

/-- `dash0v1alpha1.Dash0Configuration`, read only by the code outside this file. -/
structure Dash0Configuration where
  endpoint : String
  dataset : String
  token : Option String
  secretRef : Option (String × String)

/-- `oTelColConfig`. Of the self-monitoring configuration only `Enabled` is read here. -/
structure OTelColConfig where
  k8sNamespace : String
  namePrefix : String
  exportDash0 : Option Dash0Configuration
  selfMonitoringEnabled : Bool
  images : Images
  developmentMode : Bool

/-- The functions `desired_state.go` calls that are defined elsewhere in the operator: the two
collector configuration maps rendered from their templates, `util.CreateEnvVarForAuthorization`,
and the self-monitoring changes to the two workloads. Each may fail. -/
structure Collaborators where
  assembleDaemonSetCollectorConfigMap : OTelColConfig → Except String ConfigMap
  assembleDeploymentCollectorConfigMap : OTelColConfig → Except String ConfigMap
  createEnvVarForAuthorization : Dash0Configuration → String → Except String EnvVar
  enableSelfMonitoringInCollectorDaemonSet : OTelColConfig → DaemonSet → Except String DaemonSet
  enableSelfMonitoringInCollectorDeployment : OTelColConfig → Deployment → Except String Deployment

/-! ## Names and labels -/

def openTelemetryCollector : String := "opentelemetry-collector"

def openTelemetryCollectorDaemonSetNameSuffix : String := "opentelemetry-collector-agent"

def openTelemetryCollectorDeploymentNameSuffix : String := "cluster-metrics-collector"

def daemonSetServiceComponent : String := "agent-collector"

def deploymentServiceComponent : String := openTelemetryCollectorDeploymentNameSuffix

def configReloader : String := "configuration-reloader"

def appKubernetesIoNameKey : String := "app.kubernetes.io/name"

def appKubernetesIoInstanceKey : String := "app.kubernetes.io/instance"

def appKubernetesIoComponentLabelKey : String := "app.kubernetes.io/component"

def appKubernetesIoManagedByKey : String := "app.kubernetes.io/managed-by"

def dash0OptOutLabelKey : String := "dash0.com/enable"

def appKubernetesIoNameValue : String := openTelemetryCollector

def appKubernetesIoInstanceValue : String := "dash0-operator"

def appKubernetesIoManagedByValue : String := "dash0-operator"

/-- `name(prefix, parts...)`: `strings.Join` of the prefix and the parts with `-`. -/
def name (namePrefix : String) (parts : List String) : String :=
  String.intercalate "-" (namePrefix :: parts)

def daemonsetServiceAccountName (namePrefix : String) : String :=
  name namePrefix [openTelemetryCollector, "sa"]

def deploymentServiceAccountName (namePrefix : String) : String :=
  name namePrefix [openTelemetryCollectorDeploymentNameSuffix, "sa"]

def FilelogReceiverOffsetsConfigMapName (namePrefix : String) : String :=
  name namePrefix ["filelogoffsets", "cm"]

def DaemonSetCollectorConfigConfigMapName (namePrefix : String) : String :=
  name namePrefix [openTelemetryCollectorDaemonSetNameSuffix, "cm"]

def DeploymentCollectorConfigConfigMapName (namePrefix : String) : String :=
  name namePrefix [openTelemetryCollectorDeploymentNameSuffix, "cm"]

def DaemonSetClusterRoleName (namePrefix : String) : String :=
  name namePrefix [openTelemetryCollector, "cr"]

def DeploymentClusterRoleName (namePrefix : String) : String :=
  name namePrefix [openTelemetryCollectorDeploymentNameSuffix, "cr"]

def DaemonSetClusterRoleBindingName (namePrefix : String) : String :=
  name namePrefix [openTelemetryCollector, "crb"]

def DeploymentClusterRoleBindingName (namePrefix : String) : String :=
  name namePrefix [openTelemetryCollectorDeploymentNameSuffix, "crb"]

def roleName (namePrefix : String) : String := name namePrefix [openTelemetryCollector, "role"]

def roleBindingName (namePrefix : String) : String :=
  name namePrefix [openTelemetryCollector, "rolebinding"]

def ServiceName (namePrefix : String) : String := name namePrefix [openTelemetryCollector, "service"]

def DaemonSetName (namePrefix : String) : String :=
  name namePrefix [openTelemetryCollectorDaemonSetNameSuffix, "daemonset"]

def DeploymentName (namePrefix : String) : String :=
  name namePrefix [openTelemetryCollectorDeploymentNameSuffix, "deployment"]

def labels (addOptOutLabel : Bool) : List (String × String) :=
  [(appKubernetesIoNameKey, appKubernetesIoNameValue),
    (appKubernetesIoInstanceKey, appKubernetesIoInstanceValue),
    (appKubernetesIoManagedByKey, appKubernetesIoManagedByValue)] ++
  if addOptOutLabel then [(dash0OptOutLabelKey, "false")] else []

/-- `labels(false)` with the component label assigned, a key `labels` does not have. -/
def serviceLabels : List (String × String) :=
  labels false ++ [(appKubernetesIoComponentLabelKey, daemonSetServiceComponent)]

def daemonSetMatchLabels : List (String × String) :=
  [(appKubernetesIoNameKey, appKubernetesIoNameValue),
    (appKubernetesIoInstanceKey, appKubernetesIoInstanceValue),
    (appKubernetesIoComponentLabelKey, daemonSetServiceComponent)]

def deploymentMatchLabels : List (String × String) :=
  [(appKubernetesIoNameKey, appKubernetesIoNameValue),
    (appKubernetesIoInstanceKey, appKubernetesIoInstanceValue),
    (appKubernetesIoComponentLabelKey, deploymentServiceComponent)]

/-! ## Pod parts -/

def otlpGrpcHostPort : Nat := 40317

def otlpHttpHostPort : Nat := 40318

def otlpGrpcPort : Nat := 4317

def otlpHttpPort : Nat := 4318

def probesHttpPort : Nat := 13133

def authTokenEnvVarName : String := "AUTH_TOKEN"

def configMapVolumeName : String := "opentelemetry-collector-configmap"

def collectorConfigurationYaml : String := "config.yaml"

def collectorConfigurationFilePath : String := "/etc/otelcol/conf/" ++ collectorConfigurationYaml

def collectorPidFilePath : String := "/etc/otelcol/run/pid.file"

def pidFileVolumeName : String := "opentelemetry-collector-pidfile"

def offsetsDirPath : String := "/var/otelcol/filelogreceiver_offsets"

def k8sNodeNameEnvVar : EnvVar := ⟨"K8S_NODE_NAME", "", some (.fieldRef "spec.nodeName")⟩

def k8sPodUidEnvVar : EnvVar := ⟨"K8S_POD_UID", "", some (.fieldRef "metadata.uid")⟩

def configMapItems : List (String × String) := [(collectorConfigurationYaml, collectorConfigurationYaml)]

def collectorConfigVolume : VolumeMount := ⟨configMapVolumeName, "/etc/otelcol/conf", true⟩

/-- Mounted at `filepath.Dir(collectorPidFilePath)`. -/
def collectorPidFileMountRW : VolumeMount := ⟨pidFileVolumeName, "/etc/otelcol/run", false⟩

def filelogReceiverOffsetsVolumeMount : VolumeMount := ⟨"filelogreceiver-offsets", offsetsDirPath, false⟩

def collectorProbe : Probe := ⟨"/", probesHttpPort⟩

def deploymentReplicas : Nat := 1

/-- The assignment `if policy != "" { container.ImagePullPolicy = policy }` on a container whose
policy is unset. -/
def pullPolicy (policy : String) : String := if policy ≠ "" then policy else ""

def filelogOffsetSynchEnv (config : OTelColConfig) : List EnvVar :=
  [⟨"GOMEMLIMIT", "4MiB", none⟩, ⟨"K8S_CONFIGMAP_NAMESPACE", config.k8sNamespace, none⟩,
    ⟨"K8S_CONFIGMAP_NAME", FilelogReceiverOffsetsConfigMapName config.namePrefix, none⟩,
    ⟨"FILELOG_OFFSET_DIRECTORY_PATH", offsetsDirPath, none⟩, k8sNodeNameEnvVar, k8sPodUidEnvVar]

def assembleFileLogOffsetSynchContainer (config : OTelColConfig) : Container where
  name := "filelog-offset-synch"
  args := ["--mode=synch"]
  image := config.images.filelogOffsetSynchImage
  imagePullPolicy := pullPolicy config.images.filelogOffsetSynchImagePullPolicy
  env := filelogOffsetSynchEnv config
  ports := []
  livenessProbe := none
  readinessProbe := none
  memoryLimit := "12Mi"
  volumeMounts := [filelogReceiverOffsetsVolumeMount]

def assembleFileLogOffsetSynchInitContainer (config : OTelColConfig) : Container where
  name := "filelog-offset-init"
  args := ["--mode=init"]
  image := config.images.filelogOffsetSynchImage
  imagePullPolicy := pullPolicy config.images.filelogOffsetSynchImagePullPolicy
  env := filelogOffsetSynchEnv config
  ports := []
  livenessProbe := none
  readinessProbe := none
  memoryLimit := "12Mi"
  volumeMounts := [filelogReceiverOffsetsVolumeMount]

def assembleCollectorDaemonSetVolumes (config : OTelColConfig) (configMapItems : List (String × String)) :
    List Volume :=
  [⟨"filelogreceiver-offsets", .emptyDir "10M"⟩, ⟨"node-pod-logs", .hostPath "/var/log/pods/"⟩,
    ⟨"node-docker-container-logs", .hostPath "/var/lib/docker/containers"⟩,
    ⟨configMapVolumeName, .configMap (DaemonSetCollectorConfigConfigMapName config.namePrefix) configMapItems⟩,
    ⟨pidFileVolumeName, .emptyDir "1M"⟩]

def assembleCollectorDaemonSetVolumeMounts : List VolumeMount :=
  [collectorConfigVolume, collectorPidFileMountRW, ⟨"node-pod-logs", "/var/log/pods", true⟩,
    ⟨"node-docker-container-logs", "/var/lib/docker/containers", true⟩, filelogReceiverOffsetsVolumeMount]

def assembleCollectorEnvVars (c : Collaborators) (config : OTelColConfig) : Except String (List EnvVar) :=
  let collectorEnv := [⟨"MY_POD_IP", "", some (.fieldRef "status.podIP")⟩, k8sNodeNameEnvVar,
    k8sPodUidEnvVar, ⟨"DASH0_COLLECTOR_PID_FILE", collectorPidFilePath, none⟩,
    ⟨"GOMEMLIMIT", "400MiB", none⟩]
  match config.exportDash0 with
  | none => .ok collectorEnv
  | some dash0 => do
    let authTokenEnvVar ← c.createEnvVarForAuthorization dash0 authTokenEnvVarName
    pure (collectorEnv ++ [authTokenEnvVar])

def assembleDaemonSetCollectorContainer (c : Collaborators) (config : OTelColConfig) :
    Except String Container := do
  let collectorEnv ← assembleCollectorEnvVars c config
  pure {
    name := openTelemetryCollector
    args := ["--config=file:" ++ collectorConfigurationFilePath]
    image := config.images.collectorImage
    imagePullPolicy := pullPolicy config.images.collectorImagePullPolicy
    env := collectorEnv
    ports := [⟨"otlp", "TCP", otlpGrpcPort, some otlpGrpcHostPort⟩,
      ⟨"otlp-http", "TCP", otlpHttpPort, some otlpHttpHostPort⟩]
    livenessProbe := some collectorProbe
    readinessProbe := some collectorProbe
    memoryLimit := "500Mi"
    volumeMounts := assembleCollectorDaemonSetVolumeMounts }

def assembleConfigurationReloaderContainer (config : OTelColConfig) : Container where
  name := configReloader
  args := ["--pidfile=" ++ collectorPidFilePath, collectorConfigurationFilePath]
  image := config.images.configurationReloaderImage
  imagePullPolicy := pullPolicy config.images.configurationReloaderImagePullPolicy
  env := [⟨"GOMEMLIMIT", "4MiB", none⟩, k8sNodeNameEnvVar, k8sPodUidEnvVar]
  ports := []
  livenessProbe := none
  readinessProbe := none
  memoryLimit := "12Mi"
  volumeMounts := [collectorConfigVolume, { collectorPidFileMountRW with readOnly := true }]

def assembleCollectorDeploymentVolumes (config : OTelColConfig) (configMapItems : List (String × String)) :
    List Volume :=
  [⟨configMapVolumeName, .configMap (DeploymentCollectorConfigConfigMapName config.namePrefix) configMapItems⟩,
    ⟨pidFileVolumeName, .emptyDir "1M"⟩]

def assembleDeploymentCollectorContainer (c : Collaborators) (config : OTelColConfig) :
    Except String Container := do
  let collectorEnv ← assembleCollectorEnvVars c config
  pure {
    name := openTelemetryCollector
    args := ["--config=file:" ++ collectorConfigurationFilePath]
    image := config.images.collectorImage
    imagePullPolicy := pullPolicy config.images.collectorImagePullPolicy
    env := collectorEnv
    ports := []
    livenessProbe := some collectorProbe
    readinessProbe := some collectorProbe
    memoryLimit := "300Mi"
    volumeMounts := [collectorConfigVolume, collectorPidFileMountRW] }

/-! ## The objects -/

def assembleServiceAccountForDaemonSet (config : OTelColConfig) : ServiceAccount :=
  ⟨⟨daemonsetServiceAccountName config.namePrefix, config.k8sNamespace, labels false⟩⟩

def assembleFilelogOffsetsConfigMap (config : OTelColConfig) : ConfigMap :=
  ⟨⟨FilelogReceiverOffsetsConfigMapName config.namePrefix, config.k8sNamespace, labels false⟩, [], []⟩

def assembleRole (config : OTelColConfig) : Role :=
  ⟨⟨roleName config.namePrefix, config.k8sNamespace, labels false⟩,
    [⟨[""], ["configmaps"], ["get", "watch", "list", "update", "patch"], []⟩]⟩

def assembleRoleBinding (config : OTelColConfig) : RoleBinding :=
  ⟨⟨roleBindingName config.namePrefix, config.k8sNamespace, labels false⟩,
    ⟨rbacApiGroup, "Role", roleName config.namePrefix⟩,
    [⟨"ServiceAccount", daemonsetServiceAccountName config.namePrefix, config.k8sNamespace⟩]⟩

/-- The last rule is meant for the EKS resource detector's read of `aws-auth` in `kube-system`. -/
def assembleClusterRoleForDaemonSet (config : OTelColConfig) : Role :=
  ⟨⟨DaemonSetClusterRoleName config.namePrefix, "", labels false⟩,
    [⟨[""], ["pods", "namespaces", "nodes/stats"], ["get", "watch", "list"], []⟩,
      ⟨["apps"], ["replicasets"], ["get", "watch", "list"], []⟩,
      ⟨["extensions"], ["replicasets"], ["get", "watch", "list"], []⟩,
      ⟨[""], ["configmaps"], ["get"], ["kube-system/aws-auth"]⟩]⟩

def assembleClusterRoleBindingForDaemonSet (config : OTelColConfig) : RoleBinding :=
  ⟨⟨DaemonSetClusterRoleBindingName config.namePrefix, "", labels false⟩,
    ⟨rbacApiGroup, "ClusterRole", DaemonSetClusterRoleName config.namePrefix⟩,
    [⟨"ServiceAccount", daemonsetServiceAccountName config.namePrefix, config.k8sNamespace⟩]⟩

def assembleService (config : OTelColConfig) : Service where
  meta := ⟨ServiceName config.namePrefix, config.k8sNamespace, serviceLabels⟩
  type := "ClusterIP"
  ports := [⟨"otlp", otlpGrpcPort, otlpGrpcPort, "TCP", some "grpc"⟩,
    ⟨"otlp-http", otlpHttpPort, otlpHttpPort, "TCP", none⟩]
  selector := [(appKubernetesIoNameKey, appKubernetesIoNameValue),
    (appKubernetesIoInstanceKey, appKubernetesIoInstanceValue),
    (appKubernetesIoComponentLabelKey, daemonSetServiceComponent)]
  internalTrafficPolicy := "Local"

/-- The DaemonSet `assembleCollectorDaemonSet` builds around the collector container, before the
self-monitoring changes. -/
def collectorDaemonSet (config : OTelColConfig) (collectorContainer : Container) : DaemonSet where
  meta := ⟨DaemonSetName config.namePrefix, config.k8sNamespace, labels true⟩
  selector := daemonSetMatchLabels
  updateStrategy := "RollingUpdate"
  template := ⟨daemonSetMatchLabels, {
    serviceAccountName := daemonsetServiceAccountName config.namePrefix
    shareProcessNamespace := true
    initContainers := [assembleFileLogOffsetSynchInitContainer config]
    containers := [collectorContainer, assembleConfigurationReloaderContainer config,
      assembleFileLogOffsetSynchContainer config]
    volumes := assembleCollectorDaemonSetVolumes config configMapItems
    hostNetwork := false }⟩

def assembleCollectorDaemonSet (c : Collaborators) (config : OTelColConfig) : Except String DaemonSet := do
  let collectorContainer ← assembleDaemonSetCollectorContainer c config
  if config.selfMonitoringEnabled then
    c.enableSelfMonitoringInCollectorDaemonSet config (collectorDaemonSet config collectorContainer)
  else pure (collectorDaemonSet config collectorContainer)

def assembleServiceAccountForDeployment (config : OTelColConfig) : ServiceAccount :=
  ⟨⟨deploymentServiceAccountName config.namePrefix, config.k8sNamespace, labels false⟩⟩

def assembleClusterRoleForDeployment (config : OTelColConfig) : Role :=
  ⟨⟨DeploymentClusterRoleName config.namePrefix, "", labels false⟩,
    [⟨[""], ["events", "namespaces", "namespaces/status", "nodes", "nodes/spec", "pods", "pods/status",
        "replicationcontrollers", "replicationcontrollers/status", "resourcequotas", "services"],
        ["get", "list", "watch"], []⟩,
      ⟨["apps"], ["daemonsets", "deployments", "replicasets", "statefulsets"], ["get", "list", "watch"], []⟩,
      ⟨["extensions"], ["daemonsets", "deployments", "replicasets"], ["get", "list", "watch"], []⟩,
      ⟨["batch"], ["jobs", "cronjobs"], ["get", "list", "watch"], []⟩,
      ⟨["autoscaling"], ["horizontalpodautoscalers"], ["get", "list", "watch"], []⟩]⟩

def assembleClusterRoleBindingForDeployment (config : OTelColConfig) : RoleBinding :=
  ⟨⟨DeploymentClusterRoleBindingName config.namePrefix, "", labels false⟩,
    ⟨rbacApiGroup, "ClusterRole", DeploymentClusterRoleName config.namePrefix⟩,
    [⟨"ServiceAccount", deploymentServiceAccountName config.namePrefix, config.k8sNamespace⟩]⟩

/-- The Deployment `assembleCollectorDeployment` builds around the collector container, before the
self-monitoring changes. -/
def collectorDeployment (config : OTelColConfig) (collectorContainer : Container) : Deployment where
  meta := ⟨DeploymentName config.namePrefix, config.k8sNamespace, labels true⟩
  replicas := deploymentReplicas
  selector := deploymentMatchLabels
  strategy := "RollingUpdate"
  template := ⟨deploymentMatchLabels, {
    serviceAccountName := deploymentServiceAccountName config.namePrefix
    shareProcessNamespace := true
    initContainers := []
    containers := [collectorContainer, assembleConfigurationReloaderContainer config]
    volumes := assembleCollectorDeploymentVolumes config configMapItems
    hostNetwork := false }⟩

def assembleCollectorDeployment (c : Collaborators) (config : OTelColConfig) : Except String Deployment := do
  let collectorContainer ← assembleDeploymentCollectorContainer c config
  if config.selfMonitoringEnabled then
    c.enableSelfMonitoringInCollectorDeployment config (collectorDeployment config collectorContainer)
  else pure (collectorDeployment config collectorContainer)

/-- `assembleDesiredState`: the objects in the order they are created, and the error that stopped
the assembly, with the objects appended before it. -/
def assembleDesiredState (c : Collaborators) (config : OTelColConfig) : List Object × Option String :=
  let desiredState := [Object.serviceAccount (assembleServiceAccountForDaemonSet config)]
  match c.assembleDaemonSetCollectorConfigMap config with
  | .error err => (desiredState, some err)
  | .ok daemonSetCollectorConfigMap =>
    let desiredState := desiredState ++ [.configMap daemonSetCollectorConfigMap,
      .configMap (assembleFilelogOffsetsConfigMap config), .clusterRole (assembleClusterRoleForDaemonSet config),
      .clusterRoleBinding (assembleClusterRoleBindingForDaemonSet config), .role (assembleRole config),
      .roleBinding (assembleRoleBinding config), .service (assembleService config)]
    match assembleCollectorDaemonSet c config with
    | .error err => (desiredState, some err)
    | .ok collectorDaemonSet =>
      let desiredState := desiredState ++ [.daemonSet collectorDaemonSet,
        .serviceAccount (assembleServiceAccountForDeployment config),
        .clusterRole (assembleClusterRoleForDeployment config),
        .clusterRoleBinding (assembleClusterRoleBindingForDeployment config)]
      match c.assembleDeploymentCollectorConfigMap config with
      | .error err => (desiredState, some err)
      | .ok deploymentCollectorConfigMap =>
        let desiredState := desiredState ++ [.configMap deploymentCollectorConfigMap]
        match assembleCollectorDeployment c config with
        | .error err => (desiredState, some err)
        | .ok collectorDeployment => (desiredState ++ [.deployment collectorDeployment], none)

end Dash0Operator.DesiredState
