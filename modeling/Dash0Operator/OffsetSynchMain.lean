import Dash0Operator.CollectorResources
import Dash0Operator.OffsetSynch

/-! `main` of the filelog offset synch binary as the collector pods start it: `flag.Parse` reads the
`mode`, the environment the kubelet builds from the container's `env` gives the settings, and the
mode selects `initOffsets` or `synchOffsets`. The theorems put this together with the operator: the
containers it assembles start the binary on the ConfigMap it creates and in the directory the
collector mounts, and a reconciliation replaces that ConfigMap, the offsets in it included. -/

namespace Dash0Operator.OffsetSynchMain

open DesiredState CollectorResources OffsetArchive Tar

/-! ## The environment -/

structure PodFields where
  nodeName : String
  podUid : String
  podIP : String

def fieldValue (pod : PodFields) : String → Option String
  | "spec.nodeName" => some pod.nodeName
  | "metadata.uid" => some pod.podUid
  | "status.podIP" => some pod.podIP
  | _ => none

/-- The process environment the kubelet builds from a container's `env`, in order, with the value of
each `fieldRef` and `secretKeyRef`; `none` when one cannot be resolved and the container does not
start. -/
def environment (pod : PodFields) (secrets : String → String → Option String) :
    List EnvVar → Option (List (String × String))
  | [] => some []
  | envVar :: rest => do
    let value ← match envVar.valueFrom with
      | none => some envVar.value
      | some (.fieldRef fieldPath) => fieldValue pod fieldPath
      | some (.secretKeyRef name key) => secrets name key
    let resolved ← environment pod secrets rest
    pure ((envVar.name, value) :: resolved)

/-- `os.LookupEnv`: the kubelet keeps the last variable of a name. -/
def lookupEnv (env : List (String × String)) (name : String) : Option String :=
  env.reverse.lookup name

def splitPath (path : String) : Path := ((path.toList.splitOn '/').map String.mk).filter (· ≠ "")

/-! ## `flag.Parse` -/

/-- How `flag.parseOne` reads one argument. -/
inductive Arg where
  /-- Shorter than two characters or not starting with `-`: parsing stops before it. -/
  | operand
  /-- `--`: parsing stops after it. -/
  | terminator
  | badSyntax
  | flag (name : String) (value : Option String)
  deriving DecidableEq, Repr

/-- A flag's name and, after the first `=`, its value. -/
def splitValue (name : List Char) : Arg :=
  match name.span (· ≠ '=') with
  | (flagName, []) => .flag (String.mk flagName) none
  | (flagName, _ :: value) => .flag (String.mk flagName) (some (String.mk value))

def classify (s : String) : Arg :=
  match s.toList with
  | ['-', '-'] => .terminator
  | '-' :: '-' :: name => named name
  | '-' :: c :: name => named (c :: name)
  | _ => .operand
where
  named : List Char → Arg
    | [] => .badSyntax
    | '-' :: _ => .badSyntax
    | '=' :: _ => .badSyntax
    | name => splitValue name

/-- `flag.Parse` of the command line that defines the one string flag `mode`: the mode and
`flag.Args()`, or the error the command line prints before it exits. -/
def parseFlags (mode : String) : List String → Except String (String × List String)
  | [] => .ok (mode, [])
  | s :: args =>
    match classify s with
    | .operand => .ok (mode, s :: args)
    | .terminator => .ok (mode, args)
    | .badSyntax => .error ("bad flag syntax: " ++ s)
    | .flag name value =>
      if name = "mode" then
        match value, args with
        | some value, args => parseFlags value args
        | none, value :: args => parseFlags value args
        | none, [] => .error "flag needs an argument: -mode"
      else if name = "help" ∨ name = "h" then .error "flag: help requested"
      else .error ("flag provided but not defined: -" ++ name)

/-! ## `main` -/

/-- How `main` ends before the mode switch: the exit status and the message. -/
structure Exit where
  code : Nat
  message : String
  deriving DecidableEq, Repr

/-- What `main` runs after its setup: the mode, the settings, and whether it exports its own
metrics and spans. -/
structure Launch where
  mode : String
  settings : Settings
  telemetry : Bool

/-- `main` up to the mode switch, with `rest.InClusterConfig`, the exporters, the meters and the
clientset created. A flag error exits with 2, or 0 for help, and `log.Fatal` with 1. -/
def startup (args : List String) (env : List (String × String)) : Except Exit Launch := do
  let (mode, otherArgs) ← (parseFlags "synch" args).mapError fun err =>
    ⟨if err = "flag: help requested" then 0 else 2, err⟩
  if otherArgs ≠ [] then throw ⟨1, "Unexpected arguments: " ++ ",".intercalate otherArgs⟩
  let some configMapNamespace := lookupEnv env "K8S_CONFIGMAP_NAMESPACE"
    | throw ⟨1, "Required env var 'K8S_CONFIGMAP_NAMESPACE' is not set"⟩
  let some configMapName := lookupEnv env "K8S_CONFIGMAP_NAME"
    | throw ⟨1, "Required env var 'K8S_CONFIGMAP_NAME' is not set"⟩
  let nodeName := (lookupEnv env "K8S_NODE_NAME").getD ""
  let some fileLogOffsetDirectoryPath := lookupEnv env "FILELOG_OFFSET_DIRECTORY_PATH"
    | throw ⟨1, "Required env var 'FILELOG_OFFSET_DIRECTORY_PATH' is not set"⟩
  let telemetry := (lookupEnv env "OTEL_EXPORTER_OTLP_ENDPOINT").isSome
  if telemetry then
    match (lookupEnv env "OTEL_EXPORTER_OTLP_PROTOCOL").getD "http/protobuf" with
    | "grpc" | "http/protobuf" => pure ()
    | "http/json" =>
      throw ⟨1, "Cannot create the OTLP HTTP exporter: the protocol 'http/json' is currently unsupported"⟩
    | protocol => throw ⟨1, "Unexpected OTLP protocol set as value of the " ++
        "'OTEL_EXPORTER_OTLP_PROTOCOL' environment variable: " ++ protocol⟩
  pure ⟨mode, ⟨nodeName, configMapNamespace, configMapName, splitPath fileLogOffsetDirectoryPath⟩, telemetry⟩

/-- A container of the pod as the kubelet starts it and `main` reads it. -/
def launch (pod : PodFields) (secrets : String → String → Option String) (container : Container) :
    Option (Except Exit Launch) :=
  (environment pod secrets container.env).map (startup container.args)

/-- `main`'s `init` branch: the exit status, what it logs, and the file system `initOffsets` leaves. -/
def runInit (format : ArchiveFormat) (settings : Settings) (configMap : Except String OffsetArchive.ConfigMap)
    (fs : FileSystem) : Nat × Option String × FileSystem :=
  match initOffsets format settings configMap fs with
  | (_, some err, fs) => (1, some ("No offset files restored: " ++ err), fs)
  | (0, none, fs) => (0, some "No offset files restored", fs)
  | (_, none, fs) => (0, none, fs)

/-! ## The offsets ConfigMap on the API server -/

def ApiError.message : ApiError → String
  | .notFound => "not found"
  | .alreadyExists => "already exists"
  | .other message => message

/-- A ConfigMap as the clientset decodes it: `binaryData` into a Go map, a later entry of a key
replacing an earlier one. -/
def decodeConfigMap (configMap : DesiredState.ConfigMap) : OffsetArchive.ConfigMap :=
  ⟨configMap.binaryData.foldl (fun m entry => m.insert entry.1 entry.2) GoMap.empty⟩

/-- The `Get` of the offsets ConfigMap in `initOffsets`. -/
def getOffsetsConfigMap (server : ApiServer) (settings : Settings) : Except String OffsetArchive.ConfigMap :=
  match (server.get ⟨"v1", "ConfigMap", settings.configMapNamespace, settings.configMapName⟩).1 with
  | .ok (.configMap configMap) => .ok (decodeConfigMap configMap)
  | .ok _ => .error "not a ConfigMap"
  | .error err => .error (ApiError.message err)

/-! ## The operator's containers -/

def operatorSettings (config : OTelColConfig) (nodeName : String) : Settings :=
  ⟨nodeName, config.k8sNamespace, FilelogReceiverOffsetsConfigMapName config.namePrefix, splitPath offsetsDirPath⟩

theorem offsetSynchContainers_launch (config : OTelColConfig) (pod : PodFields)
    (secrets : String → String → Option String) :
    launch pod secrets (assembleFileLogOffsetSynchInitContainer config) =
        some (.ok ⟨"init", operatorSettings config pod.nodeName, false⟩) ∧
      launch pod secrets (assembleFileLogOffsetSynchContainer config) =
        some (.ok ⟨"synch", operatorSettings config pod.nodeName, false⟩) :=
  ⟨rfl, rfl⟩

/-- Without self-monitoring, every agent pod of the desired state runs the binary twice, as its init
container in mode `init` and as a sidecar in mode `synch`, both for the pod's node, on the offsets
ConfigMap of the desired state, and in the directory at which the collector container mounts the same
volume. -/
theorem agent_pods_synch_offsets_of_desired_state {c : Collaborators} (contract : c.Contract)
    {config : OTelColConfig} {objects : List Object} (assembled : assembleDesiredState c config = (objects, none))
    (selfMonitoringDisabled : config.selfMonitoringEnabled = false) (pod : PodFields)
    (secrets : String → String → Option String) :
    let settings := operatorSettings config pod.nodeName
    ∀ ds, Object.daemonSet ds ∈ objects →
      ∃ init synch collector, ds.template.spec.initContainers = [init] ∧
        synch ∈ ds.template.spec.containers ∧ collector ∈ ds.template.spec.containers ∧
        assembleDaemonSetCollectorContainer c config = .ok collector ∧
        launch pod secrets init = some (.ok ⟨"init", settings, false⟩) ∧
        launch pod secrets synch = some (.ok ⟨"synch", settings, false⟩) ∧
        (∃ configMap, Object.configMap configMap ∈ objects ∧
          configMap.meta.k8sNamespace = settings.configMapNamespace ∧ configMap.meta.name = settings.configMapName) ∧
        ∃ mount ∈ collector.volumeMounts, mount ∈ init.volumeMounts ∧ mount ∈ synch.volumeMounts ∧
          splitPath mount.mountPath = settings.fileLogOffsetDirectoryPath := by
  intro settings ds member
  obtain ⟨_, ds', _, _, -, built, -, -, rfl⟩ := assembleDesiredState_eq_ok assembled
  obtain rfl : ds = ds' := by simpa using member
  obtain ⟨collector, collectorBuilt, -, same⟩ := assembleCollectorDaemonSet_eraseEnv contract built
  obtain rfl := same selfMonitoringDisabled
  obtain ⟨initLaunch, synchLaunch⟩ := offsetSynchContainers_launch config pod secrets
  refine ⟨assembleFileLogOffsetSynchInitContainer config, assembleFileLogOffsetSynchContainer config, collector,
    rfl, by simp [collectorDaemonSet], by simp [collectorDaemonSet], collectorBuilt, initLaunch, synchLaunch,
    ⟨assembleFilelogOffsetsConfigMap config, by simp, rfl, rfl⟩, filelogReceiverOffsetsVolumeMount, ?_,
    by simp [assembleFileLogOffsetSynchInitContainer], by simp [assembleFileLogOffsetSynchContainer], rfl⟩
  simp [assembleDaemonSetCollectorContainer_mounts collectorBuilt, assembleCollectorDaemonSetVolumeMounts]

/-! ## A reconciliation and the stored offsets -/

/-- The API server stores a ConfigMap written to it with its data: it fills in metadata only. -/
def KeepsConfigMapData (defaults : Object → Object) : Prop :=
  ∀ configMap, ∃ meta, defaults (.configMap configMap) = .configMap { configMap with meta := meta }

theorem reconcile_leaves_offsets_config_map {c : Collaborators} (contract : c.Contract)
    {config : OTelColConfig} {objects : List Object} (assembled : assembleDesiredState c config = (objects, none))
    {server : ApiServer} (reliable : server.Reliable) (keepsData : KeepsConfigMapData server.defaults)
    (format : ArchiveFormat) (nodeName : String) (s : OffsetSynch.State) :
    getOffsetsConfigMap (CreateOrUpdateOpenTelemetryCollectorResources c config server).2
        (operatorSettings config nodeName) =
      .ok (OffsetSynch.step format (operatorSettings config nodeName) s .reconcile).configMap := by
  obtain ⟨-, desired, writes⟩ := reconcile_of_reliable contract assembled reliable
  obtain ⟨_, _, _, _, -, -, -, -, listed⟩ := assembleDesiredState_eq_ok assembled
  obtain ⟨meta, kept⟩ := keepsData (assembleFilelogOffsetsConfigMap config)
  have stored := desired (Object.configMap (assembleFilelogOffsetsConfigMap config)) (by simp [listed])
  rw [kept] at stored
  generalize (CreateOrUpdateOpenTelemetryCollectorResources c config server) = result at stored writes ⊢
  have noFault : result.2.faults result.2.calls = none := by rw [writes.faults]; exact reliable _
  simp only [getOffsetsConfigMap, ApiServer.get, noFault]
  have key : (⟨"v1", "ConfigMap", (operatorSettings config nodeName).configMapNamespace,
      (operatorSettings config nodeName).configMapName⟩ : Key) =
      (Object.configMap (assembleFilelogOffsetsConfigMap config)).key := rfl
  rw [key, stored]
  rfl

/-- After a reconciliation on a server whose calls go through, the offsets ConfigMap holds no node's
offsets, whatever the sidecars had stored in it: `createOrUpdateResource` replaces it with the empty
one of the desired state. The init container of every agent pod started then restores nothing, and
the reconciliation reports an update if the ConfigMap held offsets. -/
theorem reconcile_discards_filelog_offsets {c : Collaborators} (contract : c.Contract) {config : OTelColConfig}
    {objects : List Object} (assembled : assembleDesiredState c config = (objects, none))
    {server : ApiServer} (reliable : server.Reliable) (keepsData : KeepsConfigMapData server.defaults)
    (format : ArchiveFormat) (nodeName : String) (fs : FileSystem) :
    let result := CreateOrUpdateOpenTelemetryCollectorResources c config server
    runInit format (operatorSettings config nodeName)
        (getOffsetsConfigMap result.2 (operatorSettings config nodeName)) fs =
      (0, some "No offset files restored", fs) ∧
    ((∃ stored, server.stored (Object.configMap (assembleFilelogOffsetsConfigMap config)).key =
        some (.configMap stored) ∧ stored.binaryData ≠ []) → result.1.2.1 = true) := by
  refine ⟨by rw [reconcile_leaves_offsets_config_map contract assembled reliable keepsData format nodeName
    (OffsetSynch.initial ⟨GoMap.empty⟩)]; rfl, fun ⟨old, present, holdsOffsets⟩ => ?_⟩
  obtain ⟨flags, -, -⟩ := reconcile_of_reliable contract assembled reliable
  obtain ⟨_, _, _, _, -, -, -, -, listed⟩ := assembleDesiredState_eq_ok assembled
  obtain ⟨meta, kept⟩ := keepsData (assembleFilelogOffsetsConfigMap config)
  rw [flags]
  refine (any_changeOf_changed _ _ _).mpr ⟨_, by simp [listed], _, present, fun same => holdsOffsets ?_⟩
  rw [kept] at same
  cases same
  rfl

/-! ## The sample configuration -/

def sampleConfigWithoutSelfMonitoring : OTelColConfig := { sampleConfig with selfMonitoringEnabled := false }

def samplePod : PodFields := ⟨"node-1", "pod-1", "10.0.0.1"⟩

def sampleDaemonSet : DaemonSet :=
  match assembleCollectorDaemonSet sampleCollaborators sampleConfigWithoutSelfMonitoring with
  | .ok ds => ds
  | .error _ => collectorDaemonSet sampleConfigWithoutSelfMonitoring
    (assembleConfigurationReloaderContainer sampleConfigWithoutSelfMonitoring)

theorem sample_agent_pods_synch_offsets :
    ∃ init synch collector, sampleDaemonSet.template.spec.initContainers = [init] ∧
      synch ∈ sampleDaemonSet.template.spec.containers ∧ collector ∈ sampleDaemonSet.template.spec.containers ∧
      assembleDaemonSetCollectorContainer sampleCollaborators sampleConfigWithoutSelfMonitoring = .ok collector ∧
      launch samplePod (fun _ _ => none) init =
        some (.ok ⟨"init", operatorSettings sampleConfigWithoutSelfMonitoring samplePod.nodeName, false⟩) ∧
      launch samplePod (fun _ _ => none) synch =
        some (.ok ⟨"synch", operatorSettings sampleConfigWithoutSelfMonitoring samplePod.nodeName, false⟩) ∧
      (∃ configMap, Object.configMap configMap ∈
          (assembleDesiredState sampleCollaborators sampleConfigWithoutSelfMonitoring).1 ∧
        configMap.meta.k8sNamespace =
          (operatorSettings sampleConfigWithoutSelfMonitoring samplePod.nodeName).configMapNamespace ∧
        configMap.meta.name = (operatorSettings sampleConfigWithoutSelfMonitoring samplePod.nodeName).configMapName) ∧
      ∃ mount ∈ collector.volumeMounts, mount ∈ init.volumeMounts ∧ mount ∈ synch.volumeMounts ∧
        splitPath mount.mountPath =
          (operatorSettings sampleConfigWithoutSelfMonitoring samplePod.nodeName).fileLogOffsetDirectoryPath :=
  agent_pods_synch_offsets_of_desired_state sampleCollaborators_contract
    (show assembleDesiredState sampleCollaborators sampleConfigWithoutSelfMonitoring = (_, none) from rfl) rfl
    samplePod (fun _ _ => none) sampleDaemonSet (by decide)

def patchedServer : ApiServer :=
  reconciledServer.store (Object.configMap (assembleFilelogOffsetsConfigMap sampleConfig)).key
    (some (.configMap { assembleFilelogOffsetsConfigMap sampleConfig with binaryData := [("node-1", [31, 139])] }))

theorem sample_reconcile_discards_offsets :
    let result := CreateOrUpdateOpenTelemetryCollectorResources sampleCollaborators sampleConfig patchedServer
    runInit listFormat (operatorSettings sampleConfig "node-1")
        (getOffsetsConfigMap result.2 (operatorSettings sampleConfig "node-1")) (fun _ => none) =
      (0, some "No offset files restored", fun _ => none) ∧
    result.1.2.1 = true :=
  have discards := reconcile_discards_filelog_offsets sampleCollaborators_contract
    (show assembleDesiredState sampleCollaborators sampleConfig = (sampleObjects, none) from rfl)
    (show patchedServer.Reliable from fun _ => rfl) (fun configMap => ⟨configMap.meta, rfl⟩) listFormat "node-1"
    (fun _ => none)
  ⟨discards.1, discards.2
    ⟨{ assembleFilelogOffsetsConfigMap sampleConfig with binaryData := [("node-1", [31, 139])] }, by decide, by decide⟩⟩

end Dash0Operator.OffsetSynchMain
