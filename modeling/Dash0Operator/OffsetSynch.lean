import Dash0Operator.OffsetArchive

/-! `synchOffsets`: on every tick of its ticker, and once more on `SIGTERM`, the offset synch
binary runs `doSynchOffsetsAndMeasure`. Each round archives the offsets directory with
`doSynchOffsets` and patches the node's field of the ConfigMap when the encoded archive differs
from `currentValue`, the package variable that holds the last value stored. A round's errors are
only logged, so a run is the fold of the rounds over the state. -/

namespace Dash0Operator.OffsetSynch

open OffsetArchive Tar

/-- What a round finds: the offsets directory, and the error of the `Patch` call if it makes one. -/
structure Round where
  snapshot : Snapshot
  patchError : Option String

/-- A recording of one of the three instruments of `doSynchOffsetsAndMeasure`. The elapsed time
the duration histogram records is left out. -/
inductive Measurement where
  | updateCount
  | offsetFileSize (bytes : Int)
  | updateDuration
  deriving DecidableEq, Repr

/-- `currentValue`, the ConfigMap on the API server, the values sent in merge patches with whether
the server accepted them, and the recorded measurements. -/
structure State where
  currentValue : String
  configMap : ConfigMap
  patchesSent : List (String × Bool)
  measurements : List Measurement

def initial (configMap : ConfigMap) : State := ⟨"", configMap, [], []⟩

section Rounds

variable (format : ArchiveFormat) (settings : Settings)

/-- `doSynchOffsets`: `IsOffsetUpdated`, `OffsetSizeBytes` and the error, with the state after it. -/
def doSynchOffsets (round : Round) (s : State) : (Bool × Int × Option String) × State :=
  match tarFolder format settings.fileLogOffsetDirectoryPath round.snapshot with
  | .error err => ((false, -1, some ("cannot prepare offset files for storing: " ++ err)), s)
  | .ok (tarredFiles, buf) =>
    if tarredFiles = 0 then ((false, -1, none), s)
    else
      let newValue := Base64.encodeToString buf
      if newValue = s.currentValue then ((false, -1, none), s)
      else
        match patchConfigMap round.patchError s.configMap settings.nodeName settings.configMapNamespace
            settings.configMapName newValue with
        | .error err =>
          ((false, -1, some ("cannot store offset files in configmap " ++ settings.configMapNamespace ++
              "/" ++ settings.configMapName ++ ": " ++ err)),
            { s with patchesSent := s.patchesSent ++ [(newValue, false)] })
        | .ok configMap =>
          ((false, buf.length, none),
            { s with currentValue := newValue, configMap := configMap,
                     patchesSent := s.patchesSent ++ [(newValue, true)] })

/-- `doSynchOffsetsAndMeasure`: the three instruments record only for a round without error that
reports the offsets as updated. -/
def doSynchOffsetsAndMeasure (s : State) (round : Round) : Option String × State :=
  let ((offsetUpdated, offsetUpdateSize, err), s) := doSynchOffsets format settings round s
  match err with
  | some err => (some err, s)
  | none =>
    if offsetUpdated then
      (none, { s with measurements :=
        s.measurements ++ [.updateCount, .offsetFileSize offsetUpdateSize, .updateDuration] })
    else (none, s)

def run (s : State) (rounds : List Round) : State :=
  rounds.foldl (fun s round => (doSynchOffsetsAndMeasure format settings s round).2) s

/-- `synchOffsets`: the ticker's rounds, then the round on shutdown. -/
def synchOffsets (configMap : ConfigMap) (ticks : List Round) (shutdown : Round) : State :=
  run format settings (initial configMap) (ticks ++ [shutdown])

theorem run_nil (s : State) : run format settings s [] = s := rfl

theorem run_cons (s : State) (round : Round) (rounds : List Round) :
    run format settings s (round :: rounds) =
      run format settings (doSynchOffsetsAndMeasure format settings s round).2 rounds := rfl

/-- A round sends a patch of `archive`: `tarFolder` succeeds with it and at least one file, and its
encoding differs from `currentValue`. -/
def Sends (s : State) (round : Round) (archive : List UInt8) : Prop :=
  ∃ tarredFiles, tarFolder format settings.fileLogOffsetDirectoryPath round.snapshot =
      .ok (tarredFiles, archive) ∧ 0 < tarredFiles ∧ Base64.encodeToString archive ≠ s.currentValue

/-- The state after a round that patches `archive`, by whether the server accepted the patch. -/
def patched (s : State) (archive : List UInt8) : Option String → State
  | some _ => { s with patchesSent := s.patchesSent ++ [(Base64.encodeToString archive, false)] }
  | none =>
    { s with currentValue := Base64.encodeToString archive,
             configMap := ⟨s.configMap.binaryData.insert settings.nodeName archive⟩,
             patchesSent := s.patchesSent ++ [(Base64.encodeToString archive, true)] }

theorem doSynchOffsetsAndMeasure_cases (s : State) (round : Round) :
    ((∀ archive, ¬ Sends format settings s round archive) ∧
        (doSynchOffsetsAndMeasure format settings s round).2 = s) ∨
      ∃ archive, Sends format settings s round archive ∧
        (doSynchOffsetsAndMeasure format settings s round).2 = patched settings s archive round.patchError := by
  simp only [doSynchOffsetsAndMeasure, doSynchOffsets]
  rcases tarred : tarFolder format settings.fileLogOffsetDirectoryPath round.snapshot with
    _ | ⟨tarredFiles, archive⟩
  · refine .inl ⟨fun archive ⟨_, failed, _⟩ => ?_, rfl⟩
    rw [tarred] at failed
    cases failed
  have sends : ∀ other, Sends format settings s round other ↔
      other = archive ∧ 0 < tarredFiles ∧ Base64.encodeToString archive ≠ s.currentValue := by
    simp [Sends, tarred, and_assoc, eq_comm]
  simp only [sends]
  by_cases empty : tarredFiles = 0
  · exact .inl ⟨by simp [empty], by simp [empty]⟩
  by_cases same : Base64.encodeToString archive = s.currentValue
  · exact .inl ⟨by simp [same], by simp [same]⟩
  refine .inr ⟨_, ⟨rfl, Nat.pos_of_ne_zero empty, same⟩, ?_⟩
  cases round.patchError <;> simp only [empty, same, if_false, patchConfigMap_stores] <;> rfl

theorem patched_measurements (s : State) (archive : List UInt8) (patchError : Option String) :
    (patched settings s archive patchError).measurements = s.measurements := by
  cases patchError <;> rfl

theorem doSynchOffsetsAndMeasure_measurements (s : State) (round : Round) :
    (doSynchOffsetsAndMeasure format settings s round).2.measurements = s.measurements := by
  rcases doSynchOffsetsAndMeasure_cases format settings s round with ⟨-, same⟩ | ⟨archive, -, sent⟩
  · rw [same]
  · rw [sent, patched_measurements]

theorem run_measurements (s : State) (rounds : List Round) :
    (run format settings s rounds).measurements = s.measurements := by
  induction rounds generalizing s with
  | nil => rfl
  | cons round rounds ih => rw [run_cons, ih, doSynchOffsetsAndMeasure_measurements]

def lastAccepted (patchesSent : List (String × Bool)) : String :=
  ((patchesSent.filter (·.2)).getLast?.map Prod.fst).getD ""

@[simp] theorem lastAccepted_rejected (patchesSent : List (String × Bool)) (value : String) :
    lastAccepted (patchesSent ++ [(value, false)]) = lastAccepted patchesSent := by
  simp [lastAccepted]

@[simp] theorem lastAccepted_accepted (patchesSent : List (String × Bool)) (value : String) :
    lastAccepted (patchesSent ++ [(value, true)]) = value := by
  simp [lastAccepted]

theorem sends_unique {s : State} {round : Round} {archive other : List UInt8}
    (sends : Sends format settings s round archive) (sendsOther : Sends format settings s round other) :
    archive = other := by
  obtain ⟨_, tarred, -⟩ := sends
  obtain ⟨_, tarredOther, -⟩ := sendsOther
  rw [tarred] at tarredOther
  cases tarredOther
  rfl

/-- The node's field of the ConfigMap holds the archive `currentValue` encodes. -/
def Stored (s : State) : Prop :=
  ∃ archive, s.configMap.binaryData.lookup settings.nodeName = some archive ∧
    Base64.encodeToString archive = s.currentValue

theorem round_stores_or_keeps (s : State) (round : Round) :
    ((doSynchOffsetsAndMeasure format settings s round).2.currentValue = s.currentValue ∧
        (doSynchOffsetsAndMeasure format settings s round).2.configMap = s.configMap) ∨
      Stored settings (doSynchOffsetsAndMeasure format settings s round).2 := by
  rcases doSynchOffsetsAndMeasure_cases format settings s round with ⟨-, same⟩ | ⟨archive, -, sent⟩
  · rw [same]
    exact .inl ⟨rfl, rfl⟩
  · rw [sent]
    cases round.patchError with
    | some _ => exact .inl ⟨rfl, rfl⟩
    | none => exact .inr ⟨archive, by simp [patched], rfl⟩

theorem round_current {s : State} (current : s.currentValue = lastAccepted s.patchesSent) (round : Round) :
    (doSynchOffsetsAndMeasure format settings s round).2.currentValue =
      lastAccepted (doSynchOffsetsAndMeasure format settings s round).2.patchesSent := by
  rcases doSynchOffsetsAndMeasure_cases format settings s round with ⟨-, same⟩ | ⟨archive, -, sent⟩
  · rwa [same]
  · rw [sent]
    cases round.patchError with
    | some _ => simpa [patched] using current
    | none => simp [patched]

theorem round_of_unchanged {s : State} {round : Round}
    (unchanged : ∀ tarredFiles archive,
      tarFolder format settings.fileLogOffsetDirectoryPath round.snapshot = .ok (tarredFiles, archive) →
        Base64.encodeToString archive = s.currentValue) :
    (doSynchOffsetsAndMeasure format settings s round).2 = s := by
  rcases doSynchOffsetsAndMeasure_cases format settings s round with ⟨-, same⟩ | ⟨archive, ⟨_, tarred, -, differs⟩, -⟩
  · exact same
  · exact absurd (unchanged _ _ tarred) differs

theorem run_of_unchanged (rounds : List Round) (s : State)
    (unchanged : ∀ round ∈ rounds, ∀ tarredFiles archive,
      tarFolder format settings.fileLogOffsetDirectoryPath round.snapshot = .ok (tarredFiles, archive) →
        Base64.encodeToString archive = s.currentValue) :
    run format settings s rounds = s := by
  induction rounds with
  | nil => rfl
  | cons round rounds ih =>
    rw [run_cons, round_of_unchanged format settings (unchanged round (List.mem_cons_self _ _))]
    exact ih fun other member => unchanged other (List.mem_cons_of_mem _ member)

/-! ## The operator's reconcile -/

/-- What changes the offsets ConfigMap while the sidecar runs: one of its rounds, or a reconcile of
the operator, whose `updateResource` replaces the ConfigMap with the desired one, which holds no
offsets. -/
inductive Event where
  | round (round : Round)
  | reconcile

def step (s : State) : Event → State
  | .round round => (doSynchOffsetsAndMeasure format settings s round).2
  | .reconcile => { s with configMap := ⟨GoMap.empty⟩ }

def runEvents (s : State) (events : List Event) : State :=
  events.foldl (step format settings) s

theorem runEvents_rounds (s : State) (rounds : List Round) :
    runEvents format settings s (rounds.map .round) = run format settings s rounds := by
  induction rounds generalizing s with
  | nil => rfl
  | cons round rounds ih => exact ih _

/-- What every state of an interleaved run satisfies: `currentValue` is the last value the server
accepted, and once there is one the node's field holds its archive, unless a reconcile has emptied
the ConfigMap. -/
structure Synchronized (seen : List Event) (s : State) : Prop where
  current : s.currentValue = lastAccepted s.patchesSent
  stored : s.currentValue ≠ "" → Stored settings s ∨
    (s.configMap.binaryData.lookup settings.nodeName = none ∧ Event.reconcile ∈ seen)

theorem synchronized_step {seen : List Event} {s : State} (synchronized : Synchronized settings seen s)
    (event : Event) : Synchronized settings (seen ++ [event]) (step format settings s event) := by
  cases event with
  | reconcile => exact ⟨synchronized.current, fun _ => .inr ⟨rfl, by simp⟩⟩
  | round round =>
    refine ⟨round_current format settings synchronized.current round, fun nonempty => ?_⟩
    rcases round_stores_or_keeps format settings s round with ⟨current, configMap⟩ | stored
    · simp only [step, current, configMap, Stored] at nonempty ⊢
      rcases synchronized.stored nonempty with stored | ⟨absent, wiped⟩
      · exact .inl stored
      · exact .inr ⟨absent, List.mem_append_left _ wiped⟩
    · exact .inl stored

theorem synchronized_runEvents {seen : List Event} {s : State} (synchronized : Synchronized settings seen s)
    (events : List Event) : Synchronized settings (seen ++ events) (runEvents format settings s events) := by
  induction events generalizing seen s with
  | nil => simpa using synchronized
  | cons event events ih =>
    simpa using ih (synchronized_step format settings synchronized event)

/-- Once the server has accepted a patch, `currentValue` encodes an archive that `tarFolder` wrote in
one of the rounds `seen`, and the ConfigMap holds that archive unless a reconcile has emptied it. -/
def Restorable (seen : List Event) (s : State) : Prop :=
  s.patchesSent.any (·.2) = true →
    ∃ round, Event.round round ∈ seen ∧ ∃ tarredFiles archive,
      tarFolder format settings.fileLogOffsetDirectoryPath round.snapshot = .ok (tarredFiles, archive) ∧
        Base64.encodeToString archive = s.currentValue ∧
        (s.configMap.binaryData.lookup settings.nodeName = some archive ∨
          (s.configMap.binaryData.lookup settings.nodeName = none ∧ Event.reconcile ∈ seen))

theorem restorable_step {seen : List Event} {s : State} (restorable : Restorable format settings seen s)
    (event : Event) : Restorable format settings (seen ++ [event]) (step format settings s event) := by
  have widen : ∀ {t : State}, t.currentValue = s.currentValue → t.configMap = s.configMap →
      (t.patchesSent.any (·.2) = true → s.patchesSent.any (·.2) = true) →
        Restorable format settings (seen ++ [event]) t := by
    intro t current configMap accepted acceptedNow
    obtain ⟨earlier, member, tarredFiles, archive, tarred, encoded, kept⟩ := restorable (accepted acceptedNow)
    refine ⟨earlier, List.mem_append_left _ member, tarredFiles, archive, tarred, current ▸ encoded, ?_⟩
    rw [configMap]
    exact kept.imp_right fun ⟨absent, wiped⟩ => ⟨absent, List.mem_append_left _ wiped⟩
  cases event with
  | reconcile =>
    intro accepted
    obtain ⟨earlier, member, tarredFiles, archive, tarred, encoded, -⟩ := restorable accepted
    exact ⟨earlier, List.mem_append_left _ member, tarredFiles, archive, tarred, encoded, .inr ⟨rfl, by simp⟩⟩
  | round round =>
    rcases doSynchOffsetsAndMeasure_cases format settings s round with
      ⟨-, same⟩ | ⟨archive, ⟨tarredFiles, tarred, -⟩, sent⟩
    · simp only [step, same]
      exact widen rfl rfl id
    · simp only [step, sent]
      cases round.patchError with
      | some _ => exact widen rfl rfl (by simp [patched])
      | none =>
        exact fun _ => ⟨round, by simp, tarredFiles, archive, tarred, rfl, .inl (by simp [patched])⟩

theorem restorable_runEvents {seen : List Event} {s : State} (restorable : Restorable format settings seen s)
    (events : List Event) :
    Restorable format settings (seen ++ events) (runEvents format settings s events) := by
  induction events generalizing seen s with
  | nil => simpa using restorable
  | cons event events ih =>
    simpa using ih (restorable_step format settings restorable event)

end Rounds

/-! ## A run -/

section Run

variable (format : ArchiveFormat) (settings : Settings) (configMap : ConfigMap)

theorem initial_synchronized : Synchronized settings [] (initial configMap) :=
  ⟨rfl, fun empty => absurd rfl empty⟩

/-- Over every interleaving of the sidecar's rounds with the operator's reconciles, `currentValue` is
the last value the server accepted, the empty string before the first, and from then on the node's
field holds the archive it encodes, or is empty after a reconcile. -/
theorem interleaved_runs_stay_synchronized (events : List Event) :
    Synchronized settings events (runEvents format settings (initial configMap) events) := by
  simpa using synchronized_runEvents format settings (initial_synchronized settings configMap) events

/-- No run records a measurement. -/
theorem synchOffsets_records_nothing (ticks : List Round) (shutdown : Round) :
    (synchOffsets format settings configMap ticks shutdown).measurements = [] :=
  run_measurements format settings _ _

/-- After a reconcile, rounds that find the offsets as they were when last sent send nothing: the
run ends in the state the reconcile left, with no offsets of the node in the ConfigMap. -/
theorem reconciled_offsets_stay_lost (s : State) (rounds : List Round)
    (unchanged : ∀ round ∈ rounds, ∀ tarredFiles archive,
      tarFolder format settings.fileLogOffsetDirectoryPath round.snapshot = .ok (tarredFiles, archive) →
        Base64.encodeToString archive = s.currentValue) :
    runEvents format settings s (.reconcile :: rounds.map .round) = { s with configMap := ⟨GoMap.empty⟩ } := by
  show runEvents format settings { s with configMap := ⟨GoMap.empty⟩ } (rounds.map .round) = _
  rw [runEvents_rounds]
  exact run_of_unchanged format settings rounds _ unchanged

/-- After any run in which the server accepted a patch, `initOffsets` on a node where nothing is at
or below the offsets path restores the directory as one round of the run saw it, the round whose
archive encodes the last value the server accepted; or, after a reconcile of the operator, restores
nothing. -/
theorem restart_restores_last_accepted_snapshot_unless_reconciled (events : List Event)
    (accepted : (runEvents format settings (initial configMap) events).patchesSent.any (·.2) = true)
    (fs : FileSystem) (parentExists : fs settings.fileLogOffsetDirectoryPath.dropLast = some .directory)
    (absent : Absent fs settings.fileLogOffsetDirectoryPath) :
    (∃ round, Event.round round ∈ events ∧ ∃ tarredFiles archive,
      tarFolder format settings.fileLogOffsetDirectoryPath round.snapshot = .ok (tarredFiles, archive) ∧
      Base64.encodeToString archive = lastAccepted (runEvents format settings (initial configMap) events).patchesSent ∧
      ∃ restored, initOffsets format settings (.ok (runEvents format settings (initial configMap) events).configMap)
          fs = (tarredFiles, none, restored) ∧
        (∀ path node, round.snapshot.tree.Contains settings.fileLogOffsetDirectoryPath path node →
          restored path = some node) ∧
        ∀ path, ¬ settings.fileLogOffsetDirectoryPath <+: path → restored path = fs path) ∨
    (Event.reconcile ∈ events ∧
      initOffsets format settings (.ok (runEvents format settings (initial configMap) events).configMap) fs =
        (0, none, fs)) := by
  have restorable := restorable_runEvents format settings
    (show Restorable format settings [] (initial configMap) from fun accepted => absurd accepted (by simp [initial]))
    events
  obtain ⟨round, member, tarredFiles, archive, tarred, encoded, kept⟩ := restorable accepted
  rw [List.nil_append] at member kept
  rcases kept with stored | ⟨missing, wiped⟩
  · refine .inl ⟨round, member, tarredFiles, archive, tarred, ?_,
      initOffsets_restores_stored format settings round.snapshot tarredFiles archive tarred _ stored fs
        parentExists absent⟩
    rw [encoded]
    exact (synchronized_runEvents format settings (initial_synchronized settings configMap) events).current
  · exact .inr ⟨wiped, by simp only [initOffsets, missing]⟩

end Run

def tinySettings : Settings := ⟨"node-1", "dash0-system", "dash0-operator-filelogoffsets", ["offsets"]⟩

def tinySnapshot : Snapshot := ⟨.directory "offsets" (.ok [.file "f" (.ok [7])]), rfl⟩

def tinyEntries : List TarEntry :=
  [⟨⟨["offsets"], .typeDir, 0⟩, []⟩, ⟨⟨["offsets", "f"], .typeReg, 1⟩, [7]⟩]

theorem tiny_run_eq :
    synchOffsets listFormat tinySettings ⟨GoMap.empty⟩ [] ⟨tinySnapshot, none⟩ =
      patched tinySettings (initial ⟨GoMap.empty⟩) (listFormat.write tinyEntries) none := by
  have sends : Sends listFormat tinySettings (initial ⟨GoMap.empty⟩) ⟨tinySnapshot, none⟩
      (listFormat.write tinyEntries) :=
    ⟨1, rfl, Nat.one_pos, Base64.encodeToString_ne_empty (List.cons_ne_nil _ _)⟩
  rcases doSynchOffsetsAndMeasure_cases listFormat tinySettings (initial ⟨GoMap.empty⟩) ⟨tinySnapshot, none⟩ with
    ⟨quiet, -⟩ | ⟨archive, sendsArchive, sent⟩
  · exact absurd sends (quiet _)
  · rw [sends_unique listFormat tinySettings sendsArchive sends] at sent
    simp only [synchOffsets, List.nil_append, run_cons, run_nil, sent]

/-- The shutdown round of a run without ticks archives one file, and the server accepts its patch;
no instrument records. -/
theorem accepted_patch_records_no_measurement :
    (synchOffsets listFormat tinySettings ⟨GoMap.empty⟩ [] ⟨tinySnapshot, none⟩).patchesSent =
        [(Base64.encodeToString (listFormat.write tinyEntries), true)] ∧
      (synchOffsets listFormat tinySettings ⟨GoMap.empty⟩ [] ⟨tinySnapshot, none⟩).measurements = [] := by
  rw [tiny_run_eq]
  exact ⟨rfl, rfl⟩

def tinyNode : FileSystem := fun path => if path = [] then some .directory else none

theorem tiny_tarFolder :
    tarFolder listFormat tinySettings.fileLogOffsetDirectoryPath tinySnapshot = .ok (1, listFormat.write tinyEntries) :=
  rfl

def tinyEvents : List Event := [.round ⟨tinySnapshot, none⟩, .reconcile]

theorem tiny_events_eq :
    runEvents listFormat tinySettings (initial ⟨GoMap.empty⟩) tinyEvents =
      { patched tinySettings (initial ⟨GoMap.empty⟩) (listFormat.write tinyEntries) none with
        configMap := ⟨GoMap.empty⟩ } := by
  have round : (doSynchOffsetsAndMeasure listFormat tinySettings (initial ⟨GoMap.empty⟩) ⟨tinySnapshot, none⟩).2 =
      patched tinySettings (initial ⟨GoMap.empty⟩) (listFormat.write tinyEntries) none := tiny_run_eq
  simp only [runEvents, tinyEvents, List.foldl_cons, List.foldl_nil, step, round]

theorem restart_after_reconcile_restores_nothing :
    (∃ round, Event.round round ∈ tinyEvents ∧ ∃ tarredFiles archive,
      tarFolder listFormat tinySettings.fileLogOffsetDirectoryPath round.snapshot = .ok (tarredFiles, archive) ∧
      Base64.encodeToString archive =
        lastAccepted (runEvents listFormat tinySettings (initial ⟨GoMap.empty⟩) tinyEvents).patchesSent ∧
      ∃ restored, initOffsets listFormat tinySettings
          (.ok (runEvents listFormat tinySettings (initial ⟨GoMap.empty⟩) tinyEvents).configMap) tinyNode =
          (tarredFiles, none, restored) ∧
        (∀ path node, round.snapshot.tree.Contains tinySettings.fileLogOffsetDirectoryPath path node →
          restored path = some node) ∧
        ∀ path, ¬ tinySettings.fileLogOffsetDirectoryPath <+: path → restored path = tinyNode path) ∨
    (Event.reconcile ∈ tinyEvents ∧
      initOffsets listFormat tinySettings
          (.ok (runEvents listFormat tinySettings (initial ⟨GoMap.empty⟩) tinyEvents).configMap) tinyNode =
        (0, none, tinyNode)) :=
  restart_restores_last_accepted_snapshot_unless_reconciled listFormat tinySettings ⟨GoMap.empty⟩ tinyEvents
    (by rw [tiny_events_eq]; rfl)
    tinyNode rfl (fun rest => by simp [tinyNode, tinySettings])

theorem tiny_offsets_stay_lost :
    runEvents listFormat tinySettings (patched tinySettings (initial ⟨GoMap.empty⟩) (listFormat.write tinyEntries) none)
        (.reconcile :: [⟨tinySnapshot, none⟩].map .round) =
      { patched tinySettings (initial ⟨GoMap.empty⟩) (listFormat.write tinyEntries) none with
        configMap := ⟨GoMap.empty⟩ } :=
  reconciled_offsets_stay_lost listFormat tinySettings _ [⟨tinySnapshot, none⟩] fun round member tarredFiles archive
    tarred => by
      rw [List.mem_singleton.mp member, tiny_tarFolder] at tarred
      cases tarred
      rfl

end Dash0Operator.OffsetSynch
