import Dash0Operator.Tar
import Dash0Operator.Base64

/-! The filelog offset synch binary's archive of the offsets directory. `tarFolder` writes the
entries `filepath.Walk` and `tarFile` produce, `patchConfigMap` stores their base64 text in the
node's `binaryData` field, and `initOffsets` reads that field back and restores each entry with
`restoreFile`. The file system is a map from paths to directories and regular files; the main
theorem says that restoring an archive recreates the directory tree it was written from. -/

namespace Dash0Operator.OffsetArchive

open Tar

/-- A snapshot of the offsets directory as `filepath.Walk` reads it: a regular file's bytes or the
error of opening or copying it, a directory's entries in the sorted order of `readDirNames` or the
error of listing it. -/
inductive Tree where
  | file (name : String) (contents : Except String (List UInt8))
  | directory (name : String) (children : Except String (List Tree))

def Tree.name : Tree → String
  | .file name _ => name
  | .directory name _ => name

def Tree.namesDistinct : Tree → Bool
  | .directory _ (.ok children) => decide (children.map Tree.name).Nodup && namesDistinctAll children
  | _ => true
where
  namesDistinctAll : List Tree → Bool
    | [] => true
    | child :: children => child.namesDistinct && namesDistinctAll children

structure Snapshot where
  tree : Tree
  namesDistinct : tree.namesDistinct = true

/-! ## Writing the archive -/

/-- `tarFile` as the walk function of `tarFolder` calls it: the entry of a directory, or of a
regular file with the bytes read from it; a read error is wrapped with the entry's path. -/
def tarFile (path : Path) : Tree → Except String TarEntry
  | .directory _ _ => .ok ⟨⟨path, .typeDir, 0⟩, []⟩
  | .file _ (.ok contents) => .ok ⟨⟨path, .typeReg, contents.length⟩, contents⟩
  | .file _ (.error err) => .error ("cannot add entry '" ++ render path ++ "' to archive: " ++ err)

/-- `filepath.Walk` with the walk function of `tarFolder`: a directory's entry comes before its
children's, and the first error ends the walk. A directory that cannot be listed is passed to the
walk function with the error, which returns it. -/
def walk (path : Path) : Tree → Except String (List TarEntry)
  | .directory _ (.error err) => .error err
  | .directory name (.ok children) => do
    let entry ← tarFile path (.directory name (.ok children))
    let rest ← walkChildren path children
    pure (entry :: rest)
  | .file name contents => (fun entry => [entry]) <$> tarFile path (.file name contents)
where
  walkChildren (path : Path) : List Tree → Except String (List TarEntry)
    | [] => .ok []
    | child :: children => do
      let first ← walk (path ++ [child.name]) child
      let rest ← walkChildren path children
      pure (first ++ rest)

/-- `tarFolder`: the number of regular files tarred and the archive bytes. Closing the tar and
gzip writers over a `bytes.Buffer` cannot fail. -/
def tarFolder (format : ArchiveFormat) (path : Path) (snapshot : Snapshot) :
    Except String (Nat × List UInt8) :=
  match walk path snapshot.tree with
  | .error err => .error ("an error occurred while tar-ing the offset files: " ++ err)
  | .ok entries => .ok (entries.countP TarEntry.isFile, format.write entries)

/-! ## The file system -/

inductive Node where
  | directory
  | file (contents : List UInt8)
  deriving DecidableEq, Repr

abbrev FileSystem := Path → Option Node

/-- The error of creating `path`, whose parent must be a directory. -/
def createError (fs : FileSystem) (path : Path) : Option String :=
  match fs path.dropLast with
  | some .directory => none
  | some (.file _) => some "not a directory"
  | none => some "no such file or directory"

/-- `os.Mkdir`. -/
def mkdir (fs : FileSystem) (path : Path) : Except String FileSystem :=
  match fs path, createError fs path with
  | some _, _ => .error ("mkdir " ++ render path ++ ": file exists")
  | none, some err => .error ("mkdir " ++ render path ++ ": " ++ err)
  | none, none => .ok (Function.update fs path (some .directory))

/-- `os.OpenFile` with `O_CREATE|O_TRUNC|O_RDWR`: an empty regular file at `path`. -/
def openFile (fs : FileSystem) (path : Path) : Except String FileSystem :=
  match fs path, createError fs path with
  | some .directory, _ => .error ("open " ++ render path ++ ": is a directory")
  | none, some err => .error ("open " ++ render path ++ ": " ++ err)
  | _, _ => .ok (Function.update fs path (some (.file [])))

/-! ## Restoring the archive -/

/-- `restoreFile` for what `tr.Next` yields (`.ok none` is `io.EOF`): `IsArchiveOver`,
`HasRestoredFileFromArchive` and the error, with the file system after it. A directory that
`os.Stat` finds is left as it is. -/
def restoreFile (fs : FileSystem) : Except String (Option ArchiveItem) → (Bool × Bool × Option String) × FileSystem
  | .ok none => ((true, false, none), fs)
  | .error err => ((false, false, some ("cannot read next archive header: " ++ err)), fs)
  | .ok (some item) =>
    let name := item.header.name
    match item.header.typeflag with
    | .typeDir =>
      if fs name = none then
        match mkdir fs name with
        | .error err => ((false, false, some ("cannot create directory '" ++ render name ++ "': " ++ err)), fs)
        | .ok fs => ((false, false, none), fs)
      else ((false, false, none), fs)
    | .typeReg =>
      match openFile fs name with
      | .error err => ((false, false, some ("cannot create file '" ++ render name ++ "': " ++ err)), fs)
      | .ok fs =>
        let fs := Function.update fs name (some (.file item.data))
        match item.readError with
        | some err => ((false, false, some ("cannot write " ++ toString item.header.size ++
            " bytes to file '" ++ render name ++ "': " ++ err)), fs)
        | none => ((false, true, none), fs)
    | .other flag => ((false, false, some ("unexpected tar type '" ++ toString flag ++ "' for entry '" ++
        render name ++ "' (size: " ++ toString item.header.size ++ ")")), fs)

/-- The results of successive `tr.Next` calls on a read archive. -/
def nexts (stream : List ArchiveItem × Option String) : List (Except String (Option ArchiveItem)) :=
  stream.1.map (fun item => .ok (some item)) ++
    [match stream.2 with
      | none => .ok none
      | some err => .error err]

/-- The loop of `initOffsets`: `restoreFile` until an error or the end of the archive, counting the
restored files. -/
def restoreLoop (fs : FileSystem) (restoredFiles : Nat) :
    List (Except String (Option ArchiveItem)) → Nat × Option String × FileSystem
  | [] => (restoredFiles, none, fs)
  | next :: rest =>
    match restoreFile fs next with
    | ((_, _, some err), fs) => (restoredFiles, some err, fs)
    | ((archiveFullyRead, hasRestoredFile, none), fs) =>
      let restoredFiles := if hasRestoredFile then restoredFiles + 1 else restoredFiles
      if archiveFullyRead then (restoredFiles, none, fs) else restoreLoop fs restoredFiles rest

structure Settings where
  nodeName : String
  configMapNamespace : String
  configMapName : String
  fileLogOffsetDirectoryPath : Path

/-- The filelog offsets ConfigMap; its `binaryData` holds each node's archive. -/
structure ConfigMap where
  binaryData : GoMap (List UInt8)

/-- `initOffsets` on the ConfigMap `Get` returned: the number of restored files and the error,
with the file system after it. -/
def initOffsets (format : ArchiveFormat) (settings : Settings) (configMap : Except String ConfigMap)
    (fs : FileSystem) : Nat × Option String × FileSystem :=
  match configMap with
  | .error err => (0, some ("cannot retrieve " ++ settings.configMapNamespace ++ "/" ++
      settings.configMapName ++ " config map: " ++ err), fs)
  | .ok configMap =>
    match configMap.binaryData.lookup settings.nodeName with
    | none => (0, none, fs)
    | some offsetBytes =>
      match format.read offsetBytes with
      | .error err => (0, some ("cannot uncompress '" ++ settings.nodeName ++ "' field of " ++
          settings.configMapNamespace ++ "/" ++ settings.configMapName ++ " config map: " ++ err), fs)
      | .ok stream => restoreLoop fs 0 (nexts stream)

/-! ## Storing the archive -/

/-- The merge patch `patchConfigMap` sends, as `json.Marshal` writes it. -/
def mergePatch (nodeName newValueBase64 : String) : String :=
  "\x7b\"binaryData\":\x7b\"" ++ nodeName ++ "\":\"" ++ newValueBase64 ++ "\"\x7d\x7d"

/-- `patchConfigMap` with the API server's handling of the merge patch: `apiError` is the error of
the `Patch` call; otherwise the server decodes the base64 value into the node's field. -/
def patchConfigMap (apiError : Option String) (configMap : ConfigMap)
    (nodeName configMapNamespace configMapName newValueBase64 : String) : Except String ConfigMap :=
  let failed (err : String) : Except String ConfigMap :=
    .error ("cannot update '" ++ nodeName ++ "' field of configuration map  " ++ configMapNamespace ++
      "/" ++ configMapName ++ ": " ++ err ++ "; merge patch sent: '" ++
      mergePatch nodeName newValueBase64 ++ "'")
  match apiError, Base64.decode newValueBase64.toList with
  | some err, _ => failed err
  | none, none => failed "illegal base64 data"
  | none, some bytes => .ok ⟨configMap.binaryData.insert nodeName bytes⟩

theorem patchConfigMap_stores (configMap : ConfigMap) (nodeName configMapNamespace configMapName : String)
    (archive : List UInt8) :
    patchConfigMap none configMap nodeName configMapNamespace configMapName
      (Base64.encodeToString archive) = .ok ⟨configMap.binaryData.insert nodeName archive⟩ := by
  simp only [patchConfigMap, Base64.decode_encodeToString]

/-! ## Restoring what was written -/

theorem tarFolder_eq_ok {format : ArchiveFormat} {path : Path} {snapshot : Snapshot}
    {tarredFiles : Nat} {archive : List UInt8} :
    tarFolder format path snapshot = .ok (tarredFiles, archive) ↔
      ∃ entries, walk path snapshot.tree = .ok entries ∧
        entries.countP TarEntry.isFile = tarredFiles ∧ format.write entries = archive := by
  unfold tarFolder
  split <;> simp_all

theorem walk_directory_eq_ok {path : Path} {name : String} {children : List Tree} {entries : List TarEntry} :
    walk path (.directory name (.ok children)) = .ok entries ↔
      ∃ rest, walk.walkChildren path children = .ok rest ∧ entries = ⟨⟨path, .typeDir, 0⟩, []⟩ :: rest := by
  cases walked : walk.walkChildren path children <;>
    simp [walk, tarFile, walked, bind, Except.bind, pure, Except.pure, eq_comm]

theorem walkChildren_cons_eq_ok {path : Path} {child : Tree} {children : List Tree}
    {entries : List TarEntry} :
    walk.walkChildren path (child :: children) = .ok entries ↔
      ∃ first, walk (path ++ [child.name]) child = .ok first ∧
        ∃ rest, walk.walkChildren path children = .ok rest ∧ entries = first ++ rest := by
  cases walkedFirst : walk (path ++ [child.name]) child <;>
    cases walkedRest : walk.walkChildren path children <;>
    simp [walk.walkChildren, walkedFirst, walkedRest, bind, Except.bind, pure, Except.pure, eq_comm]

/-- Nothing at or below `path`. -/
def Absent (fs : FileSystem) (path : Path) : Prop := ∀ rest, fs (path ++ rest) = none

/-- `tree.Contains path q node`: the tree, placed at `path`, has `node` at `q`. -/
inductive Tree.Contains : Tree → Path → Path → Node → Prop
  | file {path : Path} {name : String} {contents : List UInt8} :
      Contains (.file name (.ok contents)) path path (.file contents)
  | directory {path : Path} {name : String} {children : List Tree} :
      Contains (.directory name (.ok children)) path path .directory
  | child {path : Path} {name : String} {children : List Tree} {child : Tree} {q : Path} {node : Node} :
      child ∈ children → child.Contains (path ++ [child.name]) q node →
        Contains (.directory name (.ok children)) path q node

theorem Tree.Contains.within {tree : Tree} {path q : Path} {node : Node}
    (contains : tree.Contains path q node) : path <+: q := by
  induction contains with
  | file | directory => exact List.prefix_refl _
  | child _ _ ih => exact (List.prefix_append _ _).trans ih

theorem name_eq_of_prefixes {path q : Path} {a b : String} (first : path ++ [a] <+: q)
    (second : path ++ [b] <+: q) : a = b := by
  obtain ⟨_, rfl⟩ := first
  obtain ⟨_, same⟩ := second
  simp only [List.append_assoc, List.singleton_append, List.append_cancel_left_eq,
    List.cons.injEq] at same
  exact same.1.symm

theorem not_prefix_of_child (path : Path) (name : String) : ¬ path ++ [name] <+: path :=
  fun below => absurd below.length_le (by simp)

theorem update_outside {fs : FileSystem} {path q : Path} (value : Option Node) (outside : ¬ path <+: q) :
    Function.update fs path value q = fs q :=
  Function.update_noteq (by rintro rfl; exact outside (List.prefix_refl _)) _ _

/-- Restoring `entries` at the head of any stream goes on from `fs'`, with their files counted. -/
def Restores (fs : FileSystem) (entries : List TarEntry) (fs' : FileSystem) : Prop :=
  ∀ restoredFiles rest, restoreLoop fs restoredFiles (entries.map (fun entry => .ok (some entry.item)) ++ rest) =
    restoreLoop fs' (restoredFiles + entries.countP TarEntry.isFile) rest

theorem restores_nil (fs : FileSystem) : Restores fs [] fs := fun _ _ => rfl

theorem restores_append {fs fs' fs'' : FileSystem} {first second : List TarEntry}
    (restoresFirst : Restores fs first fs') (restoresSecond : Restores fs' second fs'') :
    Restores fs (first ++ second) fs'' := by
  intro restoredFiles rest
  rw [List.map_append, List.append_assoc, restoresFirst, restoresSecond, List.countP_append,
    Nat.add_assoc]

theorem restores_directory {fs : FileSystem} {path : Path} (absent : fs path = none)
    (parent : fs path.dropLast = some .directory) :
    Restores fs [⟨⟨path, .typeDir, 0⟩, []⟩] (Function.update fs path (some .directory)) := by
  intro restoredFiles rest
  simp [restoreLoop, restoreFile, TarEntry.item, TarEntry.isFile, mkdir, createError, absent, parent]

theorem restores_file {fs : FileSystem} {path : Path} (absent : fs path = none)
    (parent : fs path.dropLast = some .directory) (contents : List UInt8) :
    Restores fs [⟨⟨path, .typeReg, contents.length⟩, contents⟩] (Function.update fs path (some (.file contents))) := by
  intro restoredFiles rest
  simp [restoreLoop, restoreFile, TarEntry.item, TarEntry.isFile, openFile, createError, absent, parent]

/-- What restoring the entries that `walk` writes for `tree` at `path` does to a file system with
nothing at or below `path` and a directory above it. -/
def WalkRestores (path : Path) (tree : Tree) : Prop :=
  ∀ entries, walk path tree = .ok entries → tree.namesDistinct = true →
    ∀ fs, fs path.dropLast = some .directory → Absent fs path →
      ∃ fs', Restores fs entries fs' ∧ (∀ q, ¬ path <+: q → fs' q = fs q) ∧
        ∀ q node, tree.Contains path q node → fs' q = some node

/-- The same for the children of a directory at `path`. -/
def ChildrenRestore (path : Path) (children : List Tree) : Prop :=
  ∀ entries, walk.walkChildren path children = .ok entries → (children.map Tree.name).Nodup →
    Tree.namesDistinct.namesDistinctAll children = true →
    ∀ fs, fs path = some .directory → (∀ child ∈ children, Absent fs (path ++ [child.name])) →
      ∃ fs', Restores fs entries fs' ∧
        (∀ q, (∀ child ∈ children, ¬ path ++ [child.name] <+: q) → fs' q = fs q) ∧
        ∀ child ∈ children, ∀ q node, child.Contains (path ++ [child.name]) q node → fs' q = some node

theorem walkRestores_unlisted (path : Path) (name err : String) :
    WalkRestores path (.directory name (.error err)) := by
  intro entries walked
  simp [walk] at walked

theorem walkRestores_file (path : Path) (name : String) (contents : Except String (List UInt8)) :
    WalkRestores path (.file name contents) := by
  intro entries walked _ fs parent absent
  cases contents with
  | error err => simp [walk, tarFile] at walked
  | ok contents =>
    obtain rfl : entries = [⟨⟨path, .typeReg, contents.length⟩, contents⟩] := by
      simpa [walk, tarFile] using walked.symm
    refine ⟨_, restores_file (by simpa using absent []) parent contents, fun q => update_outside _, ?_⟩
    rintro q node ⟨⟩
    simp

theorem restores_directory_tree {path : Path} {name : String} {children : List Tree}
    (restoreChildren : ChildrenRestore path children) {rest : List TarEntry}
    (walkedChildren : walk.walkChildren path children = .ok rest)
    (distinct : (Tree.directory name (.ok children)).namesDistinct = true) {fs : FileSystem}
    (restoresEntry : Restores fs [⟨⟨path, .typeDir, 0⟩, []⟩] (Function.update fs path (some .directory)))
    (childAbsent : ∀ child ∈ children, Absent fs (path ++ [child.name])) :
    ∃ fs', Restores fs (⟨⟨path, .typeDir, 0⟩, []⟩ :: rest) fs' ∧ (∀ q, ¬ path <+: q → fs' q = fs q) ∧
      ∀ q node, (Tree.directory name (.ok children)).Contains path q node → fs' q = some node := by
  simp only [Tree.namesDistinct, Bool.and_eq_true, decide_eq_true_eq] at distinct
  let withDirectory := Function.update fs path (some .directory)
  have stillAbsent : ∀ child ∈ children, Absent withDirectory (path ++ [child.name]) := by
    intro child member below
    show Function.update fs path _ _ = none
    rw [Function.update_noteq fun same => absurd (congrArg List.length same) (by simp)]
    exact childAbsent child member below
  obtain ⟨fs', restores, frame, placed⟩ := restoreChildren rest walkedChildren distinct.1 distinct.2
    withDirectory (by simp [withDirectory]) stillAbsent
  refine ⟨fs', restores_append restoresEntry restores, ?_, ?_⟩
  · intro q outside
    rw [frame q fun child _ below => outside ((List.prefix_append _ _).trans below)]
    exact update_outside _ outside
  · intro q node contains
    cases contains with
    | directory =>
      rw [frame path fun child _ => not_prefix_of_child path child.name]
      simp [withDirectory]
    | child member inner => exact placed _ member q node inner

theorem walkRestores_directory {path : Path} {name : String} {children : List Tree}
    (restoreChildren : ChildrenRestore path children) :
    WalkRestores path (.directory name (.ok children)) := by
  intro entries walked distinct fs parent absent
  obtain ⟨rest, walkedChildren, rfl⟩ := walk_directory_eq_ok.mp walked
  exact restores_directory_tree restoreChildren walkedChildren distinct
    (restores_directory (by simpa using absent []) parent)
    fun child _ below => by rw [List.append_assoc]; exact absent _

theorem childrenRestore_nil (path : Path) : ChildrenRestore path [] := by
  rintro entries walked - - fs - -
  obtain rfl : entries = [] := by simpa [walk.walkChildren, eq_comm] using walked
  exact ⟨fs, restores_nil fs, fun _ _ => rfl, by simp⟩

theorem childrenRestore_cons {path : Path} {child : Tree} {children : List Tree}
    (restoreFirst : WalkRestores (path ++ [child.name]) child)
    (restoreOthers : ChildrenRestore path children) : ChildrenRestore path (child :: children) := by
  intro entries walked nodup distinct fs directory absent
  obtain ⟨first, walkedFirst, rest, walkedOthers, rfl⟩ := walkChildren_cons_eq_ok.mp walked
  simp only [List.map_cons, List.nodup_cons, List.mem_map, not_exists, not_and] at nodup
  simp only [Tree.namesDistinct.namesDistinctAll, Bool.and_eq_true] at distinct
  have apart : ∀ other ∈ children, ∀ q, path ++ [other.name] <+: q → ¬ path ++ [child.name] <+: q :=
    fun other member q below above => nodup.1 other member (name_eq_of_prefixes below above)
  obtain ⟨fs₁, restoresFirst, frame₁, placed₁⟩ := restoreFirst first walkedFirst distinct.1 fs
    (by simpa using directory) (absent child (List.mem_cons_self _ _))
  obtain ⟨fs₂, restoresOthers, frame₂, placed₂⟩ := restoreOthers rest walkedOthers nodup.2 distinct.2 fs₁
    (by rw [frame₁ path (not_prefix_of_child path child.name)]; exact directory)
    (fun other member below => by
      rw [frame₁ _ (apart other member _ (List.prefix_append _ _))]
      exact absent other (List.mem_cons_of_mem _ member) below)
  refine ⟨fs₂, restores_append restoresFirst restoresOthers, fun q outside => ?_, ?_⟩
  · rw [frame₂ q fun other member => outside other (List.mem_cons_of_mem _ member),
      frame₁ q (outside child (List.mem_cons_self _ _))]
  · intro other member q node contains
    rcases List.mem_cons.mp member with rfl | member
    · rw [frame₂ q fun sibling inside below => apart sibling inside q below contains.within]
      exact placed₁ q node contains
    · exact placed₂ other member q node contains

theorem walk_restores (path : Path) (tree : Tree) : WalkRestores path tree :=
  walk.induct ChildrenRestore WalkRestores walkRestores_unlisted
    (fun _ _ _ => walkRestores_directory) walkRestores_file childrenRestore_nil
    (fun _ _ _ => childrenRestore_cons) path tree

theorem childrenRestore (path : Path) (children : List Tree) : ChildrenRestore path children := by
  induction children with
  | nil => exact childrenRestore_nil path
  | cons child children ih => exact childrenRestore_cons (walk_restores _ child) ih

theorem restores_existing_directory {fs : FileSystem} {path : Path} (mounted : fs path = some .directory) :
    Restores fs [⟨⟨path, .typeDir, 0⟩, []⟩] (Function.update fs path (some .directory)) := by
  intro restoredFiles rest
  rw [← mounted, Function.update_eq_self]
  simp [restoreLoop, restoreFile, TarEntry.item, TarEntry.isFile, mounted]

theorem initOffsets_of_restores {format : ArchiveFormat} {settings : Settings} {stored : ConfigMap}
    {entries : List TarEntry} {fs restored : FileSystem}
    (storedArchive : stored.binaryData.lookup settings.nodeName = some (format.write entries))
    (restores : Restores fs entries restored) :
    initOffsets format settings (.ok stored) fs = (entries.countP TarEntry.isFile, none, restored) := by
  simp only [initOffsets, storedArchive, format.read_write, nexts, List.map_map]
  exact (restores 0 [.ok none]).trans (by rw [Nat.zero_add]; rfl)

theorem initOffsets_restores_stored (format : ArchiveFormat) (settings : Settings)
    (snapshot : Snapshot) (tarredFiles : Nat) (archive : List UInt8)
    (tarred : tarFolder format settings.fileLogOffsetDirectoryPath snapshot = .ok (tarredFiles, archive))
    (stored : ConfigMap) (storedArchive : stored.binaryData.lookup settings.nodeName = some archive)
    (fs : FileSystem) (parentExists : fs settings.fileLogOffsetDirectoryPath.dropLast = some .directory)
    (absent : Absent fs settings.fileLogOffsetDirectoryPath) :
    ∃ restored, initOffsets format settings (.ok stored) fs = (tarredFiles, none, restored) ∧
      (∀ path node, snapshot.tree.Contains settings.fileLogOffsetDirectoryPath path node →
        restored path = some node) ∧
      ∀ path, ¬ settings.fileLogOffsetDirectoryPath <+: path → restored path = fs path := by
  obtain ⟨entries, walked, rfl, rfl⟩ := tarFolder_eq_ok.mp tarred
  obtain ⟨restored, restores, frame, placed⟩ :=
    walk_restores _ _ entries walked snapshot.namesDistinct fs parentExists absent
  exact ⟨restored, initOffsets_of_restores storedArchive restores, placed, frame⟩

/-- An archive that `tarFolder` wrote, stored through `patchConfigMap` and restored by `initOffsets`
where nothing is at or below the offsets path but its parent directory exists, restores every
directory and regular file of the snapshot, counts its regular files, and changes nothing outside
the offsets path. -/
theorem initOffsets_restores_tarred_snapshot (format : ArchiveFormat) (settings : Settings)
    (snapshot : Snapshot) (tarredFiles : Nat) (archive : List UInt8)
    (tarred : tarFolder format settings.fileLogOffsetDirectoryPath snapshot = .ok (tarredFiles, archive))
    (configMap stored : ConfigMap)
    (patched : patchConfigMap none configMap settings.nodeName settings.configMapNamespace
      settings.configMapName (Base64.encodeToString archive) = .ok stored)
    (fs : FileSystem) (parentExists : fs settings.fileLogOffsetDirectoryPath.dropLast = some .directory)
    (absent : Absent fs settings.fileLogOffsetDirectoryPath) :
    ∃ restored, initOffsets format settings (.ok stored) fs = (tarredFiles, none, restored) ∧
      (∀ path node, snapshot.tree.Contains settings.fileLogOffsetDirectoryPath path node →
        restored path = some node) ∧
      ∀ path, ¬ settings.fileLogOffsetDirectoryPath <+: path → restored path = fs path := by
  rw [patchConfigMap_stores] at patched
  cases patched
  exact initOffsets_restores_stored format settings snapshot tarredFiles archive tarred _
    (GoMap.lookup_insert_self _ _ _) fs parentExists absent

/-- The same where the offsets directory is already there, empty, as the volume it is mounted from:
`restoreFile` finds it with `os.Stat` and restores the archive into it. -/
theorem initOffsets_restores_into_mounted_directory (format : ArchiveFormat) (settings : Settings)
    (snapshot : Snapshot) (rootDirectory : ∃ name children, snapshot.tree = .directory name (.ok children))
    (tarredFiles : Nat) (archive : List UInt8)
    (tarred : tarFolder format settings.fileLogOffsetDirectoryPath snapshot = .ok (tarredFiles, archive))
    (configMap stored : ConfigMap)
    (patched : patchConfigMap none configMap settings.nodeName settings.configMapNamespace
      settings.configMapName (Base64.encodeToString archive) = .ok stored)
    (fs : FileSystem) (mounted : fs settings.fileLogOffsetDirectoryPath = some .directory)
    (emptyBelow : ∀ rest, rest ≠ [] → fs (settings.fileLogOffsetDirectoryPath ++ rest) = none) :
    ∃ restored, initOffsets format settings (.ok stored) fs = (tarredFiles, none, restored) ∧
      (∀ path node, snapshot.tree.Contains settings.fileLogOffsetDirectoryPath path node →
        restored path = some node) ∧
      ∀ path, ¬ settings.fileLogOffsetDirectoryPath <+: path → restored path = fs path := by
  obtain ⟨name, children, root⟩ := rootDirectory
  obtain ⟨entries, walked, rfl, rfl⟩ := tarFolder_eq_ok.mp tarred
  rw [root] at walked
  obtain ⟨rest, walkedChildren, rfl⟩ := walk_directory_eq_ok.mp walked
  obtain ⟨restored, restores, frame, placed⟩ := restores_directory_tree (childrenRestore _ children)
    walkedChildren (root ▸ snapshot.namesDistinct) (restores_existing_directory mounted)
    fun child _ below => by rw [List.append_assoc]; exact emptyBelow _ (by simp)
  rw [patchConfigMap_stores] at patched
  cases patched
  exact ⟨restored, initOffsets_of_restores (GoMap.lookup_insert_self _ _ _) restores, root ▸ placed, frame⟩

def sampleSettings : Settings :=
  ⟨"node-1", "dash0-system", "dash0-operator-filelogoffsets", ["var", "otelcol", "filelogreceiver_offsets"]⟩

def sampleSnapshot : Snapshot :=
  ⟨.directory "filelogreceiver_offsets"
    (.ok [.file "receiver_filelog_" (.ok [1, 2, 3]), .directory "compaction" (.ok [])]), rfl⟩

def sampleArchive : List UInt8 :=
  listFormat.write
    [⟨⟨["var", "otelcol", "filelogreceiver_offsets"], .typeDir, 0⟩, []⟩,
      ⟨⟨["var", "otelcol", "filelogreceiver_offsets", "receiver_filelog_"], .typeReg, 3⟩, [1, 2, 3]⟩,
      ⟨⟨["var", "otelcol", "filelogreceiver_offsets", "compaction"], .typeDir, 0⟩, []⟩]

def sampleNode : FileSystem := fun path =>
  if path ∈ [[], ["var"], ["var", "otelcol"]] then some .directory else none

theorem initOffsets_restores_sample_snapshot :
    ∃ restored, initOffsets listFormat sampleSettings (.ok ⟨GoMap.empty.insert "node-1" sampleArchive⟩)
        sampleNode = (1, none, restored) ∧
      (∀ path node, sampleSnapshot.tree.Contains sampleSettings.fileLogOffsetDirectoryPath path node →
        restored path = some node) ∧
      ∀ path, ¬ sampleSettings.fileLogOffsetDirectoryPath <+: path → restored path = sampleNode path :=
  initOffsets_restores_tarred_snapshot listFormat sampleSettings sampleSnapshot 1 sampleArchive rfl
    ⟨GoMap.empty⟩ _ (patchConfigMap_stores _ _ _ _ _) sampleNode rfl
    (fun rest => by simp [sampleNode, sampleSettings])

def mountedNode : FileSystem := fun path =>
  if path ∈ [[], ["var"], ["var", "otelcol"], ["var", "otelcol", "filelogreceiver_offsets"]] then
    some .directory
  else none

theorem initOffsets_restores_sample_into_mount :
    ∃ restored, initOffsets listFormat sampleSettings (.ok ⟨GoMap.empty.insert "node-1" sampleArchive⟩)
        mountedNode = (1, none, restored) ∧
      (∀ path node, sampleSnapshot.tree.Contains sampleSettings.fileLogOffsetDirectoryPath path node →
        restored path = some node) ∧
      ∀ path, ¬ sampleSettings.fileLogOffsetDirectoryPath <+: path → restored path = mountedNode path :=
  initOffsets_restores_into_mounted_directory listFormat sampleSettings sampleSnapshot ⟨_, _, rfl⟩ 1
    sampleArchive rfl ⟨GoMap.empty⟩ _ (patchConfigMap_stores _ _ _ _ _) mountedNode rfl
    (fun rest nonempty => by simp [mountedNode, sampleSettings, nonempty])

end Dash0Operator.OffsetArchive
