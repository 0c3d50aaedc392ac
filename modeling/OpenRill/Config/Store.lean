import OpenRill.Config.Sources
import OpenRill.Lib.Effect
import OpenRill.Lib.Volumes

/-!
# Loading and writing the configuration

Loading resolves, validates and persists a source, or falls back to the last-known-good
snapshot. A write checks the revision, tries the new source as a candidate, replaces the source
file, loads it again and appends to the journal. At most one file operation fails, the one a
site names. The validator, the parser and the printer of sources, the secret providers and the
clock are parameters.
-/

namespace OpenRill.Config.Store

open OpenRill.Lib OpenRill.Lib.Paths OpenRill.Lib.Checked OpenRill.Lib.Effect OpenRill.Lib.Volumes
open Sources

/-- The walks over the includes, by what they are for. -/
inductive Call where
  | load
  | revision
  | candidate
  | previous
  | verify
  deriving DecidableEq

inductive DiskFault where
  | lstat (path : Path)
  | realpath (path : Path)
  | readFile (path : Path)
  deriving DecidableEq

inductive Target where
  | source
  | materialized
  | lastKnownGood
  | journal
  deriving DecidableEq

inductive AtomicStep where
  | mkdir
  | openTemporary
  | writeTemporary
  | syncTemporary
  | closeTemporary
  | rename
  | chmod
  | syncDirectory
  deriving DecidableEq

inductive Site where
  | lockDirectory
  | lockOpen (attempt : Nat)
  | lockWrite (attempt : Nat)
  | lockRead (attempt : Nat)
  | lockRemove (attempt : Nat)
  | readSource (call : Call)
  | walk (call : Call) (fault : DiskFault)
  | readLastKnownGood
  | readPrior
  | configDirectory
  | candidateWrite
  | candidateRemove
  | copyPrevious
  | replace (target : Target) (step : AtomicStep)
  | journalDirectory
  | releaseRead
  | releaseRemove
  deriving DecidableEq

structure ConfigPaths where
  sourcePath : Path
  stateDir : Path
  materializedPath : Path
  lastKnownGoodPath : Path
  journalDir : Path
  mutationLockPath : Path

inductive Recovery where
  | source
  | lastKnownGood
  | defaults
  deriving DecidableEq

structure SecretStatus where
  path : String
  kind : String
  key : String
  available : Bool
  reason : String
  deriving DecidableEq

/-- `OpenRillConfigReadResult`. The lists of a snapshot are not checked item by item. -/
structure ReadResult where
  config : Json
  redactedConfig : Option Json
  sourcePath : String
  sourceExists : Bool
  sourceRevision : Option String
  materializedRevision : String
  sourceFiles : List Json
  warnings : List Json
  issues : List ConfigIssue
  secretStatuses : List Json
  recovery : Recovery
  loadedAt : String

structure Snapshot where
  sourcePath : String
  sourceRevision : String
  materializedRevision : String
  sourceFiles : List Json
  loadedAt : String
  config : Json
  redactedConfig : Option Json
  warnings : List Json
  secretStatuses : List Json

def secretReferenceJson (status : SecretStatus) : Json :=
  .object [("kind", .text status.kind), ("key", .text status.key)]

def secretStatusJson (status : SecretStatus) : Json :=
  .object [("path", .text status.path), ("reference", secretReferenceJson status),
    ("available", .flag status.available), ("reason", .text status.reason)]

def secretWarning (status : SecretStatus) : String :=
  "secret reference unavailable at " ++ status.path ++ ": " ++ status.kind ++ ":" ++ status.key ++
    " (" ++ status.reason ++ ")"

/-- `createSnapshot`, which throws without a revision. -/
def createSnapshot (result : ReadResult) : Except ConfigError Snapshot :=
  match result.sourceRevision with
  | none => .error .system
  | some revision =>
    if revision = "" then .error .system
    else .ok ⟨result.sourcePath, revision, result.materializedRevision, result.sourceFiles,
      result.loadedAt, result.config, result.redactedConfig, result.warnings,
      result.secretStatuses⟩

def Snapshot.document (snapshot : Snapshot) : Json :=
  .object ([("schemaVersion", .number "1"), ("product", .text "OpenRill"),
    ("configVersion", .number "1"), ("sourcePath", .text snapshot.sourcePath),
    ("sourceRevision", .text snapshot.sourceRevision),
    ("materializedRevision", .text snapshot.materializedRevision),
    ("sourceFiles", .list snapshot.sourceFiles), ("loadedAt", .text snapshot.loadedAt),
    ("config", snapshot.config)] ++
    (match snapshot.redactedConfig with
      | some redacted => [("redactedConfig", redacted)]
      | none => []) ++
    [("warnings", .list snapshot.warnings), ("secretStatuses", .list snapshot.secretStatuses)])

def Snapshot.text (snapshot : Snapshot) : String := stableJson snapshot.document

structure JournalRecord where
  changedAt : String
  sourceRevisionBefore : Option String
  sourceRevisionAfter : String
  materializedRevision : String
  changedPaths : List String

def JournalRecord.document (record : JournalRecord) : Json :=
  .object [("schemaVersion", .number "1"), ("product", .text "OpenRill"),
    ("event", .text "config.write"), ("changedAt", .text record.changedAt),
    ("sourceRevisionBefore", match record.sourceRevisionBefore with
      | some revision => .text revision
      | none => .null),
    ("sourceRevisionAfter", .text record.sourceRevisionAfter),
    ("materializedRevision", .text record.materializedRevision),
    ("changedPaths", .list (record.changedPaths.map .text))]

def JournalRecord.name (record : JournalRecord) : String :=
  String.ofList (record.changedAt.toList.map (fun char =>
    if char = ':' ∨ char = '.' then '-' else char)) ++ "-" ++
    Text.sliceUnits 12 record.sourceRevisionAfter ++ ".json"

inductive Rejection where
  | invalid (issues : List ConfigIssue)
  | futureVersion
  deriving DecidableEq

def Rejection.error : Rejection → ConfigError
  | .invalid issues => .validation issues
  | .futureVersion => .futureVersion

structure Host where
  layout : Layout
  linkLimit : Nat
  paths : ConfigPaths
  limits : IncludeLimits
  parse : String → Except (List ConfigIssue) Json
  localeBefore : String → String → Bool
  sha256 : String → String
  validate : Json → Except Rejection Json
  minimalSource : Json
  secretStatuses : Call → Json → Option (List SecretStatus)
  redact : Json → Json
  stringify : Json → Option String
  readSnapshot : String → Option Snapshot
  changedPaths : Json → Json → List String
  lockOwner : String → Option (Nat × String)
  alive : Nat → Bool
  ownerId : String
  lockText : String
  candidatePath : Path
  clock : Call → String
  changedAt : String
  fault : Option Site

abbrev Procedure (Value : Type) := Effect Volume ConfigError Value

variable (host : Host)

def Host.disk (volume : Volume) : Disk where
  kind := fun path =>
    if host.layout.directory (host.layout.home path) = true then some .other
    else match volume (host.layout.home path) with
      | some (.file _) => some .file
      | some (.link _) => some .symbolicLink
      | none => none
  real := fun path =>
    if host.layout.directory (host.layout.home path) = true then some (host.layout.home path)
    else match follow host.layout volume host.linkLimit path with
      | some place =>
        if host.layout.directory place = true ∨ (volume place).isSome then some place else none
      | none => none
  read := fun path =>
    match find host.layout volume host.linkLimit path with
    | .text value => .ok value
    | .missing => .error .missing
    | .unreadable => .error .unreadable

def failing (fault : Option DiskFault) (disk : Disk) : Disk where
  kind := fun path => if fault = some (.lstat path) then none else disk.kind path
  real := fun path => if fault = some (.realpath path) then none else disk.real path
  read := fun path =>
    if fault = some (.readFile path) then .error .unreadable else disk.read path

def Host.walkFault (call : Call) : Option DiskFault :=
  match host.fault with
  | some (.walk other fault) => if other = call then some fault else none
  | _ => none

def Host.surroundings (call : Call) (volume : Volume) : Surroundings :=
  ⟨failing (host.walkFault call) (host.disk volume), host.paths.sourcePath.dropLast, host.limits,
    host.parse, host.localeBefore, host.sha256⟩

def Host.validated (source : Json) : Except ConfigError Json :=
  match host.validate source with
  | .ok config => .ok config
  | .error rejection => .error rejection.error

def Host.materializedRevision (config : Json) : String := host.sha256 (stableJson config)

def readTextIfExists (site : Site) (path : Path) : Procedure (Option String) :=
  look fun volume =>
    if host.fault = some site then .error .system
    else match (host.disk volume).read path with
      | .ok raw => .ok (some raw)
      | .error .missing => .ok none
      | .error .unreadable => .error .system

/-- The failures of `chmod` and of the directory's sync are caught; a leftover temporary file has
a name of its own. -/
def writeFileAtomic (target : Target) (path : Path) (content : String) : Procedure Unit := do
  stopIf (host.fault ∈ [AtomicStep.mkdir, .openTemporary, .writeTemporary, .syncTemporary,
    .closeTemporary].map (fun step => some (Site.replace target step))) .system
  stopIf (host.fault = some (.replace target .rename))
    (.ioFailed ("atomic replace failed for " ++ pathText path))
  write (put host.layout path content)

variable (host : Host)

def persistValidSnapshot (result : ReadResult) : Procedure Unit := do
  let snapshot ← look fun _ => createSnapshot result
  writeFileAtomic host .materialized host.paths.materializedPath snapshot.text
  writeFileAtomic host .lastKnownGood host.paths.lastKnownGoodPath snapshot.text

def readLastKnownGood : Procedure (Option Snapshot) := do
  let raw ← readTextIfExists host .readLastKnownGood host.paths.lastKnownGoodPath
  return match raw with
    | some text => if text = "" then none else host.readSnapshot text
    | none => none

def buildResultFromSource (call : Call) (volume : Volume) : Except ConfigError ReadResult := do
  let resolved ← resolveConfigSource (host.surroundings call volume) host.paths.sourcePath
  let config ← host.validated resolved.source
  let statuses ← fetch (host.secretStatuses call config) .system
  return {
    config := config
    redactedConfig := some (host.redact config)
    sourcePath := pathText host.paths.sourcePath
    sourceExists := true
    sourceRevision := some resolved.sourceRevision
    materializedRevision := host.materializedRevision config
    sourceFiles := resolved.sourceFiles.map (fun file => .text (pathText file))
    warnings := (statuses.filter (fun status => !status.available)).map
      (fun status => .text (secretWarning status))
    issues := []
    secretStatuses := statuses.map secretStatusJson
    recovery := .source
    loadedAt := host.clock call }

def defaultsResult (call : Call) : Except ConfigError ReadResult := do
  let config ← host.validated host.minimalSource
  return {
    config := config
    redactedConfig := some (host.redact config)
    sourcePath := pathText host.paths.sourcePath
    sourceExists := false
    sourceRevision := none
    materializedRevision := host.materializedRevision config
    sourceFiles := []
    warnings := [.text "config source is missing; built-in defaults are active"]
    issues := []
    secretStatuses := []
    recovery := .defaults
    loadedAt := host.clock call }

def configIssuesFromError : ConfigError → List ConfigIssue
  | .parse issues => issues
  | .validation issues => issues
  | _ => []

def recoverableSourceError : ConfigError → Bool
  | .parse _ => true
  | .validation _ => true
  | _ => false

def lastKnownGoodResult (call : Call) (sourceRaw : String) (failure : ConfigError)
    (snapshot : Snapshot) : ReadResult where
  config := snapshot.config
  redactedConfig := snapshot.redactedConfig
  sourcePath := pathText host.paths.sourcePath
  sourceExists := true
  sourceRevision := some (host.sha256 sourceRaw)
  materializedRevision := snapshot.materializedRevision
  sourceFiles := snapshot.sourceFiles
  warnings := .text ("current config is invalid; last-known-good snapshot " ++
    Text.sliceUnits 12 snapshot.sourceRevision ++ " is active") :: snapshot.warnings
  issues := configIssuesFromError failure
  secretStatuses := snapshot.secretStatuses
  recovery := .lastKnownGood
  loadedAt := host.clock call

/-- The errors of an include and of a future version end the load. -/
def recover (call : Call) (allowLastKnownGood : Bool) (sourceRaw : String)
    (failure : ConfigError) : Procedure ReadResult :=
  if recoverableSourceError failure && allowLastKnownGood then do
    let lastKnownGood ← readLastKnownGood host
    match lastKnownGood with
    | some snapshot => pure (lastKnownGoodResult host call sourceRaw failure snapshot)
    | none => throws failure
  else throws failure

def persistWhen (persist : Bool) (result : ReadResult) : Procedure Unit :=
  if persist = true then persistValidSnapshot host result else pure ()

def loadSource (call : Call) (persist : Bool) : Procedure ReadResult := do
  let result ← look (buildResultFromSource host call)
  persistWhen host persist result
  pure result

def loadOpenRillConfig (call : Call) (persist allowLastKnownGood : Bool) :
    Procedure ReadResult := do
  let sourceRaw ← readTextIfExists host (.readSource call) host.paths.sourcePath
  match sourceRaw with
  | none => look fun _ => defaultsResult host call
  | some raw => handle (loadSource host call persist) (recover host call allowLastKnownGood raw)

variable (host : Host)

def lockFailure : ConfigError :=
  .ioFailed ("failed to acquire config mutation lock: " ++ pathText host.paths.mutationLockPath)

/-- One exclusive creation of the lock file; nothing is created when there is one. -/
def createLock (attempt : Nat) : Procedure Bool := do
  stopIf (host.fault = some (.lockOpen attempt)) (lockFailure host)
  let taken ← look fun volume =>
    .ok ((volume (host.layout.home host.paths.mutationLockPath)).isSome)
  if taken = true then pure false
  else do
    write (put host.layout host.paths.mutationLockPath "")
    stopIf (host.fault = some (.lockWrite attempt)) (lockFailure host)
    write (put host.layout host.paths.mutationLockPath host.lockText)
    pure true

def takeLock : Nat → Procedure Unit
  | 0 => throws .mutationBusy
  | left + 1 => do
      let created ← createLock host left
      if created = true then pure ()
      else do
        let raw ← readTextIfExists host (.lockRead left) host.paths.mutationLockPath
        let current := host.lockOwner (raw.getD "")
        stopIf (¬ current.any (fun owner => !host.alive owner.1)) .mutationBusy
        stopIf (host.fault = some (.lockRemove left)) .system
        write (discard host.layout host.paths.mutationLockPath)
        takeLock left

def acquireMutationLock : Procedure Unit := do
  stopIf (host.fault = some .lockDirectory) .system
  takeLock host 2

def release : Procedure Unit := do
  let raw ← readTextIfExists host .releaseRead host.paths.mutationLockPath
  if (host.lockOwner (raw.getD "")).any (fun owner => owner.2 = host.ownerId) then do
    stopIf (host.fault = some .releaseRemove) .system
    write (discard host.layout host.paths.mutationLockPath)
  else pure ()

variable (host : Host)

def currentSourceRevision : Procedure (Option String) := do
  let raw ← readTextIfExists host (.readSource .revision) host.paths.sourcePath
  match raw with
  | none => pure none
  | some text => look fun volume =>
    match resolveConfigSource (host.surroundings .revision volume) host.paths.sourcePath with
    | .ok resolved => .ok (some resolved.sourceRevision)
    | .error (.include code message includePath) =>
      .error (.include code message includePath)
    | .error .futureVersion => .error .futureVersion
    | .error _ => .ok (some (host.sha256 text))

/-- The new source is resolved and validated under the name of a candidate. -/
def checkCandidate (volume : Volume) : Except ConfigError Unit := do
  let resolved ← resolveConfigSource (host.surroundings .candidate volume) host.candidatePath
  let config ← host.validated resolved.source
  let _ ← fetch (host.secretStatuses .candidate config) .system
  return ()

def removeCandidate : Procedure Unit := do
  stopIf (host.fault = some .candidateRemove) .system
  write (discard host.layout host.candidatePath)

def tryCandidate (nextRaw : String) : Procedure Unit := do
  stopIf (host.fault = some .configDirectory) .system
  stopIf (host.fault = some .candidateWrite) .system
  let taken ← look fun volume => .ok ((volume (host.layout.home host.candidatePath)).isSome)
  stopIf (taken = true) .system
  write (put host.layout host.candidatePath nextRaw)
  lastly (look (checkCandidate host)) (removeCandidate host)

def previousConfig (priorRaw : Option String) : Procedure Json :=
  match priorRaw with
  | none => look fun _ => host.validated host.minimalSource
  | some _ => do
      let result ← loadOpenRillConfig host .previous false true
      pure result.config

def previousPath : Path :=
  host.paths.sourcePath.dropLast ++ [(host.paths.sourcePath.getLast?.getD "") ++ ".previous"]

/-- The copy of the source; a failure is caught, and a link at its path is written through. -/
def copyPrevious (priorRaw : Option String) : Procedure Unit :=
  match priorRaw with
  | none => pure ()
  | some raw => write fun volume =>
    if host.fault = some .copyPrevious then volume
    else match follow host.layout volume host.linkLimit (previousPath host) with
      | some place => Function.update volume place (some (.file raw))
      | none => volume

structure Prepared where
  actualRevision : Option String
  priorRaw : Option String
  nextRaw : String
  previousMaterialized : Json

def prepare (source : Json) (expectedRevision : Option String) : Procedure Prepared := do
  let actualRevision ← currentSourceRevision host
  stopIf (actualRevision ≠ expectedRevision) (.revisionConflict expectedRevision actualRevision)
  let priorRaw ← readTextIfExists host .readPrior host.paths.sourcePath
  let nextRaw ← look fun _ => fetch (host.stringify source) .system
  tryCandidate host nextRaw
  let previousMaterialized ← previousConfig host priorRaw
  copyPrevious host priorRaw
  pure ⟨actualRevision, priorRaw, nextRaw, previousMaterialized⟩

/-- The restoring write, which is taken to succeed. -/
def restore (priorRaw : Option String) : Procedure ReadResult := do
  write (match priorRaw with
    | none => discard host.layout host.paths.sourcePath
    | some raw => put host.layout host.paths.sourcePath raw)
  throws (.ioFailed "config post-commit verification failed; previous source was restored")

def commitSource (prepared : Prepared) : Procedure ReadResult := do
  writeFileAtomic host .source host.paths.sourcePath prepared.nextRaw
  handle (loadOpenRillConfig host .verify true false) (fun _ => restore host prepared.priorRaw)

def journalRecord (prepared : Prepared) (result : ReadResult) (revision : String) :
    JournalRecord where
  changedAt := host.changedAt
  sourceRevisionBefore := prepared.actualRevision
  sourceRevisionAfter := revision
  materializedRevision := result.materializedRevision
  changedPaths := host.changedPaths prepared.previousMaterialized result.config

def journalPath (record : JournalRecord) : Path := host.paths.journalDir ++ [record.name]

/-- `appendMutationJournal`; a result without a revision has no name for its record. -/
def appendMutationJournal (prepared : Prepared) (result : ReadResult) : Procedure Unit := do
  stopIf (host.fault = some .journalDirectory) .system
  let revision ← look fun _ => fetch result.sourceRevision .system
  let record := journalRecord host prepared result revision
  writeFileAtomic host .journal (journalPath host record) (stableJson record.document)

def mutate (source : Json) (expectedRevision : Option String) : Procedure ReadResult := do
  let prepared ← prepare host source expectedRevision
  let result ← commitSource host prepared
  appendMutationJournal host prepared result
  pure result

def writeOpenRillConfig (source : Json) (expectedRevision : Option String) :
    Procedure ReadResult := do
  acquireMutationLock host
  lastly (mutate host source expectedRevision) (release host)

variable {host : Host} {volume : Volume} {place path : Path} {entry : Option Entry}

theorem disk_apart (some_limit : 0 < host.linkLimit)
    (apart : place ∉ trail host.layout volume host.linkLimit path) :
    (host.disk (Function.update volume place entry)).kind path = (host.disk volume).kind path ∧
      (host.disk (Function.update volume place entry)).real path = (host.disk volume).real path ∧
      (host.disk (Function.update volume place entry)).read path =
        (host.disk volume).read path := by
  have home : host.layout.home path ≠ place := by
    rintro rfl
    exact apart (home_mem_trail some_limit path)
  refine ⟨?_, ?_, ?_⟩
  · unfold Host.disk
    dsimp only
    rw [Function.update_of_ne home]
  · unfold Host.disk
    dsimp only
    rw [(trail_apart apart).2]
    cases leads : follow host.layout volume host.linkLimit path with
    | none => rfl
    | some reached =>
      have other : reached ≠ place := by
        rintro rfl
        exact apart (follow_mem_trail leads)
      dsimp only
      rw [Function.update_of_ne other]
  · unfold Host.disk
    dsimp only
    rw [find_apart apart]

end OpenRill.Config.Store
