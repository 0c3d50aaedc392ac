import OpenRill.Lib.Checked
import OpenRill.Lib.JsonText
import OpenRill.Lib.Paths
import OpenRill.Lib.Text
import OpenRill.Lib.Utf8

/-!
# Configuration sources

A configuration file may include others. The walk over the includes reads every file once,
merges the included documents in their order and the file's own members last, and takes the
revision over all files read. The parser of a document, the comparison of file names and the
digest are parameters.
-/

namespace OpenRill.Config.Sources

open OpenRill.Lib OpenRill.Lib.Paths OpenRill.Lib.Checked

inductive EntryKind where
  | file
  | symbolicLink
  | other
  deriving DecidableEq

inductive ReadFailure where
  | missing
  | unreadable
  deriving DecidableEq

/-- What the file operations of the walk see: `lstat`, `realpath` and `readFile`. -/
structure Disk where
  kind : Path → Option EntryKind
  real : Path → Option Path
  read : Path → Except ReadFailure String

inductive IncludeCode where
  | includeInvalid
  | includeEscape
  | includeCycle
  | includeLimit
  deriving DecidableEq

structure ConfigIssue where
  path : String
  code : String
  message : String
  line : Option Nat
  deriving DecidableEq

inductive ConfigError where
  | include (code : IncludeCode) (message : String) (includePath : String)
  | parse (issues : List ConfigIssue)
  | validation (issues : List ConfigIssue)
  | futureVersion
  | revisionConflict (expected actual : Option String)
  | mutationBusy
  | ioFailed (message : String)
  | system
  deriving DecidableEq

mutual

def deepMergeConfig (base : Json) : Json → Json
  | .object overlay =>
    match base with
    | .object members => .object (mergeMembers members overlay)
    | _ => .object overlay
  | overlay => overlay

def mergeMembers (output : List (String × Json)) : List (String × Json) → List (String × Json)
  | [] => output
  | (key, value) :: rest =>
    mergeMembers (putMember output (key, match output.lookup key with
      | some own => deepMergeConfig own value
      | none => value)) rest

end

/-- `stableJson`: members in the order of their keys, an indentation of two. -/
def stableJson (document : Json) : String :=
  String.ofList (document.sorted.lines 0 ++ ['\n'])

structure IncludeLimits where
  maxDepth : Nat
  maxFiles : Nat
  maxTotalBytes : Nat
  deriving DecidableEq

def defaultIncludeLimits : IncludeLimits := ⟨8, 32, 512 * 1024⟩

structure Surroundings where
  disk : Disk
  configRoot : Path
  limits : IncludeLimits
  parse : String → Except (List ConfigIssue) Json
  localeBefore : String → String → Bool
  sha256 : String → String

structure RevisionEntry where
  path : String
  raw : String
  deriving DecidableEq

structure WalkState where
  visited : List Path
  sourceFiles : List Path
  totalBytes : Nat
  rawRoot : String
  revisionEntries : List RevisionEntry

variable (surroundings : Surroundings)

def Surroundings.rootReal : Path :=
  (surroundings.disk.real surroundings.configRoot).getD surroundings.configRoot

def textItem : Json → Option String
  | .text value => some value
  | _ => none

/-- The includes of a document: a text or a list of texts, none of them blank. -/
def normalizeIncludeList (value : Option Json) (ownerPath : Path) :
    Except ConfigError (List String) :=
  let failure := ConfigError.include .includeInvalid
    ("include in " ++ pathText ownerPath ++ " must be a non-empty string or string array") ""
  match value with
  | none => .ok []
  | some (.text entry) =>
    if Text.trim entry = "" then .error failure else .ok [Text.trim entry]
  | some (.list entries) =>
    match entries.mapM textItem with
    | some texts =>
      if texts.any (fun entry => Text.trim entry = "") then .error failure
      else .ok (texts.map Text.trim)
    | none => .error failure
  | some _ => .error failure

def removeInclude (members : List (String × Json)) : List (String × Json) :=
  members.filter (fun member => member.1 != "include")

def recordMembers (document : Json) (candidatePath : Path) :
    Except ConfigError (List (String × Json)) :=
  match document with
  | .object members => .ok members
  | _ => .error (.include .includeInvalid
      ("config document must be an object: " ++ pathText candidatePath) (pathText candidatePath))

def realFile (candidatePath : Path) : Except ConfigError Path := do
  require (within surroundings.configRoot candidatePath = true) (.include .includeEscape
    ("config include escapes profile config root: " ++ pathText candidatePath)
    (pathText candidatePath))
  let kind ← fetch (surroundings.disk.kind candidatePath) (.include .includeInvalid
    ("cannot read config include: " ++ pathText candidatePath) (pathText candidatePath))
  require (kind ≠ .other) (.include .includeInvalid
    ("config include is not a file: " ++ pathText candidatePath) (pathText candidatePath))
  let fileReal ← fetch (surroundings.disk.real candidatePath) (.include .includeInvalid
    ("cannot read config include: " ++ pathText candidatePath) (pathText candidatePath))
  require (within surroundings.rootReal fileReal = true) (.include .includeEscape
    ("config include real path escapes profile config root: " ++ pathText candidatePath)
    (pathText candidatePath))
  return fileReal

/-- The text of a file; a failure of `readFile` is not wrapped. -/
def readRaw (fileReal : Path) : Except ConfigError String :=
  match surroundings.disk.read fileReal with
  | .ok raw => .ok raw
  | .error _ => .error .system

def parseSource (raw : String) : Except ConfigError Json :=
  match surroundings.parse raw with
  | .ok document => .ok document
  | .error issues => .error (.parse issues)

def byteLength (text : String) : Nat := (Utf8.encode text.toList).length

def WalkState.opened (state : WalkState) (fileReal : Path) (raw : String) (isRoot : Bool) :
    WalkState :=
  { state with
    rawRoot := if isRoot then raw else state.rawRoot
    totalBytes := state.totalBytes + byteLength raw
    revisionEntries := state.revisionEntries ++
      [⟨"/".intercalate (relativePath surroundings.configRoot fileReal), raw⟩] }

def WalkState.closed (state : WalkState) (fileReal : Path) : WalkState :=
  { state with
    visited := state.visited ++ [fileReal]
    sourceFiles := state.sourceFiles ++ [fileReal] }

/-- One include of a file, merged into what the earlier ones gave. -/
def mergeInclude (visitInclude : Path → WalkState → Except ConfigError (Json × WalkState))
    (owner : Path) (reached : Json × WalkState) (path : String) :
    Except ConfigError (Json × WalkState) := do
  require (isAbsolute path = false) (.include .includeEscape
    ("absolute config include is forbidden: " ++ path) path)
  let (included, next) ← visitInclude (resolvePath owner.dropLast path) reached.2
  return (deepMergeConfig reached.1 included, next)

/-- One file and its includes. The first argument counts the levels that are left: none is
left when the depth exceeds its limit. -/
def visit : Nat → List Path → Path → Bool → WalkState → Except ConfigError (Json × WalkState)
  | 0, _, candidatePath, _, _ => .error (.include .includeLimit
      ("config include depth exceeds " ++ toString surroundings.limits.maxDepth)
      (pathText candidatePath))
  | levels + 1, stack, candidatePath, isRoot, state => do
      require (state.revisionEntries.length < surroundings.limits.maxFiles)
        (.include .includeLimit
          ("config include file count exceeds " ++ toString surroundings.limits.maxFiles)
          (pathText candidatePath))
      let fileReal ← realFile surroundings candidatePath
      require (fileReal ∉ stack) (.include .includeCycle
        ("config include cycle: " ++ " -> ".intercalate ((stack ++ [fileReal]).map pathText))
        (pathText candidatePath))
      if fileReal ∈ state.visited then return (.object [], state)
      else do
        let raw ← readRaw surroundings fileReal
        let opened := state.opened surroundings fileReal raw isRoot
        require (opened.totalBytes ≤ surroundings.limits.maxTotalBytes) (.include .includeLimit
          ("config include bytes exceed " ++ toString surroundings.limits.maxTotalBytes)
          (pathText candidatePath))
        let parsed ← parseSource surroundings raw
        let members ← recordMembers parsed candidatePath
        let includes ← normalizeIncludeList (members.lookup "include") candidatePath
        let (merged, reached) ← includes.foldlM (mergeInclude (fun path next =>
          visit levels (stack ++ [fileReal]) path false next) fileReal) (.object [], opened)
        return (deepMergeConfig merged (.object (removeInclude members)), reached.closed fileReal)

structure ResolvedConfigSource where
  source : Json
  sourceFiles : List Path
  rawRoot : String
  sourceRevision : String

def entryJson (entry : RevisionEntry) : Json :=
  .object [("path", .text entry.path), ("raw", .text entry.raw)]

def revisionOf (entries : List RevisionEntry) : String :=
  surroundings.sha256 (stableJson (.list ((entries.mergeSort (fun first second =>
    surroundings.localeBefore first.path second.path)).map entryJson)))

def WalkState.initial : WalkState := ⟨[], [], 0, "", []⟩

def resolveConfigSource (sourcePath : Path) : Except ConfigError ResolvedConfigSource := do
  let (source, reached) ← visit surroundings (surroundings.limits.maxDepth + 1) [] sourcePath true
    WalkState.initial
  return ⟨source, reached.sourceFiles, reached.rawRoot,
    revisionOf surroundings reached.revisionEntries⟩

end OpenRill.Config.Sources
