import OpenRill.Lib.Runs

/-!
# Lock files

The two lock files of a profile: the mutation lock of the configuration and the lock
of the host. A call creates the file exclusively and then writes who it is; when the
file is there already, the call reads it, asks whether its owner lives and removes it
if not. Every file operation is a step of its own, so the steps of any number of calls
interleave. A process that dies stops taking steps, and what it wrote stays.
-/

namespace OpenRill.Locks.LockFile

open Lib.Runs

/-- What a lock file says of its owner. The owner is the `ownerId` of a mutation and
the `instanceId` of a host. -/
structure LockPayload where
  pid : Nat
  ownerId : String
  deriving DecidableEq

/-- A lock file: the call that created it, and what can be parsed from it. A file that
nobody in the run created was left behind by an earlier process. -/
structure LockFile where
  creator : Option Nat
  payload : Option LockPayload
  deriving DecidableEq

inductive LockError where
  | ioFailed
  | mutationBusy
  | hostAlreadyRunning
  | hostLockUnverified
  | hostStartupFailed
  deriving DecidableEq

inductive Verdict where
  | refuse (error : LockError)
  | reclaim
  deriving DecidableEq

/-- What a call learns besides the file: whether the host that the metadata name
answered for this lock, whether the caller forces, and whether the lock is old enough. -/
structure Evidence where
  answered : Bool
  force : Bool
  aged : Bool
  deriving DecidableEq

structure LockKind where
  attempts : Nat
  judge : Option LockPayload → (Nat → Bool) → Evidence → Verdict
  exhausted : LockError

def mutationLock : LockKind where
  attempts := 2
  judge := fun current alive _ =>
    match current with
    | some payload => if alive payload.pid then .refuse .mutationBusy else .reclaim
    | none => .refuse .mutationBusy
  exhausted := .mutationBusy

def hostLock : LockKind where
  attempts := 4
  judge := fun existing alive evidence =>
    if existing.isSome && evidence.answered then .refuse .hostAlreadyRunning
    else if existing.any (fun payload => !alive payload.pid) ||
        (evidence.force && evidence.aged) then .reclaim
    else .refuse .hostLockUnverified
  exhausted := .hostStartupFailed

inductive Phase where
  | idle
  | opening (attempt : Nat)
  | writing
  | holding
  | reading (attempt : Nat)
  | judging (attempt : Nat) (current : Option LockPayload)
  | removing (attempt : Nat)
  | releasing
  | withdrawing
  | released
  | failed (error : LockError)
  deriving DecidableEq

structure Callers where
  pidOf : Nat → Nat
  ownerId : Nat → String

structure State where
  file : Option LockFile
  phase : Nat → Phase
  dead : Nat → Bool

def State.alive (state : State) (pid : Nat) : Bool := !state.dead pid

def State.enter (state : State) (call : Nat) (phase : Phase) : State :=
  { state with phase := fun other => if other = call then phase else state.phase other }

/-- `parse(readFile(lockPath))`. -/
def State.read (state : State) : Option LockPayload :=
  state.file.bind LockFile.payload

/-- The payload reaches the file that the call created, wherever that file is now. -/
def writePayload (callers : Callers) (call : Nat) (file : LockFile) : LockFile :=
  if file.creator = some call then
    { file with payload := some { pid := callers.pidOf call, ownerId := callers.ownerId call } }
  else file

/-- The next file operation of a call. -/
def advance (kind : LockKind) (callers : Callers) (state : State) (call : Nat)
    (evidence : Evidence) : State :=
  match state.phase call with
  | .idle => state.enter call (.opening 0)
  | .opening attempt =>
    if attempt < kind.attempts then
      match state.file with
      | none =>
        { state with file := some { creator := some call, payload := none } }.enter call .writing
      | some _ => state.enter call (.reading attempt)
    else state.enter call (.failed kind.exhausted)
  | .writing =>
    { state with file := state.file.map (writePayload callers call) }.enter call .holding
  | .reading attempt => state.enter call (.judging attempt state.read)
  | .judging attempt current =>
    match kind.judge current state.alive evidence with
    | .refuse error => state.enter call (.failed error)
    | .reclaim => state.enter call (.removing attempt)
  | .removing attempt => { state with file := none }.enter call (.opening (attempt + 1))
  | .holding => state.enter call .releasing
  | .releasing =>
    if state.read.map LockPayload.ownerId = some (callers.ownerId call) then
      state.enter call .withdrawing
    else state.enter call .released
  | .withdrawing => { state with file := none }.enter call .released
  | .released => state
  | .failed _ => state

inductive LockOp where
  | advance (call : Nat) (evidence : Evidence)
  | fault (call : Nat)
  | crash (pid : Nat)
  deriving DecidableEq

/-- One step of a call, a file operation that fails, or the death of a process. -/
def step (kind : LockKind) (callers : Callers) (state : State) : LockOp → State
  | .advance call evidence =>
    if state.alive (callers.pidOf call) then advance kind callers state call evidence else state
  | .fault call =>
    if state.alive (callers.pidOf call) then state.enter call (.failed .ioFailed) else state
  | .crash pid => { state with dead := fun other => if other = pid then true else state.dead other }

def start (left : Option (Option LockPayload)) (dead : Nat → Bool) : State where
  file := left.map (fun payload => { creator := none, payload := payload })
  phase := fun _ => .idle
  dead := dead

def reach (kind : LockKind) (callers : Callers) (left : Option (Option LockPayload))
    (dead : Nat → Bool) (ops : List LockOp) : State :=
  run (step kind callers) (start left dead) ops

end OpenRill.Locks.LockFile
