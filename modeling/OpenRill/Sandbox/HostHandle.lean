import OpenRill.Lib.Runs
import OpenRill.Lib.Text

/-!
# The handle of the host backend

`HostExecutionBackend.prepare` gives out one handle. A step is what runs between two awaits:
a call as far as its first one, the rest of an `exec` once its working directory is known, and its
rest once the child has ended. The checks of `closed` and `active` stand before the first
await of `exec`, the spawn after it.

`asked` and `afterClose` are not fields of the code. They record that a cancel or a close met
the call with its child alive or still to be spawned, and that a child was spawned by a closed
handle. The captured output is left out.
-/

namespace OpenRill.Sandbox.HostHandle

open Lib.Runs Lib.Text

structure SandboxError where
  code : String
  message : String
  deriving DecidableEq

/-- A number that is not whole is refused like one that is out of bounds. -/
structure BackendExecInput where
  executable : String
  args : List String
  timeoutMs : Option Int
  maxOutputBytes : Option Int

def execInvalid (message : String) : SandboxError := ⟨"SANDBOX_EXEC_INVALID", message⟩

def execFailed (message : String) : SandboxError := ⟨"SANDBOX_EXEC_FAILED", message⟩

def outside (least most : Int) (value : Option Int) : Bool :=
  value.any (fun number => decide (number < least ∨ most < number))

def validateExec (input : BackendExecInput) : Option SandboxError :=
  if input.executable = "" ∨ 4096 < utf16Length input.executable then
    some (execInvalid "executable must be a non-empty string of at most 4096 characters")
  else if 256 < input.args.length ∨ ∃ value ∈ input.args, 8192 < utf16Length value then
    some (execInvalid "argv exceeds the bounded execution contract")
  else if outside 100 3600000 input.timeoutMs = true then
    some (execInvalid "timeoutMs must be between 100 and 3600000")
  else if outside 1 1048576 input.maxOutputBytes = true then
    some (execInvalid "maxOutputBytes must be between 1 and 1048576")
  else none

structure BackendExecResult where
  exitCode : Option Int
  signal : Option String
  timedOut : Bool
  cancelled : Bool
  deriving DecidableEq

structure ChildProcess where
  alive : Bool
  killed : Bool
  timedOut : Bool
  afterClose : Bool

inductive Phase where
  | resolving
  | running
  | returned (result : BackendExecResult)
  | threw (error : SandboxError)
  deriving DecidableEq

structure ExecCall where
  phase : Phase
  child : Option ChildProcess
  asked : Bool

/-- What `workspaces.resolve` answers; in a directory, whether the spawn throws, and whether
the child starts. -/
inductive Resolution where
  | rejected (error : SandboxError)
  | notDirectory
  | directory (spawned : Except SandboxError Bool)

structure Handle where
  active : Option Nat
  cancelled : Bool
  closed : Bool
  calls : Nat → Option ExecCall
  made : Nat

def Handle.prepared : Handle where
  active := none
  cancelled := false
  closed := false
  calls := fun _ => none
  made := 0

/-- `exited` is the end of the process, `ended` and `failed` the rest of the call after the
`close` and after the `error` event of its child. -/
inductive HandleOp where
  | exec (input : BackendExecInput)
  | resolved (id : Nat) (answer : Resolution)
  | timeout (id : Nat)
  | exited (id : Nat)
  | ended (id : Nat) (exitCode : Option Int) (signal : Option String)
  | failed (id : Nat) (message : String)
  | cancel
  | close

def putCall (handle : Handle) (id : Nat) (call : ExecCall) : Handle :=
  { handle with calls := fun other => if other = id then some call else handle.calls other }

/-- `exec` as far as the resolution of the working directory. -/
def enterExec (handle : Handle) (input : BackendExecInput) : Phase :=
  if handle.closed = true then
    .threw ⟨"SANDBOX_CLOSED", "execution backend handle is closed"⟩
  else if handle.active.isSome = true then
    .threw (execFailed "execution backend handle already owns an active process")
  else
    match validateExec input with
    | some error => .threw error
    | none => .resolving

def resolveCwd (handle : Handle) (id : Nat) (call : ExecCall) : Resolution → Handle
  | .rejected error => putCall handle id { call with phase := .threw error }
  | .notDirectory =>
    putCall handle id
      { call with phase := .threw (execInvalid "cwd must resolve to a workspace directory") }
  | .directory (.error error) =>
    putCall { handle with cancelled := false } id { call with phase := .threw error }
  | .directory (.ok started) =>
    putCall { handle with cancelled := false, active := some id } id
      { call with
        phase := .running
        child := some
          { alive := started, killed := false, timedOut := false, afterClose := handle.closed } }

/-- The child is alive, or the call may still spawn one. -/
def ExecCall.pending (call : ExecCall) : Bool :=
  decide (call.phase = .resolving) || call.child.any ChildProcess.alive

/-- What `cancel` makes of a call; it kills the child of the active one. -/
def ExecCall.cancelledBy (call : ExecCall) (isActive : Bool) : ExecCall :=
  { call with
    child := call.child.map (fun child => { child with killed := child.killed || isActive })
    asked := call.asked || call.pending }

def cancel (handle : Handle) : Handle :=
  { handle with
    cancelled := true
    calls := fun id =>
      (handle.calls id).map (fun call => call.cancelledBy (decide (handle.active = some id))) }

def step (handle : Handle) : HandleOp → Handle
  | .exec input =>
    { putCall handle handle.made ⟨enterExec handle input, none, false⟩ with
      made := handle.made + 1 }
  | .resolved id answer =>
    match handle.calls id with
    | some ⟨.resolving, child, asked⟩ => resolveCwd handle id ⟨.resolving, child, asked⟩ answer
    | _ => handle
  | .timeout id =>
    match handle.calls id with
    | some ⟨.running, some child, asked⟩ =>
      putCall handle id ⟨.running, some { child with timedOut := true, killed := true }, asked⟩
    | _ => handle
  | .exited id =>
    match handle.calls id with
    | some ⟨phase, some child, asked⟩ =>
      putCall handle id ⟨phase, some { child with alive := false }, asked⟩
    | _ => handle
  | .ended id exitCode signal =>
    match handle.calls id with
    | some ⟨.running, some child, asked⟩ =>
      if child.alive = true then handle
      else
        putCall { handle with active := none } id
          ⟨.returned ⟨exitCode, signal, child.timedOut, handle.cancelled⟩, some child, asked⟩
    | _ => handle
  | .failed id message =>
    match handle.calls id with
    | some ⟨.running, child, asked⟩ =>
      putCall { handle with active := none } id ⟨.threw (execFailed message), child, asked⟩
    | _ => handle
  | .cancel => cancel handle
  | .close => if handle.closed = true then handle else cancel { handle with closed := true }

def Alive (handle : Handle) (id : Nat) : Prop :=
  ∃ call child, handle.calls id = some call ∧ call.child = some child ∧ child.alive = true

structure Owned (handle : Handle) : Prop where
  single : ∀ first second, Alive handle first → Alive handle second → first = second
  timely : ∀ id call child, handle.calls id = some call → call.child = some child →
    child.afterClose = false
  killed : ∀ id call child, handle.calls id = some call → call.asked = true →
    call.child = some child → child.killed = true
  told : ∀ id call result, handle.calls id = some call → call.asked = true →
    call.phase = .returned result → result.cancelled = true

/-- When a call gets its directory the handle is open and has no active child, and no cancel
came since the call; a child that is reported as failed is not running. -/
def InTime (handle : Handle) : HandleOp → Prop
  | .resolved id (.directory _) =>
    handle.closed = false ∧ handle.active = none ∧
      (handle.calls id).all (fun call => !call.asked) = true
  | .failed id _ =>
    (handle.calls id).all (fun call => call.child.all (fun child => !child.alive)) = true
  | _ => True

instance (handle : Handle) (op : HandleOp) : Decidable (InTime handle op) := by
  unfold InTime
  split <;> infer_instance

variable {active : Option Nat} {cancelled asked : Bool} {id : Nat} {call : ExecCall}
variable {handle : Handle} {child : Option ChildProcess}

/-- What holds of one call, next to the flags of its handle. -/
structure CallKept (active : Option Nat) (cancelled : Bool) (id : Nat) (call : ExecCall) :
    Prop where
  running : call.phase = .running → active = some id
  unspawned : call.phase = .resolving → call.child = none
  alive : ∀ child, call.child = some child → child.alive = true → call.phase = .running
  timely : ∀ child, call.child = some child → child.afterClose = false
  killed : call.asked = true → ∀ child, call.child = some child → child.killed = true
  flagged : call.asked = true → call.phase = .running → cancelled = true
  told : call.asked = true → ∀ result, call.phase = .returned result → result.cancelled = true

def Kept (handle : Handle) : Prop :=
  ∀ id call, handle.calls id = some call → CallKept handle.active handle.cancelled id call

theorem CallKept.idle (kept : CallKept active cancelled id call)
    (idle : call.phase ≠ .running) (other : Option Nat) (flag : Bool) :
    CallKept other flag id call where
  running isRunning := absurd isRunning idle
  unspawned := kept.unspawned
  alive := kept.alive
  timely := kept.timely
  killed := kept.killed
  flagged _ isRunning := absurd isRunning idle
  told := kept.told

theorem putCall_calls (handle : Handle) (id : Nat) (call : ExecCall) (wanted : Nat) :
    (putCall handle id call).calls wanted =
      if wanted = id then some call else handle.calls wanted := rfl

theorem kept_put (own : CallKept handle.active handle.cancelled id call)
    (others : ∀ wanted other, wanted ≠ id → handle.calls wanted = some other →
      CallKept handle.active handle.cancelled wanted other) : Kept (putCall handle id call) := by
  intro wanted found isFound
  rw [putCall_calls] at isFound
  by_cases same : wanted = id
  · rw [if_pos same, Option.some.injEq] at isFound
    rw [← isFound, same]
    exact own
  · rw [if_neg same] at isFound
    exact others wanted found same isFound

theorem callKept_threw {error : SandboxError}
    (dead : ∀ started, child = some started → started.alive = false)
    (timely : ∀ started, child = some started → started.afterClose = false)
    (killed : asked = true → ∀ started, child = some started → started.killed = true) :
    CallKept active cancelled id ⟨.threw error, child, asked⟩ where
  running := nofun
  unspawned := nofun
  alive started isChild alive := by
    rw [dead started isChild] at alive
    cases alive
  timely := timely
  killed := killed
  flagged _ := nofun
  told _ := nofun

theorem pending_cases (kept : CallKept active cancelled id call) (pending : call.pending = true) :
    (call.phase = .resolving ∧ call.child = none) ∨ (call.phase = .running ∧ active = some id) := by
  rcases (Bool.or_eq_true _ _).mp pending with resolving | alive
  · have isResolving : call.phase = .resolving := of_decide_eq_true resolving
    exact Or.inl ⟨isResolving, kept.unspawned isResolving⟩
  · obtain ⟨child, isChild, isAlive⟩ := (Option.any_eq_true _ _).mp alive
    have isRunning := kept.alive child isChild isAlive
    exact Or.inr ⟨isRunning, kept.running isRunning⟩

theorem callKept_cancelled (kept : CallKept active cancelled id call) :
    CallKept active true id (call.cancelledBy (decide (active = some id))) where
  running := kept.running
  unspawned resolving := by
    have nothing := kept.unspawned resolving
    simp [ExecCall.cancelledBy, nothing]
  alive child isChild alive := by
    obtain ⟨before, isBefore, rfl⟩ := Option.map_eq_some_iff.mp isChild
    exact kept.alive before isBefore alive
  timely child isChild := by
    obtain ⟨before, isBefore, rfl⟩ := Option.map_eq_some_iff.mp isChild
    exact kept.timely before isBefore
  killed asked child isChild := by
    obtain ⟨before, isBefore, rfl⟩ := Option.map_eq_some_iff.mp isChild
    rcases (Bool.or_eq_true _ _).mp asked with earlier | pending
    · simp [kept.killed earlier before isBefore]
    · rcases pending_cases kept pending with ⟨-, nothing⟩ | ⟨-, isActive⟩
      · rw [nothing] at isBefore
        cases isBefore
      · simp [isActive]
  flagged _ _ := rfl
  told asked result isResult := by
    have isReturned : call.phase = .returned result := isResult
    rcases (Bool.or_eq_true _ _).mp asked with earlier | pending
    · exact kept.told earlier result isReturned
    · rcases pending_cases kept pending with ⟨isPhase, -⟩ | ⟨isPhase, -⟩
      · rw [isPhase] at isReturned
        cases isReturned
      · rw [isPhase] at isReturned
        cases isReturned

theorem cancel_kept (kept : Kept handle) : Kept (cancel handle) := by
  intro id found isFound
  obtain ⟨call, isCall, rfl⟩ := Option.map_eq_some_iff.mp isFound
  exact callKept_cancelled (kept id call isCall)

/-- The rest of a call whose directory is known: the flags are set anew, and nothing else of
the handle is running. -/
theorem resolveCwd_kept (kept : Kept handle)
    (isCall : handle.calls id = some ⟨.resolving, child, asked⟩) (answer : Resolution)
    (inTime : InTime handle (.resolved id answer)) :
    Kept (resolveCwd handle id ⟨.resolving, child, asked⟩ answer) := by
  have own := kept id _ isCall
  have nothing : child = none := own.unspawned rfl
  have threw : ∀ active cancelled error,
      CallKept active cancelled id ⟨.threw error, child, asked⟩ := by
    rw [nothing]
    exact fun _ _ _ => callKept_threw nofun nofun fun _ => nofun
  have others : handle.active = none → ∀ active cancelled wanted other,
      handle.calls wanted = some other → CallKept active cancelled wanted other := by
    intro isFree active cancelled wanted other isOther
    have keptOther := kept wanted other isOther
    refine keptOther.idle (fun isRunning => ?_) active cancelled
    rw [keptOther.running isRunning] at isFree
    cases isFree
  cases answer with
  | rejected error => exact kept_put (threw _ _ _) fun wanted other _ => kept wanted other
  | notDirectory => exact kept_put (threw _ _ _) fun wanted other _ => kept wanted other
  | directory spawned =>
    obtain ⟨isOpen, isFree, unasked⟩ := inTime
    rw [isCall] at unasked
    have notAsked : asked = false := by simpa using unasked
    cases spawned with
    | error error =>
      exact kept_put (threw _ _ _) fun wanted other _ isOther =>
        others isFree _ _ wanted other isOther
    | ok started =>
      refine kept_put ?_ fun wanted other _ isOther => others isFree _ _ wanted other isOther
      refine
        { running := fun _ => rfl
          unspawned := nofun
          alive := fun _ _ _ => rfl
          timely := ?_
          killed := ?_
          flagged := ?_
          told := fun _ => nofun }
      · rintro spawned isSpawned
        rw [← Option.some.inj isSpawned]
        exact isOpen
      · intro isAsked
        exact absurd isAsked (by simp [notAsked])
      · intro isAsked
        exact absurd isAsked (by simp [notAsked])

theorem enterExec_cases (handle : Handle) (input : BackendExecInput) :
    (∃ error, enterExec handle input = .threw error) ∨ enterExec handle input = .resolving := by
  unfold enterExec
  split
  · exact Or.inl ⟨_, rfl⟩
  · split
    · exact Or.inl ⟨_, rfl⟩
    · split
      next error _ => exact Or.inl ⟨error, rfl⟩
      next => exact Or.inr rfl

theorem callKept_entered {phase : Phase}
    (entered : (∃ error, phase = .threw error) ∨ phase = .resolving) :
    CallKept active cancelled id ⟨phase, none, false⟩ where
  running isRunning := by
    rcases entered with ⟨error, isPhase⟩ | isPhase
    · cases isPhase.symm.trans isRunning
    · cases isPhase.symm.trans isRunning
  unspawned _ := rfl
  alive := nofun
  timely := nofun
  killed := nofun
  flagged := nofun
  told := nofun

theorem others_idle (kept : Kept handle) (isActive : handle.active = some id) (other : Option Nat)
    (wanted : Nat) (found : ExecCall) (different : wanted ≠ id)
    (isFound : handle.calls wanted = some found) :
    CallKept other handle.cancelled wanted found := by
  have keptFound := kept wanted found isFound
  refine keptFound.idle (fun isRunning => ?_) other handle.cancelled
  rw [keptFound.running isRunning, Option.some.injEq] at isActive
  exact different isActive

theorem step_kept (handle : Handle) (op : HandleOp) (inTime : InTime handle op)
    (kept : Kept handle) : Kept (step handle op) := by
  cases op with
  | exec input =>
    exact kept_put (callKept_entered (enterExec_cases handle input))
      fun wanted other _ => kept wanted other
  | resolved id answer =>
    simp only [step]
    split
    next child asked isCall => exact resolveCwd_kept kept isCall answer inTime
    next => exact kept
  | timeout id =>
    simp only [step]
    split
    next child asked isCall =>
      have own := kept id _ isCall
      refine kept_put ?_ fun wanted other _ => kept wanted other
      exact
        { running := own.running
          unspawned := nofun
          alive := fun _ _ _ => rfl
          timely := by
            rintro _ ⟨⟩
            exact own.timely child rfl
          killed := by
            rintro _ _ ⟨⟩
            rfl
          flagged := own.flagged
          told := fun _ => nofun }
    next => exact kept
  | exited id =>
    simp only [step]
    split
    next phase child asked isCall =>
      have own := kept id _ isCall
      refine kept_put ?_ fun wanted other _ => kept wanted other
      exact
        { running := own.running
          unspawned := fun resolving => absurd (own.unspawned resolving) nofun
          alive := by
            rintro _ ⟨⟩ alive
            cases alive
          timely := by
            rintro _ ⟨⟩
            exact own.timely child rfl
          killed := by
            rintro isAsked _ ⟨⟩
            exact own.killed isAsked child rfl
          flagged := own.flagged
          told := own.told }
    next => exact kept
  | ended id exitCode signal =>
    simp only [step]
    split
    next child asked isCall =>
      split
      next => exact kept
      next dead =>
        have own := kept id _ isCall
        refine kept_put ?_ (others_idle kept (own.running rfl) none)
        exact
          { running := nofun
            unspawned := nofun
            alive := by
              rintro _ ⟨⟩ alive
              exact absurd alive dead
            timely := own.timely
            killed := own.killed
            flagged := fun _ => nofun
            told := by
              rintro isAsked _ ⟨⟩
              exact own.flagged isAsked rfl }
    next => exact kept
  | failed id message =>
    simp only [step]
    split
    next child asked isCall =>
      have own := kept id _ isCall
      simp only [InTime, isCall, Option.all_some] at inTime
      refine kept_put (callKept_threw ?_ own.timely own.killed)
        (others_idle kept (own.running rfl) none)
      rintro started rfl
      simpa using inTime
    next => exact kept
  | cancel => exact cancel_kept kept
  | close =>
    simp only [step]
    split
    · exact kept
    · exact cancel_kept kept

theorem owned_of_kept (kept : Kept handle) : Owned handle where
  single := by
    rintro first second ⟨one, child, isOne, isChild, alive⟩ ⟨two, other, isTwo, isOther, living⟩
    have keptOne := kept first one isOne
    have keptTwo := kept second two isTwo
    have isFirst := keptOne.running (keptOne.alive child isChild alive)
    have isSecond := keptTwo.running (keptTwo.alive other isOther living)
    exact Option.some.inj (isFirst.symm.trans isSecond)
  timely id call child isCall := (kept id call isCall).timely child
  killed id call child isCall asked := (kept id call isCall).killed asked child
  told id call result isCall asked := (kept id call isCall).told asked result

/-- A handle owns its processes in every run in which each spawn finds the handle as the call
left it. -/
theorem processes_owned (ops : List HandleOp)
    (inTime : EveryStep step InTime Handle.prepared ops) :
    Owned (run step Handle.prepared ops) :=
  owned_of_kept (run_invariant_of_everyStep step InTime Kept step_kept Handle.prepared ops
    nofun inTime)

def shellCommand : BackendExecInput where
  executable := "sh"
  args := []
  timeoutMs := none
  maxOutputBytes := none

theorem cancelled_child_owned :
    Owned (run step Handle.prepared
      [.exec shellCommand, .resolved 0 (.directory (.ok true)), .cancel, .exited 0,
        .ended 0 none (some "SIGTERM")]) :=
  processes_owned _ (by decide)

/-- Two calls that wait for their directories at the same time both spawn. -/
theorem overlapping_calls_spawn :
    ¬ Owned (run step Handle.prepared
      [.exec shellCommand, .exec shellCommand, .resolved 0 (.directory (.ok true)),
        .resolved 1 (.directory (.ok true))]) := by
  intro owned
  have same := owned.single 0 1 ⟨_, _, rfl, rfl, rfl⟩ ⟨_, _, rfl, rfl, rfl⟩
  cases same

end OpenRill.Sandbox.HostHandle
