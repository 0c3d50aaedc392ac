import OpenRill.Locks.LockFile

/-!
# Who holds a lock

A live call that has created the lock file finds its own file in place as long as
nobody else removes it. A call removes a file either because it is its own, or because
it has read the file of a dead process there some steps before. By then the file may
be another one, and when that belongs to a live call two calls come to hold the lock.
-/

namespace OpenRill.Locks.Exclusion

open Lib.Runs LockFile

variable {kind : LockKind} {callers : Callers} {state : State}

def owning : Phase → Bool
  | .writing | .holding | .releasing | .withdrawing => true
  | _ => false

def holds : Phase → Bool
  | .holding | .releasing | .withdrawing => true
  | _ => false

def Lives (callers : Callers) (state : State) (call : Nat) : Prop :=
  state.alive (callers.pidOf call) = true

instance (callers : Callers) (state : State) (call : Nat) :
    Decidable (Lives callers state call) :=
  inferInstanceAs (Decidable (_ = true))

/-- A live call believes that it holds the lock. -/
def Believes (callers : Callers) (state : State) (call : Nat) : Prop :=
  Lives callers state call ∧ holds (state.phase call) = true

instance (callers : Callers) (state : State) (call : Nat) :
    Decidable (Believes callers state call) :=
  inferInstanceAs (Decidable (_ ∧ _))

/-- At most one live call believes that it holds the lock. -/
def Exclusive (callers : Callers) (state : State) : Prop :=
  ∀ first second, Believes callers state first → Believes callers state second → first = second

def ReleasesOwn (callers : Callers) (state : State) : Prop :=
  ∀ call, Lives callers state call → state.phase call = .withdrawing →
    ∀ file, state.file = some file → file.creator = some call

def Occupied (callers : Callers) (state : State) : Prop :=
  (state.file.bind LockFile.creator).any
    (fun owner => state.alive (callers.pidOf owner) && owning (state.phase owner)) = true

def reclaims : Phase → Bool
  | .removing _ => true
  | _ => false

def Spares (callers : Callers) (state : State) : LockOp → Prop
  | .advance call _ => reclaims (state.phase call) = true → ¬ Occupied callers state
  | .fault _ => True
  | .crash _ => True

instance decidableSpares (callers : Callers) (state : State) :
    ∀ op, Decidable (Spares callers state op)
  | .advance _ _ => inferInstanceAs (Decidable (_ = true → ¬ (_ = true)))
  | .fault _ => isTrue trivial
  | .crash _ => isTrue trivial

def InPlace (callers : Callers) (state : State) : Prop :=
  ∀ call, Lives callers state call → owning (state.phase call) = true →
    ∃ file, state.file = some file ∧ file.creator = some call

section Steps

variable {call : Nat} {phase : Phase}

@[simp] theorem enter_file (state : State) (call : Nat) (phase : Phase) :
    (state.enter call phase).file = state.file := rfl

@[simp] theorem enter_dead (state : State) (call : Nat) (phase : Phase) :
    (state.enter call phase).dead = state.dead := rfl

@[simp] theorem enter_self (state : State) (call : Nat) (phase : Phase) :
    (state.enter call phase).phase call = phase := by
  simp [State.enter]

theorem enter_other (state : State) {other : Nat} (phase : Phase) (different : other ≠ call) :
    (state.enter call phase).phase other = state.phase other := by
  simp [State.enter, different]

theorem owning_of_holds (held : holds phase = true) : owning phase = true := by
  cases phase <;> first | contradiction | rfl

section

variable (inPlace : InPlace callers state)
include inPlace

theorem inPlace_of_enter (owned : owning phase = true → owning (state.phase call) = true) :
    InPlace callers (state.enter call phase) := by
  intro other lives owns
  by_cases same : other = call
  · rw [same, enter_self] at owns
    rw [same]
    rw [same] at lives
    exact inPlace call lives (owned owns)
  · rw [enter_other state phase same] at owns
    exact inPlace other lives owns

theorem inPlace_of_created (absent : state.file = none) :
    InPlace callers
      ({ state with file := some { creator := some call, payload := none } }.enter
        call .writing) := by
  intro other lives owns
  by_cases same : other = call
  · exact ⟨_, rfl, by rw [same]⟩
  · rw [enter_other _ _ same] at owns
    obtain ⟨file, present, -⟩ := inPlace other lives owns
    rw [absent] at present
    contradiction

theorem inPlace_of_written (writing : state.phase call = .writing) :
    InPlace callers
      ({ state with file := state.file.map (writePayload callers call) }.enter call .holding) := by
  intro other lives owns
  have owned : owning (state.phase other) = true := by
    by_cases same : other = call
    · rw [same, writing]
      rfl
    · rw [enter_other _ _ same] at owns
      exact owns
  obtain ⟨file, present, isCreator⟩ := inPlace other lives owned
  refine ⟨writePayload callers call file, ?_, ?_⟩
  · simp [present]
  · unfold writePayload
    split
    next => exact isCreator
    next => exact isCreator

end

theorem inPlace_of_removed (unowned : owning phase = false)
    (others : ∀ other, other ≠ call → Lives callers state other →
      owning (state.phase other) = false) :
    InPlace callers ({ state with file := none }.enter call phase) := by
  intro other lives owns
  by_cases same : other = call
  · rw [same, enter_self, unowned] at owns
    contradiction
  · rw [enter_other _ _ same] at owns
    have free := others other same lives
    rw [free] at owns
    contradiction

variable (inPlace : InPlace callers state)

include inPlace

theorem only_owner {file : LockFile} (present : state.file = some file)
    (isCreator : file.creator = some call) :
    ∀ other, other ≠ call → Lives callers state other → owning (state.phase other) = false := by
  intro other different lives
  cases owns : owning (state.phase other) with
  | false => rfl
  | true =>
    obtain ⟨found, isFound, isOther⟩ := inPlace other lives owns
    rw [present, Option.some.injEq] at isFound
    rw [← isFound, isCreator, Option.some.injEq] at isOther
    exact absurd isOther.symm different

theorem occupied_of_owner (lives : Lives callers state call)
    (owns : owning (state.phase call) = true) : Occupied callers state := by
  obtain ⟨file, present, isCreator⟩ := inPlace call lives owns
  unfold Lives at lives
  unfold Occupied
  simp [present, isCreator, lives, owns]

theorem inPlace_advance {evidence : Evidence} (lives : Lives callers state call)
    (spares : Spares callers state (.advance call evidence)) :
    InPlace callers (advance kind callers state call evidence) := by
  unfold advance
  split
  next =>
    apply inPlace_of_enter inPlace
    intro owns
    contradiction
  next attempt opening =>
    split
    next =>
      split
      next absent => exact inPlace_of_created inPlace absent
      next =>
        apply inPlace_of_enter inPlace
        intro owns
        contradiction
    next =>
      apply inPlace_of_enter inPlace
      intro owns
      contradiction
  next writing => exact inPlace_of_written inPlace writing
  next =>
    apply inPlace_of_enter inPlace
    intro owns
    contradiction
  next =>
    split
    next =>
      apply inPlace_of_enter inPlace
      intro owns
      contradiction
    next =>
      apply inPlace_of_enter inPlace
      intro owns
      contradiction
  next attempt removing =>
    apply inPlace_of_removed rfl
    intro other different otherLives
    cases owns : owning (state.phase other) with
    | false => rfl
    | true =>
      have occupied := occupied_of_owner inPlace otherLives owns
      have reclaiming : reclaims (state.phase call) = true := by
        rw [removing]
        rfl
      exact absurd occupied (spares reclaiming)
  next holding =>
    apply inPlace_of_enter inPlace
    intro _
    rw [holding]
    rfl
  next releasing =>
    split
    next =>
      apply inPlace_of_enter inPlace
      intro _
      rw [releasing]
      rfl
    next =>
      apply inPlace_of_enter inPlace
      intro owns
      contradiction
  next withdrawing =>
    have owns : owning (state.phase call) = true := by
      rw [withdrawing]
      rfl
    obtain ⟨file, present, isCreator⟩ := inPlace call lives owns
    exact inPlace_of_removed rfl (only_owner inPlace present isCreator)
  next => exact inPlace
  next => exact inPlace

theorem inPlace_step {op : LockOp} (spares : Spares callers state op) :
    InPlace callers (step kind callers state op) := by
  cases op with
  | advance call evidence =>
    simp only [step]
    split
    next lives => exact inPlace_advance inPlace lives spares
    next => exact inPlace
  | fault call =>
    simp only [step]
    split
    next =>
      apply inPlace_of_enter inPlace
      intro owns
      contradiction
    next => exact inPlace
  | crash pid =>
    intro call lives owns
    apply inPlace call
    · unfold Lives State.alive step at lives
      unfold Lives State.alive
      by_cases same : callers.pidOf call = pid
      · simp [same] at lives
      · simpa [same] using lives
    · exact owns

end Steps

theorem inPlace_start (left : Option (Option LockPayload)) (dead : Nat → Bool) :
    InPlace callers (start left dead) := by
  intro call _ owns
  contradiction

theorem exclusive_of_inPlace (inPlace : InPlace callers state) : Exclusive callers state := by
  rintro first second ⟨firstLives, firstHolds⟩ ⟨secondLives, secondHolds⟩
  obtain ⟨file, present, isFirst⟩ := inPlace first firstLives (owning_of_holds firstHolds)
  obtain ⟨other, isOther, isSecond⟩ := inPlace second secondLives (owning_of_holds secondHolds)
  rw [present, Option.some.injEq] at isOther
  rw [← isOther, isFirst, Option.some.injEq] at isSecond
  exact isSecond

theorem releasesOwn_of_inPlace (inPlace : InPlace callers state) :
    ReleasesOwn callers state := by
  intro call lives withdrawing file present
  have owns : owning (state.phase call) = true := by
    rw [withdrawing]
    rfl
  obtain ⟨found, isFound, isCreator⟩ := inPlace call lives owns
  rw [present, Option.some.injEq] at isFound
  rw [isFound]
  exact isCreator

/-- While no call reclaims the lock file of a live call, either lock has at most one live
holder, and a release removes the file of its own call only. -/
theorem spared_lock_exclusive (kind : LockKind) (callers : Callers)
    (left : Option (Option LockPayload)) (dead : Nat → Bool) (ops : List LockOp)
    (spared : EveryStep (step kind callers) (Spares callers) (start left dead) ops) :
    Exclusive callers (reach kind callers left dead ops) ∧
      ReleasesOwn callers (reach kind callers left dead ops) := by
  have inPlace : InPlace callers (reach kind callers left dead ops) := by
    exact run_invariant_of_everyStep (step kind callers) (Spares callers)
      (InPlace callers) (fun _ _ spares kept => inPlace_step kept spares)
      _ _ (inPlace_start left dead) spared
  exact ⟨exclusive_of_inPlace inPlace, releasesOwn_of_inPlace inPlace⟩

def sampleCallers : Callers where
  pidOf := fun call => call + 10
  ownerId := fun call => if call = 1 then "first" else "second"

def sampleLeft : Option (Option LockPayload) := some (some { pid := 9, ownerId := "gone" })

def sampleDead (pid : Nat) : Bool := pid = 9

def sampleSteps (call count : Nat) : List LockOp :=
  List.replicate count (.advance call { answered := false, force := false, aged := false })

/-- The second call arrives after the first one has reclaimed the lock. -/
theorem reclaimed_lock_exclusive :
    Believes sampleCallers
        (reach mutationLock sampleCallers sampleLeft sampleDead
          (sampleSteps 1 7 ++ sampleSteps 2 4)) 1 ∧
      Exclusive sampleCallers
        (reach mutationLock sampleCallers sampleLeft sampleDead
          (sampleSteps 1 7 ++ sampleSteps 2 4)) :=
  ⟨by decide, (spared_lock_exclusive mutationLock sampleCallers sampleLeft sampleDead
    (sampleSteps 1 7 ++ sampleSteps 2 4) (by decide)).1⟩

def sampleRace : List LockOp :=
  sampleSteps 1 4 ++ sampleSteps 2 4 ++ sampleSteps 1 3 ++ sampleSteps 2 3

theorem raced_lock_shared :
    ¬ Exclusive sampleCallers (reach mutationLock sampleCallers sampleLeft sampleDead sampleRace) ∧
      ¬ Exclusive sampleCallers (reach hostLock sampleCallers sampleLeft sampleDead sampleRace) := by
  constructor
  · intro exclusive
    have same := exclusive 1 2 (by decide) (by decide)
    contradiction
  · intro exclusive
    have same := exclusive 1 2 (by decide) (by decide)
    contradiction

end OpenRill.Locks.Exclusion
