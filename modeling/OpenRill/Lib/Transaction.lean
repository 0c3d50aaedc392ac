/-!
# Transactions and their rules of reasoning

A transaction reads and writes a state and may fail; a failed one leaves the
state as it was. `Ensures` is its partial correctness triple, `Keeps` the triple
of an invariant. The rules follow the shape of a program: sequence, guard,
lookup, read, write, choice and loop. `Completes` says in addition that nothing
is thrown, `Throws` that something is, and `Ends` speaks of a procedure that
commits several transactions one after the other. A program over one part of a
larger state is lifted by `focus`, which leaves the other parts alone, and one with
failures of its own by `relabel`.
-/

namespace OpenRill.Lib.Transaction

variable {condition : Prop} {Whole Found : Type}

abbrev Transaction (State Failure Value : Type) := StateT State (Except Failure) Value

variable {State Failure Value Result : Type} {failure : Failure}
variable {body yes no : Transaction State Failure Value} {found : Option Value}
variable {ending : Result → State → Prop} {known state : State} {value : Value}
variable {write : Whole → State → Whole} {fact middle : Value → State → Prop}
variable {before : State → Prop} {written : State → State}

def fail (failure : Failure) : Transaction State Failure Value := fun _ => .error failure

def demand (condition : Prop) [Decidable condition] (failure : Failure) :
    Transaction State Failure Unit :=
  if condition then pure () else fail failure

def expect (found : Option Value) (failure : Failure) : Transaction State Failure Value :=
  match found with
  | some value => pure value
  | none => fail failure

def inspect (view : State → Value) : Transaction State Failure Value :=
  fun state => .ok (view state, state)

def change (next : State → State) : Transaction State Failure Unit :=
  fun state => .ok ((), next state)

/-- A write that the store may refuse. -/
def tryChange (next : State → Option State) (failure : Failure) :
    Transaction State Failure Unit := fun state =>
  match next state with
  | some reached => .ok ((), reached)
  | none => .error failure

def whenever (condition : Prop) [Decidable condition] (body : Transaction State Failure Unit) :
    Transaction State Failure Unit :=
  if condition then body else pure ()

def forEach {Item : Type} (items : List Item) (initial : Value)
    (turn : Value → Item → Transaction State Failure Value) :
    Transaction State Failure Value :=
  match items with
  | [] => pure initial
  | item :: rest => do
      let next ← turn initial item
      forEach rest next turn

/-- The state after the transaction: what it reached, or on a throw the state it
began with. -/
def perform (body : Transaction State Failure Value) (state : State) : State :=
  match body.run state with
  | .ok (_, reached) => reached
  | .error _ => state

/-- Two transactions, the second of which starts only when the first committed.
A throw of the second keeps what the first wrote. -/
def performThen (first : Transaction State Failure Value)
    (second : Value → Transaction State Failure Result) (state : State) : State :=
  match first.run state with
  | .ok (value, reached) => perform (second value) reached
  | .error _ => state

/-- A program over one part of the state. -/
def focus {Whole : Type} (view : Whole → State) (write : Whole → State → Whole)
    (body : Transaction State Failure Value) : Transaction Whole Failure Value :=
  fun whole =>
    match body.run (view whole) with
    | .ok (value, reached) => .ok (value, write whole reached)
    | .error failure => .error failure

/-- Every successful execution from a state that meets `before` returns a value
and a state that meet `after`. -/
def Ensures (before : State → Prop) (body : Transaction State Failure Value)
    (after : Value → State → Prop) : Prop :=
  ∀ state value reached, before state → body.run state = .ok (value, reached) → after value reached

def Keeps (invariant : State → Prop) (body : Transaction State Failure Value) : Prop :=
  Ensures invariant body (fun _ => invariant)

variable {after : Value → State → Prop} {view : State → Value}
variable {next : Value → Transaction State Failure Result}

theorem ensures_pure (value : Value) (holds : ∀ state, before state → after value state) :
    Ensures before (pure value : Transaction State Failure Value) after := by
  intro state result reached initially done
  cases done
  exact holds state initially

theorem ensures_fail (failure : Failure) :
    Ensures before (fail failure : Transaction State Failure Value) after := by
  intro state value reached _ done
  simp [fail, StateT.run] at done

theorem ensures_bind {middle : Value → State → Prop} {ending : Result → State → Prop}
    {body : Transaction State Failure Value}
    {next : Value → Transaction State Failure Result}
    (first : Ensures before body middle)
    (rest : ∀ value, Ensures (middle value) (next value) ending) :
    Ensures before (body >>= next) ending := by
  intro state result reached initially done
  simp only [StateT.run_bind] at done
  cases firstRun : body.run state with
  | error failure => simp [firstRun, bind, Except.bind] at done
  | ok pair =>
    simp only [firstRun, bind, Except.bind] at done
    exact rest pair.1 pair.2 result reached (first state pair.1 pair.2 initially firstRun) done

theorem ensures_mono {weaker : State → Prop} {stronger : Value → State → Prop}
    (triple : Ensures weaker body stronger) (weaken : ∀ state, before state → weaker state)
    (strengthen : ∀ value state, stronger value state → after value state) :
    Ensures before body after := by
  intro state value reached initially done
  exact strengthen value reached (triple state value reached (weaken state initially) done)

theorem ensures_from (weaker : State → Prop) (triple : Ensures weaker body after)
    (weaken : ∀ state, before state → weaker state) : Ensures before body after :=
  ensures_mono triple weaken fun _ _ holds => holds

/-- A fact that holds of every initial state may be used to prove the triple. -/
theorem ensures_of_fact (fact : Prop) (known : ∀ state, before state → fact)
    (triple : fact → Ensures before body after) : Ensures before body after := by
  intro state value reached initially done
  exact triple (known state initially) state value reached initially done

theorem ensures_inspect (view : State → Value) :
    Ensures before (inspect view : Transaction State Failure Value)
      (fun value state => before state ∧ value = view state) := by
  intro state value reached initially done
  obtain ⟨rfl, rfl⟩ := done
  exact ⟨initially, rfl⟩

theorem ensures_demand (condition : Prop) [Decidable condition] (failure : Failure) :
    Ensures before (demand condition failure : Transaction State Failure Unit)
      (fun _ state => before state ∧ condition) := by
  unfold demand
  split
  next holds => exact ensures_pure () fun state initially => ⟨initially, holds⟩
  next => exact ensures_fail failure

theorem ensures_expect (found : Option Value) (failure : Failure) :
    Ensures before (expect found failure : Transaction State Failure Value)
      (fun value state => before state ∧ found = some value) := by
  cases found with
  | none => exact ensures_fail failure
  | some value => exact ensures_pure value fun state initially => ⟨initially, rfl⟩

theorem ensures_change {after : Unit → State → Prop} (next : State → State)
    (holds : ∀ state, before state → after () (next state)) :
    Ensures before (change next : Transaction State Failure Unit) after := by
  intro state value reached initially done
  obtain ⟨-, rfl⟩ := done
  exact holds state initially

theorem ensures_at
    (triple : ∀ known, before known → Ensures (fun state => state = known) body after) :
    Ensures before body after := by
  intro state value reached initially done
  exact triple state initially state value reached rfl done

theorem ensures_written (next : State → State) (isKnown : ∀ state, before state → state = known) :
    Ensures before (change next : Transaction State Failure Unit)
      (fun _ reached => reached = next known) := by
  apply ensures_change
  intro state initially
  rw [isKnown state initially]

theorem ensures_tryChange {after : Unit → State → Prop} (next : State → Option State)
    (failure : Failure)
    (holds : ∀ state reached, before state → next state = some reached → after () reached) :
    Ensures before (tryChange next failure : Transaction State Failure Unit) after := by
  intro state value reached initially done
  simp only [tryChange, StateT.run] at done
  cases written : next state with
  | none => simp [written] at done
  | some result =>
    simp only [written, Except.ok.injEq, Prod.mk.injEq] at done
    obtain ⟨-, rfl⟩ := done
    exact holds state result initially written

/-- The usual attempt: what was found is written. -/
theorem ensures_tryMap {after : Unit → State → Prop} {found : State → Option Found}
    {write : State → Found → State}
    (holds : ∀ state value, before state → found state = some value →
      after () (write state value)) :
    Ensures before
      (tryChange (fun state => (found state).map (write state)) failure :
        Transaction State Failure Unit) after := by
  apply ensures_tryChange
  intro state reached initially done
  obtain ⟨value, isFound, rfl⟩ := Option.map_eq_some_iff.mp done
  exact holds state value initially isFound

theorem ensures_inspect_then
    (rest : ∀ state, before state → Ensures before (next (view state)) ending) :
    Ensures before (inspect view >>= next) ending := by
  intro state result reached initially done
  exact rest state initially state result reached initially done

theorem ensures_inspect_at (rest : ∀ known, before known →
      Ensures (fun state => state = known) (next (view known)) ending) :
    Ensures before (inspect view >>= next) ending := by
  intro state result reached initially done
  exact rest state initially state result reached rfl done

/-- A guard, a lookup or a call in front of a program: what it established is
known in the rest. -/
theorem ensures_demand_then [Decidable condition] {next : Unit → Transaction State Failure Result}
    (rest : condition → Ensures before (next ()) ending) :
    Ensures before (demand condition failure >>= next) ending := by
  refine ensures_bind (ensures_demand condition failure) fun _ => ?_
  exact ensures_of_fact condition (fun _ holds => holds.2) fun known =>
    ensures_from before (rest known) fun _ holds => holds.1

theorem ensures_expect_then
    (rest : ∀ value, found = some value → Ensures before (next value) ending) :
    Ensures before (expect found failure >>= next) ending := by
  refine ensures_bind (ensures_expect found failure) fun value => ?_
  exact ensures_of_fact (found = some value) (fun _ holds => holds.2) fun known =>
    ensures_from before (rest value known) fun _ holds => holds.1

theorem ensures_found (present : found = some value) (rest : Ensures before (next value) ending) :
    Ensures before (expect found failure >>= next) ending := by
  apply ensures_expect_then
  intro other isOther
  rw [← Option.some.inj (present.symm.trans isOther)]
  exact rest

theorem ensures_call {fact : Value → Prop}
    (first : Ensures before body (fun value state => fact value ∧ middle value state))
    (rest : ∀ value, fact value → Ensures (middle value) (next value) ending) :
    Ensures before (body >>= next) ending := by
  refine ensures_bind first fun value => ?_
  exact ensures_of_fact (fact value) (fun _ holds => holds.1) fun known =>
    ensures_from (middle value) (rest value known) fun _ holds => holds.2

theorem ensures_whenever [Decidable condition] {body : Transaction State Failure Unit}
    {after : Unit → State → Prop} (taken : condition → Ensures before body after)
    (skipped : ¬ condition → ∀ state, before state → after () state) :
    Ensures before (whenever condition body) after := by
  unfold whenever
  split
  next holds => exact taken holds
  next fails => exact ensures_pure () (skipped fails)

theorem ensures_focus {view : Whole → State} {before : Whole → Prop} {after : Value → Whole → Prop}
    (holds : ∀ whole value reached, before whole → body.run (view whole) = .ok (value, reached) →
      after value (write whole reached)) : Ensures before (focus view write body) after := by
  intro whole value reached initially done
  simp only [focus, StateT.run] at done
  cases inner : body (view whole) with
  | error failure => simp [inner] at done
  | ok pair =>
    simp only [inner, Except.ok.injEq, Prod.mk.injEq] at done
    obtain ⟨rfl, rfl⟩ := done
    exact holds whole pair.1 pair.2 initially inner

variable {next : Unit → Transaction State Failure Result}

theorem ensures_read {next : State → Transaction State Failure Result}
    (rest : Ensures (fun state => state = known) (next known) ending) :
    Ensures (fun state => state = known) (inspect id >>= next) ending := by
  apply ensures_inspect_then
  intro state isKnown
  rw [isKnown]
  exact rest

theorem ensures_write (rest : Ensures (fun state => state = written known) (next ()) ending) :
    Ensures (fun state => state = known) (change written >>= next) ending := by
  refine ensures_bind (ensures_written written fun _ isKnown => isKnown) fun _ => ?_
  exact rest

theorem ensures_try {written : State → Option State}
    (rest : ∀ reached, written known = some reached →
      Ensures (fun state => state = reached) (next ()) ending) :
    Ensures (fun state => state = known) (tryChange written failure >>= next) ending := by
  have tried : Ensures (fun state => state = known) (tryChange written failure)
      (fun _ reached => written known = some reached) := by
    apply ensures_tryChange
    intro state reached isKnown isWritten
    rw [← isKnown]
    exact isWritten
  refine ensures_bind tried fun _ => ?_
  apply ensures_at
  intro reached isWritten
  exact rest reached isWritten

theorem ensures_return (value : Value) (holds : after value known) :
    Ensures (fun state => state = known) (pure value : Transaction State Failure Value)
      after := by
  apply ensures_pure
  intro state isKnown
  rw [isKnown]
  exact holds

theorem ensures_result (triple : Ensures (fun state => state = known) body fact)
    (holds : ∀ value state, fact value state → after value state) :
    Ensures (fun state => state = known) body after :=
  ensures_mono triple (fun _ isKnown => isKnown) holds

theorem ensures_ite [Decidable condition] (taken : condition → Ensures before yes after)
    (skipped : ¬ condition → Ensures before no after) :
    Ensures before (if condition then yes else no) after := by
  by_cases holds : condition
  · rw [if_pos holds]
    exact taken holds
  · rw [if_neg holds]
    exact skipped holds

/-- A call in a program: what it returns and the state it reaches are known in the
rest. -/
theorem ensures_called {next : Value → Transaction State Failure Result}
    (first : Ensures before body fact) (rest : ∀ value reached, fact value reached →
      Ensures (fun state => state = reached) (next value) ending) :
    Ensures before (body >>= next) ending := by
  refine ensures_bind first fun value => ?_
  apply ensures_at
  intro reached holds
  exact rest value reached holds

variable {invariant : State → Prop} {next : Value → Transaction State Failure Result}
variable {view : Whole → State}

theorem keeps_pure (value : Value) :
    Keeps invariant (pure value : Transaction State Failure Value) :=
  ensures_pure value fun _ initially => initially

theorem keeps_fail (failure : Failure) :
    Keeps invariant (fail failure : Transaction State Failure Value) :=
  ensures_fail failure

theorem keeps_bind (first : Keeps invariant body) (rest : ∀ value, Keeps invariant (next value)) :
    Keeps invariant (body >>= next) :=
  ensures_bind first rest

theorem keeps_demand [Decidable condition] {next : Unit → Transaction State Failure Result}
    (rest : condition → Keeps invariant (next ())) :
    Keeps invariant (demand condition failure >>= next) := by
  refine ensures_bind (ensures_demand condition failure) fun _ => ?_
  exact ensures_of_fact condition (fun _ holds => holds.2) fun known =>
    ensures_mono (rest known) (fun _ holds => holds.1) fun _ _ holds => holds

theorem keeps_expect (rest : ∀ value, found = some value → Keeps invariant (next value)) :
    Keeps invariant (expect found failure >>= next) := by
  refine ensures_bind (ensures_expect found failure) fun value => ?_
  exact ensures_of_fact (found = some value) (fun _ holds => holds.2) fun known =>
    ensures_mono (rest value known) (fun _ holds => holds.1) fun _ _ holds => holds

theorem keeps_inspect {view : State → Value}
    (rest : ∀ state, invariant state → Keeps invariant (next (view state))) :
    Keeps invariant (inspect view >>= next) :=
  ensures_inspect_then rest

theorem keeps_expect_last (found : Option Value) (failure : Failure) :
    Keeps invariant (expect found failure : Transaction State Failure Value) :=
  ensures_mono (ensures_expect found failure) (fun _ kept => kept) fun _ _ kept => kept.1

theorem keeps_demand_last (condition : Prop) [Decidable condition] (failure : Failure) :
    Keeps invariant (demand condition failure : Transaction State Failure Unit) :=
  ensures_mono (ensures_demand condition failure) (fun _ kept => kept) fun _ _ kept => kept.1

theorem keeps_inspect_last (view : State → Value) :
    Keeps invariant (inspect view : Transaction State Failure Value) :=
  ensures_mono (ensures_inspect view) (fun _ kept => kept) fun _ _ kept => kept.1

theorem keeps_change {next : State → State}
    (preserved : ∀ state, invariant state → invariant (next state)) :
    Keeps invariant (change next : Transaction State Failure Unit) :=
  ensures_change next preserved

theorem keeps_tryChange {next : State → Option State}
    (preserved : ∀ state reached, invariant state → next state = some reached → invariant reached) :
    Keeps invariant (tryChange next failure : Transaction State Failure Unit) :=
  ensures_tryChange next failure preserved

theorem keeps_tryMap {found : State → Option Found} {write : State → Found → State}
    (kept : ∀ state value, invariant state → found state = some value →
      invariant (write state value)) :
    Keeps invariant
      (tryChange (fun state => (found state).map (write state)) failure :
        Transaction State Failure Unit) :=
  ensures_tryMap kept

theorem keeps_ite [Decidable condition] (taken : condition → Keeps invariant yes)
    (skipped : ¬ condition → Keeps invariant no) :
    Keeps invariant (if condition then yes else no) := by
  by_cases holds : condition
  · rw [if_pos holds]
    exact taken holds
  · rw [if_neg holds]
    exact skipped holds

theorem keeps_whenever [Decidable condition] {body : Transaction State Failure Unit}
    (kept : condition → Keeps invariant body) : Keeps invariant (whenever condition body) :=
  keeps_ite kept fun _ => keeps_pure ()

/-- An invariant is kept by a program whose effect on each state is known. -/
theorem keeps_of_known {after : State → Value → State → Prop}
    (known : ∀ state, Ensures (fun current => current = state) body (after state))
    (preserved : ∀ state value reached, invariant state → after state value reached →
      invariant reached) : Keeps invariant body :=
  fun state value reached kept done =>
    preserved state value reached kept (known state state value reached rfl done)

theorem keeps_pair {Middle : Type} {next : Value → Transaction State Failure Middle}
    {rest : Value → Middle → Transaction State Failure Result}
    (both : Keeps invariant (body >>= next))
    (after : ∀ value middle, Keeps invariant (rest value middle)) :
    Keeps invariant (body >>= fun value => next value >>= rest value) := by
  intro state result reached initially done
  simp only [StateT.run_bind] at done
  cases first : body.run state with
  | error failure => simp [first, bind, Except.bind] at done
  | ok pair =>
    obtain ⟨value, entered⟩ := pair
    simp only [first, bind, Except.bind] at done
    cases second : (next value).run entered with
    | error failure => simp [second] at done
    | ok pair =>
      obtain ⟨middle, left⟩ := pair
      simp only [second] at done
      have ran : (body >>= next).run state = .ok (middle, left) := by
        rw [StateT.run_bind, first]
        exact second
      exact after value middle left result reached (both state middle left initially ran) done

theorem keeps_forEach {Item : Type} (items : List Item) (initial : Value)
    (turn : Value → Item → Transaction State Failure Value)
    (kept : ∀ value, ∀ item ∈ items, Keeps invariant (turn value item)) :
    Keeps invariant (forEach items initial turn) := by
  induction items generalizing initial with
  | nil => exact keeps_pure initial
  | cons item rest ih =>
    exact keeps_bind (kept initial item (by simp)) fun next =>
      ih next fun value other otherIn => kept value other (by simp [otherIn])

theorem keeps_focus_other {invariant : Whole → Prop} (body : Transaction State Failure Value)
    (unread : ∀ whole reached, invariant whole → invariant (write whole reached)) :
    Keeps invariant (focus view write body) :=
  ensures_focus fun whole _ reached initially _ => unread whole reached initially

theorem keeps_focus (kept : Keeps invariant body)
    (view_write : ∀ whole reached, view (write whole reached) = reached) :
    Keeps (fun whole => invariant (view whole)) (focus view write body) := by
  apply ensures_focus
  intro whole value reached initially done
  rw [view_write]
  exact kept (view whole) value reached initially done

theorem perform_ensures {before : State → Prop} {body : Transaction State Failure Value}
    (triple : Ensures before body (fun _ => invariant)) {state : State}
    (initially : before state) (unchanged : invariant state) :
    invariant (perform body state) := by
  unfold perform
  cases result : body.run state with
  | error failure => exact unchanged
  | ok pair => exact triple state pair.1 pair.2 initially result

theorem perform_keeps (kept : Keeps invariant body) (initially : invariant state) :
    invariant (perform body state) :=
  perform_ensures kept initially initially

theorem performThen_keeps {first : Transaction State Failure Value}
    {second : Value → Transaction State Failure Result} (firstKept : Keeps invariant first)
    (secondKept : ∀ value, Keeps invariant (second value)) (initially : invariant state) :
    invariant (performThen first second state) := by
  unfold performThen
  cases result : first.run state with
  | error failure => exact initially
  | ok pair =>
    exact perform_keeps (secondKept pair.1) (firstKept state pair.1 pair.2 initially result)

/-- The transaction does not throw from a known state, and what it returns and
reaches meet `after`. -/
def Completes (known : State) (body : Transaction State Failure Value)
    (after : Value → State → Prop) : Prop :=
  ∃ value reached, body.run known = .ok (value, reached) ∧ after value reached

theorem completes_return (value : Value) (holds : after value known) :
    Completes known (pure value : Transaction State Failure Value) after :=
  ⟨value, known, rfl, holds⟩

theorem completes_result (completes : Completes known body fact)
    (holds : ∀ value state, fact value state → after value state) : Completes known body after := by
  obtain ⟨value, reached, ran, facts⟩ := completes
  exact ⟨value, reached, ran, holds value reached facts⟩

theorem completes_called (first : Completes known body fact)
    (rest : ∀ value reached, fact value reached → Completes reached (next value) ending) :
    Completes known (body >>= next) ending := by
  obtain ⟨value, middle, ran, facts⟩ := first
  obtain ⟨result, reached, ranNext, holds⟩ := rest value middle facts
  refine ⟨result, reached, ?_, holds⟩
  rw [StateT.run_bind, ran]
  exact ranNext

theorem completes_read {next : State → Transaction State Failure Result}
    (rest : Completes known (next known) ending) :
    Completes known (inspect id >>= next) ending :=
  rest

theorem completes_inspect {view : State → Value}
    (rest : Completes known (next (view known)) ending) :
    Completes known (inspect view >>= next) ending :=
  rest

theorem completes_demand [Decidable condition] {next : Unit → Transaction State Failure Result}
    (holds : condition) (rest : Completes known (next ()) ending) :
    Completes known (demand condition failure >>= next) ending := by
  unfold demand
  rw [if_pos holds]
  exact rest

theorem completes_expect (present : found = some value)
    (rest : Completes known (next value) ending) :
    Completes known (expect found failure >>= next) ending := by
  rw [present]
  exact rest

theorem completes_expect_last (present : found = some value) (holds : after value known) :
    Completes known (expect found failure : Transaction State Failure Value) after := by
  rw [present]
  exact completes_return value holds

theorem completes_write {next : Unit → Transaction State Failure Result}
    (rest : Completes (written known) (next ()) ending) :
    Completes known (change written >>= next) ending :=
  rest

theorem completes_change {after : Unit → State → Prop} (written : State → State)
    (holds : after () (written known)) :
    Completes known (change written : Transaction State Failure Unit) after :=
  ⟨(), written known, rfl, holds⟩

theorem completes_tryChange {after : Unit → State → Prop} {written : State → Option State}
    {reached : State} (done : written known = some reached) (holds : after () reached) :
    Completes known (tryChange written failure : Transaction State Failure Unit) after := by
  refine ⟨(), reached, ?_, holds⟩
  simp only [tryChange, StateT.run, done]

theorem completes_whenever [Decidable condition] {body : Transaction State Failure Unit}
    {after : Unit → State → Prop} (taken : condition → Completes known body after)
    (skipped : ¬ condition → after () known) : Completes known (whenever condition body) after := by
  unfold whenever
  split
  next holds => exact taken holds
  next fails => exact completes_return () (skipped fails)

theorem completes_focus {view : Whole → State} {whole : Whole} {after : Value → Whole → Prop}
    (completes : Completes (view whole) body fact)
    (holds : ∀ value reached, fact value reached → after value (write whole reached)) :
    Completes whole (focus view write body) after := by
  obtain ⟨value, reached, ran, facts⟩ := completes
  refine ⟨value, write whole reached, ?_, holds value reached facts⟩
  change focus view write body whole = _
  unfold focus
  rw [ran]

theorem completes_and (completes : Completes known body fact)
    (triple : Ensures (fun state => state = known) body after) :
    Completes known body (fun value state => fact value state ∧ after value state) := by
  obtain ⟨value, reached, ran, facts⟩ := completes
  exact ⟨value, reached, ran, facts, triple known value reached rfl ran⟩

theorem ensures_of_completes (completes : Completes known body fact) :
    Ensures (fun state => state = known) body fact := by
  obtain ⟨value, reached, ran, facts⟩ := completes
  intro state other otherReached isKnown done
  rw [isKnown, ran] at done
  cases done
  exact facts

def Throws (known : State) (body : Transaction State Failure Value) (failure : Failure) : Prop :=
  body.run known = .error failure

theorem throws_called (first : Completes known body fact)
    (rest : ∀ value reached, fact value reached → Throws reached (next value) failure) :
    Throws known (body >>= next) failure := by
  obtain ⟨value, reached, ran, facts⟩ := first
  unfold Throws
  rw [StateT.run_bind, ran]
  exact rest value reached facts

theorem throws_demand [Decidable condition] (broken : ¬ condition) :
    Throws known (demand condition failure) failure := by
  unfold Throws demand
  rw [if_neg broken]
  rfl

theorem throws_of_ensures
    (impossible : Ensures (fun known => known = state) body (fun _ _ => False)) :
    ∃ failure, body.run state = .error failure := by
  cases ran : body.run state with
  | error failure => exact ⟨failure, rfl⟩
  | ok pair => exact (impossible state pair.1 pair.2 rfl ran).elim

theorem run_demand_then [Decidable condition] {next : Unit → Transaction State Failure Result}
    (holds : condition) : (demand condition failure >>= next).run state = (next ()).run state := by
  unfold demand
  rw [if_pos holds]
  rfl

theorem run_expect_then (present : found = some value) :
    (expect found failure >>= next).run state = (next value).run state := by
  rw [present]
  rfl

theorem run_inspect_then {view : State → Value} :
    (inspect view >>= next).run state = (next (view state)).run state := rfl

/-- A sequence of transactions that commit one after the other: a throw ends the
sequence and keeps what the committed ones wrote. -/
abbrev Procedure (State Failure Value : Type) := ExceptT Failure (StateM State) Value

def commit (body : Transaction State Failure Value) : Procedure State Failure Value :=
  ExceptT.mk (fun state =>
    match body.run state with
    | .ok (value, reached) => (.ok value, reached)
    | .error failure => (.error failure, state))

/-- A handler for the throw of a procedure: it goes on from what was committed. -/
def rescue (body : Procedure State Failure Value)
    (handler : Failure → Procedure State Failure Value) : Procedure State Failure Value :=
  ExceptT.mk (fun state =>
    match body.run.run state with
    | (.ok value, reached) => (.ok value, reached)
    | (.error failure, reached) => (handler failure).run.run reached)

/-- The state a procedure leaves, whether it threw or not. -/
def conclude (body : Procedure State Failure Value) (state : State) : State :=
  (body.run.run state).2

/-- How a procedure ends from a known state: with a value, or by a throw that keeps
what was committed before it. -/
def Ends (known : State) (body : Procedure State Failure Value)
    (returned : Value → State → Prop) (threw : State → Prop) : Prop :=
  match body.run.run known with
  | (.ok value, reached) => returned value reached
  | (.error _, reached) => threw reached

variable {returned : Value → State → Prop} {threw spilled : State → Prop}
variable {next : Value → Procedure State Failure Result}

theorem ends_conclude {body : Procedure State Failure Value} {holds : State → Prop}
    (ends : Ends known body (fun _ => holds) holds) : holds (conclude body known) := by
  unfold Ends at ends
  unfold conclude
  cases ran : body.run.run known with
  | mk result reached =>
    rw [ran] at ends
    cases result with
    | error failure => exact ends
    | ok value => exact ends

theorem ends_mono {body : Procedure State Failure Value} {weaker : Value → State → Prop}
    (ends : Ends known body weaker spilled)
    (onReturn : ∀ value state, weaker value state → returned value state)
    (onThrow : ∀ state, spilled state → threw state) : Ends known body returned threw := by
  unfold Ends at ends ⊢
  cases ran : body.run.run known with
  | mk result reached =>
    rw [ran] at ends
    cases result with
    | error failure => exact onThrow reached ends
    | ok value => exact onReturn value reached ends

theorem ends_pure (value : Value) (holds : returned value known) :
    Ends known (pure value : Procedure State Failure Value) returned threw :=
  holds

theorem ends_always {body : Procedure State Failure Value}
    (onReturn : ∀ value state, returned value state) (onThrow : ∀ state, threw state) :
    Ends known body returned threw := by
  unfold Ends
  cases body.run.run known with
  | mk result reached =>
    cases result with
    | error failure => exact onThrow reached
    | ok value => exact onReturn value reached

theorem run_bind (body : Procedure State Failure Value)
    (next : Value → Procedure State Failure Result) (state : State) :
    (body >>= next).run.run state =
      match body.run.run state with
      | (.ok value, reached) => (next value).run.run reached
      | (.error failure, reached) => (.error failure, reached) := by
  have sequence : (body >>= next).run.run state =
      (do let p ← body.run.run state; (ExceptT.bindCont next p.1).run p.2 : Id _) := by
    change ((body.run >>= ExceptT.bindCont next).run state) = _
    rw [StateT.run_bind]
  rw [sequence]
  cases ran : body.run.run state with
  | mk result reached =>
    cases result with
    | error failure => rfl
    | ok value => rfl

theorem ends_bind {body : Procedure State Failure Value} (first : Ends known body middle threw)
    (rest : ∀ value reached, middle value reached → Ends reached (next value) ending threw) :
    Ends known (body >>= next) ending threw := by
  unfold Ends at first ⊢
  rw [run_bind]
  cases ran : body.run.run known with
  | mk result reached =>
    rw [ran] at first
    cases result with
    | error failure => exact first
    | ok value => exact rest value reached first

theorem run_commit (body : Transaction State Failure Value) (state : State) :
    (commit body).run.run state =
      match body.run state with
      | .ok (value, reached) => (.ok value, reached)
      | .error failure => (.error failure, state) := rfl

/-- A transaction that threw leaves its state, one that committed what its triple
says. -/
theorem ends_commit (triple : Ensures (fun state => state = known) body returned)
    (unchanged : threw known) : Ends known (commit body) returned threw := by
  unfold Ends
  rw [run_commit]
  cases ran : body.run known with
  | error failure => exact unchanged
  | ok pair => exact triple known pair.1 pair.2 rfl ran

theorem ends_completed (completes : Completes known body returned) :
    Ends known (commit body) returned threw := by
  obtain ⟨value, reached, ran, holds⟩ := completes
  unfold Ends
  rw [run_commit, ran]
  exact holds

theorem run_of_completes {outcome : Except Failure Result × State}
    (completes : Completes known body fact)
    (rest : ∀ value reached, fact value reached → (next value).run.run reached = outcome) :
    (commit body >>= next).run.run known = outcome := by
  obtain ⟨value, reached, ran, facts⟩ := completes
  rw [run_bind, run_commit, ran]
  exact rest value reached facts

theorem run_of_throws (throws : Throws known body failure) :
    (commit body >>= next).run.run known = (.error failure, known) := by
  rw [run_bind, run_commit, throws]

theorem ends_rescue {body : Procedure State Failure Value}
    {handler : Failure → Procedure State Failure Value} (first : Ends known body returned spilled)
    (rest : ∀ failure reached, spilled reached → Ends reached (handler failure) returned threw) :
    Ends known (rescue body handler) returned threw := by
  have ran : (rescue body handler).run.run known =
      match body.run.run known with
      | (.ok value, reached) => (.ok value, reached)
      | (.error failure, reached) => (handler failure).run.run reached := rfl
  unfold Ends at first ⊢
  rw [ran]
  cases inner : body.run.run known with
  | mk result reached =>
    rw [inner] at first
    cases result with
    | error failure => exact rest failure reached first
    | ok value => exact first

theorem ends_ite [Decidable condition] {yes no : Procedure State Failure Value}
    (taken : condition → Ends known yes returned threw)
    (skipped : ¬ condition → Ends known no returned threw) :
    Ends known (if condition then yes else no) returned threw := by
  by_cases holds : condition
  · rw [if_pos holds]
    exact taken holds
  · rw [if_neg holds]
    exact skipped holds

end OpenRill.Lib.Transaction
