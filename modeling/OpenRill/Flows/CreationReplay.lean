import OpenRill.Flows.Registry

/-!
# A creation asked for again

The input of a managed flow survives only as a hash in the first event of the flow, which
`createManaged` looks for among the latest two hundred. As long as the flow has no more
events than that, its creation can be asked for again.
-/

namespace OpenRill.Flows.CreationReplay

open Lib Lib.Checked Lib.NumberedLog Registry
open Goals.TaskFlows (Binding)

variable {options : FlowOptions} {binding : Binding} {requestKey : String}
variable {input : FlowInput} {flow : FlowRow} {store reached : FlowStore}
variable {flowId key : String} {change : Change} {event : EventRow}

def reach (options : FlowOptions) (ops : List FlowOp) : FlowStore :=
  Runs.run (step options) FlowStore.empty ops

def replayConflict : Goals.Ledger.GoalFailure :=
  .service .flowRequestConflict "task flow request key replayed with different input"

def OwnedBy (binding : Binding) (flow : FlowRow) : Prop :=
  flow.workspaceId = binding.owner.workspaceId ∧
    flow.ownerKey = binding.owner.conversationId ∧ flow.controllerId = binding.controllerId

/-- The flow was created on the request of an input with this hash, and its events are
numbered from that creation on. -/
structure Begun (binding : Binding) (fingerprint flowId : String) (store : FlowStore) : Prop where
  row : ∃ flow, store.flows.find flowId = some flow ∧ OwnedBy binding flow
  events : ∃ created rest, store.eventsOf flowId = created :: rest ∧
    created.eventType.isCreated = true ∧
    created.payload.textMember "inputHash" = some fingerprint ∧
    ∀ event ∈ rest, event.eventType.isCreated = false
  numbered : (store.eventsOf flowId).map EventRow.sequence =
    List.range' 1 (store.eventsOf flowId).length

def Known (store : FlowStore) : Prop :=
  ∀ event ∈ store.events, (store.flows.find event.flowId).isSome

/-- What a write does: it enters one event, which creates its flow or is the next one of a
flow that is there, and leaves every flow to its owner. -/
structure Entered (before after : FlowStore) (event : EventRow) : Prop where
  events : after.events = before.events ++ [event]
  rows : ∀ flowId flow, before.flows.find flowId = some flow →
    ∃ later, after.flows.find flowId = some later ∧
      ∀ binding, OwnedBy binding flow → OwnedBy binding later
  own : (after.flows.find event.flowId).isSome
  next : before.flows.find event.flowId = none ∨
    event.sequence = before.nextEventSequence event.flowId ∧ event.eventType.isCreated = false

section Events

variable {fingerprint : String}

theorem apply_enters (applied : store.apply change = .ok reached) :
    reached = store ∨ ∃ event, Entered store reached event := by
  cases change with
  | nothing => exact .inl ((pure_ok_iff _ _).mp applied).symm
  | create flow payload =>
    simp only [FlowStore.apply, bind_ok_iff, require_ok_iff, fetch_ok_iff, pure_ok_iff] at applied
    obtain ⟨_, -, flows, inserted, rfl⟩ := applied
    have stored := (store.flows.find_insert flows flow flow.flowId inserted).trans (if_pos rfl)
    refine .inr ⟨_, rfl, fun flowId old found => ?_, Option.isSome_of_eq_some stored, .inl ?_⟩
    · exact ⟨old, store.flows.kept_insert flows flow inserted found, fun _ owned => owned⟩
    · exact (store.flows.find_none_iff _).mpr ((store.flows.insert_some_iff _ _).mp inserted).1
  | update changedId fields link event payload =>
    simp only [FlowStore.apply, bind_ok_iff, require_ok_iff, fetch_ok_iff, pure_ok_iff] at applied
    obtain ⟨flow, isFlow, _, -, links, -, rfl⟩ := applied
    rw [← store.flows.key_of_find isFlow] at isFlow
    have stored := store.flows.find_update
      { flow with toFlowFields := fields, revision := flow.revision + 1 } isFlow flow.flowId
    refine .inr ⟨_, rfl, fun flowId old found => ?_,
      Option.isSome_of_eq_some (stored.trans (if_pos rfl)), .inr ⟨rfl, rfl⟩⟩
    exact store.flows.related_update
      { flow with toFlowFields := fields, revision := flow.revision + 1 } isFlow
      (fun later old => ∀ binding, OwnedBy binding old → OwnedBy binding later)
      (fun _ _ owned => owned) (fun _ owned => owned) found
  | record changedId event payload now =>
    simp only [FlowStore.apply, bind_ok_iff, fetch_ok_iff, pure_ok_iff] at applied
    obtain ⟨flow, isFlow, rfl⟩ := applied
    rw [← store.flows.key_of_find isFlow] at isFlow
    exact .inr ⟨_, rfl, fun _ old found => ⟨old, found, fun _ owned => owned⟩,
      Option.isSome_of_eq_some isFlow, .inr ⟨rfl, rfl⟩⟩

theorem largest_of_numbered (first length : Nat) :
    (List.range' (first + 1) length).foldr max 0 = if length = 0 then 0 else first + length := by
  induction length generalizing first with
  | zero => rfl
  | succ length inductionHypothesis =>
    rw [List.range'_succ, List.foldr_cons, inductionHypothesis (first + 1)]
    split <;> simp <;> omega

theorem eventsOf_entered {event : EventRow} (entered : Entered store reached event) :
    reached.eventsOf flowId =
      store.eventsOf flowId ++ if event.flowId = flowId then [event] else [] := by
  unfold FlowStore.eventsOf entriesOf
  rw [entered.events, List.filter_append]
  split <;> simp [*]

theorem known_entered (entered : Entered store reached event) (known : Known store) :
    Known reached := by
  intro other otherIn
  rw [entered.events] at otherIn
  rcases List.mem_append.mp otherIn with old | new
  · obtain ⟨flow, found⟩ := Option.isSome_iff_exists.mp (known other old)
    obtain ⟨later, foundLater, -⟩ := entered.rows _ flow found
    exact Option.isSome_of_eq_some foundLater
  · rw [List.mem_singleton.mp new]
    exact entered.own

theorem begun_entered (entered : Entered store reached event)
    (begun : Begun binding fingerprint flowId store) :
    Begun binding fingerprint flowId reached := by
  obtain ⟨flow, found, owned⟩ := begun.row
  obtain ⟨later, foundLater, stillOwned⟩ := entered.rows flowId flow found
  obtain ⟨created, rest, isEvents, isCreated, hash, noneLater⟩ := begun.events
  have row : ∃ flow, reached.flows.find flowId = some flow ∧ OwnedBy binding flow :=
    ⟨later, foundLater, stillOwned binding owned⟩
  have events := @eventsOf_entered _ _ flowId _ entered
  by_cases own : event.flowId = flowId
  · obtain ⟨isNext, isLater⟩ := entered.next.resolve_left (by simp [own, found])
    have number : event.sequence = 1 + (store.eventsOf flowId).length := by
      rw [isNext, own, FlowStore.nextEventSequence, begun.numbered, largest_of_numbered 0,
        if_neg (by simp [isEvents])]
      omega
    rw [if_pos own] at events
    refine ⟨row, ⟨created, rest ++ [event], by rw [events, isEvents]; rfl, isCreated, hash, ?_⟩, ?_⟩
    · intro other otherIn
      rcases List.mem_append.mp otherIn with old | new
      · exact noneLater other old
      · rw [List.mem_singleton.mp new]
        exact isLater
    · rw [events, List.map_append, begun.numbered, List.length_append, List.length_singleton,
        List.range'_1_concat, ← number]
      rfl
  · rw [if_neg own, List.append_nil] at events
    refine ⟨row, ⟨created, rest, events.trans isEvents, isCreated, hash, noneLater⟩, ?_⟩
    rw [events]
    exact begun.numbered

end Events

section Runs

variable {fingerprint : String}

theorem step_keeps {property : FlowStore → Prop} (op : FlowOp)
    (kept : ∀ reached event, Entered store reached event → property reached)
    (holds : property store) : property (step options store op) := by
  unfold step settle
  split
  next reached done =>
    obtain ⟨change, -, applied⟩ := (bind_ok_iff _ _ _).mp done
    rcases apply_enters applied with rfl | ⟨event, entered⟩
    · exact holds
    · exact kept reached event entered
  next => exact holds

theorem run_begun (ops : List FlowOp) (begun : Begun binding fingerprint flowId store) :
    Begun binding fingerprint flowId (Runs.run (step options) store ops) :=
  Runs.run_invariant (step options) (Begun binding fingerprint flowId)
    (fun _ op begun => step_keeps op (fun _ _ entered => begun_entered entered begun) begun)
    store ops begun

theorem reach_known (ops : List FlowOp) : Known (reach options ops) := by
  refine Runs.run_invariant (step options) Known ?_ FlowStore.empty ops fun _ eventIn => ?_
  · intro store op known
    exact step_keeps op (fun _ _ entered => known_entered entered known) known
  · cases eventIn

theorem apply_records (known : Known store) (applied : store.apply change = .ok reached) :
    reached.events = store.events ∨ ∃ event, reached.events = store.events ++ [event] ∧
      event.sequence = store.nextEventSequence event.flowId := by
  cases change with
  | nothing => exact .inl (congrArg _ ((pure_ok_iff _ _).mp applied).symm)
  | create flow payload =>
    simp only [FlowStore.apply, bind_ok_iff, require_ok_iff, fetch_ok_iff, pure_ok_iff] at applied
    obtain ⟨_, -, flows, inserted, rfl⟩ := applied
    have absent : store.flows.find flow.flowId = none :=
      (store.flows.find_none_iff _).mpr ((store.flows.insert_some_iff _ _).mp inserted).1
    have unused : store.eventsOf flow.flowId = [] := by
      refine List.filter_eq_nil_iff.mpr fun event eventIn own => ?_
      have present := known event eventIn
      rw [of_decide_eq_true own, absent] at present
      cases present
    refine .inr ⟨_, rfl, ?_⟩
    rw [FlowStore.nextEventSequence, unused]
    rfl
  | update changedId fields link event payload =>
    simp only [FlowStore.apply, bind_ok_iff, require_ok_iff, fetch_ok_iff, pure_ok_iff] at applied
    obtain ⟨flow, -, _, -, links, -, rfl⟩ := applied
    exact .inr ⟨_, rfl, rfl⟩
  | record changedId event payload now =>
    simp only [FlowStore.apply, bind_ok_iff, fetch_ok_iff, pure_ok_iff] at applied
    obtain ⟨flow, -, rfl⟩ := applied
    exact .inr ⟨_, rfl, rfl⟩

def Numbered (store : FlowStore) : Prop :=
  ∀ flowId, (store.eventsOf flowId).map EventRow.sequence =
    List.range' 1 (store.eventsOf flowId).length

/-- The events of every flow are numbered without a gap, whatever was refused between. -/
theorem flow_events_numbered (ops : List FlowOp) : Numbered (reach options ops) := by
  refine (Runs.run_invariant (step options) (fun store => Known store ∧ Numbered store) ?_
    FlowStore.empty ops ⟨nofun, fun _ => rfl⟩).2
  rintro store op ⟨known, numbered⟩
  refine ⟨step_keeps op (fun _ _ entered => known_entered entered known) known, fun flowId => ?_⟩
  unfold step settle
  split
  next reached done =>
    obtain ⟨change, -, applied⟩ := (bind_ok_iff _ _ _).mp done
    have before := numbered flowId
    rcases apply_records known applied with same | ⟨event, grown, next⟩
    · rw [FlowStore.eventsOf, same]
      exact before
    · unfold FlowStore.nextEventSequence FlowStore.eventsOf entriesOf at *
      rw [grown, List.filter_append]
      by_cases own : event.flowId = flowId
      · rw [own, before, largest_of_numbered 0] at next
        generalize store.events.filter (fun entry => decide (entry.flowId = flowId)) = earlier at *
        have position : event.sequence = 1 + earlier.length := by
          rw [next]
          split <;> omega
        simp [own, before, position, List.range'_1_concat]
      · simp [own, before]
  next => exact numbered flowId

theorem begun_created {payload : Json} (known : Known store)
    (absent : store.flows.find flow.flowId = none) (owned : OwnedBy binding flow)
    (hash : payload.textMember "inputHash" = some fingerprint)
    (applied : store.apply (.create flow payload) = .ok reached) :
    Begun binding fingerprint flow.flowId reached := by
  simp only [FlowStore.apply, bind_ok_iff, require_ok_iff, fetch_ok_iff, pure_ok_iff] at applied
  obtain ⟨_, -, flows, inserted, rfl⟩ := applied
  have unused : store.eventsOf flow.flowId = [] := by
    refine List.filter_eq_nil_iff.mpr fun event eventIn same => ?_
    have there := known event eventIn
    rw [of_decide_eq_true same, absent] at there
    cases there
  have events : ∀ event : EventRow, event.flowId = flow.flowId →
      entriesOf EventRow.flowId (store.events ++ [event]) flow.flowId = [event] := by
    intro event own
    unfold FlowStore.eventsOf entriesOf at unused
    rw [entriesOf, List.filter_append, unused]
    simp [own]
  refine ⟨⟨flow, (store.flows.find_insert _ _ _ inserted).trans (if_pos rfl), owned⟩,
    ⟨_, [], events _ rfl, rfl, hash, fun _ laterIn => ?_⟩, ?_⟩
  · cases laterIn
  · unfold FlowStore.eventsOf
    rw [events _ rfl]
    rfl

end Runs

variable {request : FlowInput} {now : Nat}

theorem created_begins (known : Known store)
    (made : createManaged options binding requestKey input now store =
      .ok (flow, false, change)) (written : store.apply change = .ok reached) :
    ∃ key request, bounded requestKey "requestKey" 128 = .ok key ∧
      normalized input = .ok request ∧ requireOwner options binding.owner = .ok () ∧
      flow.flowId = deterministicFlowId options binding key ∧
      Begun binding (digest options request.document) flow.flowId reached := by
  obtain ⟨key, isKey, made⟩ := (bind_ok_iff _ _ _).mp made
  obtain ⟨request, isRequest, made⟩ := (bind_ok_iff _ _ _).mp made
  obtain ⟨_, isOwner, made⟩ := (bind_ok_iff _ _ _).mp made
  refine ⟨key, request, isKey, isRequest, isOwner, ?_⟩
  split at made
  next =>
    simp only [bind_ok_iff, pure_ok_iff, Prod.mk.injEq] at made
    obtain ⟨_, -, -, isNew, -⟩ := made
    cases isNew
  next absent =>
    obtain ⟨isFlow, both⟩ := Prod.mk.inj ((pure_ok_iff _ _).mp made)
    rw [← (Prod.mk.inj both).2] at written
    rw [← isFlow]
    exact ⟨rfl, begun_created known absent ⟨rfl, rfl, rfl⟩ rfl written⟩

variable {fingerprint : String}

theorem listEvents_of_begun (begun : Begun binding fingerprint flowId store) (limit : Nat) :
    store.listEvents flowId limit =
      (store.eventsOf flowId).drop ((store.eventsOf flowId).length - limit) := by
  have ascending : (store.eventsOf flowId).Pairwise
      (fun first second => first.sequence ≤ second.sequence) := by
    rw [← List.pairwise_map, begun.numbered]
    exact List.pairwise_le_range'
  unfold FlowStore.listEvents
  rw [orderBy_of_ascending _ ascending, List.take_reverse, List.reverse_reverse]

theorem creation_listed_iff (begun : Begun binding fingerprint flowId store) (wanted : String) :
    ((store.listEvents flowId 200).find? (fun event => event.eventType.isCreated)).bind
        (fun event => event.payload.textMember "inputHash") = some wanted ↔
      (store.eventsOf flowId).length ≤ 200 ∧ fingerprint = wanted := by
  obtain ⟨created, rest, isEvents, isCreated, hash, later⟩ := begun.events
  rw [listEvents_of_begun begun, isEvents]
  by_cases short : (created :: rest).length ≤ 200
  · have found : (created :: rest).find? (fun event => event.eventType.isCreated) =
        some created := List.find?_cons_of_pos isCreated
    rw [Nat.sub_eq_zero_of_le short, List.drop_zero, found, Option.bind_some, hash,
      Option.some.injEq, and_iff_right short]
  · have lost : (created :: rest).length - 200 = rest.length - 200 + 1 := by
      rw [List.length_cons] at short ⊢
      omega
    have noCreation : (rest.drop (rest.length - 200)).find?
        (fun event => event.eventType.isCreated) = none := by
      rw [List.find?_eq_none]
      intro event eventIn
      simp [later event (List.mem_of_mem_drop eventIn)]
    rw [lost, List.drop_succ_cons, noCreation]
    constructor
    · intro isSome
      cases isSome
    · rintro ⟨isShort, -⟩
      exact (short isShort).elim

theorem createManaged_of_begun {row : FlowRow}
    (isKey : bounded requestKey "requestKey" 128 = .ok key)
    (isRequest : normalized input = .ok request)
    (isOwner : requireOwner options binding.owner = .ok ())
    (found : store.flows.find (deterministicFlowId options binding key) = some row)
    (begun : Begun binding fingerprint (deterministicFlowId options binding key) store) :
    createManaged options binding requestKey input now store =
      if (store.eventsOf (deterministicFlowId options binding key)).length ≤ 200 ∧
          fingerprint = digest options request.document then .ok (row, true, .nothing)
      else .error replayConflict := by
  obtain ⟨own, isOwn, workspace, owner, controller⟩ := begun.row
  have same : row = own := Option.some.inj (found.symm.trans isOwn)
  unfold createManaged
  rw [isKey, isRequest, isOwner]
  simp only [bind, Except.bind]
  rw [found]
  simp only [same, workspace, owner, controller, creation_listed_iff begun, true_and, require]
  by_cases answers : (store.eventsOf (deterministicFlowId options binding key)).length ≤ 200 ∧
      fingerprint = digest options request.document
  · rw [if_pos answers, if_pos answers]
    rfl
  · rw [if_neg answers, if_neg answers]
    rfl

variable {first second : FlowInput}

structure SameInput (first second : FlowInput) : Prop where
  goal : first.goal = second.goal
  currentStep : first.currentStep = second.currentStep
  state : first.state.sorted = second.state.sorted
  status : first.status = second.status

theorem member_of_sorted (same : first.document.sorted = second.document.sorted)
    (member : String × Json) (memberIn : member ∈ Json.sortedMembers [("goal", .text first.goal),
      ("currentStep", optionalJson first.currentStep), ("state", first.state),
      ("status", .text (Goals.Ledger.flowText first.status))]) :
    member ∈ Json.sortedMembers [("goal", .text second.goal),
      ("currentStep", optionalJson second.currentStep), ("state", second.state),
      ("status", .text (Goals.Ledger.flowText second.status))] := by
  have members := Json.object.inj same
  unfold sortMembers at members
  rw [← List.mem_insertionSort keyBefore] at memberIn ⊢
  rw [← members]
  exact memberIn

theorem sameInput_of_sorted (same : first.document.sorted = second.document.sorted) :
    SameInput first second := by
  have members := member_of_sorted same
  simp only [sortedMembers_map, List.map_cons, List.map_nil, List.mem_cons, List.not_mem_nil,
    or_false, Json.sorted] at members
  have goal := members _ (.inl rfl)
  have currentStep := members _ (.inr (.inl rfl))
  have state := members _ (.inr (.inr (.inl rfl)))
  have status := members _ (.inr (.inr (.inr rfl)))
  simp at goal currentStep state status
  refine ⟨goal, ?_, state, ?_⟩
  · cases isFirst : first.currentStep <;> cases isSecond : second.currentStep <;>
      simp [isFirst, isSecond, optionalJson, Json.sorted] at currentStep ⊢
    exact currentStep
  · unfold FlowInput.status at status ⊢
    cases isFirst : first.running <;> cases isSecond : second.running <;>
      simp [isFirst, isSecond, Goals.Ledger.flowText] at status ⊢

/-- The flow's creation can be asked for again: the same input is answered with the flow
and writes nothing, and another one is a conflict. -/
structure Idempotent (options : FlowOptions) (binding : Binding) (requestKey : String)
    (input : FlowInput) (flowId : String) (store : FlowStore) : Prop where
  replays : ∃ row, store.flows.find flowId = some row ∧
    ∀ now, createManaged options binding requestKey input now store = .ok (row, true, .nothing)
  conflicts : ∀ other request given now, normalized input = .ok request →
    normalized other = .ok given → ¬ SameInput request given →
    createManaged options binding requestKey other now store = .error replayConflict

/-- A created flow answers for its creation, through every later history, exactly as long as
it has at most two hundred events. -/
theorem creation_replays_iff (injective : Function.Injective options.sha256)
    (earlier later : List FlowOp) {now : Nat}
    (made : createManaged options binding requestKey input now (reach options earlier) =
      .ok (flow, false, change))
    (written : (reach options earlier).apply change = .ok reached) :
    Idempotent options binding requestKey input flow.flowId
        (Runs.run (step options) reached later) ↔
      ((Runs.run (step options) reached later).eventsOf flow.flowId).length ≤ 200 := by
  obtain ⟨key, request, isKey, isRequest, isOwner, isFlowId, begun⟩ :=
    created_begins (reach_known earlier) made written
  rw [isFlowId] at begun ⊢
  have begunLater := @run_begun options _ _ _ _ later begun
  obtain ⟨row, found, -⟩ := begunLater.row
  have answer := fun now => @createManaged_of_begun options binding requestKey input _ key request
    now _ row isKey isRequest isOwner found begunLater
  constructor
  · rintro ⟨⟨other, -, replayed⟩, -⟩
    by_contra long
    have refused := answer 0
    rw [replayed 0, if_neg fun both => long both.1] at refused
    cases refused
  · intro short
    refine ⟨⟨row, found, fun now => ?_⟩, ?_⟩
    · rw [answer now, if_pos ⟨short, rfl⟩]
    intro other request' given now isRequest' isGiven different
    rw [isRequest, Except.ok.injEq] at isRequest'
    rw [createManaged_of_begun isKey isGiven isOwner found begunLater, if_neg]
    rintro ⟨-, sameHash⟩
    apply different
    rw [← isRequest']
    exact sameInput_of_sorted ((same_text_iff _ _).mp (injective sameHash))

theorem sample_created : ∃ flow change,
    createManaged sampleOptions sampleBinding "k1" sampleInput 1 (reach sampleOptions []) =
      .ok (flow, false, change) ∧
    (reach sampleOptions []).apply change = .ok sampleStore := by
  have accepted : (createManaged sampleOptions sampleBinding "k1" sampleInput 1
      FlowStore.empty).toOption.any (fun made =>
        !made.2.1 && (FlowStore.empty.apply made.2.2).toOption.isSome) = true := by
    decide +kernel
  cases made : createManaged sampleOptions sampleBinding "k1" sampleInput 1 FlowStore.empty with
  | error failure =>
    rw [made] at accepted
    cases accepted
  | ok result =>
    obtain ⟨flow, replayed, change⟩ := result
    rw [made] at accepted
    obtain ⟨fresh, accepted⟩ := (Bool.and_eq_true _ _).mp accepted
    cases replayed with
    | true => cases fresh
    | false =>
      refine ⟨flow, change, made, ?_⟩
      have ran : sampleStore = settle FlowStore.empty (.ok change) :=
        congrArg (settle FlowStore.empty)
          (congrArg (Except.map fun made : FlowRow × Bool × Change => made.2.2) made)
      rw [ran]
      unfold settle
      cases applied : FlowStore.empty.apply change with
      | error failure =>
        rw [applied] at accepted
        cases accepted
      | ok reached => exact applied.trans (by rw [Except.bind, applied])

theorem fresh_flow_replays : ∃ flow change,
    createManaged sampleOptions sampleBinding "k1" sampleInput 1 (reach sampleOptions []) =
      .ok (flow, false, change) ∧
    Idempotent sampleOptions sampleBinding "k1" sampleInput flow.flowId sampleStore := by
  obtain ⟨flow, change, made, written⟩ := sample_created
  have injective : Function.Injective sampleOptions.sha256 :=
    fun _ _ same => tokensText_injective (String.ofList_injective same)
  have short : sampleStore.events.length ≤ 200 := by decide +kernel
  exact ⟨flow, change, made, (creation_replays_iff injective [] [] made written).mpr
    ((List.length_filter_le _ _).trans short)⟩

theorem length_after_records {flowId : String} (found : store.flows.find flowId = some flow)
    (count : Nat) : ((Runs.run (step options) store (List.replicate count
      (.other (.record flowId .wakeDelivered .null 2)))).eventsOf flowId).length =
        (store.eventsOf flowId).length + count := by
  induction count generalizing store with
  | zero => rfl
  | succ count inductionHypothesis =>
    have recorded : step options store (.other (.record flowId .wakeDelivered .null 2)) =
        { store with events := store.events ++ [store.nextEvent flow .wakeDelivered .null 2] } := by
      unfold step settle FlowOp.change
      simp [FlowStore.apply, found, fetch, bind, Except.bind, pure, Except.pure]
    have own : (store.nextEvent flow .wakeDelivered .null 2).flowId = flowId :=
      store.flows.key_of_find found
    rw [List.replicate_succ, Runs.run_cons, recorded]
    refine (@inductionHypothesis { store with
      events := store.events ++ [store.nextEvent flow .wakeDelivered .null 2] } found).trans ?_
    unfold FlowStore.eventsOf entriesOf
    simp [own]
    omega

/-- A flow with two hundred wakes after its creation no longer answers for it. -/
theorem busy_flow_conflicts : ∃ history : List FlowOp,
    createManaged sampleOptions sampleBinding "k1" sampleInput 3
      (Runs.run (step sampleOptions) sampleStore history) = .error replayConflict := by
  obtain ⟨flow, change, made, written⟩ := sample_created
  obtain ⟨key, request, isKey, isRequest, isOwner, isFlowId, begun⟩ :=
    created_begins (reach_known []) made written
  obtain ⟨own, found, -⟩ := begun.row
  obtain ⟨created, rest, isEvents, -⟩ := begun.events
  have long := @length_after_records sampleOptions _ _ _ found 200
  have begunLater := @run_begun sampleOptions _ _ _ _
    (List.replicate 200 (.other (.record flow.flowId .wakeDelivered .null 2))) begun
  obtain ⟨row, foundLater, -⟩ := begunLater.row
  rw [isFlowId] at begunLater foundLater long
  refine ⟨_, (createManaged_of_begun isKey isRequest isOwner foundLater begunLater).trans ?_⟩
  rw [long, ← isFlowId, isEvents, List.length_cons, if_neg]
  omega

end OpenRill.Flows.CreationReplay
