import OpenRill.Provider.CallGroups

/-!
# The adapter's loop over groups

The accumulators of the adapter mirror the groups of the events that it has read: one step of
the loop is one step of the groups, and at the end of the response every group is emitted.
-/

namespace OpenRill.Provider.CallStream

open OpenRill.Lib OpenRill.Lib.Checked
open OpenRill.Provider.ToolNames OpenRill.Provider.ToolCalls OpenRill.Provider.CallGroups

variable {place : Nat} {aliases : ToolNameAliases} {names : List String}
variable {state : ToolAccumulatorState} {carried : Bool} {response : Response names}
variable {group : List Sending} {call : Call}

/-- The accumulator that an event of a group finds. -/
def base (before : List Sending) (sending : Sending) : ToolAccumulator :=
  if before = [] then opened sending else summary before

theorem summary_after (before : List Sending) (sending : Sending) :
    summary (before ++ [sending]) = absorb (base before sending) sending := by
  unfold base
  split_ifs with none
  · rw [none]
    rfl
  · exact summary_append none sending

theorem base_emitted (before : List Sending) (sending : Sending) :
    (base before sending).emitted = (summary before).emitted := by
  unfold base
  split_ifs with none
  · rw [none]
    rfl
  · rfl

theorem summary_identity (filled : group ≠ []) (one_call : ∀ sending ∈ group, sending.call = call) :
    (summary group).toolCallId ∈ call.identities := by
  induction group using List.reverseRecOn with
  | nil => exact absurd rfl filled
  | append_singleton before sending ih =>
    have isCall := one_call sending (List.mem_append_right _ List.mem_cons_self)
    rw [summary_after, absorb]
    dsimp only
    split_ifs with withCall
    · rw [isCall]
      exact List.mem_cons_self
    · unfold base
      split_ifs with none
      · rw [opened, if_neg withCall, isCall]
        exact List.mem_cons_of_mem _ List.mem_cons_self
      · exact ih none fun other mem => one_call other (List.mem_append_left _ mem)

theorem summary_name (one_call : ∀ sending ∈ group, sending.call = call) :
    (summary group).name = if group.any Sending.named then call.name else "" := by
  induction group using List.reverseRecOn with
  | nil => rfl
  | append_singleton before sending ih =>
    have isCall := one_call sending (List.mem_append_right _ List.mem_cons_self)
    have earlier := ih fun other mem => one_call other (List.mem_append_left _ mem)
    have found : (base before sending).name = (summary before).name := by
      unfold base
      split_ifs with none
      · rw [none]
        rfl
      · rfl
    rw [summary_after, absorb, List.any_append, found, earlier, isCall]
    cases named : sending.named <;> simp [named]

variable {identity : String} {before : List Sending}

structure Mirrors (state : ToolAccumulatorState) (groups : List (List Sending)) : Prop where
  accumulators : state.accumulators = groups.map summary
  identities : ∀ identity, state.byIdentity.lookup identity = groupOf groups identity

theorem given_some {text : String} (not_empty : text ≠ "") : given (some text) = some text := by
  simp [given, Option.filter, not_empty]

theorem bind_identity {state : ToolAccumulatorState} {identity : Option String} {place : Nat}
    (free : ∀ own, identity = some own → state.byIdentity.lookup own = none ∨
      state.byIdentity.lookup own = some place) :
    ∃ bound, bindToolAccumulatorIdentity state identity place = .ok bound ∧
      bound.accumulators = state.accumulators ∧
      ∀ other, bound.byIdentity.lookup other =
        if identity = some other then some place else state.byIdentity.lookup other := by
  cases identity with
  | none => exact ⟨state, rfl, rfl, fun other => rfl⟩
  | some own =>
    have added : ∀ other, ((own, place) :: state.byIdentity).lookup other =
        if some own = some other then some place else state.byIdentity.lookup other := by
      intro other
      rw [List.lookup_cons]
      by_cases same : other = own
      · simp [same]
      · have different : (other == own) = false := beq_eq_false_iff_ne.2 same
        simp [different, Ne.symm same]
    refine ⟨{ state with byIdentity := (own, place) :: state.byIdentity }, ?_, rfl, added⟩
    unfold bindToolAccumulatorIdentity
    rcases free own rfl with none | same
    · simp only [none]
    · simp only [same, if_true]

def putAt (accumulators : List ToolAccumulator) (place : Nat) (current : ToolAccumulator) :
    List ToolAccumulator :=
  if place < accumulators.length then accumulators.set place current
  else accumulators ++ [current]

theorem set_putAt {accumulators : List ToolAccumulator} (inside : place ≤ accumulators.length)
    (first second : ToolAccumulator) :
    (putAt accumulators place first).set place second = putAt accumulators place second := by
  unfold putAt
  split_ifs with old
  · rw [List.set_set]
  · have isLast : place = accumulators.length := by omega
    rw [isLast, List.set_append_right _ _ (Nat.le_refl _), Nat.sub_self]
    rfl

theorem insertAt_summaries {groups : List (List Sending)} (inside : place ≤ groups.length)
    (sending : Sending) :
    (insertAt groups place sending).map summary =
      putAt (groups.map summary) place
        (absorb (base ((groups[place]?).getD []) sending) sending) := by
  apply List.ext_getElem?
  intro other
  rw [List.getElem?_map, insertAt_get inside, ← summary_after]
  unfold putAt
  rw [List.length_map]
  split_ifs with same old old
  · rw [same, List.getElem?_set_self (by rwa [List.length_map])]
    rfl
  · have isLast : place = (groups.map summary).length := by
      rw [List.length_map]
      omega
    rw [same, isLast, List.getElem?_append_right (Nat.le_refl _), Nat.sub_self]
    rfl
  · rw [List.getElem?_set_ne (Ne.symm same), List.getElem?_map]
  · rcases Nat.lt_or_ge other groups.length with less | more
    · rw [List.getElem?_append_left (by rwa [List.length_map]), List.getElem?_map]
    · have beyond : groups.length < other := by omega
      rw [List.getElem?_eq_none more, List.getElem?_eq_none (by simp; omega)]
      rfl

variable {groups : List (List Sending)} {sending : Sending}

theorem given_field (not_empty : identity ≠ "") :
    given (if carried then some identity else none) = if carried then some identity else none := by
  cases carried with
  | false => rfl
  | true => simp [given_some not_empty]

theorem field_some {other : String} :
    (if carried then some identity else none) = some other ↔ carried = true ∧ other = identity := by
  cases carried <;> simp [eq_comm]

theorem lookup_field (mirrors : Mirrors state groups) (carried : Bool) (identity : String) :
    (if carried then some identity else none).bind (fun own => state.byIdentity.lookup own) =
      if carried then groupOf groups identity else none := by
  cases carried with
  | false => rfl
  | true => exact mirrors.identities identity

theorem existing_place (mirrors : Mirrors state groups) :
    existingAccumulator state (if sending.withCall then some sending.call.callId else none)
        (if sending.withItem then some sending.call.itemId else none) =
      if byCall groups sending = none ∨ byItem groups sending = none ∨
          byCall groups sending = byItem groups sending then
        .ok ((byCall groups sending).or (byItem groups sending))
      else .error
        (streamInvalid "provider function-call identities resolve to different calls") := by
  unfold existingAccumulator
  rw [lookup_field mirrors, lookup_field mirrors]
  change (require (byCall groups sending = none ∨ byItem groups sending = none ∨
    byCall groups sending = byItem groups sending) _ >>= fun _ => _) = _
  unfold require
  split <;> rfl

theorem resolve_conflict (mirrors : Mirrors state groups)
    (noPlace : placeOf groups sending = none) :
    ∃ error, resolveToolAccumulator state
      (if sending.withCall then some sending.call.callId else none)
      (if sending.withItem then some sending.call.itemId else none) = .error error := by
  have existing := @existing_place state groups sending mirrors
  unfold placeOf at noPlace
  split at noPlace
  next agree => cases noPlace
  next conflict =>
    rw [if_neg conflict] at existing
    rw [resolveToolAccumulator, existing]
    exact ⟨_, rfl⟩

/-- The accumulator that an event finds, under the call's own identity if the event has it. -/
def found (before : List Sending) (sending : Sending) : ToolAccumulator :=
  { base before sending with
    toolCallId := if sending.withCall then sending.call.callId
      else (base before sending).toolCallId }

theorem found_identity (before : List Sending) (sending : Sending)
    (one_call : ∀ other ∈ before, other.call = sending.call) :
    (found before sending).toolCallId ∈ sending.call.identities := by
  unfold found
  split_ifs with withCall
  · exact List.mem_cons_self
  · unfold base
    split_ifs with none
    · rw [opened, if_neg withCall]
      exact List.mem_cons_of_mem _ List.mem_cons_self
    · exact summary_identity none one_call

theorem existing_inside {reached : Nat}
    (existing : (byCall groups sending).or (byItem groups sending) = some reached) :
    reached < groups.length := by
  rcases Option.or_eq_some_iff.1 existing with ofCall | ⟨_, ofItem⟩
  · unfold byCall at ofCall
    split_ifs at ofCall
    exact groupOf_length ofCall
  · unfold byItem at ofItem
    split_ifs at ofItem
    exact groupOf_length ofItem

theorem current_found (mirrors : Mirrors state groups) (coherent : Coherent groups)
    (isPlace : ((byCall groups sending).or (byItem groups sending)).getD groups.length = place) :
    currentAccumulator state ((byCall groups sending).or (byItem groups sending))
        (if sending.withCall then some sending.call.callId else none)
        (if sending.withItem then some sending.call.itemId else none) =
      found ((groups[place]?).getD []) sending := by
  cases existing : (byCall groups sending).or (byItem groups sending) with
  | none =>
    rw [existing] at isPlace
    have isLast : groups.length = place := isPlace
    rw [← isLast, List.getElem?_eq_none (Nat.le_refl _)]
    have identified := sending.identified
    unfold currentAccumulator found base newAccumulator opened
    cases withCall : sending.withCall with
    | true => rfl
    | false =>
      rw [withCall] at identified
      have withItem : sending.withItem = true := by
        rcases identified with absent | present
        · cases absent
        · exact present
      rw [withItem]
      rfl
  | some reached =>
    rw [existing] at isPlace
    obtain rfl : reached = place := isPlace
    have inside := existing_inside existing
    have at_place := List.getElem?_eq_getElem inside
    have filled := coherent.filled _ (List.getElem_mem inside)
    have kept : state.accumulators[reached]? = some (summary groups[reached]) := by
      rw [mirrors.accumulators, List.getElem?_map, at_place]
      rfl
    unfold currentAccumulator found base
    rw [Option.bind_some, kept, at_place]
    simp only [Option.getD_some, filled, if_false]
    cases sending.withCall <;> rfl

theorem resolve_place (mirrors : Mirrors state groups) (coherent : Coherent groups)
    (not_empty : sending.call.callId ≠ "" ∧ sending.call.itemId ≠ "")
    (placed : placeOf groups sending = some place)
    (one_call : ∀ other ∈ (groups[place]?).getD [], other.call = sending.call) :
    ∃ resolved, resolveToolAccumulator state
        (if sending.withCall then some sending.call.callId else none)
        (if sending.withItem then some sending.call.itemId else none) =
          .ok (place, found ((groups[place]?).getD []) sending, resolved) ∧
      resolved.accumulators = putAt state.accumulators place
        (found ((groups[place]?).getD []) sending) ∧
      ∀ identity, resolved.byIdentity.lookup identity =
        if identity ∈ sending.identities then some place
        else state.byIdentity.lookup identity := by
  have existing := @existing_place state groups sending mirrors
  have leads := (placeOf_spec placed).1
  have identity := found_identity _ sending one_call
  have some_identity : (found ((groups[place]?).getD []) sending).toolCallId ≠ "" := by
    intro empty
    rw [empty] at identity
    rcases List.mem_cons.1 identity with isCall | isItem
    · exact not_empty.1 isCall.symm
    · exact not_empty.2 (List.mem_singleton.1 isItem).symm
  have length : state.accumulators.length = groups.length := by
    rw [mirrors.accumulators, List.length_map]
  obtain ⟨agree, isPlace⟩ := Option.ite_none_right_eq_some.1 placed
  replace isPlace := Option.some.inj isPlace
  rw [if_pos agree] at existing
  have current := current_found mirrors coherent isPlace
  have at_end : ((byCall groups sending).or (byItem groups sending)).getD
      state.accumulators.length = place := by
    rw [length, isPlace]
  have kept : (keepAccumulator state ((byCall groups sending).or (byItem groups sending))
      (found ((groups[place]?).getD []) sending)).accumulators =
        putAt state.accumulators place (found ((groups[place]?).getD []) sending) := by
    unfold keepAccumulator putAt
    cases found : (byCall groups sending).or (byItem groups sending) with
    | none =>
      rw [found] at at_end
      rw [if_neg (by rw [← at_end]; exact Nat.lt_irrefl _)]
    | some reached =>
      rw [found] at at_end
      obtain rfl : reached = place := at_end
      rw [if_pos (length ▸ existing_inside found)]
  have identities : (keepAccumulator state ((byCall groups sending).or (byItem groups sending))
      (found ((groups[place]?).getD []) sending)).byIdentity = state.byIdentity := by
    unfold keepAccumulator
    split <;> rfl
  obtain ⟨bound, bindCall, boundKept, boundIdentities⟩ := @bind_identity
    (keepAccumulator state ((byCall groups sending).or (byItem groups sending))
      (found ((groups[place]?).getD []) sending))
    (if sending.withCall then some sending.call.callId else none) place (by
      intro own isOwn
      split_ifs at isOwn with withCall
      rw [identities, mirrors.identities]
      exact leads own (mem_identities.2 (Or.inl ⟨withCall, (Option.some.inj isOwn).symm⟩)))
  obtain ⟨both, bindItem, bothKept, bothIdentities⟩ := @bind_identity bound
    (if sending.withItem then some sending.call.itemId else none) place (by
      intro own isOwn
      split_ifs at isOwn with withItem
      rw [boundIdentities, identities, mirrors.identities]
      have leadsOwn := leads own (mem_identities.2 (Or.inr ⟨withItem, (Option.some.inj isOwn).symm⟩))
      by_cases isCall : (if sending.withCall then some sending.call.callId else none) = some own
      · exact Or.inr (if_pos isCall)
      · rw [if_neg isCall]
        exact leadsOwn)
  refine ⟨both, ?_, ?_, ?_⟩
  · rw [resolveToolAccumulator, existing]
    dsimp only [bind, Except.bind]
    rw [current, require, if_pos some_identity, at_end, bindCall]
    dsimp only
    rw [bindItem]
    rfl
  · rw [bothKept, boundKept, kept]
  · intro other
    rw [bothIdentities, boundIdentities, identities]
    simp only [field_some, mem_identities]
    by_cases ofCall : sending.withCall = true ∧ other = sending.call.callId
    · rw [if_pos ofCall, if_pos (Or.inl ofCall), ite_self]
    · rw [if_neg ofCall]
      simp only [ofCall, false_or]

theorem functionName_not_empty {name : String} (isName : isFunctionName name = true) :
    name ≠ "" := by
  rintro rfl
  exact absurd isName (by decide)

theorem name_applied {aliases : ToolNameAliases} {names : List String}
    (inverted : Inverted aliases names) (known : sending.call.name ∈ names)
    {current : ToolAccumulator} (own : current.name = "" ∨ current.name = sending.call.name) :
    (sending.named = true ∧ sending.call.name = "" → ∃ error,
      applyProviderToolName current aliases (sending.fields aliases).name = .error error) ∧
    (¬(sending.named = true ∧ sending.call.name = "") →
      applyProviderToolName current aliases (sending.fields aliases).name =
        .ok { current with name := if sending.named then sending.call.name else current.name }) := by
  obtain ⟨providerName, isName, there, back⟩ := inverted.there _ known
  unfold applyProviderToolName Sending.fields
  cases named : sending.named with
  | false => exact ⟨fun absent => (nomatch absent.1), fun _ => rfl⟩
  | true =>
    simp only [if_true, there, given_some (functionName_not_empty isName), canonicalToolName, back]
    constructor
    · rintro ⟨_, empty⟩
      rw [if_pos empty]
      exact ⟨_, rfl⟩
    intro some_name
    have not_empty : ¬sending.call.name = "" := fun empty => some_name ⟨trivial, empty⟩
    rw [if_neg not_empty]
    dsimp only [bind, Except.bind]
    rw [require, if_pos own]
    rfl

def renewed (before : List Sending) (sending : Sending) : ToolAccumulator :=
  { absorb (base before sending) sending with emitted := (base before sending).emitted }

theorem base_name (one_call : ∀ other ∈ before, other.call = sending.call) :
    (base before sending).name = "" ∨ (base before sending).name = sending.call.name := by
  unfold base
  split_ifs with none
  · exact Or.inl rfl
  · rw [summary_name one_call]
    split_ifs
    · exact Or.inr rfl
    · exact Or.inl rfl

theorem fields_given (aliases : ToolNameAliases)
    (not_empty : sending.call.callId ≠ "" ∧ sending.call.itemId ≠ "") :
    given (sending.fields aliases).callId =
        (if sending.withCall then some sending.call.callId else none) ∧
      given (sending.fields aliases).itemId =
        (if sending.withItem then some sending.call.itemId else none) :=
  ⟨given_field not_empty.1, given_field not_empty.2⟩

theorem accumulate_place (inverted : Inverted aliases names) (known : sending.call.name ∈ names)
    (mirrors : Mirrors state groups) (coherent : Coherent groups)
    (not_empty : sending.call.callId ≠ "" ∧ sending.call.itemId ≠ "")
    (placed : placeOf groups sending = some place)
    (one_call : ∀ other ∈ (groups[place]?).getD [], other.call = sending.call)
    (some_name : ¬(sending.named = true ∧ sending.call.name = "")) :
    ∃ reached, accumulate aliases state (sending.fields aliases) sending.change =
        .ok (place, renewed ((groups[place]?).getD []) sending, reached) ∧
      reached.accumulators = putAt state.accumulators place
        (renewed ((groups[place]?).getD []) sending) ∧
      ∀ identity, reached.byIdentity.lookup identity =
        if identity ∈ sending.identities then some place
        else state.byIdentity.lookup identity := by
  obtain ⟨resolved, isResolved, kept, identities⟩ :=
    resolve_place mirrors coherent not_empty placed one_call
  have own := base_name one_call
  have applied := (@name_applied sending aliases names inverted known
    (found ((groups[place]?).getD []) sending) own).2 some_name
  have inside : place ≤ state.accumulators.length := by
    rw [mirrors.accumulators, List.length_map]
    exact place_length placed
  unfold accumulate
  rw [(fields_given aliases not_empty).1, (fields_given aliases not_empty).2, isResolved]
  dsimp only [bind, Except.bind]
  rw [applied]
  refine ⟨_, rfl, ?_, identities⟩
  rw [kept, set_putAt inside]
  rfl

theorem event_step (aliases : ToolNameAliases)
    (not_empty : sending.call.callId ≠ "" ∧ sending.call.itemId ≠ "") :
    streamStep aliases state (sending.event aliases) =
      (accumulate aliases state (sending.fields aliases) sending.change >>= fun reached =>
        if sending.finishes = true ∧ reached.2.1.emitted = false then
          toolCallEvent reached.2.1 >>= fun event =>
            .ok ([.toolCall event], { reached.2.2 with
              accumulators := reached.2.2.accumulators.set reached.1
                { reached.2.1 with emitted := true } })
        else .ok ([], reached.2.2)) := by
  have identified : ¬(given (sending.fields aliases).callId = none ∧
      given (sending.fields aliases).itemId = none) := by
    rw [(fields_given aliases not_empty).1, (fields_given aliases not_empty).2]
    rintro ⟨noCall, noItem⟩
    rcases sending.identified with withCall | withItem
    · rw [if_pos withCall] at noCall
      cases noCall
    · rw [if_pos withItem] at noItem
      cases noItem
  have text : (sending.fields aliases).text = sending.text := rfl
  unfold Sending.event
  cases kind : sending.kind with
  | added start =>
    have change : sending.change = fun argumentsJson => start.getD argumentsJson := by
      funext argumentsJson
      rw [Sending.change, kind]
    have unfinished : sending.finishes = false := by
      rw [Sending.finishes, kind]
      rfl
    rw [Sending.text, kind] at text
    simp only [streamStep, text, change, unfinished, Bool.false_eq_true, false_and, if_false]
    rfl
  | delta piece =>
    have change : sending.change = fun argumentsJson => argumentsJson ++ piece.getD "" := by
      funext argumentsJson
      rw [Sending.change, kind]
    have unfinished : sending.finishes = false := by
      rw [Sending.finishes, kind]
      rfl
    rw [Sending.text, kind] at text
    simp only [streamStep, identified, text, change, unfinished, Bool.false_eq_true, false_and,
      if_false]
    rfl
  | argumentsDone =>
    have change : sending.change = fun _ => sending.call.arguments := by
      funext argumentsJson
      rw [Sending.change, kind]
    have unfinished : sending.finishes = false := by
      rw [Sending.finishes, kind]
      rfl
    rw [Sending.text, kind] at text
    simp only [streamStep, identified, text, change, unfinished, Bool.false_eq_true, false_and,
      if_false]
    rfl
  | itemDone =>
    have change : sending.change = fun _ => sending.call.arguments := by
      funext argumentsJson
      rw [Sending.change, kind]
    have finishes : sending.finishes = true := by
      rw [Sending.finishes, kind]
      rfl
    rw [Sending.text, kind] at text
    simp only [streamStep, text, change, finishes, true_and, Option.getD_some]
    cases accumulate aliases state (sending.fields aliases) (fun _ => sending.call.arguments) with
    | error error => rfl
    | ok reached =>
      obtain ⟨place, current, next⟩ := reached
      dsimp only [bind, Except.bind]
      cases emitted : current.emitted with
      | true => rfl
      | false => rfl

theorem renewed_kept (keeps : ¬(sending.finishes = true ∧ (summary before).emitted = false)) :
    renewed before sending = absorb (base before sending) sending := by
  have emitted : (absorb (base before sending) sending).emitted =
      (base before sending).emitted := by
    have same := base_emitted before sending
    unfold absorb
    cases finishes : sending.finishes with
    | false => exact Bool.or_false _
    | true =>
      rw [finishes, ← same] at keeps
      have already : (base before sending).emitted = true := by
        simpa using keeps
      rw [already]
      rfl
  unfold renewed
  rw [← emitted]

theorem renewed_emitted (finishes : sending.finishes = true) :
    { renewed before sending with emitted := true } = absorb (base before sending) sending := by
  have emitted : (absorb (base before sending) sending).emitted = true := by
    unfold absorb
    rw [finishes]
    exact Bool.or_true _
  unfold renewed
  rw [← emitted]

theorem event_renewed (not_empty : sending.call.callId ≠ "" ∧ sending.call.itemId ≠ "")
    (one_call : ∀ other ∈ before, other.call = sending.call) :
    ((summary (before ++ [sending])).name = "" → ∃ error,
      toolCallEvent (renewed before sending) = .error error) ∧
    ((summary (before ++ [sending])).name ≠ "" →
      toolCallEvent (renewed before sending) = .ok (eventOf (before ++ [sending]))) := by
  have identity := found_identity before sending one_call
  have some_identity : (renewed before sending).toolCallId ≠ "" := by
    intro empty
    change (found before sending).toolCallId = "" at empty
    rw [empty] at identity
    rcases List.mem_cons.1 identity with isCall | isItem
    · exact not_empty.1 isCall.symm
    · exact not_empty.2 (List.mem_singleton.1 isItem).symm
  have name : (summary (before ++ [sending])).name = (renewed before sending).name := by
    rw [summary_after]
    rfl
  unfold toolCallEvent
  rw [require, if_pos some_identity, name]
  constructor
  · intro empty
    rw [require, if_neg fun some_name => some_name empty]
    exact ⟨_, rfl⟩
  · intro some_name
    rw [require, if_pos some_name, eventOf, summary_after]
    rfl

def Simulates (result : Except ModelAdapterError (List ModelStreamEvent × ToolAccumulatorState)) :
    Option (List ToolCallEvent × List (List Sending)) → Prop
  | none => ∃ error, result = .error error
  | some (events, next) => Coherent next ∧ ∃ reached, Mirrors reached next ∧
      result = .ok (events.map .toolCall, reached)

theorem step_mirrors (inverted : Inverted aliases names)
    (sent : ∀ group ∈ groups, ∀ sending ∈ group, sending ∈ response.sendings)
    (isSent : sending ∈ response.sendings) (mirrors : Mirrors state groups)
    (coherent : Coherent groups) :
    Simulates (streamStep aliases state (sending.event aliases)) (groupStep groups sending) := by
  have known := response.known sending isSent
  have not_empty := response.not_empty sending isSent
  rw [event_step aliases not_empty]
  unfold groupStep
  cases placed : placeOf groups sending with
  | none =>
    obtain ⟨error, conflict⟩ := resolve_conflict mirrors placed
    refine ⟨error, ?_⟩
    rw [accumulate, (fields_given aliases not_empty).1, (fields_given aliases not_empty).2,
      conflict]
    rfl
  | some place =>
    have one_call := joined_call coherent sent isSent placed
    have next := insertAt_coherent coherent sent isSent placed
    have inside := place_length placed
    dsimp only
    by_cases nameless : sending.named = true ∧ sending.call.name = ""
    · obtain ⟨resolved, isResolved, _, _⟩ :=
        resolve_place mirrors coherent not_empty placed one_call
      obtain ⟨error, unnamed⟩ := (@name_applied sending aliases names inverted known
        (found ((groups[place]?).getD []) sending) (base_name one_call)).1 nameless
      rw [if_pos nameless]
      refine ⟨error, ?_⟩
      rw [accumulate, (fields_given aliases not_empty).1, (fields_given aliases not_empty).2,
        isResolved]
      dsimp only [bind, Except.bind]
      rw [unnamed]
    · obtain ⟨reached, accumulated, kept, identities⟩ := accumulate_place inverted known mirrors
        coherent not_empty placed one_call nameless
      have lookups : ∀ identity, reached.byIdentity.lookup identity =
          groupOf (insertAt groups place sending) identity := by
        intro identity
        rw [identities, groupOf_insertAt placed next, mirrors.identities]
      have emitted : (renewed ((groups[place]?).getD []) sending).emitted =
          (summary ((groups[place]?).getD [])).emitted := base_emitted _ _
      have whole := insertAt_summaries inside sending
      rw [← mirrors.accumulators] at whole
      have length : place ≤ state.accumulators.length := by
        rw [mirrors.accumulators, List.length_map]
        exact inside
      rw [if_neg nameless, accumulated]
      dsimp only [bind, Except.bind]
      rw [emitted]
      by_cases finishing : sending.finishes = true ∧
          (summary ((groups[place]?).getD [])).emitted = false
      · rw [if_pos finishing, if_pos finishing]
        have event := event_renewed not_empty one_call
        by_cases unnamed : (summary ((groups[place]?).getD [] ++ [sending])).name = ""
        · obtain ⟨error, failed⟩ := event.1 unnamed
          rw [if_pos unnamed, failed]
          exact ⟨error, rfl⟩
        rw [if_neg unnamed, event.2 unnamed]
        refine ⟨next, { reached with
          accumulators := reached.accumulators.set place
            { renewed ((groups[place]?).getD []) sending with emitted := true } },
          ⟨?_, lookups⟩, rfl⟩
        rw [kept, set_putAt length, whole, renewed_emitted finishing.1]
      · rw [if_neg finishing, if_neg finishing]
        refine ⟨next, reached, ⟨?_, lookups⟩, rfl⟩
        rw [kept, whole, renewed_kept finishing]

variable {incomplete : Bool} {providerResponseId : Option String} {raws : List Json} {ending : Json}

def toolCallOf : ModelStreamEvent → Option ToolCallEvent
  | .toolCall event => some event
  | _ => none

def toolCalls (yielded : List ModelStreamEvent) : List ToolCallEvent :=
  yielded.filterMap toolCallOf

theorem toolCalls_append (first second : List ModelStreamEvent) :
    toolCalls (first ++ second) = toolCalls first ++ toolCalls second :=
  List.filterMap_append

theorem toolCalls_map (events : List ToolCallEvent) :
    toolCalls (events.map .toolCall) = events := by
  unfold toolCalls
  rw [List.filterMap_map]
  exact List.filterMap_some

def unemitted (groups : List (List Sending)) : List (List Sending) :=
  groups.filter (fun group => !(summary group).emitted)

/-- The function calls of a response that ends after these events; none if the adapter
fails. -/
def surfaced (sendings : List Sending) : Option (List ToolCallEvent) :=
  (runGroups [] sendings).bind (fun reached =>
    if ∃ group ∈ unemitted reached.2, (summary group).name = "" then none
    else some (reached.1 ++ (unemitted reached.2).map eventOf))

def Yields (outcome : Outcome) : Option (List ToolCallEvent) → Prop
  | none => outcome.failure ≠ none
  | some events => outcome.failure = none ∧ toolCalls outcome.yielded = events

theorem emitRest_groups (some_identity : ∀ group ∈ groups, (summary group).toolCallId ≠ "") :
    if ∃ group ∈ unemitted groups, (summary group).name = "" then
      (emitRest (groups.map summary)).2 ≠ none
    else (emitRest (groups.map summary)).2 = none ∧
      (emitRest (groups.map summary)).1 = ((unemitted groups).map eventOf).map .toolCall := by
  induction groups with
  | nil => simp [unemitted, emitRest]
  | cons group groups ih =>
    have later := ih fun other mem => some_identity other (List.mem_cons_of_mem _ mem)
    have identity := some_identity group List.mem_cons_self
    rw [List.map_cons, emitRest]
    cases emitted : (summary group).emitted with
    | true =>
      have same : unemitted (group :: groups) = unemitted groups := by
        unfold unemitted
        rw [List.filter_cons_of_neg (by simp [emitted])]
      rw [same]
      exact later
    | false =>
      have first : unemitted (group :: groups) = group :: unemitted groups := by
        unfold unemitted
        rw [List.filter_cons_of_pos (by simp [emitted])]
      rw [first]
      simp only [Bool.false_eq_true, if_false]
      by_cases unnamed : (summary group).name = ""
      · rw [if_pos ⟨group, List.mem_cons_self, unnamed⟩]
        have failed : toolCallEvent (summary group) =
            .error (streamInvalid "completed function call has no name") := by
          unfold toolCallEvent
          rw [require, if_pos identity]
          dsimp only [bind, Except.bind]
          rw [require, if_neg fun some_name => some_name unnamed]
        rw [failed]
        exact Option.some_ne_none _
      · have event : toolCallEvent (summary group) = .ok (eventOf group) := by
          unfold toolCallEvent
          rw [require, if_pos identity]
          rw [require, if_pos unnamed]
          rfl
        rw [event]
        by_cases some_unnamed : ∃ other ∈ unemitted groups, (summary other).name = ""
        · obtain ⟨other, mem, otherUnnamed⟩ := some_unnamed
          rw [if_pos ⟨other, mem, otherUnnamed⟩] at later
          rw [if_pos ⟨other, List.mem_cons_of_mem _ mem, otherUnnamed⟩]
          exact later
        · rw [if_neg some_unnamed] at later
          rw [if_neg]
          · refine ⟨later.1, ?_⟩
            rw [List.map_cons, List.map_cons, ← later.2]
          · rintro ⟨other, mem, otherUnnamed⟩
            rcases List.mem_cons.1 mem with rfl | inRest
            · exact unnamed otherUnnamed
            · exact some_unnamed ⟨other, inRest, otherUnnamed⟩

def Sent {names : List String} (response : Response names) (groups : List (List Sending)) : Prop :=
  ∀ group ∈ groups, ∀ sending ∈ group, sending ∈ response.sendings

theorem insertAt_sent (sent : Sent response groups) (isSent : sending ∈ response.sendings)
    (inside : place ≤ groups.length) : Sent response (insertAt groups place sending) := by
  intro group mem
  obtain ⟨other, at_other⟩ := List.mem_iff_getElem?.1 mem
  rw [insertAt_get inside] at at_other
  split_ifs at at_other
  · cases at_other
    intro own isOwn
    rcases List.mem_append.1 isOwn with old | new
    · cases at_place : groups[place]? with
      | none =>
        rw [at_place] at old
        cases old
      | some before =>
        rw [at_place] at old
        exact sent before (List.mem_of_getElem? at_place) own old
    · rw [List.mem_singleton.1 new]
      exact isSent
  · exact sent group (List.mem_of_getElem? at_other)

theorem groupStep_groups {step : List ToolCallEvent × List (List Sending)}
    (stepped : groupStep groups sending = some step) :
    ∃ place, placeOf groups sending = some place ∧ step.2 = insertAt groups place sending := by
  unfold groupStep at stepped
  cases placed : placeOf groups sending with
  | none =>
    rw [placed] at stepped
    cases stepped
  | some place =>
    rw [placed] at stepped
    dsimp only at stepped
    split_ifs at stepped <;> cases stepped <;> exact ⟨place, rfl, rfl⟩

/-- The loop ends in the state that the run over groups reaches, or fails where it does. -/
def Consumes {names : List String} (response : Response names) (incomplete : Bool)
    (providerResponseId : Option String) (outcome : Outcome) :
    Option (List ToolCallEvent × List (List Sending)) → Prop
  | none => outcome.failure ≠ none
  | some (events, next) => Coherent next ∧ Sent response next ∧ ∃ reached, Mirrors reached next ∧
      outcome = (endStream reached incomplete providerResponseId).after (events.map .toolCall)

theorem consumes_after {outcome : Outcome} (first : List ToolCallEvent)
    {run : Option (List ToolCallEvent × List (List Sending))}
    (consumed : Consumes response incomplete providerResponseId outcome run) :
    Consumes response incomplete providerResponseId (outcome.after (first.map .toolCall))
      (run.map (fun later => (first ++ later.1, later.2))) := by
  cases run with
  | none => exact consumed
  | some later =>
    obtain ⟨coherent, sent, reached, mirrors, rfl⟩ := consumed
    refine ⟨coherent, sent, reached, mirrors, ?_⟩
    unfold Outcome.after
    rw [List.map_append, List.append_assoc]

theorem consume_groups (inverted : Inverted aliases names) (mirrors : Mirrors state groups)
    (coherent : Coherent groups) (sent : Sent response groups) {sendings : List Sending}
    (own : ∀ sending ∈ sendings, sending ∈ response.sendings)
    (reads : List.Forall₂ (fun raw sending => readEvent raw = .ok (sending.event aliases)) raws
      sendings) (ends : readEvent ending = .ok (.ended incomplete providerResponseId))
    (later : List Json) :
    Consumes response incomplete providerResponseId
      (consume aliases state (raws ++ ending :: later)) (runGroups groups sendings) := by
  induction reads generalizing state groups with
  | nil =>
    refine ⟨coherent, sent, state, mirrors, ?_⟩
    rw [List.nil_append, consume, ends]
    rfl
  | @cons raw sending raws sendings read reads ih =>
    have isSent := own sending List.mem_cons_self
    have step := step_mirrors inverted sent isSent mirrors coherent
    have typed : ∀ incomplete providerResponseId,
        sending.event aliases ≠ .ended incomplete providerResponseId := by
      intro incomplete providerResponseId
      unfold Sending.event
      cases sending.kind <;> exact fun same => nomatch same
    have consumed : consume aliases state (raw :: raws ++ ending :: later) =
        (streamStep aliases state (sending.event aliases)).casesOn
          (fun error => ⟨[], some error⟩)
          (fun next => (consume aliases next.2 (raws ++ ending :: later)).after next.1) := by
      rw [List.cons_append, consume, read]
      cases event : sending.event aliases <;> first
        | exact absurd event (typed _ _)
        | (dsimp only; split <;> rename_i isStep <;> rw [isStep])
    rw [consumed, runGroups]
    cases stepped : groupStep groups sending with
    | none =>
      rw [stepped] at step
      obtain ⟨error, failed⟩ := step
      rw [failed]
      exact Option.some_ne_none _
    | some next =>
      rw [stepped] at step
      obtain ⟨nextCoherent, reached, nextMirrors, stepOk⟩ := step
      obtain ⟨place, placed, isNext⟩ := groupStep_groups stepped
      have nextSent := insertAt_sent sent isSent (place_length placed)
      rw [← isNext] at nextSent
      rw [stepOk, Option.bind_some]
      exact consumes_after next.1 (ih nextMirrors nextCoherent nextSent
        fun other mem => own other (List.mem_cons_of_mem _ mem))

theorem mirrors_empty : Mirrors ⟨[], []⟩ [] := ⟨rfl, fun _ => rfl⟩

theorem coherent_empty : Coherent [] :=
  ⟨fun _ mem => (nomatch mem), fun _ mem => (nomatch mem), fun _ _ _ _ _ at_first => nomatch at_first⟩

theorem stream_surfaced (inverted : Inverted aliases names) (response : Response names)
    (reads : List.Forall₂ (fun raw sending => readEvent raw = .ok (sending.event aliases)) raws
      response.sendings) (ends : readEvent ending = .ok (.ended incomplete providerResponseId))
    (later : List Json) :
    Yields (stream aliases (raws ++ ending :: later)) (surfaced response.sendings) := by
  have consumed := consume_groups inverted mirrors_empty coherent_empty
    (fun _ mem => (nomatch mem) : Sent response []) (fun _ mem => mem) reads ends later
  unfold stream surfaced
  cases run : runGroups [] response.sendings with
  | none =>
    rw [run] at consumed
    exact consumed
  | some reached =>
    rw [run] at consumed
    obtain ⟨coherent, sent, state, mirrors, same⟩ := consumed
    have some_identity : ∀ group ∈ reached.2, (summary group).toolCallId ≠ "" := by
      intro group mem empty
      have filled := coherent.filled group mem
      obtain ⟨sending, inGroup⟩ := List.exists_mem_of_ne_nil group filled
      have identity := summary_identity filled
        fun other inOther => coherent.one_call group mem other inOther sending inGroup
      have not_empty := response.not_empty sending (sent group mem sending inGroup)
      rw [empty] at identity
      rcases List.mem_cons.1 identity with isCall | isItem
      · exact not_empty.1 isCall.symm
      · exact not_empty.2 (List.mem_singleton.1 isItem).symm
    have rest := emitRest_groups some_identity
    rw [Option.bind_some, same]
    unfold endStream
    rw [mirrors.accumulators]
    by_cases unnamed : ∃ group ∈ unemitted reached.2, (summary group).name = ""
    · rw [if_pos unnamed] at rest ⊢
      cases failure : emitRest (reached.2.map summary) with
      | mk yielded error =>
        rw [failure] at rest
        cases error with
        | none => exact absurd rfl rest
        | some error => exact Option.some_ne_none _
    · rw [if_neg unnamed] at rest ⊢
      cases emitted : emitRest (reached.2.map summary) with
      | mk yielded error =>
        rw [emitted] at rest
        obtain ⟨noError, isYielded⟩ := rest
        dsimp only at noError isYielded
        rw [noError, isYielded]
        refine ⟨rfl, ?_⟩
        unfold Outcome.after
        rw [toolCalls_append, toolCalls_append, toolCalls_map, toolCalls_map]
        exact congrArg _ (List.append_nil _)

end OpenRill.Provider.CallStream
