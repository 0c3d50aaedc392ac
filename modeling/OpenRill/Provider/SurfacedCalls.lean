import OpenRill.Provider.CallStream
import Mathlib.Data.List.Perm.Basic

/-!
# Every finished call is surfaced once

The calls that an adapter yields are the calls that the provider finished, each once and with
its final arguments, exactly when the provider told enough about each of its calls: the adapter
does not ask whether a call was finished.
-/

namespace OpenRill.Provider.SurfacedCalls

open OpenRill.Lib OpenRill.Lib.Checked
open OpenRill.Provider.ToolNames OpenRill.Provider.ToolCalls
open OpenRill.Provider.CallGroups OpenRill.Provider.CallStream

variable {sending : Sending} {groups : List (List Sending)}
variable {sendings group before after : List Sending} {events : List ToolCallEvent} {call : Call}
variable {place : Nat} {reached : List ToolCallEvent × List (List Sending)} {names : List String}
variable {response : Response names}

def finishedCalls (sendings : List Sending) : List Call :=
  ((sendings.filter Sending.isDone).map Sending.call).dedup

/-- The event is the call, with its canonical name and its final arguments. -/
structure Surfaces (call : Call) (event : ToolCallEvent) : Prop where
  identity : event.toolCallId ∈ call.identities
  name : event.name = call.name
  arguments : event.argumentsJson = orEmptyObject call.arguments

/-- The stream ends without an error and yields one function call for each finished call,
and no other. -/
def SurfacedOnce (sendings : List Sending) (outcome : Outcome) : Prop :=
  outcome.failure = none ∧ ∃ events, events.Perm (toolCalls outcome.yielded) ∧
    List.Forall₂ Surfaces (finishedCalls sendings) events

def eventsOf (sendings : List Sending) (call : Call) : List Sending :=
  sendings.filter (fun sending => sending.call = call)

/-- Every event of a call but the first carries an identity that an earlier one carries. -/
def Joined (events : List Sending) : Prop :=
  ∀ before sending after, events = before ++ sending :: after → before ≠ [] →
    ∃ identity ∈ sending.identities, carries identity before = true

/-- The events up to the first that finishes the item. -/
def told : List Sending → List Sending
  | [] => []
  | sending :: rest => if sending.finishes then [sending] else sending :: told rest

/-- The arguments that an event gave last and the pieces after it make the final ones. -/
def FinalTold (events : List Sending) (call : Call) : Prop :=
  ∃ before start text after, events = before ++ start :: after ∧
    start.stated = some text ∧ (∀ sending ∈ after, sending.stated = none) ∧
    orEmptyObject (after.foldl (fun whole sending => whole ++ sending.piece) text) =
      orEmptyObject call.arguments

/-- What the provider tells about a call before the response ends is enough. -/
structure Complete (events : List Sending) (call : Call) : Prop where
  some_name : call.name ≠ ""
  joined : Joined events
  named : ∃ sending ∈ told events, sending.named = true
  final : (∃ sending ∈ events, sending.finishes = true) ∨
    ((∃ sending ∈ events, sending.kind = .argumentsDone) ∧ FinalTold events call)

theorem summary_emitted (group : List Sending) :
    (summary group).emitted = group.any Sending.finishes := by
  induction group using List.reverseRecOn with
  | nil => rfl
  | append_singleton before sending ih =>
    rw [summary_after, absorb, List.any_append, List.any_cons, List.any_nil, Bool.or_false]
    rw [base_emitted, ih]

theorem told_append {before : List Sending} (sending : Sending) :
    told (before ++ [sending]) =
      if before.any Sending.finishes then told before else told before ++ [sending] := by
  induction before with
  | nil => cases finishes : sending.finishes <;> simp [told, finishes]
  | cons first before ih =>
    rw [List.cons_append, told, told, List.any_cons, ih]
    cases finishes : first.finishes with
    | true => simp
    | false =>
      simp only [Bool.false_eq_true, if_false, Bool.false_or]
      split <;> rfl

theorem told_whole (unfinished : group.any Sending.finishes = false) : told group = group := by
  induction group with
  | nil => rfl
  | cons first rest ih =>
    rw [List.any_cons, Bool.or_eq_false_iff] at unfinished
    rw [told, unfinished.1, ih unfinished.2]
    rfl

theorem told_earlier (group : List Sending) : told group <+: group := by
  induction group with
  | nil => exact List.prefix_rfl
  | cons first rest ih =>
    rw [told]
    split_ifs
    · exact ⟨rest, rfl⟩
    · exact List.prefix_cons_inj first |>.2 ih

theorem told_filled (filled : group ≠ []) : told group ≠ [] := by
  cases group with
  | nil => exact absurd rfl filled
  | cons first rest =>
    rw [told]
    split_ifs <;> exact List.cons_ne_nil _ _

theorem insertAt_perm (inside : place ≤ groups.length) (sending : Sending) :
    ∃ others, (insertAt groups place sending).Perm
        (((groups[place]?).getD [] ++ [sending]) :: others) ∧
      (groups.Perm ((groups[place]?).getD [] :: others) ∨
        ((groups[place]?).getD [] = [] ∧ groups = others)) := by
  unfold insertAt
  split_ifs with old
  · have at_place := List.getElem?_eq_getElem old
    refine ⟨groups.eraseIdx place, ?_, Or.inl ?_⟩
    · rw [at_place, Option.getD_some, List.modify_eq_set_getElem? , at_place]
      exact List.set_perm_cons_eraseIdx old _
    · rw [at_place, Option.getD_some]
      exact (List.getElem_cons_eraseIdx_perm old).symm
  · have isLast : place = groups.length := by omega
    rw [isLast, List.getElem?_eq_none (Nat.le_refl _)]
    exact ⟨groups, List.perm_append_singleton _ _, Or.inr ⟨rfl, rfl⟩⟩

variable {step : List ToolCallEvent × List (List Sending)}

def emittedAs (group : List Sending) : Option ToolCallEvent :=
  if (summary group).emitted then some (eventOf (told group)) else none

/-- After these events: the groups hold them in their order, each group is joined, the calls
emitted so far are those of the finished items, and their names are known. -/
structure Sorted (sendings : List Sending) (events : List ToolCallEvent)
    (groups : List (List Sending)) : Prop where
  whole : groups.flatten.Perm sendings
  ordered : ∀ group ∈ groups, group.Sublist sendings
  joined : ∀ group ∈ groups, Joined group
  emitted : events.Perm (groups.filterMap emittedAs)
  named : ∀ group ∈ groups, (summary group).emitted = true → (summary (told group)).name ≠ ""

theorem joined_single (sending : Sending) : Joined [sending] := by
  intro before last after split some_before
  cases before with
  | nil => exact absurd rfl some_before
  | cons first before =>
    have long := congrArg List.length split
    rw [List.length_append, List.length_cons, List.length_cons, List.length_cons,
      List.length_nil] at long
    omega

theorem joined_append (joined : Joined group) {identity : String}
    (shared : identity ∈ sending.identities) (carried : carries identity group = true) :
    Joined (group ++ [sending]) := by
  intro before last after split some_before
  rcases List.eq_nil_or_concat after with rfl | ⟨front, final, rfl⟩
  · obtain ⟨rfl, same⟩ := List.append_inj' split rfl
    rw [← List.cons.inj same |>.1]
    exact ⟨identity, shared, carried⟩
  · rw [List.concat_eq_append, ← List.cons_append, ← List.append_assoc] at split
    exact joined before last front (List.append_inj_left' split rfl) some_before

theorem joined_prefix (joined : Joined (before ++ after)) : Joined before := by
  intro first sending rest split some_before
  apply joined first sending (rest ++ after) _ some_before
  rw [split, List.append_assoc, List.cons_append]

theorem groupStep_events (placed : placeOf groups sending = some place)
    (stepped : groupStep groups sending = some step) :
    step.1 ++ (emittedAs ((groups[place]?).getD [])).toList =
        (emittedAs ((groups[place]?).getD [] ++ [sending])).toList ∧
      ((summary ((groups[place]?).getD [] ++ [sending])).emitted = true →
        (summary ((groups[place]?).getD [])).emitted = false →
          (summary (told ((groups[place]?).getD [] ++ [sending]))).name ≠ "") := by
  unfold groupStep at stepped
  rw [placed] at stepped
  dsimp only at stepped
  generalize isBefore : (groups[place]?).getD [] = before at stepped ⊢
  have emitted := summary_emitted before
  have later := summary_emitted (before ++ [sending])
  rw [List.any_append, ← emitted, List.any_cons, List.any_nil, Bool.or_false] at later
  have telling := @told_append before sending
  rw [← emitted] at telling
  unfold emittedAs
  rw [later, telling]
  by_cases nameless : sending.named = true ∧ sending.call.name = ""
  · rw [if_pos nameless] at stepped
    cases stepped
  rw [if_neg nameless] at stepped
  cases already : (summary before).emitted with
  | true =>
    rw [already] at stepped
    simp only [Bool.true_eq_false, and_false, if_false, Option.some.injEq] at stepped
    rw [← stepped]
    exact ⟨rfl, fun _ absent => nomatch absent⟩
  | false =>
    have same : told before = before := told_whole (emitted ▸ already)
    rw [same]
    cases finishes : sending.finishes with
    | true =>
      rw [finishes] at stepped
      simp only [true_and, if_true] at stepped
      split_ifs at stepped with unnamed
      cases stepped
      exact ⟨rfl, fun _ _ => unnamed⟩
    | false =>
      rw [finishes] at stepped
      simp only [Bool.false_eq_true, false_and, if_false, Option.some.injEq] at stepped
      rw [← stepped]
      exact ⟨rfl, fun absent _ => nomatch absent⟩

theorem sorted_step (sorted : Sorted sendings events groups)
    (stepped : groupStep groups sending = some step) :
    Sorted (sendings ++ [sending]) (events ++ step.1) step.2 := by
  obtain ⟨place, placed, isNext⟩ := groupStep_groups stepped
  have inside := place_length placed
  obtain ⟨stepEvents, stepName⟩ := groupStep_events placed stepped
  obtain ⟨others, after, before⟩ := insertAt_perm inside sending
  rw [isNext]
  generalize isBefore : (groups[place]?).getD [] = group at *
  have group_sorted : group.Sublist sendings ∧ Joined group ∧
      ((summary group).emitted = true → (summary (told group)).name ≠ "") := by
    rcases before with old | ⟨none, _⟩
    · have mem : group ∈ groups := old.mem_iff.2 List.mem_cons_self
      exact ⟨sorted.ordered group mem, sorted.joined group mem, sorted.named group mem⟩
    · rw [none]
      refine ⟨List.nil_sublist _, ?_, fun absent => nomatch absent⟩
      intro first last rest split
      cases first <;> cases split
  have others_mem : ∀ other ∈ others, other ∈ groups := by
    intro other mem
    rcases before with old | ⟨_, same⟩
    · exact old.mem_iff.2 (List.mem_cons_of_mem _ mem)
    · rw [same]
      exact mem
  constructor
  · have flat := after.flatten
    have oldFlat : sendings.Perm (group ++ others.flatten) := by
      rcases before with old | ⟨none, same⟩
      · exact sorted.whole.symm.trans old.flatten
      · rw [none, ← same]
        exact sorted.whole.symm
    have moved : (group ++ [sending] ++ others.flatten).Perm
        (group ++ others.flatten ++ [sending]) := by
      rw [List.append_assoc, List.append_assoc]
      exact List.Perm.append_left _ List.perm_append_comm
    exact flat.trans (moved.trans (oldFlat.symm.append_right _))
  · intro other mem
    rcases List.mem_cons.1 (after.mem_iff.1 mem) with rfl | inOthers
    · exact group_sorted.1.append_right _
    · exact (sorted.ordered other (others_mem other inOthers)).trans (List.sublist_append_left _ _)
  · intro other mem
    rcases List.mem_cons.1 (after.mem_iff.1 mem) with rfl | inOthers
    · rcases (placeOf_spec placed).2 with ⟨identity, shared, found⟩ | ⟨isLast, _⟩
      · obtain ⟨own, at_place, carried⟩ := groupOf_some found
        rw [at_place, Option.getD_some] at isBefore
        rw [isBefore] at carried
        exact joined_append group_sorted.2.1 shared carried
      · rw [isLast, List.getElem?_eq_none (Nat.le_refl _)] at isBefore
        rw [← isBefore]
        exact joined_single sending
    · exact sorted.joined other (others_mem other inOthers)
  · have afterEvents := after.filterMap emittedAs
    have oldEvents : events.Perm ((emittedAs group).toList ++ others.filterMap emittedAs) := by
      rcases before with old | ⟨none, same⟩
      · have flat := sorted.emitted.trans (old.filterMap emittedAs)
        rw [List.filterMap_cons] at flat
        cases emitted : emittedAs group with
        | none =>
          rw [emitted] at flat
          exact flat
        | some event =>
          rw [emitted] at flat
          exact flat
      · rw [none, ← same]
        exact sorted.emitted
    have newEvents : ((group ++ [sending]) :: others).filterMap emittedAs =
        (emittedAs (group ++ [sending])).toList ++ others.filterMap emittedAs := by
      rw [List.filterMap_cons]
      cases emittedAs (group ++ [sending]) <;> rfl
    rw [newEvents, ← stepEvents, List.append_assoc] at afterEvents
    exact ((oldEvents.append_right _).trans List.perm_append_comm).trans afterEvents.symm
  · intro other mem emitted
    rcases List.mem_cons.1 (after.mem_iff.1 mem) with rfl | inOthers
    · cases already : (summary group).emitted with
      | false => exact stepName emitted already
      | true =>
        rw [told_append, ← summary_emitted, already]
        exact group_sorted.2.2 already
    · exact sorted.named other (others_mem other inOthers) emitted

theorem sorted_empty : Sorted [] [] [] :=
  ⟨List.Perm.refl _, fun _ mem => (nomatch mem), fun _ mem => (nomatch mem), List.Perm.refl _,
    fun _ mem => (nomatch mem)⟩

theorem sorted_run (sorted : Sorted sendings events groups) {more : List Sending}
    (run : runGroups groups more = some reached) :
    Sorted (sendings ++ more) (events ++ reached.1) reached.2 := by
  induction more generalizing groups sendings events reached with
  | nil =>
    cases run
    rw [List.append_nil, List.append_nil]
    exact sorted
  | cons sending more ih =>
    obtain ⟨step, stepped, rest⟩ := Option.bind_eq_some_iff.1 run
    obtain ⟨later, continued, same⟩ := Option.map_eq_some_iff.1 rest
    have all := ih (sorted_step sorted stepped) continued
    rw [List.append_assoc, List.append_assoc] at all
    rw [← same]
    exact all

variable {event : ToolCallEvent} {calls : List Call} {first : Sending}

def owners (groups : List (List Sending)) : List Call :=
  groups.filterMap (fun group => group.head?.map Sending.call)

def identified (response : Response names) (event : ToolCallEvent) : Option Call :=
  (response.sendings.map Sending.call).find? (fun call => call.identities.contains event.toolCallId)

theorem identified_call (isSent : sending ∈ response.sendings)
    (identity : event.toolCallId ∈ sending.call.identities) :
    identified response event = some sending.call := by
  unfold identified
  cases found : (response.sendings.map Sending.call).find?
      (fun call => call.identities.contains event.toolCallId) with
  | none =>
    have absent := List.find?_eq_none.1 found sending.call (List.mem_map_of_mem isSent)
    exact absurd (List.contains_iff_mem.2 identity) absent
  | some call =>
    have contained := List.find?_some found
    obtain ⟨other, otherSent, same⟩ := List.mem_map.1 (List.mem_of_find?_eq_some found)
    rw [List.contains_iff_mem] at contained
    by_contra different
    have apart : other.call ≠ sending.call := by
      rw [same]
      exact fun equal => different (congrArg some equal)
    apply response.apart other otherSent sending isSent apart event.toolCallId _ identity
    rw [same]
    exact contained

theorem eventOf_identity (filled : group ≠ []) (one_call : ∀ sending ∈ group, sending.call = call) :
    (eventOf (told group)).toolCallId ∈ call.identities :=
  summary_identity (told_filled filled)
    fun sending mem => one_call sending ((told_earlier group).subset mem)

theorem told_unemitted (unemitted : (summary group).emitted = false) : told group = group := by
  rw [summary_emitted] at unemitted
  exact told_whole unemitted

theorem emitted_and_rest (groups : List (List Sending)) :
    (groups.filterMap emittedAs ++ (unemitted groups).map eventOf).Perm
      (groups.map (fun group => eventOf (told group))) := by
  induction groups with
  | nil => exact List.Perm.refl _
  | cons group groups ih =>
    unfold unemitted at ih ⊢
    cases isEmitted : (summary group).emitted with
    | true =>
      have first : emittedAs group = some (eventOf (told group)) := by
        rw [emittedAs, if_pos isEmitted]
      rw [List.filterMap_cons_some first, List.filter_cons_of_neg (by simp [isEmitted])]
      exact List.Perm.cons _ ih
    | false =>
      have none : emittedAs group = none := by
        rw [emittedAs, isEmitted]
        rfl
      rw [List.filterMap_cons_none none, List.filter_cons_of_pos (by simp [isEmitted]),
        List.map_cons, List.map_cons, told_unemitted isEmitted]
      exact List.perm_middle.trans (List.Perm.cons _ ih)

theorem surfaced_groups (surfacing : surfaced sendings = some events) :
    ∃ emitted groups, runGroups [] sendings = some (emitted, groups) ∧
      Sorted sendings emitted groups ∧
      events.Perm (groups.map (fun group => eventOf (told group))) ∧
      ∀ group ∈ groups, (summary (told group)).name ≠ "" := by
  obtain ⟨⟨emitted, groups⟩, run, ended⟩ := Option.bind_eq_some_iff.1 surfacing
  have sorted := sorted_run sorted_empty run
  split_ifs at ended with unnamed
  cases ended
  refine ⟨emitted, groups, run, sorted,
    (sorted.emitted.append_right _).trans (emitted_and_rest groups), ?_⟩
  · intro group mem
    cases isEmitted : (summary group).emitted with
    | true => exact sorted.named group mem isEmitted
    | false =>
      rw [told_unemitted isEmitted]
      intro noName
      apply unnamed
      refine ⟨group, List.mem_filter.2 ⟨mem, ?_⟩, noName⟩
      rw [isEmitted]
      rfl

theorem run_coherent (coherent : Coherent groups) (sent : Sent response groups)
    (own : ∀ sending ∈ sendings, sending ∈ response.sendings)
    (run : runGroups groups sendings = some reached) :
    Coherent reached.2 ∧ Sent response reached.2 := by
  induction sendings generalizing groups reached with
  | nil =>
    cases run
    exact ⟨coherent, sent⟩
  | cons sending sendings ih =>
    have isSent := own sending List.mem_cons_self
    obtain ⟨step, stepped, rest⟩ := Option.bind_eq_some_iff.1 run
    obtain ⟨later, continued, same⟩ := Option.map_eq_some_iff.1 rest
    obtain ⟨place, placed, isNext⟩ := groupStep_groups stepped
    have nextCoherent := insertAt_coherent coherent sent isSent placed
    have nextSent := insertAt_sent sent isSent (place_length placed)
    rw [← isNext] at nextCoherent nextSent
    have kept := ih nextCoherent nextSent
      (fun other mem => own other (List.mem_cons_of_mem _ mem)) continued
    rw [← same]
    exact kept

theorem group_call (coherent : Coherent groups) (mem : group ∈ groups) :
    ∃ first ∈ group, group.head? = some first ∧ ∀ sending ∈ group, sending.call = first.call := by
  cases isGroup : group with
  | nil => exact absurd isGroup (coherent.filled group mem)
  | cons first rest =>
    rw [isGroup] at mem
    exact ⟨first, List.mem_cons_self, rfl,
      fun sending inGroup => coherent.one_call _ mem sending inGroup first List.mem_cons_self⟩

theorem identified_groups (coherent : Coherent groups) (sent : Sent response groups) :
    (groups.map (fun group => eventOf (told group))).filterMap (identified response) =
      owners groups := by
  rw [List.filterMap_map]
  apply List.filterMap_congr
  intro group mem
  obtain ⟨first, inGroup, isHead, one_call⟩ := group_call coherent mem
  have identity := eventOf_identity (coherent.filled group mem) one_call
  rw [isHead]
  exact identified_call (sent group mem first inGroup) identity

theorem finished_sent (finished : call ∈ finishedCalls sendings) :
    ∃ sending ∈ sendings, sending.isDone = true ∧ sending.call = call := by
  unfold finishedCalls at finished
  rw [List.mem_dedup, List.mem_map] at finished
  obtain ⟨sending, mem, isCall⟩ := finished
  obtain ⟨isSent, isDone⟩ := List.mem_filter.1 mem
  exact ⟨sending, isSent, isDone, isCall⟩

theorem identified_finished (finished : ∀ call ∈ calls, call ∈ finishedCalls response.sendings)
    (surfaces : List.Forall₂ Surfaces calls events) :
    events.filterMap (identified response) = calls := by
  induction surfaces with
  | nil => rfl
  | @cons call event calls events surfacing rest ih =>
    obtain ⟨sending, isSent, _, isCall⟩ :=
      finished_sent (finished call List.mem_cons_self)
    have identity := surfacing.identity
    rw [← isCall] at identity
    have isIdentified := identified_call isSent identity
    rw [isCall] at isIdentified
    rw [List.filterMap_cons_some isIdentified,
      ih fun other mem => finished other (List.mem_cons_of_mem _ mem)]

theorem surfaces_mem (surfaces : List.Forall₂ Surfaces calls events) (mem : event ∈ events) :
    ∃ call ∈ calls, Surfaces call event := by
  induction surfaces with
  | nil => cases mem
  | @cons call first calls events surfacing rest ih =>
    rcases List.mem_cons.1 mem with rfl | inRest
    · exact ⟨call, List.mem_cons_self, surfacing⟩
    · obtain ⟨other, otherMem, otherSurfaces⟩ := ih inRest
      exact ⟨other, List.mem_cons_of_mem _ otherMem, otherSurfaces⟩

theorem owner_mem (mem : group ∈ groups) (isHead : group.head? = some first) :
    first.call ∈ owners groups := by
  unfold owners
  rw [List.mem_filterMap]
  exact ⟨group, mem, by rw [isHead]; rfl⟩

theorem group_events (coherent : Coherent groups) (whole : groups.flatten.Perm sendings)
    (distinct : (owners groups).Nodup) (mem : group ∈ groups) (ordered : group.Sublist sendings)
    (isHead : group.head? = some first) (one_call : ∀ sending ∈ group, sending.call = first.call) :
    group = eventsOf sendings first.call := by
  obtain ⟨left, right, split⟩ := List.append_of_mem mem
  have others : ∀ other ∈ left ++ right, other.filter (fun sending => sending.call = first.call) =
      [] := by
    intro other inOthers
    have otherMem : other ∈ groups := by
      rw [split, List.mem_append, List.mem_cons]
      rcases List.mem_append.1 inOthers with inLeft | inRight
      · exact Or.inl inLeft
      · exact Or.inr (Or.inr inRight)
    obtain ⟨otherFirst, _, otherHead, otherCall⟩ := group_call coherent otherMem
    rw [List.filter_eq_nil_iff]
    intro sending inOther isCall
    have sameCall : otherFirst.call = first.call := by
      rw [← otherCall sending inOther]
      exact of_decide_eq_true isCall
    have both : owners groups = owners left ++ first.call :: owners right := by
      unfold owners
      rw [split, List.filterMap_append, List.filterMap_cons, isHead]
      rfl
    rw [both, List.nodup_append, List.nodup_cons] at distinct
    rcases List.mem_append.1 inOthers with inLeft | inRight
    · exact distinct.2.2 _ (owner_mem inLeft otherHead) _ List.mem_cons_self sameCall
    · apply distinct.2.1.1
      rw [← sameCall]
      exact owner_mem inRight otherHead
  have own : group.filter (fun sending => sending.call = first.call) = group := by
    rw [List.filter_eq_self]
    intro sending inGroup
    exact decide_eq_true (one_call sending inGroup)
  have none_of : ∀ lists : List (List Sending), (∀ other ∈ lists, other ∈ left ++ right) →
      lists.flatten.filter (fun sending => sending.call = first.call) = [] := by
    intro lists inside
    rw [List.filter_flatten, List.flatten_eq_nil_iff]
    intro filtered isFiltered
    obtain ⟨other, inLists, rfl⟩ := List.mem_map.1 isFiltered
    exact others other (inside other inLists)
  have filtered := whole.filter fun sending => sending.call = first.call
  rw [split, List.flatten_append, List.flatten_cons, List.filter_append, List.filter_append,
    none_of left fun _ inLeft => List.mem_append_left _ inLeft, own,
    none_of right fun _ inRight => List.mem_append_right _ inRight, List.nil_append,
    List.append_nil] at filtered
  have sub := ordered.filter fun sending => decide (sending.call = first.call)
  rw [own] at sub
  exact sub.eq_of_length filtered.length_eq

section Arguments

variable {events : List Sending}

theorem base_arguments (before : List Sending) (sending : Sending) :
    (base before sending).argumentsJson = (summary before).argumentsJson := by
  unfold base
  split_ifs with none
  · rw [none]
    rfl
  · rfl

theorem summary_arguments (before : List Sending) (sending : Sending) :
    (summary (before ++ [sending])).argumentsJson =
      (sending.stated).getD ((summary before).argumentsJson ++ sending.piece) := by
  rw [summary_after, absorb]
  rw [base_arguments]
  unfold Sending.change Sending.stated Sending.piece
  cases kind : sending.kind with
  | added start =>
    cases start with
    | none => exact (String.append_empty).symm
    | some text => rfl
  | delta piece => rfl
  | argumentsDone => rfl
  | itemDone => rfl

theorem summary_last {start : Sending} {text : String} (stated : start.stated = some text)
    (pieces : ∀ sending ∈ after, sending.stated = none) :
    (summary (before ++ start :: after)).argumentsJson =
      after.foldl (fun whole sending => whole ++ sending.piece) text := by
  induction after using List.reverseRecOn with
  | nil =>
    rw [summary_arguments, stated]
    rfl
  | append_singleton after last ih =>
    rw [← List.cons_append, ← List.append_assoc, summary_arguments,
      pieces last (List.mem_append_right _ List.mem_cons_self),
      ih fun sending mem => pieces sending (List.mem_append_left _ mem), List.foldl_append]
    rfl

theorem last_said (mem : sending ∈ events) (stated : sending.stated ≠ none) :
    ∃ before start text after, events = before ++ start :: after ∧ start.stated = some text ∧
      ∀ other ∈ after, other.stated = none := by
  induction events using List.reverseRecOn with
  | nil => cases mem
  | append_singleton events last ih =>
    cases lastStated : last.stated with
    | some text => exact ⟨events, last, text, [], rfl, lastStated, fun _ absent => nomatch absent⟩
    | none =>
      rcases List.mem_append.1 mem with earlier | isLast
      · obtain ⟨before, start, text, after, split, startStated, pieces⟩ := ih earlier
        refine ⟨before, start, text, after ++ [last], ?_, startStated, ?_⟩
        · rw [split, List.append_assoc, List.cons_append]
        · intro other inAfter
          rcases List.mem_append.1 inAfter with inOld | isLast
          · exact pieces other inOld
          · rw [List.mem_singleton.1 isLast]
            exact lastStated
      · rw [← List.mem_singleton.1 isLast] at lastStated
        exact absurd lastStated stated

theorem told_finished (finished : ∃ sending ∈ events,
    sending.finishes = true) : ∃ before last, told events = before ++ [last] ∧ last ∈ events ∧
      last.finishes = true := by
  induction events with
  | nil =>
    obtain ⟨sending, mem, _⟩ := finished
    cases mem
  | cons first rest ih =>
    rw [told]
    cases finishes : first.finishes with
    | true => exact ⟨[], first, rfl, List.mem_cons_self, finishes⟩
    | false =>
      obtain ⟨sending, mem, isFinished⟩ := finished
      rcases List.mem_cons.1 mem with rfl | inRest
      · rw [finishes] at isFinished
        cases isFinished
      · obtain ⟨before, last, isTold, lastMem, lastFinishes⟩ :=
          ih ⟨sending, inRest, isFinished⟩
        refine ⟨first :: before, last, ?_, List.mem_cons_of_mem _ lastMem, lastFinishes⟩
        rw [isTold]
        rfl

theorem finishes_stated (finishes : sending.finishes = true) :
    sending.stated = some sending.call.arguments := by
  have kind : sending.kind = .itemDone := of_decide_eq_true finishes
  unfold Sending.stated
  rw [kind]

theorem finished_arguments (one_call : ∀ sending ∈ events, sending.call = call)
    (finished : ∃ sending ∈ events, sending.finishes = true) :
    (summary (told events)).argumentsJson = call.arguments := by
  obtain ⟨before, last, isTold, mem, finishes⟩ := told_finished finished
  rw [isTold, summary_arguments, finishes_stated finishes, one_call last mem]
  rfl

end Arguments

variable {outcome : Outcome} {rest : List Sending}

theorem mem_eventsOf :
    sending ∈ eventsOf sendings call ↔ sending ∈ sendings ∧ sending.call = call := by
  unfold eventsOf
  rw [List.mem_filter, decide_eq_true_iff]

theorem name_told {events : List Sending} (one_call : ∀ sending ∈ events, sending.call = call) :
    (summary events).name ≠ "" ↔ call.name ≠ "" ∧ ∃ sending ∈ events, sending.named = true := by
  rw [summary_name one_call]
  by_cases named : events.any Sending.named = true
  · rw [if_pos named]
    rw [List.any_eq_true] at named
    exact ⟨fun some_name => ⟨some_name, named⟩, fun both => both.1⟩
  · rw [if_neg named]
    rw [List.any_eq_true] at named
    exact ⟨fun absent => absurd rfl absent, fun both => absurd both.2 named⟩

theorem complete_of_surfaced (surfacing : surfaced response.sendings = some events)
    (isYielded : toolCalls outcome.yielded = events)
    (once : SurfacedOnce response.sendings outcome) :
    ∀ sending ∈ response.sendings,
      Complete (eventsOf response.sendings sending.call) sending.call := by
  obtain ⟨emitted, groups, run, sorted, isEvents, names⟩ := surfaced_groups surfacing
  obtain ⟨coherent, sent⟩ := run_coherent coherent_empty
    (fun _ mem => (nomatch mem) : Sent response []) (fun _ mem => mem) run
  obtain ⟨_, ordered, isOrdered, surfaces⟩ := once
  rw [isYielded] at isOrdered
  have finishedEvents := identified_finished (fun _ mem => mem) surfaces
  have calls := (isOrdered.trans isEvents).filterMap (identified response)
  rw [finishedEvents, identified_groups coherent sent] at calls
  have distinct : (owners groups).Nodup := calls.nodup_iff.1 (List.nodup_dedup _)
  intro sending isSent
  obtain ⟨group, mem, inGroup⟩ := List.mem_flatten.1 (sorted.whole.mem_iff.2 isSent)
  obtain ⟨first, _, isHead, one_call⟩ := group_call coherent mem
  have isCall := one_call sending inGroup
  have isGroup := group_events coherent sorted.whole distinct mem (sorted.ordered group mem)
    isHead one_call
  rw [isCall, ← isGroup]
  have told_call : ∀ other ∈ told group, other.call = first.call :=
    fun other inTold => one_call other ((told_earlier group).subset inTold)
  obtain ⟨some_name, named⟩ := (name_told told_call).1 (names group mem)
  refine ⟨some_name, sorted.joined group mem, named, ?_⟩
  have finished : first.call ∈ finishedCalls response.sendings :=
    calls.mem_iff.2 (owner_mem mem isHead)
  by_cases itemDone : ∃ other ∈ group, other.finishes = true
  · exact Or.inl itemDone
  have isWhole : told group = group := by
    apply told_whole
    rw [List.any_eq_false]
    intro other inOther finishes
    exact itemDone ⟨other, inOther, finishes⟩
  obtain ⟨done, isDoneSent, isDone, doneCall⟩ := finished_sent finished
  have inOwn : done ∈ group := by
    rw [isGroup]
    exact mem_eventsOf.2 ⟨isDoneSent, doneCall⟩
  have kind : done.kind = .argumentsDone := by
    unfold Sending.isDone at isDone
    rw [Bool.or_eq_true, decide_eq_true_iff, decide_eq_true_iff] at isDone
    rcases isDone with isArguments | isItem
    · exact isArguments
    · exact absurd ⟨done, inOwn, decide_eq_true isItem⟩ itemDone
  have stated : done.stated ≠ none := by
    unfold Sending.stated
    rw [kind]
    exact Option.some_ne_none _
  obtain ⟨before, start, text, after, split, startStated, pieces⟩ := last_said inOwn stated
  have arguments : orEmptyObject (summary group).argumentsJson =
      orEmptyObject first.call.arguments := by
    have inEvents : eventOf (told group) ∈ ordered :=
      (isOrdered.trans isEvents).mem_iff.2 (List.mem_map.2 ⟨group, mem, rfl⟩)
    obtain ⟨call, callMem, surfacing⟩ := surfaces_mem surfaces inEvents
    have sameCall : call = first.call := by
      obtain ⟨own, ownSent, _, ownCall⟩ := finished_sent callMem
      have identity := surfacing.identity
      rw [← ownCall] at identity
      have named := identified_call ownSent identity
      have groupIdentity := eventOf_identity (coherent.filled group mem) one_call
      rw [← isCall] at groupIdentity
      rw [identified_call isSent groupIdentity, Option.some.injEq] at named
      rw [← ownCall, ← named, isCall]
    have said := surfacing.arguments
    rw [sameCall] at said
    rw [← said, isWhole]
    rfl
  refine Or.inr ⟨⟨done, inOwn, kind⟩, before, start, text, after, split, startStated, pieces, ?_⟩
  rw [← arguments, split, summary_last startStated pieces]

theorem eventsOf_append (first second : List Sending) (call : Call) :
    eventsOf (first ++ second) call = eventsOf first call ++ eventsOf second call :=
  List.filter_append _ _

theorem eventsOf_own (sending : Sending) (rest : List Sending) :
    eventsOf (sending :: rest) sending.call = sending :: eventsOf rest sending.call :=
  List.filter_cons_of_pos (decide_eq_true rfl)

theorem eventsOf_other (other : sending.call ≠ call) : eventsOf [sending] call = [] :=
  List.filter_cons_of_neg (by rw [decide_eq_true_iff]; exact other)

theorem told_first (unfinished : before.any Sending.finishes = false)
    (finishes : sending.finishes = true) :
    told (before ++ sending :: after) = before ++ [sending] := by
  induction before with
  | nil =>
    rw [List.nil_append, told, if_pos finishes]
    rfl
  | cons first before ih =>
    rw [List.any_cons, Bool.or_eq_false_iff] at unfinished
    rw [List.cons_append, told, unfinished.1, ih unfinished.2]
    rfl

def Exact (sendings : List Sending) (groups : List (List Sending)) : Prop :=
  ∀ group ∈ groups, ∀ sending ∈ group, group = eventsOf sendings sending.call

section

variable (coherent : Coherent groups) (sent : Sent response groups)
include coherent sent

theorem place_found (whole : groups.flatten.Perm sendings) (exactly : Exact sendings groups)
    (isSent : sending ∈ response.sendings)
    (joined : Joined (eventsOf sendings sending.call ++ [sending])) :
    ∃ place, placeOf groups sending = some place ∧
      (groups[place]?).getD [] = eventsOf sendings sending.call := by
  have leads : ∀ identity ∈ sending.identities, ∀ place,
      groupOf groups identity = some place →
        groups[place]? = some (eventsOf sendings sending.call) := by
    intro identity carried place found
    obtain ⟨group, at_place, groupCarries⟩ := groupOf_some found
    obtain ⟨shared, inGroup, sharedCarries⟩ := carried_identity groupCarries
    have mem := List.mem_of_getElem? at_place
    have same : shared.call = sending.call := by
      by_contra different
      exact response.apart shared (sent group mem shared inGroup) sending isSent different
        identity (sending_identities sharedCarries) (sending_identities carried)
    rw [at_place, exactly group mem shared inGroup, same]
  by_cases none_before : eventsOf sendings sending.call = []
  · have nowhere : ∀ identity ∈ sending.identities, groupOf groups identity = none := by
      intro identity carried
      cases found : groupOf groups identity with
      | none => rfl
      | some place =>
        have at_place := leads identity carried place found
        exact absurd none_before (coherent.filled _ (List.mem_of_getElem? at_place))
    obtain ⟨place, placed⟩ := @placeOf_total groups sending 0
      fun identity carried => Or.inl (nowhere identity carried)
    refine ⟨place, placed, ?_⟩
    rcases (placeOf_spec placed).2 with ⟨identity, carried, found⟩ | ⟨isLast, _⟩
    · rw [nowhere identity carried] at found
      cases found
    · rw [isLast, List.getElem?_eq_none (Nat.le_refl _), none_before]
      rfl
  · obtain ⟨identity, carried, earlier⟩ := joined _ sending [] rfl none_before
    obtain ⟨shared, isEarlier, sharedCarries⟩ := carried_identity earlier
    obtain ⟨sharedMem, sharedCall⟩ := mem_eventsOf.1 isEarlier
    obtain ⟨group, mem, inGroup⟩ := List.mem_flatten.1 (whole.mem_iff.2 sharedMem)
    have isGroup := exactly group mem shared inGroup
    rw [sharedCall] at isGroup
    obtain ⟨own, at_own⟩ := List.mem_iff_getElem?.1 mem
    have groupCarries : carries identity group = true := by
      rw [isGroup]
      exact earlier
    have found := groupOf_carried coherent at_own groupCarries
    have one : ∀ other ∈ sending.identities, groupOf groups other = none ∨
        groupOf groups other = some own := by
      intro other otherCarried
      cases otherFound : groupOf groups other with
      | none => exact Or.inl rfl
      | some place =>
        have at_place := leads other otherCarried place otherFound
        rw [coherent.separate identity place own _ group at_place at_own earlier groupCarries]
        exact Or.inr rfl
    obtain ⟨place, placed⟩ := placeOf_total one
    refine ⟨place, placed, ?_⟩
    rcases (placeOf_spec placed).2 with ⟨other, otherCarried, otherFound⟩ | ⟨_, nowhere⟩
    · rw [leads other otherCarried place otherFound]
      rfl
    · rw [nowhere identity carried] at found
      cases found

section

variable (sorted : Sorted sendings events groups) (exactly : Exact sendings groups)
include sorted exactly

theorem exact_step (split : response.sendings = sendings ++ sending :: rest)
    (complete : Complete (eventsOf response.sendings sending.call) sending.call) :
    ∃ step, groupStep groups sending = some step ∧ Exact (sendings ++ [sending]) step.2 := by
  have isSent : sending ∈ response.sendings := by
    rw [split]
    exact List.mem_append_right _ List.mem_cons_self
  have all : eventsOf response.sendings sending.call =
      eventsOf sendings sending.call ++ sending :: eventsOf rest sending.call := by
    rw [split, eventsOf_append, eventsOf_own]
  have joined : Joined (eventsOf sendings sending.call ++ [sending]) := by
    have whole := complete.joined
    rw [all, List.append_cons] at whole
    exact joined_prefix whole
  obtain ⟨place, placed, before⟩ :=
    place_found coherent sent sorted.whole exactly isSent joined
  have stepped : ∃ step, groupStep groups sending = some step := by
    unfold groupStep
    rw [placed]
    dsimp only
    rw [before, if_neg fun nameless => complete.some_name nameless.2]
    by_cases finishing : sending.finishes = true ∧
        (summary (eventsOf sendings sending.call)).emitted = false
    · have one_call : ∀ other ∈ eventsOf sendings sending.call ++ [sending],
          other.call = sending.call := by
        intro other mem
        rcases List.mem_append.1 mem with earlier | isLast
        · exact (mem_eventsOf.1 earlier).2
        · rw [List.mem_singleton.1 isLast]
      have named := complete.named
      have unfinished := finishing.2
      rw [summary_emitted] at unfinished
      rw [all, told_first unfinished finishing.1] at named
      have some_name := (name_told one_call).2 ⟨complete.some_name, named⟩
      rw [if_pos finishing, if_neg some_name]
      exact ⟨_, rfl⟩
    · rw [if_neg finishing]
      exact ⟨_, rfl⟩
  obtain ⟨step, isStep⟩ := stepped
  refine ⟨step, isStep, ?_⟩
  obtain ⟨other, otherPlaced, isNext⟩ := groupStep_groups isStep
  rw [placed] at otherPlaced
  cases otherPlaced
  have next := insertAt_coherent coherent sent isSent placed
  rw [isNext]
  intro group mem own inGroup
  have own_at := insertAt_get (place_length placed) sending place
  rw [if_pos rfl, before] at own_at
  obtain ⟨index, at_index⟩ := List.mem_iff_getElem?.1 mem
  rw [insertAt_get (place_length placed), before] at at_index
  split_ifs at at_index with same
  · cases at_index
    have isCall : own.call = sending.call := by
      rcases List.mem_append.1 inGroup with earlier | isLast
      · exact (mem_eventsOf.1 earlier).2
      · rw [List.mem_singleton.1 isLast]
    rw [isCall, eventsOf_append, eventsOf_own]
    rfl
  · have oldMem := List.mem_of_getElem? at_index
    have isGroup := exactly group oldMem own inGroup
    have different : sending.call ≠ own.call := by
      intro isCall
      rw [← isCall] at isGroup
      apply same
      obtain ⟨identity, carried⟩ := some_identity own
      have groupCarries : carries identity group = true :=
        List.any_eq_true.2 ⟨own, inGroup, List.contains_iff_mem.2 carried⟩
      have placeCarries : carries identity (eventsOf sendings sending.call ++ [sending]) = true := by
        rw [carries_append, ← isGroup, groupCarries, Bool.true_or]
      have at_new : (insertAt groups place sending)[index]? = some group := by
        rw [insertAt_get (place_length placed), if_neg same]
        exact at_index
      exact next.separate identity index place group _ at_new own_at groupCarries placeCarries
    rw [eventsOf_append, eventsOf_other different, List.append_nil]
    exact isGroup

theorem exact_run (split : response.sendings = sendings ++ rest)
    (complete : ∀ sending ∈ response.sendings,
      Complete (eventsOf response.sendings sending.call) sending.call) :
    ∃ reached, runGroups groups rest = some reached ∧ Exact response.sendings reached.2 := by
  induction rest generalizing groups sendings events with
  | nil =>
    rw [List.append_nil] at split
    rw [split]
    exact ⟨([], groups), rfl, exactly⟩
  | cons sending rest ih =>
    have isSent : sending ∈ response.sendings := by
      rw [split]
      exact List.mem_append_right _ List.mem_cons_self
    obtain ⟨step, stepped, nextExact⟩ := exact_step coherent sent sorted exactly split
      (complete sending isSent)
    obtain ⟨place, placed, isNext⟩ := groupStep_groups stepped
    have nextCoherent := insertAt_coherent coherent sent isSent placed
    have nextSent := insertAt_sent sent isSent (place_length placed)
    rw [← isNext] at nextCoherent nextSent
    rw [List.append_cons] at split
    obtain ⟨reached, run, isExact⟩ :=
      ih nextCoherent nextSent (sorted_step sorted stepped) nextExact split
    refine ⟨(step.1 ++ reached.1, reached.2), ?_, isExact⟩
    rw [runGroups, stepped, Option.bind_some, run]
    rfl

end

end

theorem surfaces_complete {events : List Sending} (filled : events ≠ [])
    (one_call : ∀ sending ∈ events, sending.call = call) (complete : Complete events call) :
    Surfaces call (eventOf (told events)) := by
  have told_call : ∀ sending ∈ told events, sending.call = call :=
    fun sending mem => one_call sending ((told_earlier events).subset mem)
  constructor
  · exact eventOf_identity filled one_call
  · unfold eventOf
    have named : (told events).any Sending.named = true := List.any_eq_true.2 complete.named
    rw [summary_name told_call, named]
    rfl
  · unfold eventOf
    by_cases finished : ∃ sending ∈ events, sending.finishes = true
    · rw [finished_arguments one_call finished]
    rcases complete.final with itemDone | ⟨_, before, start, text, after, split, stated, pieces,
      final⟩
    · exact absurd itemDone finished
    have isWhole : told events = events := by
      apply told_whole
      rw [List.any_eq_false]
      intro other inOther finishes
      exact finished ⟨other, inOther, finishes⟩
    rw [isWhole, ← final, split, summary_last stated pieces]

theorem owners_distinct (coherent : Coherent groups) (exactly : Exact sendings groups) :
    (owners groups).Nodup := by
  unfold owners
  rw [List.Nodup, List.pairwise_filterMap, List.pairwise_iff_getElem]
  intro first second firstInside secondInside less firstCall isFirst secondCall isSecond same
  obtain ⟨firstSending, firstHead, firstSame⟩ := Option.map_eq_some_iff.1 isFirst
  obtain ⟨secondSending, secondHead, secondSame⟩ := Option.map_eq_some_iff.1 isSecond
  have firstMem := List.mem_of_mem_head? firstHead
  have secondMem := List.mem_of_mem_head? secondHead
  have firstGroup := exactly _ (List.getElem_mem firstInside) firstSending firstMem
  have secondGroup := exactly _ (List.getElem_mem secondInside) secondSending secondMem
  have sameGroup : groups[first] = groups[second] := by
    rw [firstGroup, secondGroup, firstSame, secondSame, same]
  obtain ⟨identity, carried⟩ := some_identity firstSending
  have carries_first : carries identity groups[first] = true :=
    List.any_eq_true.2 ⟨firstSending, firstMem, List.contains_iff_mem.2 carried⟩
  have equal := coherent.separate identity first second _ _ (List.getElem?_eq_getElem firstInside)
    (List.getElem?_eq_getElem secondInside) carries_first (sameGroup ▸ carries_first)
  omega

theorem surfaced_of_complete (complete : ∀ sending ∈ response.sendings,
      Complete (eventsOf response.sendings sending.call) sending.call)
    (yields : Yields outcome (surfaced response.sendings)) :
    SurfacedOnce response.sendings outcome := by
  obtain ⟨reached, run, exactly⟩ := exact_run coherent_empty
    (fun _ mem => (nomatch mem) : Sent response []) sorted_empty
    (fun _ mem => (nomatch mem)) (List.nil_append _).symm complete
  obtain ⟨coherent, sent⟩ := run_coherent coherent_empty
    (fun _ mem => (nomatch mem) : Sent response []) (fun _ mem => mem) run
  have sorted := sorted_run sorted_empty run
  have group_complete : ∀ group ∈ reached.2, ∃ first, group.head? = some first ∧
      first ∈ response.sendings ∧ group = eventsOf response.sendings first.call ∧
        Complete group first.call := by
    intro group mem
    obtain ⟨first, inGroup, isHead, _⟩ := group_call coherent mem
    have isSent := sent group mem first inGroup
    have isGroup := exactly group mem first inGroup
    have isComplete := complete first isSent
    rw [← isGroup] at isComplete
    exact ⟨first, isHead, isSent, isGroup, isComplete⟩
  have named : ¬∃ group ∈ unemitted reached.2, (summary group).name = "" := by
    rintro ⟨group, mem, noName⟩
    obtain ⟨inGroups, isUnemitted⟩ := List.mem_filter.1 mem
    obtain ⟨first, isHead, _, _, isComplete⟩ := group_complete group inGroups
    obtain ⟨_, _, ownHead, one_call⟩ := group_call coherent inGroups
    rw [isHead] at ownHead
    cases ownHead
    have isNamed := isComplete.named
    rw [told_unemitted (by simpa using isUnemitted)] at isNamed
    exact (name_told one_call).2 ⟨isComplete.some_name, isNamed⟩ noName
  unfold surfaced at yields
  rw [run, Option.bind_some, if_neg named] at yields
  obtain ⟨noFailure, isYielded⟩ := yields
  refine ⟨noFailure, (finishedCalls response.sendings).map
    fun call => eventOf (told (eventsOf response.sendings call)), ?_, ?_⟩
  · rw [isYielded]
    have all := (sorted.emitted.append_right ((unemitted reached.2).map eventOf)).trans
      (emitted_and_rest reached.2)
    have byOwner : (owners reached.2).map
        (fun call => eventOf (told (eventsOf response.sendings call))) =
          reached.2.map (fun group => eventOf (told group)) := by
      unfold owners
      rw [List.map_filterMap, ← List.filterMap_eq_map]
      apply List.filterMap_congr
      intro group mem
      obtain ⟨first, isHead, _, isGroup, _⟩ := group_complete group mem
      rw [isHead]
      simp only [Option.map_some, Function.comp_apply]
      rw [← isGroup]
    have sameCalls : (finishedCalls response.sendings).Perm (owners reached.2) := by
      have distinct : (finishedCalls response.sendings).Nodup := List.nodup_dedup _
      apply (List.perm_ext_iff_of_nodup distinct (owners_distinct coherent exactly)).2
      intro call
      constructor
      · intro finished
        obtain ⟨done, isSent, _, isCall⟩ := finished_sent finished
        obtain ⟨group, mem, inGroup⟩ := List.mem_flatten.1 (sorted.whole.mem_iff.2 isSent)
        obtain ⟨first, _, isHead, one_call⟩ := group_call coherent mem
        rw [← isCall, one_call done inGroup]
        exact owner_mem mem isHead
      · intro owned
        obtain ⟨group, mem, isOwner⟩ := List.mem_filterMap.1 owned
        obtain ⟨first, isHead, isSent, isGroup, isComplete⟩ := group_complete group mem
        rw [isHead] at isOwner
        cases isOwner
        have done : ∃ sending ∈ group, sending.isDone = true := by
          rcases isComplete.final with ⟨sending, inGroup, finishes⟩ | ⟨⟨sending, inGroup, kind⟩, _⟩
          · refine ⟨sending, inGroup, ?_⟩
            unfold Sending.isDone
            rw [Bool.or_eq_true]
            exact Or.inr finishes
          · refine ⟨sending, inGroup, ?_⟩
            unfold Sending.isDone
            rw [kind]
            rfl
        obtain ⟨sending, inGroup, isDone⟩ := done
        rw [isGroup] at inGroup
        obtain ⟨sendingSent, sameCall⟩ := mem_eventsOf.1 inGroup
        unfold finishedCalls
        rw [List.mem_dedup, List.mem_map]
        exact ⟨sending, List.mem_filter.2 ⟨sendingSent, isDone⟩, sameCall⟩
    have moved := sameCalls.map fun call => eventOf (told (eventsOf response.sendings call))
    rw [byOwner] at moved
    exact moved.trans all.symm
  · rw [List.forall₂_map_right_iff, List.forall₂_same]
    intro call finished
    obtain ⟨done, isSent, _, isCall⟩ := finished_sent finished
    rw [← isCall]
    have mem : done ∈ eventsOf response.sendings done.call := mem_eventsOf.2 ⟨isSent, rfl⟩
    exact surfaces_complete (List.ne_nil_of_mem mem)
      (fun sending inEvents => (mem_eventsOf.1 inEvents).2) (complete done isSent)

def oneTool : ModelRequest := ⟨["read_file"], []⟩

def oneAlias : ToolNameAliases := ⟨[("read_file", "read_file")], [("read_file", "read_file")]⟩

theorem oneTool_aliases {shortSha256 : String → String} :
    buildToolNameAliases shortSha256 oneTool = .ok oneAlias := by
  have names : canonicalNames oneTool = ["read_file"] := by decide
  have valid : isFunctionName "read_file" = true := by decide
  unfold buildToolNameAliases
  simp [names, valid, sorted, plainAliases, ToolNameAliases.add, oneAlias]

def readCall : Call := ⟨"call_1", "fc_1", "read_file", "[1,2]"⟩

def readAdded : Sending := ⟨readCall, .added (some ""), true, true, true, Or.inl rfl⟩

def readDelta : Sending := ⟨readCall, .delta (some "[1"), false, true, false, Or.inr rfl⟩

def readDone : Sending := ⟨readCall, .itemDone, true, true, true, Or.inl rfl⟩

def readResponse (more : Bool) : Response (canonicalNames oneTool) where
  sendings := readAdded :: readDelta :: (if more then [readDone] else [])
  known := by cases more <;> decide
  not_empty := by cases more <;> decide
  apart := by cases more <;> decide

def addedJson : Json := .object [("type", .text "response.output_item.added"),
  ("item", .object [("type", .text "function_call"), ("id", .text "fc_1"),
    ("call_id", .text "call_1"), ("name", .text "read_file"), ("arguments", .text "")])]

def deltaJson : Json := .object [("type", .text "response.function_call_arguments.delta"),
  ("item_id", .text "fc_1"), ("delta", .text "[1")]

def doneJson : Json := .object [("type", .text "response.output_item.done"),
  ("item", .object [("type", .text "function_call"), ("id", .text "fc_1"),
    ("call_id", .text "call_1"), ("name", .text "read_file"), ("arguments", .text "[1,2]")])]

def incompleteJson : Json := .object [("type", .text "response.incomplete")]

end OpenRill.Provider.SurfacedCalls
