import OpenRill.Provider.ToolCalls

/-!
# What a provider tells about its calls

A provider sends events about calls of its own, in any order. The events that the adapter
takes for one call form a group, and the accumulator of the group is a function of its
events: the adapter's loop is a run over groups.
-/

namespace OpenRill.Provider.CallGroups

open OpenRill.Lib OpenRill.Lib.Checked
open OpenRill.Provider.ToolNames OpenRill.Provider.ToolCalls

variable {identity : String}

/-- A function call of a provider: its two identities, the canonical name of its tool and its
final arguments. -/
structure Call where
  callId : String
  itemId : String
  name : String
  arguments : String
  deriving DecidableEq

def Call.identities (call : Call) : List String := [call.callId, call.itemId]

/-- The events of a call. The two that say it is done carry the final arguments. -/
inductive Kind where
  | added (start : Option String)
  | delta (piece : Option String)
  | argumentsDone
  | itemDone
  deriving DecidableEq

structure Sending where
  call : Call
  kind : Kind
  withCall : Bool
  withItem : Bool
  named : Bool
  identified : withCall = true ∨ withItem = true
  deriving DecidableEq

def Sending.identities (sending : Sending) : List String :=
  (if sending.withCall then [sending.call.callId] else []) ++
    (if sending.withItem then [sending.call.itemId] else [])

def Sending.text (sending : Sending) : Option String :=
  match sending.kind with
  | .added start => start
  | .delta piece => piece
  | _ => some sending.call.arguments

/-- The provider says that the arguments, or the whole call, are done. -/
def Sending.isDone (sending : Sending) : Bool :=
  sending.kind = .argumentsDone || sending.kind = .itemDone

def Sending.stated (sending : Sending) : Option String :=
  match sending.kind with
  | .added start => start
  | .delta _ => none
  | _ => some sending.call.arguments

def Sending.piece (sending : Sending) : String :=
  match sending.kind with
  | .delta piece => piece.getD ""
  | _ => ""

def Sending.fields (aliases : ToolNameAliases) (sending : Sending) : CallFields where
  callId := if sending.withCall then some sending.call.callId else none
  itemId := if sending.withItem then some sending.call.itemId else none
  name := if sending.named then aliases.canonicalToProvider.lookup sending.call.name else none
  text := sending.text

def Sending.event (aliases : ToolNameAliases) (sending : Sending) : StreamEvent :=
  match sending.kind with
  | .added _ => .itemAdded (sending.fields aliases)
  | .delta _ => .argumentsDelta (sending.fields aliases)
  | .argumentsDone => .argumentsDone (sending.fields aliases)
  | .itemDone => .itemDone (sending.fields aliases)

/-- What a provider sends in a response to a request with these tool names: every call has
identities of its own. -/
structure Response (names : List String) where
  sendings : List Sending
  known : ∀ sending ∈ sendings, sending.call.name ∈ names
  not_empty : ∀ sending ∈ sendings, sending.call.callId ≠ "" ∧ sending.call.itemId ≠ ""
  apart : ∀ first ∈ sendings, ∀ second ∈ sendings, first.call ≠ second.call →
    ∀ identity ∈ first.call.identities, identity ∉ second.call.identities

variable {sending : Sending}

theorem mem_identities :
    identity ∈ sending.identities ↔
      (sending.withCall = true ∧ identity = sending.call.callId) ∨
        (sending.withItem = true ∧ identity = sending.call.itemId) := by
  unfold Sending.identities
  cases sending.withCall <;> cases sending.withItem <;> simp

theorem sending_identities (carried : identity ∈ sending.identities) :
    identity ∈ sending.call.identities := by
  rcases mem_identities.1 carried with ⟨_, rfl⟩ | ⟨_, rfl⟩
  · exact List.mem_cons_self
  · exact List.mem_cons_of_mem _ List.mem_cons_self

theorem some_identity (sending : Sending) : ∃ identity, identity ∈ sending.identities := by
  rcases sending.identified with withCall | withItem
  · exact ⟨_, mem_identities.2 (Or.inl ⟨withCall, rfl⟩)⟩
  · exact ⟨_, mem_identities.2 (Or.inr ⟨withItem, rfl⟩)⟩

variable {group : List Sending}

def Sending.change (sending : Sending) (argumentsJson : String) : String :=
  match sending.kind with
  | .added start => start.getD argumentsJson
  | .delta piece => argumentsJson ++ piece.getD ""
  | _ => sending.call.arguments

def Sending.finishes (sending : Sending) : Bool := sending.kind = .itemDone

/-- The accumulator after an event of its call. -/
def absorb (current : ToolAccumulator) (sending : Sending) : ToolAccumulator where
  toolCallId := if sending.withCall then sending.call.callId else current.toolCallId
  name := if sending.named then sending.call.name else current.name
  argumentsJson := sending.change current.argumentsJson
  emitted := current.emitted || sending.finishes

def opened (sending : Sending) : ToolAccumulator where
  toolCallId := if sending.withCall then sending.call.callId else sending.call.itemId
  name := ""
  argumentsJson := ""
  emitted := false

def summary : List Sending → ToolAccumulator
  | [] => ⟨"", "", "", false⟩
  | first :: rest => (first :: rest).foldl absorb (opened first)

def carries (identity : String) (group : List Sending) : Bool :=
  group.any (fun sending => sending.identities.contains identity)

def groupOf (groups : List (List Sending)) (identity : String) : Option Nat :=
  groups.findIdx? (carries identity)

def byCall (groups : List (List Sending)) (sending : Sending) : Option Nat :=
  if sending.withCall then groupOf groups sending.call.callId else none

def byItem (groups : List (List Sending)) (sending : Sending) : Option Nat :=
  if sending.withItem then groupOf groups sending.call.itemId else none

/-- The place of an event's group: none when its identities lead to two groups, the end of
the list when they lead to none. -/
def placeOf (groups : List (List Sending)) (sending : Sending) : Option Nat :=
  if byCall groups sending = none ∨ byItem groups sending = none ∨
      byCall groups sending = byItem groups sending then
    some (((byCall groups sending).or (byItem groups sending)).getD groups.length)
  else none

def insertAt (groups : List (List Sending)) (place : Nat) (sending : Sending) :
    List (List Sending) :=
  if place < groups.length then groups.modify place (fun group => group ++ [sending])
  else groups ++ [[sending]]

def eventOf (group : List Sending) : ToolCallEvent :=
  ⟨(summary group).toolCallId, (summary group).name, orEmptyObject (summary group).argumentsJson⟩

/-- An event joins its group; the first that finishes the item emits the call. -/
def groupStep (groups : List (List Sending)) (sending : Sending) :
    Option (List ToolCallEvent × List (List Sending)) :=
  match placeOf groups sending with
  | none => none
  | some place =>
    let before := (groups[place]?).getD []
    let after := before ++ [sending]
    if sending.named = true ∧ sending.call.name = "" then none
    else if sending.finishes = true ∧ (summary before).emitted = false then
      if (summary after).name = "" then none
      else some ([eventOf after], insertAt groups place sending)
    else some ([], insertAt groups place sending)

def runGroups : List (List Sending) → List Sending →
    Option (List ToolCallEvent × List (List Sending))
  | groups, [] => some ([], groups)
  | groups, sending :: rest =>
    (groupStep groups sending).bind (fun step =>
      (runGroups step.2 rest).map (fun later => (step.1 ++ later.1, later.2)))

theorem summary_append (some_event : group ≠ []) (sending : Sending) :
    summary (group ++ [sending]) = absorb (summary group) sending := by
  cases group with
  | nil => exact absurd rfl some_event
  | cons first rest =>
    rw [List.cons_append, summary, summary, ← List.cons_append, List.foldl_append]
    rfl

variable {place : Nat} {names : List String} {response : Response names}

/-- Each group has events of one call, and no identity leads to two groups. -/
structure Coherent (groups : List (List Sending)) : Prop where
  filled : ∀ group ∈ groups, group ≠ []
  one_call : ∀ group ∈ groups, ∀ first ∈ group, ∀ second ∈ group, first.call = second.call
  separate : ∀ (identity : String) (first second : Nat) (group other : List Sending),
    groups[first]? = some group → groups[second]? = some other →
    carries identity group = true → carries identity other = true → first = second

variable {groups : List (List Sending)}

theorem groupOf_some (found : groupOf groups identity = some place) :
    ∃ group, groups[place]? = some group ∧ carries identity group = true := by
  unfold groupOf at found
  rw [List.findIdx?_eq_some_iff_getElem] at found
  obtain ⟨inside, carried, _⟩ := found
  exact ⟨groups[place], List.getElem?_eq_getElem inside, carried⟩

theorem groupOf_none :
    groupOf groups identity = none ↔ ∀ group ∈ groups, carries identity group = false := by
  exact List.findIdx?_eq_none_iff

theorem groupOf_carried (coherent : Coherent groups) (at_place : groups[place]? = some group)
    (carried : carries identity group = true) : groupOf groups identity = some place := by
  cases found : groupOf groups identity with
  | none =>
    have not_carried := groupOf_none.1 found group (List.mem_of_getElem? at_place)
    rw [carried] at not_carried
    cases not_carried
  | some other =>
    obtain ⟨otherGroup, at_other, otherCarried⟩ := groupOf_some found
    rw [coherent.separate identity other place otherGroup group at_other at_place otherCarried
      carried]

theorem groupOf_length (found : groupOf groups identity = some place) : place < groups.length := by
  obtain ⟨group, at_place, _⟩ := groupOf_some found
  exact (List.getElem?_eq_some_iff.1 at_place).1

theorem or_place {first second : Option Nat} {last : Nat}
    (agree : first = none ∨ second = none ∨ first = second)
    (isPlace : (first.or second).getD last = place) :
    (first = none ∨ first = some place) ∧ (second = none ∨ second = some place) ∧
      (first = some place ∨ second = some place ∨
        (place = last ∧ first = none ∧ second = none)) := by
  cases first with
  | none =>
    cases second with
    | none => exact ⟨Or.inl rfl, Or.inl rfl, Or.inr (Or.inr ⟨isPlace.symm, rfl, rfl⟩)⟩
    | some found =>
      have same : some found = some place := congrArg some isPlace
      exact ⟨Or.inl rfl, Or.inr same, Or.inr (Or.inl same)⟩
  | some found =>
    have same : some found = some place := congrArg some isPlace
    cases second with
    | none => exact ⟨Or.inr same, Or.inl rfl, Or.inl same⟩
    | some other =>
      rcases agree with none | none | both
      · cases none
      · cases none
      · exact ⟨Or.inr same, Or.inr (both ▸ same), Or.inl same⟩

/-- The identities of an event lead to its place or to no group, and the place is a new one
if none of them leads to a group. -/
theorem placeOf_spec (placed : placeOf groups sending = some place) :
    (∀ identity ∈ sending.identities, groupOf groups identity = none ∨
      groupOf groups identity = some place) ∧
    ((∃ identity ∈ sending.identities, groupOf groups identity = some place) ∨
      (place = groups.length ∧ ∀ identity ∈ sending.identities,
        groupOf groups identity = none)) := by
  obtain ⟨agree, isPlace⟩ := Option.ite_none_right_eq_some.1 placed
  obtain ⟨ofCall, ofItem, reached⟩ := or_place agree (Option.some.inj isPlace)
  unfold byCall at ofCall reached
  unfold byItem at ofItem reached
  constructor
  · intro identity mem
    rcases mem_identities.1 mem with ⟨withCall, rfl⟩ | ⟨withItem, rfl⟩
    · rw [if_pos withCall] at ofCall
      exact ofCall
    · rw [if_pos withItem] at ofItem
      exact ofItem
  · rcases reached with isCall | isItem | ⟨isLast, noCall, noItem⟩
    · split_ifs at isCall with withCall
      exact Or.inl ⟨_, mem_identities.2 (Or.inl ⟨withCall, rfl⟩), isCall⟩
    · split_ifs at isItem with withItem
      exact Or.inl ⟨_, mem_identities.2 (Or.inr ⟨withItem, rfl⟩), isItem⟩
    refine Or.inr ⟨isLast, ?_⟩
    intro identity mem
    rcases mem_identities.1 mem with ⟨withCall, rfl⟩ | ⟨withItem, rfl⟩
    · rw [if_pos withCall] at noCall
      exact noCall
    · rw [if_pos withItem] at noItem
      exact noItem

theorem placeOf_total {sending : Sending} {place : Nat}
    (one : ∀ identity ∈ sending.identities, groupOf groups identity = none ∨
      groupOf groups identity = some place) : ∃ found, placeOf groups sending = some found := by
  unfold placeOf
  rw [if_pos]
  · exact ⟨_, rfl⟩
  unfold byCall byItem
  cases withCall : sending.withCall with
  | false => exact Or.inl rfl
  | true =>
    cases withItem : sending.withItem with
    | false => exact Or.inr (Or.inl rfl)
    | true =>
      have ofCall := one _ (mem_identities.2 (Or.inl ⟨withCall, rfl⟩))
      have ofItem := one _ (mem_identities.2 (Or.inr ⟨withItem, rfl⟩))
      rcases ofCall with noCall | isCall
      · exact Or.inl noCall
      · rcases ofItem with noItem | isItem
        · exact Or.inr (Or.inl noItem)
        · exact Or.inr (Or.inr (isCall.trans isItem.symm))

theorem carries_append (identity : String) (group : List Sending) (sending : Sending) :
    carries identity (group ++ [sending]) =
      (carries identity group || sending.identities.contains identity) := by
  unfold carries
  rw [List.any_append, List.any_cons, List.any_nil, Bool.or_false]

theorem place_length (placed : placeOf groups sending = some place) : place ≤ groups.length := by
  rcases (placeOf_spec placed).2 with ⟨identity, _, found⟩ | ⟨isLast, _⟩
  · exact Nat.le_of_lt (groupOf_length found)
  · exact Nat.le_of_eq isLast

theorem insertAt_get (inside : place ≤ groups.length) (sending : Sending) (other : Nat) :
    (insertAt groups place sending)[other]? =
      if other = place then some ((groups[place]?).getD [] ++ [sending]) else groups[other]? := by
  unfold insertAt
  split_ifs with old same same
  · rw [same, List.getElem?_modify_eq, List.getElem?_eq_getElem old]
    rfl
  · rw [List.getElem?_modify_ne _ _ (Ne.symm same)]
  · have isLast : place = groups.length := by omega
    rw [same, isLast, List.getElem?_append_right (Nat.le_refl _), Nat.sub_self,
      List.getElem?_eq_none (Nat.le_refl groups.length)]
    rfl
  · rcases Nat.lt_trichotomy other groups.length with less | same | more
    · rw [List.getElem?_append_left less]
    · omega
    · rw [List.getElem?_eq_none (by simp; omega), List.getElem?_eq_none (by omega)]

theorem carried_identity (carried : carries identity group = true) :
    ∃ sending ∈ group, identity ∈ sending.identities := by
  unfold carries at carried
  rw [List.any_eq_true] at carried
  obtain ⟨sending, mem, contained⟩ := carried
  exact ⟨sending, mem, List.contains_iff_mem.1 contained⟩

section

variable (coherent : Coherent groups) (sent : ∀ group ∈ groups, ∀ sending ∈ group, sending ∈
  response.sendings) (isSent : sending ∈ response.sendings) (placed : placeOf groups sending =
  some place)

include coherent sent isSent placed

theorem joined_call : ∀ other ∈ (groups[place]?).getD [], other.call = sending.call := by
  rcases (placeOf_spec placed).2 with ⟨identity, mem, found⟩ | ⟨isLast, _⟩
  · obtain ⟨group, at_place, carried⟩ := groupOf_some found
    obtain ⟨shared, inGroup, sharedMem⟩ := carried_identity carried
    have inGroups := List.mem_of_getElem? at_place
    have same : shared.call = sending.call := by
      by_contra different
      exact response.apart shared (sent group inGroups shared inGroup) sending isSent different
        identity (sending_identities sharedMem) (sending_identities mem)
    rw [at_place, Option.getD_some]
    intro other inOther
    rw [coherent.one_call group inGroups other inOther shared inGroup, same]
  · rw [isLast, List.getElem?_eq_none (Nat.le_refl _)]
    intro other inOther
    cases inOther

theorem insertAt_coherent : Coherent (insertAt groups place sending) := by
  have inside := place_length placed
  have calls := joined_call coherent sent isSent placed
  have leads := (placeOf_spec placed).1
  constructor
  · intro group mem
    obtain ⟨other, at_other⟩ := List.mem_iff_getElem?.1 mem
    rw [insertAt_get inside] at at_other
    split_ifs at at_other
    · cases at_other
      exact List.append_ne_nil_of_right_ne_nil _ (List.cons_ne_nil _ _)
    · exact coherent.filled group (List.mem_of_getElem? at_other)
  · intro group mem
    obtain ⟨other, at_other⟩ := List.mem_iff_getElem?.1 mem
    rw [insertAt_get inside] at at_other
    split_ifs at at_other
    · cases at_other
      have own : ∀ first ∈ (groups[place]?).getD [] ++ [sending], first.call = sending.call := by
        intro first isFirst
        rcases List.mem_append.1 isFirst with old | new
        · exact calls first old
        · rw [List.mem_singleton.1 new]
      intro first isFirst second isSecond
      rw [own first isFirst, own second isSecond]
    · exact coherent.one_call group (List.mem_of_getElem? at_other)
  · intro identity first second group other at_first at_second carried otherCarried
    rw [insertAt_get inside] at at_first at_second
    have own : ∀ index old, groups[index]? = some old → carries identity old = true →
        carries identity ((groups[place]?).getD [] ++ [sending]) = true → index = place := by
      intro index old at_index oldCarried newCarried
      have found := groupOf_carried coherent at_index oldCarried
      rw [carries_append, Bool.or_eq_true] at newCarried
      rcases newCarried with before | fresh
      · cases at_place : groups[place]? with
        | none =>
          rw [at_place] at before
          cases before
        | some placeGroup =>
          rw [at_place, Option.getD_some] at before
          exact coherent.separate identity index place old placeGroup at_index at_place
            oldCarried before
      · rcases leads identity (List.contains_iff_mem.1 fresh) with none | same
        · rw [found] at none
          cases none
        · rw [found] at same
          exact Option.some.inj same
    split_ifs at at_first at_second with isFirst isSecond isSecond
    · rw [isFirst, isSecond]
    · cases at_first
      rw [isFirst, own second other at_second otherCarried carried]
    · cases at_second
      rw [isSecond, own first group at_first carried otherCarried]
    · exact coherent.separate identity first second group other at_first at_second carried
        otherCarried

end

theorem groupOf_insertAt (placed : placeOf groups sending = some place)
    (coherent : Coherent (insertAt groups place sending)) (identity : String) :
    groupOf (insertAt groups place sending) identity =
      if identity ∈ sending.identities then some place else groupOf groups identity := by
  have inside := place_length placed
  have at_place := insertAt_get inside sending place
  rw [if_pos rfl] at at_place
  split_ifs with carried
  · apply groupOf_carried coherent at_place
    rw [carries_append, List.contains_iff_mem.2 carried, Bool.or_true]
  have kept : ∀ group, carries identity (group ++ [sending]) = carries identity group := by
    intro group
    have absent : sending.identities.contains identity = false := by
      rw [Bool.eq_false_iff]
      intro contained
      exact carried (List.contains_iff_mem.1 contained)
    rw [carries_append, absent, Bool.or_false]
  cases found : groupOf groups identity with
  | some other =>
    obtain ⟨group, at_other, isCarried⟩ := groupOf_some found
    have at_new := insertAt_get inside sending other
    split_ifs at at_new with same
    · rw [same] at at_other ⊢
      apply groupOf_carried coherent at_place
      rw [kept, at_other]
      exact isCarried
    · rw [at_other] at at_new
      exact groupOf_carried coherent at_new isCarried
  | none =>
    rw [groupOf_none] at found ⊢
    intro group mem
    obtain ⟨other, at_other⟩ := List.mem_iff_getElem?.1 mem
    rw [insertAt_get inside] at at_other
    split_ifs at at_other
    · cases at_other
      rw [kept]
      cases old : groups[place]? with
      | none => rfl
      | some oldGroup => exact found oldGroup (List.mem_of_getElem? old)
    · exact found group (List.mem_of_getElem? at_other)

end OpenRill.Provider.CallGroups
