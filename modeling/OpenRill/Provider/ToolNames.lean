import OpenRill.Lib.Checked
import OpenRill.Lib.Text
import Mathlib.Data.List.Dedup
import Mathlib.Data.List.Induction

/-!
# Names of tools at a provider

A provider takes only short names of plain characters for its functions, so every canonical
name of a request gets an alias: itself, or a readable prefix with a digest. The aliases are
inverted when the provider calls a function.
-/

namespace OpenRill.Provider.ToolNames

open OpenRill.Lib OpenRill.Lib.Checked

inductive ErrorCode where
  | modelProfileInvalid
  | modelStreamInvalid
  | modelTransportFailed
  | modelProviderFailed
  deriving DecidableEq

structure ModelAdapterError where
  code : ErrorCode
  message : String
  retryable : Bool
  deriving DecidableEq

inductive ModelContentBlock where
  | text
  | toolCall (name : String)
  | toolResult
  deriving DecidableEq

structure ModelRequest where
  tools : List String
  messages : List (List ModelContentBlock)

structure ToolNameAliases where
  canonicalToProvider : List (String × String)
  providerToCanonical : List (String × String)
  deriving DecidableEq

def isNameChar (char : Char) : Bool := char.isAlphanum || char = '_' || char = '-'

/-- `OPENAI_FUNCTION_NAME`. -/
def isFunctionName (name : String) : Bool :=
  decide (1 ≤ name.toList.length) && decide (name.toList.length ≤ 64) && name.toList.all isNameChar

def readableAlias (canonicalName : String) : String :=
  Text.sliceUnits 64 (String.ofList (canonicalName.toList.flatMap (fun char =>
    if isNameChar char then [char] else List.replicate (Text.codeUnits char) '_')))

def hashedAlias (shortSha256 : String → String) (canonicalName : String) : String :=
  let digest := shortSha256 canonicalName
  let sanitized := if readableAlias canonicalName = "" then "tool" else readableAlias canonicalName
  Text.sliceUnits (64 - Text.utf16Length digest - 1) sanitized ++ "_" ++ digest

def calledName : ModelContentBlock → Option String
  | .toolCall name => some name
  | _ => none

def canonicalNames (request : ModelRequest) : List String :=
  (request.tools ++ request.messages.flatMap (fun content => content.filterMap calledName)).dedup

def ToolNameAliases.add (aliases : ToolNameAliases) (canonicalName providerName : String) :
    ToolNameAliases where
  canonicalToProvider := (canonicalName, providerName) :: aliases.canonicalToProvider
  providerToCanonical := (providerName, canonicalName) :: aliases.providerToCanonical

def sorted (names : List String) : List String :=
  names.mergeSort (fun first second => decide (first ≤ second))

def addEncoded (shortSha256 : String → String) (aliases : ToolNameAliases)
    (canonicalName : String) : Except ModelAdapterError ToolNameAliases :=
  let providerName := hashedAlias shortSha256 canonicalName
  if isFunctionName providerName = false ∨
      (aliases.providerToCanonical.lookup providerName).isSome then
    .error ⟨.modelProfileInvalid,
      "OpenAI function alias collision for canonical Tool name: " ++ canonicalName, false⟩
  else .ok (aliases.add canonicalName providerName)

def plainAliases (names : List String) : ToolNameAliases :=
  names.foldl (fun aliases name => aliases.add name name) ⟨[], []⟩

def buildToolNameAliases (shortSha256 : String → String) (request : ModelRequest) :
    Except ModelAdapterError ToolNameAliases :=
  let validNames := sorted ((canonicalNames request).filter isFunctionName)
  let encodedNames := sorted ((canonicalNames request).filter (fun name => !isFunctionName name))
  encodedNames.foldlM (addEncoded shortSha256) (plainAliases validNames)

/-- An empty canonical name counts as unknown. -/
def canonicalToolName (aliases : ToolNameAliases) (providerName : String) :
    Except ModelAdapterError String :=
  match aliases.providerToCanonical.lookup providerName with
  | some canonicalName =>
    if canonicalName = "" then
      .error ⟨.modelStreamInvalid,
        "provider returned an unknown function name: " ++ providerName, false⟩
    else .ok canonicalName
  | none =>
    .error ⟨.modelStreamInvalid,
      "provider returned an unknown function name: " ++ providerName, false⟩

variable {aliases : ToolNameAliases} {names : List String} {name : String}
variable {shortSha256 : String → String}

/-- Each of the names has an alias that leads back to it, and there are no other aliases. -/
structure Inverted (aliases : ToolNameAliases) (names : List String) : Prop where
  there : ∀ name ∈ names, ∃ providerName, isFunctionName providerName = true ∧
    aliases.canonicalToProvider.lookup name = some providerName ∧
    aliases.providerToCanonical.lookup providerName = some name

theorem inverted_add (inverted : Inverted aliases names) {providerName : String}
    (new : name ∉ names) (free : aliases.providerToCanonical.lookup providerName = none)
    (isName : isFunctionName providerName = true) :
    Inverted (aliases.add name providerName) (names ++ [name]) := by
  constructor
  intro other mem
  rcases List.mem_append.1 mem with old | added
  · obtain ⟨otherProvider, isOther, there, back⟩ := inverted.there other old
    refine ⟨otherProvider, isOther, ?_, ?_⟩
    · have distinct : (other == name) = false := by
        rw [beq_eq_false_iff_ne]
        rintro rfl
        exact new old
      rw [ToolNameAliases.add, List.lookup_cons, distinct]
      exact there
    · have distinct : (otherProvider == providerName) = false := by
        rw [beq_eq_false_iff_ne]
        rintro rfl
        rw [free] at back
        cases back
      rw [ToolNameAliases.add, List.lookup_cons, distinct]
      exact back
  · obtain rfl : other = name := List.mem_singleton.1 added
    refine ⟨providerName, isName, ?_, ?_⟩
    · rw [ToolNameAliases.add, List.lookup_cons, beq_self_eq_true]
    · rw [ToolNameAliases.add, List.lookup_cons, beq_self_eq_true]

theorem inverted_plain (valid : ∀ name ∈ names, isFunctionName name = true)
    (distinct : names.Nodup) :
    Inverted (plainAliases names) names := by
  suffices whole : Inverted (plainAliases names) names ∧ ∀ name, name ∉ names →
      (plainAliases names).providerToCanonical.lookup name = none from whole.1
  induction names using List.reverseRecOn with
  | nil => exact ⟨⟨fun name mem => nomatch mem⟩, fun name _ => rfl⟩
  | append_singleton names name ih =>
    rw [List.nodup_append] at distinct
    have new : name ∉ names := fun mem => distinct.2.2 name mem name List.mem_cons_self rfl
    have before := ih (fun other mem => valid other (List.mem_append_left _ mem)) distinct.1
    have last : plainAliases (names ++ [name]) = (plainAliases names).add name name := by
      rw [plainAliases, List.foldl_append]
      rfl
    rw [last]
    constructor
    · exact inverted_add before.1 new (before.2 name new)
        (valid name (List.mem_append_right _ List.mem_cons_self))
    · intro other outside
      rw [List.mem_append, List.mem_singleton, not_or] at outside
      rw [ToolNameAliases.add, List.lookup_cons, beq_eq_false_iff_ne.2 outside.2]
      exact before.2 other outside.1

theorem inverted_encoded {encoded : List String} {reached : ToolNameAliases}
    (inverted : Inverted aliases names) (distinct : (names ++ encoded).Nodup)
    (added : encoded.foldlM (addEncoded shortSha256) aliases = .ok reached) :
    Inverted reached (names ++ encoded) := by
  induction encoded generalizing names aliases with
  | nil =>
    cases added
    rw [List.append_nil]
    exact inverted
  | cons name encoded ih =>
    obtain ⟨next, step, later⟩ := (bind_ok_iff _ _ _).1 added
    have new : name ∉ names := by
      intro mem
      rw [List.nodup_append] at distinct
      exact distinct.2.2 name mem name List.mem_cons_self rfl
    unfold addEncoded at step
    dsimp only at step
    split_ifs at step with collision
    rw [not_or] at collision
    cases step
    have isName : isFunctionName (hashedAlias shortSha256 name) = true := by
      rw [← Bool.not_eq_false]
      exact collision.1
    have free := Option.not_isSome_iff_eq_none.1 collision.2
    rw [List.append_cons] at distinct ⊢
    exact ih (inverted_add inverted new free isName) distinct later

theorem mem_sorted : name ∈ sorted names ↔ name ∈ names :=
  List.mem_mergeSort

theorem sorted_nodup (distinct : names.Nodup) : (sorted names).Nodup :=
  (List.mergeSort_perm names _).nodup_iff.2 distinct

theorem aliases_inverted {request : ModelRequest}
    (built : buildToolNameAliases shortSha256 request = .ok aliases)
    (mem : name ∈ canonicalNames request) :
    ∃ providerName, isFunctionName providerName = true ∧
      aliases.canonicalToProvider.lookup name = some providerName ∧
      aliases.providerToCanonical.lookup providerName = some name := by
  have distinct : (canonicalNames request).Nodup := List.nodup_dedup _
  have plain : Inverted (plainAliases (sorted ((canonicalNames request).filter isFunctionName)))
      (sorted ((canonicalNames request).filter isFunctionName)) := by
    apply inverted_plain
    · intro other isOther
      exact (List.mem_filter.1 (mem_sorted.1 isOther)).2
    · exact sorted_nodup (distinct.filter _)
  have whole := inverted_encoded plain (by
    rw [List.nodup_append]
    refine ⟨sorted_nodup (distinct.filter _), sorted_nodup (distinct.filter _), ?_⟩
    intro first isFirst second isSecond same
    have valid := (List.mem_filter.1 (mem_sorted.1 isFirst)).2
    have encoded := (List.mem_filter.1 (mem_sorted.1 isSecond)).2
    rw [← same, valid] at encoded
    cases encoded) built
  apply whole.there
  rw [List.mem_append, mem_sorted, mem_sorted, List.mem_filter, List.mem_filter]
  cases isFunctionName name with
  | true => exact Or.inl ⟨mem, rfl⟩
  | false => exact Or.inr ⟨mem, rfl⟩

end OpenRill.Provider.ToolNames
