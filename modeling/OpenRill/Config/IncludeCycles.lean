import Mathlib
import OpenRill.Config.IncludeTrees

/-!
# Include graphs with a cycle

The files a walk has left are closed under inclusion and none of them is on a cycle. A walk that
ends without an error would leave all files of the graph, so on a cyclic graph it ends with the
error for a cycle.
-/

namespace OpenRill.Config.IncludeCycles

open OpenRill.Lib OpenRill.Lib.Paths OpenRill.Lib.Checked
open OpenRill.Config.Sources OpenRill.Config.IncludeTrees
open Relation (ReflTransGen TransGen)

variable {surroundings : Surroundings} {sourcePath root file : Path}
variable {files stack visited : List Path} {limits : IncludeLimits} {Node : Type}
variable {Edge : Node → Node → Prop} {nodes : List Node} {node : Node}

/-- Every edge from the nodes leads to one of them, and none of them is on a cycle. -/
structure Settled (Edge : Node → Node → Prop) (nodes : List Node) : Prop where
  closed : ∀ node ∈ nodes, ∀ target, Edge node target → target ∈ nodes
  acyclic : ∀ node ∈ nodes, ¬ TransGen Edge node node

theorem settled_nil : Settled Edge [] :=
  ⟨fun _ mem => (nomatch mem), fun _ mem => (nomatch mem)⟩

theorem settled_reaches (settled : Settled Edge nodes) {target : Node} (mem : node ∈ nodes)
    (reaches : ReflTransGen Edge node target) : target ∈ nodes := by
  induction reaches with
  | refl => exact mem
  | tail _ edge inside => exact settled.closed _ inside _ edge

theorem settled_add (settled : Settled Edge nodes) (new : node ∉ nodes)
    (leads : ∀ target, Edge node target → target ∈ nodes) : Settled Edge (nodes ++ [node]) := by
  constructor
  · intro other mem target edge
    rcases List.mem_append.1 mem with earlier | isNode
    · exact List.mem_append_left _ (settled.closed other earlier target edge)
    · obtain rfl := List.mem_singleton.1 isNode
      exact List.mem_append_left _ (leads target edge)
  · intro other mem cycle
    rcases List.mem_append.1 mem with earlier | isNode
    · exact settled.acyclic other earlier cycle
    · obtain rfl := List.mem_singleton.1 isNode
      obtain ⟨target, edge, back⟩ := TransGen.head'_iff.1 cycle
      exact new (settled_reaches settled (leads target edge) back)

section Graphs

variable (surroundings : Surroundings)

structure Lists (file : Path) (raw : String) (members : List (String × Json))
    (includes : List String) : Prop where
  isRaw : surroundings.disk.read file = .ok raw
  isParsed : surroundings.parse raw = .ok (.object members)
  listed : ∀ ownerPath, normalizeIncludeList (members.lookup "include") ownerPath = .ok includes

def Includes (file target : Path) : Prop :=
  ∃ raw members includes, Lists surroundings file raw members includes ∧
    ∃ path ∈ includes, realFile surroundings (resolvePath file.dropLast path) = .ok target

def Readable (files : List Path) (file : Path) : Prop :=
  ∃ raw members includes, Lists surroundings file raw members includes ∧
    ∀ path ∈ includes, isAbsolute path = false ∧
      ∃ target ∈ files, realFile surroundings (resolvePath file.dropLast path) = .ok target

structure IncludeGraph (sourcePath root : Path) (files : List Path) : Prop where
  distinct : files.Nodup
  isRoot : realFile surroundings sourcePath = .ok root
  rootIn : root ∈ files
  readable : ∀ file ∈ files, Readable surroundings files file

def fileBytes (file : Path) : Nat :=
  match surroundings.disk.read file with
  | .ok raw => byteLength raw
  | .error _ => 0

structure RootChain (root : Path) (chain : List Path) : Prop where
  linked : chain.IsChain (Includes surroundings)
  starts : chain.head? = some root

/-- A graph within the limits: no chain of distinct files is longer than the depth, fewer files
than the limit, and no more bytes. -/
structure GraphWithin (root : Path) (files : List Path) : Prop where
  depth : ∀ chain : List Path, chain.Nodup → RootChain surroundings root chain →
    chain.length ≤ surroundings.limits.maxDepth
  count : files.length < surroundings.limits.maxFiles
  bytes : (files.map (fileBytes surroundings)).sum ≤ surroundings.limits.maxTotalBytes

def Cyclic (root : Path) : Prop :=
  ∃ file, ReflTransGen (Includes surroundings) root file ∧
    TransGen (Includes surroundings) file file

end Graphs

variable {raw : String} {state : WalkState}

/-- What holds of a walk below the files of its stack. -/
structure Walking (surroundings : Surroundings) (files stack : List Path) (state : WalkState) :
    Prop where
  distinct : (state.visited ++ stack).Nodup
  inside : state.visited ++ stack ⊆ files
  settled : Settled (Includes surroundings) state.visited
  count : state.revisionEntries.length = (state.visited ++ stack).length
  bytes : state.totalBytes = ((state.visited ++ stack).map (fileBytes surroundings)).sum

theorem lists_determined {otherRaw : String} {members otherMembers : List (String × Json)}
    {includes otherIncludes : List String} (lists : Lists surroundings file raw members includes)
    (others : Lists surroundings file otherRaw otherMembers otherIncludes) :
    includes = otherIncludes := by
  have isRaw := lists.isRaw
  rw [others.isRaw] at isRaw
  cases isRaw
  have isParsed := lists.isParsed
  rw [others.isParsed] at isParsed
  cases isParsed
  have listed := lists.listed []
  rw [others.listed []] at listed
  cases listed
  rfl

theorem distinct_move (distinct : (visited ++ (stack ++ [file])).Nodup) :
    ((visited ++ [file]) ++ stack).Nodup := by
  rw [List.append_assoc]
  exact (List.Perm.append_left visited List.perm_append_comm).nodup_iff.1 distinct

theorem sum_move :
    ((visited ++ (stack ++ [file])).map (fileBytes surroundings)).sum =
      (((visited ++ [file]) ++ stack).map (fileBytes surroundings)).sum := by
  simp only [List.map_append, List.sum_append, List.map_cons, List.map_nil, List.sum_cons,
    List.sum_nil]
  omega

theorem walking_within (walking : Walking surroundings files stack state)
    (within : GraphWithin surroundings root files) :
    state.revisionEntries.length < surroundings.limits.maxFiles ∧
      state.totalBytes ≤ surroundings.limits.maxTotalBytes := by
  have below : List.Subperm (state.visited ++ stack) files :=
    List.subperm_of_subset walking.distinct walking.inside
  constructor
  · rw [walking.count]
    exact Nat.lt_of_le_of_lt below.length_le within.count
  obtain ⟨part, same, sublist⟩ := below
  have sums : (part.map (fileBytes surroundings)).sum ≤
      (files.map (fileBytes surroundings)).sum :=
    (sublist.map _).sum_le_sum fun _ _ => Nat.zero_le _
  rw [walking.bytes, ← (same.map _).sum_eq]
  exact Nat.le_trans sums within.bytes

theorem walking_opened {isRoot : Bool} (walking : Walking surroundings files stack state)
    (isRaw : surroundings.disk.read file = .ok raw) (mem : file ∈ files) (notAbove : file ∉ stack)
    (new : file ∉ state.visited) :
    Walking surroundings files (stack ++ [file]) (state.opened surroundings file raw isRoot) := by
  have isBytes : fileBytes surroundings file = byteLength raw := by
    rw [fileBytes, isRaw]
  constructor
  · change (state.visited ++ (stack ++ [file])).Nodup
    rw [← List.append_assoc, List.nodup_append]
    refine ⟨walking.distinct, List.nodup_singleton _, ?_⟩
    rintro path earlier other isFile rfl
    obtain rfl := List.mem_singleton.1 isFile
    rcases List.mem_append.1 earlier with visited | above
    · exact new visited
    · exact notAbove above
  · change state.visited ++ (stack ++ [file]) ⊆ files
    rw [← List.append_assoc]
    exact List.append_subset.2 ⟨walking.inside, List.cons_subset.2 ⟨mem, List.nil_subset _⟩⟩
  · exact walking.settled
  · have count := walking.count
    change (state.revisionEntries ++ [_]).length = (state.visited ++ (stack ++ [file])).length
    simp only [List.length_append, List.length_cons, List.length_nil] at count ⊢
    omega
  · have bytes := walking.bytes
    change state.totalBytes + byteLength raw =
      ((state.visited ++ (stack ++ [file])).map (fileBytes surroundings)).sum
    simp only [List.map_append, List.sum_append, List.map_cons, List.map_nil, List.sum_cons,
      List.sum_nil] at bytes ⊢
    omega

theorem walking_closed (walking : Walking surroundings files (stack ++ [file]) state)
    (leads : ∀ target, Includes surroundings file target → target ∈ state.visited) :
    Walking surroundings files stack (state.closed file) := by
  have new : file ∉ state.visited := by
    intro visited
    exact (List.nodup_append.1 walking.distinct).2.2 file visited file
      (List.mem_append_right _ List.mem_cons_self) rfl
  constructor
  · exact distinct_move walking.distinct
  · intro path mem
    apply walking.inside
    rcases List.mem_append.1 mem with left | above
    · rcases List.mem_append.1 left with visited | isFile
      · exact List.mem_append_left _ visited
      · exact List.mem_append_right _ (List.mem_append_right _ isFile)
    · exact List.mem_append_right _ (List.mem_append_left _ above)
  · exact settled_add walking.settled new leads
  · have count := walking.count
    change state.revisionEntries.length = ((state.visited ++ [file]) ++ stack).length
    simp only [List.length_append] at count ⊢
    omega
  · exact walking.bytes.trans sum_move

def Ends (surroundings : Surroundings) (files stack : List Path) (visited targets : List Path) :
    Except ConfigError (Json × WalkState) → Prop
  | .ok (_, reached) => Walking surroundings files stack reached ∧
      visited ⊆ reached.visited ∧ targets ⊆ reached.visited
  | .error failure => ∃ message includePath,
      failure = .include .includeCycle message includePath

theorem rootChain_add {target : Path} (chain : RootChain surroundings root (stack ++ [file]))
    (edge : Includes surroundings file target) :
    RootChain surroundings root (stack ++ [file] ++ [target]) := by
  constructor
  · refine chain.linked.append (List.isChain_singleton _) ?_
    intro last isLast next isNext
    rw [List.getLast?_append] at isLast
    cases isLast
    cases isNext
    exact edge
  · rw [List.head?_append, chain.starts]
    rfl

theorem includes_end {levels : Nat} {stack : List Path} {file : Path}
    (visits : ∀ candidatePath target state, target ∈ files →
      realFile surroundings candidatePath = .ok target →
        Includes surroundings file target → Walking surroundings files stack state →
          Ends surroundings files stack state.visited [target]
            (visit surroundings levels stack candidatePath false state))
    (paths : List String) (merged : Json) (state : WalkState)
    (walking : Walking surroundings files stack state)
    (each : ∀ path ∈ paths, isAbsolute path = false ∧ ∃ target ∈ files,
      realFile surroundings (resolvePath file.dropLast path) = .ok target ∧
        Includes surroundings file target) :
    match paths.foldlM (mergeInclude (fun path next =>
        visit surroundings levels stack path false next) file) (merged, state) with
    | .ok (_, reached) => Walking surroundings files stack reached ∧
        state.visited ⊆ reached.visited ∧ ∀ path ∈ paths, ∀ target,
          realFile surroundings (resolvePath file.dropLast path) = .ok target →
            target ∈ reached.visited
    | .error failure => ∃ message includePath,
        failure = .include .includeCycle message includePath := by
  induction paths generalizing merged state with
  | nil => exact ⟨walking, fun _ mem => mem, fun _ mem => (nomatch mem)⟩
  | cons path paths ih =>
    obtain ⟨relative, target, mem, isTarget, edge⟩ := each path List.mem_cons_self
    have first := visits _ target state mem isTarget edge walking
    rw [List.foldlM_cons]
    have merges : mergeInclude (fun path next =>
        visit surroundings levels stack path false next) file (merged, state) path =
        (visit surroundings levels stack (resolvePath file.dropLast path) false state).map
          (fun result => (deepMergeConfig merged result.1, result.2)) := by
      rw [mergeInclude, require, if_pos relative]
      cases visit surroundings levels stack (resolvePath file.dropLast path) false state with
      | error failure => rfl
      | ok result => rfl
    rw [merges]
    cases visited : visit surroundings levels stack (resolvePath file.dropLast path) false
        state with
    | error failure =>
      rw [visited] at first
      exact first
    | ok result =>
      rw [visited] at first
      obtain ⟨next, grown, inNext⟩ := first
      dsimp only [Except.map, bind, Except.bind]
      have rest := ih (deepMergeConfig merged result.1) result.2 next
        fun other isOther => each other (List.mem_cons_of_mem _ isOther)
      revert rest
      cases paths.foldlM (mergeInclude (fun path next =>
          visit surroundings levels stack path false next) file)
          (deepMergeConfig merged result.1, result.2) with
      | error failure => exact fun rest => rest
      | ok final =>
        rintro ⟨last, later, all⟩
        refine ⟨last, fun _ isSeen => later (grown isSeen), ?_⟩
        intro other isOther otherTarget isReal
        rcases List.mem_cons.1 isOther with rfl | inRest
        · rw [isTarget] at isReal
          cases isReal
          exact later (inNext List.mem_cons_self)
        · exact all other inRest otherTarget isReal

section

variable (graph : IncludeGraph surroundings sourcePath root files)
include graph

theorem visit_ends (within : GraphWithin surroundings root files) (levels : Nat) (stack : List Path)
    (candidatePath target : Path) (isRoot : Bool) (state : WalkState)
    (deep : levels + stack.length = surroundings.limits.maxDepth + 1)
    (isTarget : realFile surroundings candidatePath = .ok target) (mem : target ∈ files)
    (chain : RootChain surroundings root (stack ++ [target]))
    (walking : Walking surroundings files stack state) :
    Ends surroundings files stack state.visited [target]
      (visit surroundings levels stack candidatePath isRoot state) := by
  induction levels generalizing stack candidatePath target isRoot state with
  | zero =>
    -- the stack itself is a chain of distinct files
    exfalso
    have stackDistinct : stack.Nodup := (List.nodup_append.1 walking.distinct).2.1
    cases stack with
    | nil => simp at deep
    | cons first rest =>
      have stackChain : RootChain surroundings root (first :: rest) :=
        ⟨chain.linked.left_of_append, chain.starts⟩
      have short := within.depth _ stackDistinct stackChain
      omega
  | succ levels ih =>
    have counted := (walking_within walking within).1
    rw [visit, require, if_pos counted]
    dsimp only [bind, Except.bind]
    rw [isTarget]
    dsimp only
    by_cases notAbove : target ∉ stack
    · rw [require, if_pos notAbove]
      by_cases seen : target ∈ state.visited
      · rw [if_pos seen]
        refine ⟨walking, fun _ isSeen => isSeen, ?_⟩
        exact List.cons_subset.2 ⟨seen, List.nil_subset _⟩
      rw [if_neg seen]
      obtain ⟨raw, members, includes, lists, each⟩ := graph.readable target mem
      have isRead : readRaw surroundings target = .ok raw := by
        rw [readRaw, lists.isRaw]
      have opened : Walking surroundings files (stack ++ [target])
          (state.opened surroundings target raw isRoot) :=
        walking_opened walking lists.isRaw mem notAbove seen
      rw [isRead]
      dsimp only
      rw [require, if_pos (walking_within opened within).2]
      rw [parseSource, lists.isParsed]
      dsimp only [recordMembers]
      rw [lists.listed]
      dsimp only
      have edges : ∀ path ∈ includes, isAbsolute path = false ∧ ∃ other ∈ files,
          realFile surroundings (resolvePath target.dropLast path) = .ok other ∧
            Includes surroundings target other := by
        intro path isPath
        obtain ⟨relative, other, inside, isOther⟩ := each path isPath
        exact ⟨relative, other, inside, isOther, raw, members, includes, lists, path, isPath,
          isOther⟩
      have below := @includes_end surroundings files levels (stack ++ [target]) target ?_
        includes (.object []) _ opened edges
      · revert below
        cases includes.foldlM (mergeInclude (fun path next =>
            visit surroundings levels (stack ++ [target]) path false next) target)
            (.object [], state.opened surroundings target raw isRoot) with
        | error failure => exact fun below => below
        | ok result =>
          rintro ⟨reached, grown, all⟩
          have leads : ∀ other, Includes surroundings target other →
              other ∈ result.2.visited := by
            rintro other ⟨otherRaw, otherMembers, otherIncludes, others, path, isPath, isReal⟩
            rw [← lists_determined lists others] at isPath
            exact all path isPath other isReal
          refine ⟨walking_closed reached leads, ?_, ?_⟩
          · intro path isSeen
            exact List.mem_append_left _ (grown isSeen)
          · exact List.cons_subset.2
              ⟨List.mem_append_right _ List.mem_cons_self, List.nil_subset _⟩
      · intro nextPath other next inside isOther edge nextWalking
        apply ih (stack ++ [target]) nextPath other false next
        · rw [List.length_append, List.length_singleton]
          omega
        · exact isOther
        · exact inside
        · exact rootChain_add chain edge
        · exact nextWalking
    · rw [require, if_neg notAbove]
      exact ⟨_, _, rfl⟩

theorem resolve_cyclic (within : GraphWithin surroundings root files)
    (cyclic : Cyclic surroundings root) :
    ∃ message includePath, resolveConfigSource surroundings sourcePath =
      .error (.include .includeCycle message includePath) := by
  have start : Walking surroundings files [] WalkState.initial := by
    constructor
    · exact List.nodup_nil
    · exact List.nil_subset _
    · exact settled_nil
    · rfl
    · rfl
  have chain : RootChain surroundings root ([] ++ [root]) := ⟨List.isChain_singleton _, rfl⟩
  have ended := visit_ends graph within (surroundings.limits.maxDepth + 1) [] sourcePath root true
    WalkState.initial rfl graph.isRoot graph.rootIn chain start
  cases walked : visit surroundings (surroundings.limits.maxDepth + 1) [] sourcePath true
      WalkState.initial with
  | error failure =>
    rw [walked] at ended
    obtain ⟨message, includePath, rfl⟩ := ended
    refine ⟨message, includePath, ?_⟩
    rw [resolveConfigSource, walked]
    rfl
  | ok result =>
    exfalso
    rw [walked] at ended
    obtain ⟨reached, grown, inside⟩ := ended
    obtain ⟨file, reaches, cycle⟩ := cyclic
    have left : file ∈ result.2.visited :=
      settled_reaches reached.settled (inside List.mem_cons_self) reaches
    exact reached.settled.acyclic file left cycle

theorem chain_inside {chain : List Path} (rooted : RootChain surroundings root chain) :
    chain ⊆ files := by
  obtain ⟨linked, starts⟩ := rooted
  cases chain with
  | nil => exact List.nil_subset _
  | cons first rest =>
    cases starts
    have keeps : ∀ file target, Includes surroundings file target → file ∈ files →
        target ∈ files := by
      rintro file target ⟨raw, members, includes, lists, path, isPath, isTarget⟩ mem
      obtain ⟨_, _, others, otherLists, each⟩ := graph.readable file mem
      rw [lists_determined lists otherLists] at isPath
      obtain ⟨relative, other, inside, isOther⟩ := each path isPath
      rw [isTarget] at isOther
      cases isOther
      exact inside
    intro file mem
    exact linked.induction (fun file => file ∈ files) (root :: rest)
      (fun _ _ edge inside => keeps _ _ edge inside) (fun _ => graph.rootIn) file mem

theorem few_files_depth (few : files.length ≤ surroundings.limits.maxDepth) (chain : List Path)
    (distinct : chain.Nodup) (rooted : RootChain surroundings root chain) :
    chain.length ≤ surroundings.limits.maxDepth := by
  have below := List.subperm_of_subset distinct (chain_inside graph rooted)
  exact Nat.le_trans below.length_le few

end

def sampleFiles : List (Path × String × List (String × Json)) :=
  [(["config", "diamond.yaml"], "include: [\"first.yaml\", \"second.yaml\"]\n",
      [("include", .list [.text "first.yaml", .text "second.yaml"])]),
    (["config", "first.yaml"], "include: shared.yaml\nmode: first\n",
      [("include", .text "shared.yaml"), ("mode", .text "first")]),
    (["config", "second.yaml"], "include: shared.yaml\n", [("include", .text "shared.yaml")]),
    (["config", "shared.yaml"], "mode: shared\n", [("mode", .text "shared")]),
    (["config", "loop.yaml"], "include: loop.yaml\n", [("include", .text "loop.yaml")])]

def sampleDisk : Disk where
  kind := fun path => (sampleFiles.lookup path).map (fun _ => .file)
  real := fun path => if path = ["config"] ∨ (sampleFiles.lookup path).isSome then some path
    else none
  read := fun path => match sampleFiles.lookup path with
    | some entry => .ok entry.1
    | none => .error .missing

def sampleParse (text : String) : Except (List ConfigIssue) Json :=
  match sampleFiles.find? (fun entry => entry.2.1 = text) with
  | some entry => .ok (.object entry.2.2)
  | none => .error []

def sample (limits : IncludeLimits) : Surroundings :=
  ⟨sampleDisk, ["config"], limits, sampleParse, fun first second => decide (first < second),
    fun text => text⟩

def sharedTree : IncludeTree :=
  .file ["config", "shared.yaml"] "mode: shared\n" (.object [("mode", .text "shared")]) []

def firstTree : IncludeTree :=
  .file ["config", "first.yaml"] "include: shared.yaml\nmode: first\n"
    (.object [("mode", .text "first")]) [sharedTree]

def secondTree : IncludeTree :=
  .file ["config", "second.yaml"] "include: shared.yaml\n" (.object []) [sharedTree]

def diamondTree : IncludeTree :=
  .file ["config", "diamond.yaml"] "include: [\"first.yaml\", \"second.yaml\"]\n" (.object [])
    [firstTree, secondTree]

theorem sharedTree_unfolds (limits : IncludeLimits) :
    Unfolds (sample limits) ["config", "shared.yaml"] sharedTree :=
  ⟨[("mode", .text "shared")], [], ⟨rfl, rfl, rfl, fun _ => rfl⟩, rfl, trivial⟩

theorem firstTree_unfolds (limits : IncludeLimits) :
    Unfolds (sample limits) ["config", "first.yaml"] firstTree :=
  ⟨[("include", .text "shared.yaml"), ("mode", .text "first")], ["shared.yaml"],
    ⟨rfl, rfl, rfl, fun _ => rfl⟩, rfl, rfl, sharedTree_unfolds limits, trivial⟩

theorem secondTree_unfolds (limits : IncludeLimits) :
    Unfolds (sample limits) ["config", "second.yaml"] secondTree :=
  ⟨[("include", .text "shared.yaml")], ["shared.yaml"],
    ⟨rfl, rfl, rfl, fun _ => rfl⟩, rfl, rfl, sharedTree_unfolds limits, trivial⟩

theorem diamondTree_unfolds : Unfolds (sample limits) ["config", "diamond.yaml"] diamondTree :=
  ⟨[("include", .list [.text "first.yaml", .text "second.yaml"])],
    ["first.yaml", "second.yaml"], ⟨rfl, rfl, rfl, fun _ => rfl⟩, rfl, rfl,
    firstTree_unfolds limits, rfl, secondTree_unfolds limits, trivial⟩

theorem loop_lists (limits : IncludeLimits) :
    Lists (sample limits) ["config", "loop.yaml"] "include: loop.yaml\n"
      [("include", .text "loop.yaml")] ["loop.yaml"] :=
  ⟨rfl, rfl, fun _ => rfl⟩

theorem loop_graph (limits : IncludeLimits) :
    IncludeGraph (sample limits) ["config", "loop.yaml"] ["config", "loop.yaml"]
      [["config", "loop.yaml"]] where
  distinct := List.nodup_singleton _
  isRoot := rfl
  rootIn := List.mem_cons_self
  readable := by
    intro file mem
    obtain rfl := List.mem_singleton.1 mem
    refine ⟨_, _, _, loop_lists limits, ?_⟩
    intro path isPath
    obtain rfl := List.mem_singleton.1 isPath
    exact ⟨rfl, _, List.mem_cons_self, rfl⟩

theorem loop_cyclic : Cyclic (sample limits) ["config", "loop.yaml"] := by
  have edge : Includes (sample limits) ["config", "loop.yaml"] ["config", "loop.yaml"] :=
    ⟨_, _, _, loop_lists limits, "loop.yaml", List.mem_cons_self, rfl⟩
  exact ⟨_, ReflTransGen.refl, TransGen.single edge⟩

end OpenRill.Config.IncludeCycles
