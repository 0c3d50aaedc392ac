import OpenRill.Config.Sources

/-!
# What includes mean

An include graph without cycles unfolds to a finite tree. The reference meaning of a tree
merges the meanings of the includes in their order, and the file's own members last. The walk
computes the meaning of the tree without the later occurrences of a file.
-/

namespace OpenRill.Config.IncludeTrees

open OpenRill.Lib OpenRill.Lib.Paths OpenRill.Lib.Checked
open Sources

variable {surroundings : Surroundings} {stack : List Path} {raw : String} {own : Json}

/-- A file, its text, its members without the includes, and the trees of its includes. -/
inductive IncludeTree where
  | file (real : Path) (raw : String) (own : Json) (includes : List IncludeTree)

def IncludeTree.real : IncludeTree → Path
  | .file real _ _ _ => real

/-- What the file operations say about a path that can be included. -/
structure ReadsAs (surroundings : Surroundings) (candidatePath real : Path) (raw : String)
    (members : List (String × Json)) (includes : List String) : Prop where
  isReal : realFile surroundings candidatePath = .ok real
  isRaw : surroundings.disk.read real = .ok raw
  isParsed : surroundings.parse raw = .ok (.object members)
  listed : ∀ ownerPath, normalizeIncludeList (members.lookup "include") ownerPath = .ok includes

mutual

def Unfolds (surroundings : Surroundings) (candidatePath : Path) : IncludeTree → Prop
  | .file real raw own children =>
    ∃ members includes, ReadsAs surroundings candidatePath real raw members includes ∧
      own = .object (removeInclude members) ∧ UnfoldsAll surroundings real includes children

def UnfoldsAll (surroundings : Surroundings) (owner : Path) :
    List String → List IncludeTree → Prop
  | [], [] => True
  | path :: paths, child :: children =>
    isAbsolute path = false ∧
      Unfolds surroundings (resolvePath owner.dropLast path) child ∧
        UnfoldsAll surroundings owner paths children
  | _, _ => False

end

mutual

/-- The reference meaning: the includes in their order, then the file's own members. -/
def IncludeTree.meaning : IncludeTree → Json
  | .file _ _ own children => deepMergeConfig (IncludeTree.mergeAll (.object []) children) own

def IncludeTree.mergeAll (merged : Json) : List IncludeTree → Json
  | [] => merged
  | child :: children => IncludeTree.mergeAll (deepMergeConfig merged child.meaning) children

end

mutual

/-- All files of the tree with their texts, one entry for each occurrence. -/
def IncludeTree.files : IncludeTree → List (Path × String)
  | .file real raw _ children => (real, raw) :: IncludeTree.filesAll children

def IncludeTree.filesAll : List IncludeTree → List (Path × String)
  | [] => []
  | child :: children => child.files ++ IncludeTree.filesAll children

end

mutual

def IncludeTree.depth : IncludeTree → Nat
  | .file _ _ _ children => 1 + IncludeTree.depthAll children

def IncludeTree.depthAll : List IncludeTree → Nat
  | [] => 0
  | child :: children => max child.depth (IncludeTree.depthAll children)

end

def IncludeTree.empty (real : Path) : IncludeTree := .file real "" (.object []) []

mutual

/-- The tree with every later occurrence of a file emptied, and the files seen at its end. -/
def IncludeTree.firsts (seen : List Path) : IncludeTree → IncludeTree × List Path
  | .file real raw own children =>
    if real ∈ seen then (.empty real, seen)
    else
      let inside := IncludeTree.firstsAll seen children
      (.file real raw own inside.1, inside.2 ++ [real])

def IncludeTree.firstsAll (seen : List Path) : List IncludeTree → List IncludeTree × List Path
  | [] => ([], seen)
  | child :: children =>
    let first := child.firsts seen
    let rest := IncludeTree.firstsAll first.2 children
    (first.1 :: rest.1, rest.2)

end

mutual

def IncludeTree.reads (seen : List Path) : IncludeTree → List (Path × String)
  | .file real raw _ children =>
    if real ∈ seen then [] else (real, raw) :: IncludeTree.readsAll seen children

def IncludeTree.readsAll (seen : List Path) : List IncludeTree → List (Path × String)
  | [] => []
  | child :: children =>
    child.reads seen ++ IncludeTree.readsAll (child.firsts seen).2 children

end

mutual

/-- When a file is opened, fewer files than the limit were read before. -/
def IncludeTree.counted (maxFiles count : Nat) (seen : List Path) : IncludeTree → Bool
  | .file real _ _ children =>
    decide (count < maxFiles) &&
      (decide (real ∈ seen) || IncludeTree.countedAll maxFiles (count + 1) seen children)

def IncludeTree.countedAll (maxFiles count : Nat) (seen : List Path) : List IncludeTree → Bool
  | [] => true
  | child :: children =>
    child.counted maxFiles count seen &&
      IncludeTree.countedAll maxFiles (count + (child.reads seen).length) (child.firsts seen).2
        children

end

def bytesOf (files : List (Path × String)) : Nat :=
  (files.map (fun file => byteLength file.2)).sum

/-- The graph is within the limits. -/
structure WithinLimits (limits : IncludeLimits) (tree : IncludeTree) : Prop where
  depth : tree.depth ≤ limits.maxDepth + 1
  count : tree.counted limits.maxFiles 0 [] = true
  bytes : bytesOf (tree.reads []) ≤ limits.maxTotalBytes

variable {tree : IncludeTree} {children : List IncludeTree}

theorem unfolds_real {candidatePath : Path} (unfolds : Unfolds surroundings candidatePath tree) :
    realFile surroundings candidatePath = .ok tree.real := by
  cases tree with
  | file real raw own children =>
    obtain ⟨members, includes, reads, _⟩ := unfolds
    exact reads.isReal

mutual

theorem unfolds_determined (first : IncludeTree) (second : IncludeTree)
    {firstPath secondPath : Path} (unfolds : Unfolds surroundings firstPath first)
    (others : Unfolds surroundings secondPath second) (same : first.real = second.real) :
    first = second := by
  cases first with
  | file real raw own children =>
    cases second with
    | file otherReal otherRaw otherOwn otherChildren =>
      obtain ⟨members, includes, reads, isOwn, below⟩ := unfolds
      obtain ⟨otherMembers, otherIncludes, otherReads, otherIsOwn, otherBelow⟩ := others
      obtain rfl : real = otherReal := same
      have isRaw := reads.isRaw
      rw [otherReads.isRaw] at isRaw
      cases isRaw
      have isParsed := reads.isParsed
      rw [otherReads.isParsed] at isParsed
      cases isParsed
      have listed := reads.listed []
      rw [otherReads.listed []] at listed
      cases listed
      rw [isOwn, otherIsOwn, unfoldsAll_determined children otherChildren below otherBelow]
termination_by structural first

theorem unfoldsAll_determined (first second : List IncludeTree) {owner : Path}
    {paths : List String} (unfolds : UnfoldsAll surroundings owner paths first)
    (others : UnfoldsAll surroundings owner paths second) : first = second := by
  cases first with
  | nil =>
    cases paths with
    | nil =>
      cases second with
      | nil => rfl
      | cons child children => cases others
    | cons path paths => cases unfolds
  | cons child children =>
    cases paths with
    | nil => cases unfolds
    | cons path paths =>
      cases second with
      | nil => cases others
      | cons otherChild otherChildren =>
        have sameReal : child.real = otherChild.real := by
          have isReal := unfolds_real unfolds.2.1
          rw [unfolds_real others.2.1] at isReal
          exact (Except.ok.inj isReal).symm
        rw [unfolds_determined child otherChild unfolds.2.1 others.2.1 sameReal,
          unfoldsAll_determined children otherChildren unfolds.2.2 others.2.2]
termination_by structural first

end

def entryOf (surroundings : Surroundings) (file : Path × String) : RevisionEntry :=
  ⟨"/".intercalate (relativePath surroundings.configRoot file.1), file.2⟩

def WalkState.after (state : WalkState) (surroundings : Surroundings)
    (files : List (Path × String)) (seen : List Path) (rawRoot : String) : WalkState where
  visited := seen
  sourceFiles := seen
  totalBytes := state.totalBytes + bytesOf files
  rawRoot := rawRoot
  revisionEntries := state.revisionEntries ++ files.map (entryOf surroundings)

theorem after_nothing {state : WalkState} (same : state.sourceFiles = state.visited) :
    WalkState.after state surroundings [] state.visited state.rawRoot = state := by
  unfold WalkState.after
  rw [List.map_nil, List.append_nil, bytesOf, List.map_nil, List.sum_nil, Nat.add_zero]
  cases state
  cases same
  rfl

def Above (surroundings : Surroundings) (stack : List Path) (size : Nat) : Prop :=
  ∀ ancestor ∈ stack, ∃ path tree, Unfolds surroundings path tree ∧ tree.real = ancestor ∧
    size < sizeOf tree

theorem real_not_above {candidatePath : Path} (above : Above surroundings stack (sizeOf tree))
    (unfolds : Unfolds surroundings candidatePath tree) : tree.real ∉ stack := by
  intro mem
  obtain ⟨path, larger, largerUnfolds, same, size⟩ := above tree.real mem
  rw [unfolds_determined larger tree largerUnfolds unfolds same] at size
  exact Nat.lt_irrefl _ size

theorem bytesOf_cons (file : Path × String) (files : List (Path × String)) :
    bytesOf (file :: files) = byteLength file.2 + bytesOf files := by
  rfl

theorem bytesOf_append (first second : List (Path × String)) :
    bytesOf (first ++ second) = bytesOf first + bytesOf second := by
  rw [bytesOf, List.map_append, List.sum_append]
  rfl

theorem above_children {candidatePath real : Path}
    (above : Above surroundings stack (sizeOf (IncludeTree.file real raw own children)))
    (unfolds : Unfolds surroundings candidatePath (.file real raw own children)) :
    Above surroundings (stack ++ [real]) (sizeOf children) := by
  have smaller : sizeOf children < sizeOf (IncludeTree.file real raw own children) := by
    simp only [IncludeTree.file.sizeOf_spec]
    omega
  intro ancestor mem
  rcases List.mem_append.1 mem with earlier | isReal
  · obtain ⟨path, tree, treeUnfolds, isAncestor, size⟩ := above ancestor earlier
    exact ⟨path, tree, treeUnfolds, isAncestor, Nat.lt_trans smaller size⟩
  · exact ⟨candidatePath, _, unfolds, (List.mem_singleton.1 isReal).symm, smaller⟩

theorem above_smaller {size smaller : Nat} (above : Above surroundings stack size)
    (less : smaller < size) : Above surroundings stack smaller := by
  intro ancestor mem
  obtain ⟨path, tree, unfolds, isAncestor, larger⟩ := above ancestor mem
  exact ⟨path, tree, unfolds, isAncestor, Nat.lt_trans less larger⟩

theorem after_after (state : WalkState) (first second : List (Path × String))
    (seen later : List Path) (firstRoot rawRoot : String) :
    WalkState.after (WalkState.after state surroundings first seen firstRoot) surroundings second
        later rawRoot =
      WalkState.after state surroundings (first ++ second) later rawRoot := by
  unfold WalkState.after
  rw [bytesOf_append, Nat.add_assoc, List.map_append, List.append_assoc]

theorem closed_after (state : WalkState) (real : Path) (raw : String) (isRoot : Bool)
    (files : List (Path × String)) (seen : List Path) (rawRoot : String) :
    (WalkState.after (state.opened surroundings real raw isRoot) surroundings files seen
        rawRoot).closed real =
      WalkState.after state surroundings ((real, raw) :: files) (seen ++ [real]) rawRoot := by
  unfold WalkState.after WalkState.closed WalkState.opened
  rw [bytesOf_cons, Nat.add_assoc, List.append_assoc]
  rfl

mutual

theorem visit_tree (tree : IncludeTree) (levels : Nat) (stack : List Path) (candidatePath : Path)
    (isRoot : Bool) (state : WalkState)
    (unfolds : Unfolds surroundings candidatePath tree) (deep : tree.depth ≤ levels)
    (above : Above surroundings stack (sizeOf tree))
    (counted : tree.counted surroundings.limits.maxFiles state.revisionEntries.length
      state.visited = true)
    (bytes : state.totalBytes + bytesOf (tree.reads state.visited) ≤
      surroundings.limits.maxTotalBytes)
    (same : state.sourceFiles = state.visited) :
    ∃ rawRoot, visit surroundings levels stack candidatePath isRoot state =
      .ok ((tree.firsts state.visited).1.meaning, WalkState.after state surroundings
        (tree.reads state.visited) (tree.firsts state.visited).2 rawRoot) := by
  cases tree with
  | file real raw own children =>
    have whole : Unfolds surroundings candidatePath (.file real raw own children) := unfolds
    obtain ⟨members, includes, reads, isOwn, below⟩ := unfolds
    have notAbove : real ∉ stack := real_not_above above whole
    rw [IncludeTree.counted, Bool.and_eq_true, decide_eq_true_iff] at counted
    cases levels with
    | zero =>
      rw [IncludeTree.depth] at deep
      omega
    | succ levels =>
      rw [IncludeTree.firsts, IncludeTree.reads]
      rw [IncludeTree.reads] at bytes
      rw [visit, require, if_pos counted.1]
      dsimp only [bind, Except.bind]
      rw [reads.isReal]
      dsimp only
      rw [require, if_pos notAbove]
      by_cases seen : real ∈ state.visited
      · rw [if_pos seen, if_pos seen, if_pos seen]
        refine ⟨state.rawRoot, ?_⟩
        rw [after_nothing same]
        rfl
      · rw [if_neg seen, if_neg seen, if_neg seen]
        rw [if_neg seen] at bytes
        have later := counted.2
        rw [Bool.or_eq_true, decide_eq_true_iff] at later
        have countedAll := later.resolve_left seen
        rw [bytesOf_cons] at bytes
        dsimp only at bytes
        have isRead : readRaw surroundings real = .ok raw := by
          rw [readRaw, reads.isRaw]
        have fits : (state.opened surroundings real raw isRoot).totalBytes ≤
            surroundings.limits.maxTotalBytes := by
          change state.totalBytes + byteLength raw ≤ _
          omega
        rw [isRead]
        dsimp only
        rw [require, if_pos fits]
        rw [parseSource, reads.isParsed]
        dsimp only [recordMembers]
        rw [reads.listed]
        dsimp only
        obtain ⟨rawRoot, folded⟩ := visit_trees children levels (stack ++ [real]) real includes
          (.object []) (state.opened surroundings real raw isRoot) below
          (by rw [IncludeTree.depth] at deep; omega)
          (above_children above whole)
          (by
            have entries : (state.opened surroundings real raw isRoot).revisionEntries.length =
                state.revisionEntries.length + 1 := List.length_append
            rw [entries]
            exact countedAll)
          (by
            change state.totalBytes + byteLength raw + _ ≤ _
            rw [Nat.add_assoc]
            exact bytes)
          same
        rw [folded]
        refine ⟨rawRoot, ?_⟩
        rw [isOwn]
        dsimp only [pure, Except.pure]
        rw [closed_after]
        rfl
termination_by structural tree

theorem visit_trees (children : List IncludeTree) (levels : Nat) (stack : List Path)
    (owner : Path) (paths : List String) (merged : Json) (state : WalkState)
    (unfolds : UnfoldsAll surroundings owner paths children)
    (deep : IncludeTree.depthAll children ≤ levels)
    (above : Above surroundings stack (sizeOf children))
    (counted : IncludeTree.countedAll surroundings.limits.maxFiles state.revisionEntries.length
      state.visited children = true)
    (bytes : state.totalBytes + bytesOf (IncludeTree.readsAll state.visited children) ≤
      surroundings.limits.maxTotalBytes)
    (same : state.sourceFiles = state.visited) :
    ∃ rawRoot, paths.foldlM (mergeInclude (fun path next =>
        visit surroundings levels stack path false next) owner) (merged, state) =
      .ok (IncludeTree.mergeAll merged (IncludeTree.firstsAll state.visited children).1,
        WalkState.after state surroundings (IncludeTree.readsAll state.visited children)
          (IncludeTree.firstsAll state.visited children).2 rawRoot) := by
  cases children with
  | nil =>
    cases paths with
    | cons path paths => cases unfolds
    | nil =>
      refine ⟨state.rawRoot, ?_⟩
      rw [IncludeTree.firstsAll, IncludeTree.readsAll, after_nothing same]
      rfl
  | cons child children =>
    cases paths with
    | nil => cases unfolds
    | cons path paths =>
      obtain ⟨relative, childUnfolds, rest⟩ := unfolds
      rw [IncludeTree.depthAll] at deep
      rw [IncludeTree.countedAll, Bool.and_eq_true] at counted
      rw [IncludeTree.readsAll, bytesOf_append] at bytes
      have smaller : sizeOf child < sizeOf (child :: children) := by
        simp only [List.cons.sizeOf_spec]
        omega
      have smallerRest : sizeOf children < sizeOf (child :: children) := by
        simp only [List.cons.sizeOf_spec]
        omega
      obtain ⟨firstRoot, first⟩ := visit_tree child levels stack
        (resolvePath owner.dropLast path) false state childUnfolds (by omega)
        (above_smaller above smaller) counted.1 (by omega) same
      obtain ⟨rawRoot, later⟩ := visit_trees children levels stack owner paths
        (deepMergeConfig merged (child.firsts state.visited).1.meaning)
        (WalkState.after state surroundings (child.reads state.visited)
          (child.firsts state.visited).2 firstRoot) rest (by omega)
        (above_smaller above smallerRest)
        (by
          have entries : (WalkState.after state surroundings (child.reads state.visited)
              (child.firsts state.visited).2 firstRoot).revisionEntries.length =
              state.revisionEntries.length + (child.reads state.visited).length := by
            unfold WalkState.after
            rw [List.length_append, List.length_map]
          rw [entries]
          exact counted.2)
        (by
          change state.totalBytes + _ + _ ≤ _
          rw [Nat.add_assoc]
          exact bytes)
        rfl
      refine ⟨rawRoot, ?_⟩
      have merges : mergeInclude (fun path next =>
          visit surroundings levels stack path false next) owner (merged, state) path =
          .ok (deepMergeConfig merged (child.firsts state.visited).1.meaning,
            WalkState.after state surroundings (child.reads state.visited)
              (child.firsts state.visited).2 firstRoot) := by
        rw [mergeInclude, require, if_pos relative]
        rw [first]
        rfl
      rw [List.foldlM_cons, merges]
      dsimp only [bind, Except.bind]
      rw [later, IncludeTree.firstsAll, IncludeTree.readsAll]
      rw [IncludeTree.mergeAll, after_after]
      rfl
termination_by structural children

end

mutual

theorem files_tree (tree : IncludeTree) {candidatePath : Path}
    (unfolds : Unfolds surroundings candidatePath tree) {file : Path × String}
    (mem : file ∈ tree.files) :
    ∃ path sub, Unfolds surroundings path sub ∧ sub.real = file.1 ∧ sizeOf sub ≤ sizeOf tree := by
  cases tree with
  | file real raw own children =>
    rcases List.mem_cons.1 mem with rfl | inside
    · exact ⟨candidatePath, _, unfolds, rfl, Nat.le_refl _⟩
    · obtain ⟨members, includes, reads, isOwn, below⟩ := unfolds
      obtain ⟨path, sub, subUnfolds, isReal, size⟩ := filesAll_tree children below inside
      refine ⟨path, sub, subUnfolds, isReal, ?_⟩
      simp only [IncludeTree.file.sizeOf_spec]
      omega
termination_by structural tree

theorem filesAll_tree (children : List IncludeTree) {owner : Path} {paths : List String}
    (unfolds : UnfoldsAll surroundings owner paths children) {file : Path × String}
    (mem : file ∈ IncludeTree.filesAll children) :
    ∃ path sub, Unfolds surroundings path sub ∧ sub.real = file.1 ∧
      sizeOf sub ≤ sizeOf children := by
  cases children with
  | nil => cases mem
  | cons child children =>
    cases paths with
    | nil => cases unfolds
    | cons relative paths =>
      rcases List.mem_append.1 mem with first | later
      · obtain ⟨path, sub, subUnfolds, isReal, size⟩ := files_tree child unfolds.2.1 first
        refine ⟨path, sub, subUnfolds, isReal, ?_⟩
        simp only [List.cons.sizeOf_spec]
        omega
      · obtain ⟨path, sub, subUnfolds, isReal, size⟩ :=
          filesAll_tree children unfolds.2.2 later
        refine ⟨path, sub, subUnfolds, isReal, ?_⟩
        simp only [List.cons.sizeOf_spec]
        omega
termination_by structural children

end

mutual

theorem files_text (tree : IncludeTree) {candidatePath : Path}
    (unfolds : Unfolds surroundings candidatePath tree) {file : Path × String}
    (mem : file ∈ tree.files) : surroundings.disk.read file.1 = .ok file.2 := by
  cases tree with
  | file real raw own children =>
    obtain ⟨members, includes, reads, isOwn, below⟩ := unfolds
    rcases List.mem_cons.1 mem with rfl | inside
    · exact reads.isRaw
    · exact filesAll_text children below inside
termination_by structural tree

theorem filesAll_text (children : List IncludeTree) {owner : Path} {paths : List String}
    (unfolds : UnfoldsAll surroundings owner paths children) {file : Path × String}
    (mem : file ∈ IncludeTree.filesAll children) :
    surroundings.disk.read file.1 = .ok file.2 := by
  cases children with
  | nil => cases mem
  | cons child children =>
    cases paths with
    | nil => cases unfolds
    | cons relative paths =>
      rcases List.mem_append.1 mem with first | later
      · exact files_text child unfolds.2.1 first
      · exact filesAll_text children unfolds.2.2 later
termination_by structural children

end

theorem real_not_below {candidatePath real : Path}
    (unfolds : Unfolds surroundings candidatePath (.file real raw own children))
    {file : Path × String} (mem : file ∈ IncludeTree.filesAll children) : file.1 ≠ real := by
  intro same
  have whole := unfolds
  obtain ⟨members, includes, reads, isOwn, below⟩ := unfolds
  obtain ⟨path, sub, subUnfolds, isReal, size⟩ := filesAll_tree children below mem
  have smaller : sizeOf sub < sizeOf (IncludeTree.file real raw own children) := by
    simp only [IncludeTree.file.sizeOf_spec]
    omega
  rw [unfolds_determined sub _ subUnfolds whole (isReal.trans same)] at smaller
  exact Nat.lt_irrefl _ smaller

mutual

theorem reads_files (seen : List Path) (tree : IncludeTree) {file : Path × String}
    (mem : file ∈ tree.reads seen) : file ∈ tree.files ∧ file.1 ∉ seen := by
  cases tree with
  | file real raw own children =>
    rw [IncludeTree.reads] at mem
    split_ifs at mem with already
    · cases mem
    · rcases List.mem_cons.1 mem with rfl | inside
      · exact ⟨List.mem_cons_self, already⟩
      · have below := readsAll_files seen children inside
        exact ⟨List.mem_cons_of_mem _ below.1, below.2⟩
termination_by structural tree

theorem readsAll_files (seen : List Path) (children : List IncludeTree) {file : Path × String}
    (mem : file ∈ IncludeTree.readsAll seen children) :
    file ∈ IncludeTree.filesAll children ∧ file.1 ∉ seen := by
  cases children with
  | nil => cases mem
  | cons child children =>
    rcases List.mem_append.1 mem with first | later
    · have inside := reads_files seen child first
      exact ⟨List.mem_append_left _ inside.1, inside.2⟩
    · have inside := readsAll_files (child.firsts seen).2 children later
      refine ⟨List.mem_append_right _ inside.1, fun already => inside.2 ?_⟩
      exact firsts_grow seen child already
termination_by structural children

theorem firsts_grow (seen : List Path) (tree : IncludeTree) {path : Path} (mem : path ∈ seen) :
    path ∈ (tree.firsts seen).2 := by
  cases tree with
  | file real raw own children =>
    rw [IncludeTree.firsts]
    split_ifs
    · exact mem
    · exact List.mem_append_left _ (firstsAll_grow seen children mem)
termination_by structural tree

theorem firstsAll_grow (seen : List Path) (children : List IncludeTree) {path : Path}
    (mem : path ∈ seen) : path ∈ (IncludeTree.firstsAll seen children).2 := by
  cases children with
  | nil => exact mem
  | cons child children =>
    exact firstsAll_grow (child.firsts seen).2 children (firsts_grow seen child mem)
termination_by structural children

end

mutual

theorem firsts_seen (seen : List Path) (tree : IncludeTree) (path : Path) :
    path ∈ (tree.firsts seen).2 ↔ path ∈ seen ∨ path ∈ (tree.reads seen).map Prod.fst := by
  cases tree with
  | file real raw own children =>
    rw [IncludeTree.firsts, IncludeTree.reads]
    split_ifs with already
    · simp
    · rw [List.map_cons, List.mem_append, List.mem_singleton, List.mem_cons,
        firstsAll_seen seen children path]
      tauto
termination_by structural tree

theorem firstsAll_seen (seen : List Path) (children : List IncludeTree) (path : Path) :
    path ∈ (IncludeTree.firstsAll seen children).2 ↔
      path ∈ seen ∨ path ∈ (IncludeTree.readsAll seen children).map Prod.fst := by
  cases children with
  | nil => simp [IncludeTree.firstsAll, IncludeTree.readsAll]
  | cons child children =>
    rw [IncludeTree.firstsAll, IncludeTree.readsAll, List.map_append, List.mem_append,
      ← or_assoc, ← firsts_seen seen child path]
    exact firstsAll_seen (child.firsts seen).2 children path
termination_by structural children

end

mutual

theorem reads_distinct (seen : List Path) (tree : IncludeTree) {candidatePath : Path}
    (unfolds : Unfolds surroundings candidatePath tree) :
    ((tree.reads seen).map Prod.fst).Nodup := by
  cases tree with
  | file real raw own children =>
    have whole := unfolds
    obtain ⟨members, includes, reads, isOwn, below⟩ := unfolds
    rw [IncludeTree.reads]
    split_ifs with already
    · exact List.nodup_nil
    · rw [List.map_cons, List.nodup_cons]
      refine ⟨?_, readsAll_distinct seen children below⟩
      intro mem
      obtain ⟨file, inside, isReal⟩ := List.mem_map.1 mem
      exact real_not_below whole (readsAll_files seen children inside).1 isReal
termination_by structural tree

theorem readsAll_distinct (seen : List Path) (children : List IncludeTree) {owner : Path}
    {paths : List String} (unfolds : UnfoldsAll surroundings owner paths children) :
    ((IncludeTree.readsAll seen children).map Prod.fst).Nodup := by
  cases children with
  | nil => exact List.nodup_nil
  | cons child children =>
    cases paths with
    | nil => cases unfolds
    | cons relative paths =>
      rw [IncludeTree.readsAll, List.map_append, List.nodup_append]
      refine ⟨reads_distinct seen child unfolds.2.1, readsAll_distinct _ children unfolds.2.2, ?_⟩
      rintro path first other later rfl
      obtain ⟨file, inside, isPath⟩ := List.mem_map.1 later
      apply (readsAll_files _ children inside).2
      rw [isPath, firsts_seen]
      exact Or.inr first
termination_by structural children

end

def Closed (surroundings : Surroundings) (seen : List Path) : Prop :=
  ∀ path tree, Unfolds surroundings path tree → tree.real ∈ seen →
    ∀ file ∈ tree.files, file.1 ∈ seen

mutual

theorem files_read (seen : List Path) (closed : Closed surroundings seen) (tree : IncludeTree)
    {candidatePath : Path} (unfolds : Unfolds surroundings candidatePath tree) :
    (∀ file ∈ tree.files, file.1 ∈ (tree.firsts seen).2) ∧
      Closed surroundings (tree.firsts seen).2 := by
  cases tree with
  | file real raw own children =>
    have whole := unfolds
    obtain ⟨members, includes, reads, isOwn, below⟩ := unfolds
    rw [IncludeTree.firsts, IncludeTree.files]
    by_cases already : real ∈ seen
    · rw [if_pos already]
      have inside := closed candidatePath _ whole already
      exact ⟨inside, closed⟩
    rw [if_neg already]
    have inside := filesAll_read seen closed children below
    have all : ∀ file ∈ (real, raw) :: IncludeTree.filesAll children,
        file.1 ∈ (IncludeTree.firstsAll seen children).2 ++ [real] := by
      intro file mem
      rcases List.mem_cons.1 mem with rfl | isBelow
      · exact List.mem_append_right _ List.mem_cons_self
      · exact List.mem_append_left _ (inside.1 file isBelow)
    refine ⟨all, ?_⟩
    intro path tree treeUnfolds treeSeen file mem
    rcases List.mem_append.1 treeSeen with earlier | isReal
    · exact List.mem_append_left _ (inside.2 path tree treeUnfolds earlier file mem)
    · have same := unfolds_determined tree _ treeUnfolds whole (List.mem_singleton.1 isReal)
      rw [same, IncludeTree.files] at mem
      exact all file mem
termination_by structural tree

theorem filesAll_read (seen : List Path) (closed : Closed surroundings seen)
    (children : List IncludeTree) {owner : Path} {paths : List String}
    (unfolds : UnfoldsAll surroundings owner paths children) :
    (∀ file ∈ IncludeTree.filesAll children,
        file.1 ∈ (IncludeTree.firstsAll seen children).2) ∧
      Closed surroundings (IncludeTree.firstsAll seen children).2 := by
  cases children with
  | nil => exact ⟨fun _ mem => (nomatch mem), closed⟩
  | cons child children =>
    cases paths with
    | nil => cases unfolds
    | cons relative paths =>
      have first := files_read seen closed child unfolds.2.1
      have later := filesAll_read (child.firsts seen).2 first.2 children unfolds.2.2
      refine ⟨?_, later.2⟩
      intro file mem
      rcases List.mem_append.1 mem with inFirst | inLater
      · exact firstsAll_grow _ children (first.1 file inFirst)
      · exact later.1 file inLater
termination_by structural children

end

mutual

theorem firsts_all (seen : List Path) (tree : IncludeTree)
    (once : (tree.files.map Prod.fst).Nodup) (new : ∀ file ∈ tree.files, file.1 ∉ seen) :
    (tree.firsts seen).1 = tree := by
  cases tree with
  | file real raw own children =>
    rw [IncludeTree.files, List.map_cons, List.nodup_cons] at once
    rw [IncludeTree.firsts, if_neg (new _ List.mem_cons_self)]
    dsimp only
    rw [firstsAll_all seen children once.2 fun file mem => new file (List.mem_cons_of_mem _ mem)]
termination_by structural tree

theorem firstsAll_all (seen : List Path) (children : List IncludeTree)
    (once : ((IncludeTree.filesAll children).map Prod.fst).Nodup)
    (new : ∀ file ∈ IncludeTree.filesAll children, file.1 ∉ seen) :
    (IncludeTree.firstsAll seen children).1 = children := by
  cases children with
  | nil => rfl
  | cons child children =>
    rw [IncludeTree.filesAll, List.map_append, List.nodup_append] at once
    rw [IncludeTree.firstsAll]
    rw [firsts_all seen child once.1 fun file mem => new file (List.mem_append_left _ mem),
      firstsAll_all (child.firsts seen).2 children once.2.1 ?_]
    intro file mem isSeen
    rw [firsts_seen] at isSeen
    rcases isSeen with earlier | isRead
    · exact new file (List.mem_append_right _ mem) earlier
    obtain ⟨other, isOther, same⟩ := List.mem_map.1 isRead
    have inChild : other.1 ∈ child.files.map Prod.fst :=
      List.mem_map_of_mem (reads_files seen child isOther).1
    have inRest : file.1 ∈ (IncludeTree.filesAll children).map Prod.fst :=
      List.mem_map_of_mem mem
    rw [same] at inChild
    exact once.2.2 _ inChild _ inRest rfl
termination_by structural children

end

/-- The walk from a root resolves to the meaning of the first occurrences, and its revision is
over each file of the tree once. -/
theorem resolve_tree {sourcePath : Path} (unfolds : Unfolds surroundings sourcePath tree)
    (within : WithinLimits surroundings.limits tree) :
    ∃ (resolved : ResolvedConfigSource) (files : List (Path × String)),
      resolveConfigSource surroundings sourcePath = .ok resolved ∧
      resolved.source = (tree.firsts []).1.meaning ∧
      resolved.sourceRevision = revisionOf surroundings (files.map (entryOf surroundings)) ∧
      (files.map Prod.fst).Nodup ∧ ∀ file, file ∈ files ↔ file ∈ tree.files := by
  have walked := visit_tree tree (surroundings.limits.maxDepth + 1) [] sourcePath true
    WalkState.initial unfolds within.depth (fun _ mem => (nomatch mem)) within.count
    (by
      change 0 + bytesOf _ ≤ _
      rw [Nat.zero_add]
      exact within.bytes)
    rfl
  obtain ⟨rawRoot, walked⟩ := walked
  refine ⟨⟨(tree.firsts []).1.meaning, (tree.firsts []).2, rawRoot,
    revisionOf surroundings ((tree.reads []).map (entryOf surroundings))⟩, tree.reads [], ?_, rfl,
    rfl, reads_distinct [] tree unfolds, ?_⟩
  · rw [resolveConfigSource, walked]
    rfl
  have closed : Closed surroundings [] := fun _ _ _ mem => (nomatch mem)
  have all := (files_read [] closed tree unfolds).1
  intro file
  constructor
  · intro mem
    exact (reads_files [] tree mem).1
  intro mem
  have seen := all file mem
  rw [firsts_seen] at seen
  obtain ⟨other, isRead, same⟩ := List.mem_map.1 (seen.resolve_left List.not_mem_nil)
  have otherText := files_text tree unfolds (reads_files [] tree isRead).1
  rw [same, files_text tree unfolds mem] at otherText
  have isFile : other = file := Prod.ext same (Except.ok.inj otherText).symm
  rw [← isFile]
  exact isRead

end OpenRill.Config.IncludeTrees
