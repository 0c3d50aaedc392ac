import OpenRill.Config.Store

/-!
# Repairing a configuration over its reported revision

The loader reports a revision and a later write is checked against it. While no file of the
configuration root changes, the two agree for a missing, a valid and an unparsable source. For a
source that is parsed and rejected by the schema the loader reports the digest of the root file
and the writer compares the digest of the include graph.
-/

namespace OpenRill.Config.Repairs

open OpenRill.Lib OpenRill.Lib.Paths OpenRill.Lib.Checked OpenRill.Lib.Effect OpenRill.Lib.Volumes
open OpenRill.Config.Sources OpenRill.Config.Store

variable {failure : ConfigError} {Value : Type} {volume : Volume} {surroundings : Surroundings}
variable {disk : Disk}

/-- Two disks show the same files under the configuration root. -/
structure SameFiles (configRoot : Path) (before after : Disk) : Prop where
  root : after.real configRoot = before.real configRoot
  kinds : ∀ path, within configRoot path = true → after.kind path = before.kind path
  places : ∀ path, within configRoot path = true → after.real path = before.real path
  texts : ∀ path, within ((before.real configRoot).getD configRoot) path = true →
    after.read path = before.read path

theorem realFile_same (same : SameFiles surroundings.configRoot surroundings.disk disk)
    (candidatePath : Path) :
    realFile { surroundings with disk := disk } candidatePath =
      realFile surroundings candidatePath := by
  by_cases inside : within surroundings.configRoot candidatePath = true
  · have root : Surroundings.rootReal { surroundings with disk := disk } =
        surroundings.rootReal := by
      rw [Surroundings.rootReal, Surroundings.rootReal, same.root]
    unfold realFile
    rw [root, same.kinds _ inside, same.places _ inside]
  · unfold realFile
    rw [require, if_neg inside]
    rfl

theorem realFile_inside {candidatePath fileReal : Path}
    (isReal : realFile surroundings candidatePath = .ok fileReal) :
    within surroundings.rootReal fileReal = true := by
  unfold realFile at isReal
  simp only [bind_ok_iff, require_ok_iff, fetch_ok_iff, pure_ok_iff] at isReal
  obtain ⟨_, _, kind, _, _, _, place, _, _, inside, rfl⟩ := isReal
  exact inside

theorem visit_same (same : SameFiles surroundings.configRoot surroundings.disk disk)
    (levels : Nat) :
    visit { surroundings with disk := disk } levels = visit surroundings levels := by
  induction levels with
  | zero => rfl
  | succ levels ih =>
    funext stack candidatePath isRoot state
    rw [visit, visit, ih, realFile_same same]
    cases isReal : realFile surroundings candidatePath with
    | error failure => rfl
    | ok fileReal =>
      have read : readRaw { surroundings with disk := disk } fileReal =
          readRaw surroundings fileReal := by
        unfold readRaw
        rw [same.texts _ (realFile_inside isReal)]
      dsimp only [bind, Except.bind]
      rw [read]
      rfl

theorem resolve_same (same : SameFiles surroundings.configRoot surroundings.disk disk)
    (sourcePath : Path) :
    resolveConfigSource { surroundings with disk := disk } sourcePath =
      resolveConfigSource surroundings sourcePath := by
  unfold resolveConfigSource
  rw [visit_same same]
  rfl

def NoConflict (failure : ConfigError) : Prop :=
  ∀ expected actual, failure ≠ .revisionConflict expected actual

variable {Result : Type}

def Free (body : Except ConfigError Value) : Prop :=
  ∀ failure, body = .error failure → NoConflict failure

theorem free_ok (value : Value) : Free (.ok value : Except ConfigError Value) := by
  intro failure ended
  cases ended

theorem free_error (no : NoConflict failure) :
    Free (.error failure : Except ConfigError Value) := by
  intro other ended
  cases ended
  exact no

theorem free_bind {first : Except ConfigError Value} {rest : Value → Except ConfigError Result}
    (one : Free first) (other : ∀ value, Free (rest value)) : Free (first >>= rest) := by
  intro failure ended
  cases first with
  | error own =>
    cases ended
    exact one _ rfl
  | ok value => exact other value failure ended

theorem free_require {condition : Prop} [Decidable condition] (no : NoConflict failure) :
    Free (require condition failure) := by
  unfold require
  split_ifs
  · exact free_ok ()
  · exact free_error no

theorem free_fetch {found : Option Value} (no : NoConflict failure) :
    Free (fetch found failure) := by
  cases found with
  | none => exact free_error no
  | some value => exact free_ok value

theorem free_foldlM {Item : Type} {turn : Value → Item → Except ConfigError Value}
    (each : ∀ value item, Free (turn value item)) (items : List Item) (initial : Value) :
    Free (items.foldlM turn initial) := by
  induction items generalizing initial with
  | nil => exact free_ok initial
  | cons item items ih =>
    exact free_bind (each initial item) ih

theorem include_noConflict (code : IncludeCode) (message includePath : String) :
    NoConflict (.include code message includePath) := by
  intro expected actual same
  cases same

theorem system_noConflict : NoConflict .system := by
  intro expected actual same
  cases same

theorem realFile_free (surroundings : Surroundings) (candidatePath : Path) :
    Free (realFile surroundings candidatePath) := by
  apply free_bind (free_require (include_noConflict _ _ _))
  intro _
  apply free_bind (free_fetch (include_noConflict _ _ _))
  intro kind
  apply free_bind (free_require (include_noConflict _ _ _))
  intro _
  apply free_bind (free_fetch (include_noConflict _ _ _))
  intro fileReal
  apply free_bind (free_require (include_noConflict _ _ _))
  intro _
  exact free_ok fileReal

theorem includeList_free (value : Option Json) (ownerPath : Path) :
    Free (normalizeIncludeList value ownerPath) := by
  unfold normalizeIncludeList
  split
  · exact free_ok _
  · split_ifs
    · exact free_error (include_noConflict _ _ _)
    · exact free_ok _
  · split
    · split_ifs
      · exact free_error (include_noConflict _ _ _)
      · exact free_ok _
    · exact free_error (include_noConflict _ _ _)
  · exact free_error (include_noConflict _ _ _)

theorem recordMembers_free (document : Json) (candidatePath : Path) :
    Free (recordMembers document candidatePath) := by
  unfold recordMembers
  split
  · exact free_ok _
  · exact free_error (include_noConflict _ _ _)

theorem readRaw_free (surroundings : Surroundings) (fileReal : Path) :
    Free (readRaw surroundings fileReal) := by
  unfold readRaw
  split
  · exact free_ok _
  · exact free_error system_noConflict

theorem parseSource_free (surroundings : Surroundings) (raw : String) :
    Free (parseSource surroundings raw) := by
  unfold parseSource
  split
  · exact free_ok _
  · intro failure ended expected actual same
    cases ended
    cases same

theorem visit_free (surroundings : Surroundings) (levels : Nat) (stack : List Path)
    (candidatePath : Path) (isRoot : Bool) (state : WalkState) :
    Free (visit surroundings levels stack candidatePath isRoot state) := by
  induction levels generalizing stack candidatePath isRoot state with
  | zero => exact free_error (include_noConflict _ _ _)
  | succ levels ih =>
    apply free_bind (free_require (include_noConflict _ _ _))
    intro _
    apply free_bind (realFile_free surroundings candidatePath)
    intro fileReal
    apply free_bind (free_require (include_noConflict _ _ _))
    intro _
    split_ifs
    · exact free_ok _
    apply free_bind (readRaw_free surroundings fileReal)
    intro raw
    apply free_bind (free_require (include_noConflict _ _ _))
    intro _
    apply free_bind (parseSource_free surroundings raw)
    intro parsed
    apply free_bind (recordMembers_free parsed candidatePath)
    intro members
    apply free_bind (includeList_free _ candidatePath)
    intro includes
    refine free_bind (free_foldlM ?_ _ _) ?_
    · intro reached path
      apply free_bind (free_require (include_noConflict _ _ _))
      intro _
      apply free_bind (ih _ _ _ _)
      intro included
      exact free_ok _
    · intro merged
      exact free_ok _

theorem resolve_free (surroundings : Surroundings) (sourcePath : Path) :
    Free (resolveConfigSource surroundings sourcePath) := by
  apply free_bind (visit_free surroundings _ _ _ _ _)
  intro walked
  exact free_ok _

variable (host : Host)

theorem validated_free (source : Json) : Free (host.validated source) := by
  unfold Host.validated
  split
  · exact free_ok _
  · intro failure ended expected actual same
    cases ended
    rename_i rejection _
    cases rejection <;> cases same

theorem build_free (call : Call) (volume : Volume) :
    Free (buildResultFromSource host call volume) := by
  apply free_bind (resolve_free _ _)
  intro resolved
  apply free_bind (validated_free host _)
  intro config
  apply free_bind (free_fetch system_noConflict)
  intro statuses
  exact free_ok _

theorem raises_of_free {view : Volume → Except ConfigError Value}
    (free : ∀ volume, Free (view volume)) : Raises NoConflict (look view) := by
  apply raises_look
  intro volume failure ended
  exact free volume failure ended

theorem readText_free (site : Site) (path : Path) :
    Raises NoConflict (readTextIfExists host site path) := by
  apply raises_of_free
  intro volume
  split_ifs
  · exact free_error system_noConflict
  · split
    · exact free_ok _
    · exact free_ok _
    · exact free_error system_noConflict

theorem writeFile_free (target : Target) (path : Path) (content : String) :
    Raises NoConflict (writeFileAtomic host target path content) := by
  apply raises_bind (raises_stopIf system_noConflict)
  intro _
  have no : NoConflict (.ioFailed ("atomic replace failed for " ++ pathText path)) := by
    intro expected actual same
    cases same
  apply raises_bind (raises_stopIf no)
  intro _
  exact raises_write _

theorem persist_free (result : ReadResult) :
    Raises NoConflict (persistValidSnapshot host result) := by
  apply raises_bind
  · apply raises_of_free
    intro _
    unfold createSnapshot
    split
    · exact free_error system_noConflict
    · split_ifs
      · exact free_error system_noConflict
      · exact free_ok _
  · intro snapshot
    apply raises_bind (writeFile_free host _ _ _)
    intro _
    exact writeFile_free host _ _ _

theorem load_free (call : Call) (persist allowLastKnownGood : Bool) :
    Raises NoConflict (loadOpenRillConfig host call persist allowLastKnownGood) := by
  apply raises_bind (readText_free host _ _)
  intro sourceRaw
  cases sourceRaw with
  | none =>
    apply raises_of_free
    intro _
    apply free_bind (validated_free host _)
    intro config
    exact free_ok _
  | some raw =>
    apply raises_handle
    · apply raises_bind (raises_of_free (build_free host call))
      intro result
      apply raises_bind
      · unfold persistWhen
        split_ifs
        · exact persist_free host result
        · exact raises_pure ()
      · intro _
        exact raises_pure result
    · intro failure no
      unfold recover
      split_ifs
      · apply raises_bind
        · apply raises_bind (readText_free host _ _)
          intro text
          exact raises_pure _
        · intro snapshot
          cases snapshot with
          | none => exact raises_throws no
          | some own => exact raises_pure _
      · exact raises_throws no

theorem release_free : Raises NoConflict (release host) := by
  apply raises_bind (readText_free host _ _)
  intro raw
  split_ifs
  · apply raises_bind (raises_stopIf system_noConflict)
    intro _
    exact raises_write _
  · exact raises_pure ()

theorem busy_noConflict : NoConflict .mutationBusy := by
  intro expected actual same
  cases same

theorem takeLock_free (left : Nat) : Raises NoConflict (takeLock host left) := by
  induction left with
  | zero => exact raises_throws busy_noConflict
  | succ left ih =>
    apply raises_bind
    · have no : NoConflict (lockFailure host) := by
        intro expected actual same
        cases same
      apply raises_bind (raises_stopIf no)
      intro _
      apply raises_bind (raises_of_free fun _ => free_ok _)
      intro taken
      split_ifs
      · exact raises_pure false
      refine raises_bind (raises_write _) ?_
      intro _
      apply raises_bind (raises_stopIf no)
      intro _
      refine raises_bind (raises_write _) ?_
      intro _
      exact raises_pure true
    · intro created
      split_ifs
      · exact raises_pure ()
      apply raises_bind (readText_free host _ _)
      intro raw
      apply raises_bind (raises_stopIf busy_noConflict)
      intro _
      apply raises_bind (raises_stopIf system_noConflict)
      intro _
      refine raises_bind (raises_write _) ?_
      intro _
      exact ih

theorem tryCandidate_free (nextRaw : String) : Raises NoConflict (tryCandidate host nextRaw) := by
  apply raises_bind (raises_stopIf system_noConflict)
  intro _
  apply raises_bind (raises_stopIf system_noConflict)
  intro _
  apply raises_bind (raises_of_free fun _ => free_ok _)
  intro taken
  apply raises_bind (raises_stopIf system_noConflict)
  intro _
  refine raises_bind (raises_write _) ?_
  intro _
  apply raises_lastly
  · apply raises_of_free
    intro volume
    apply free_bind (resolve_free _ _)
    intro resolved
    apply free_bind (validated_free host _)
    intro config
    apply free_bind (free_fetch system_noConflict)
    intro statuses
    exact free_ok _
  · apply raises_bind (raises_stopIf system_noConflict)
    intro _
    exact raises_write _

theorem previousConfig_free (priorRaw : Option String) :
    Raises NoConflict (previousConfig host priorRaw) := by
  cases priorRaw with
  | none => exact raises_of_free fun _ => validated_free host _
  | some raw =>
    apply raises_bind (load_free host _ _ _)
    intro result
    exact raises_pure _

theorem commitSource_free (prepared : Prepared) :
    Raises NoConflict (commitSource host prepared) := by
  apply raises_bind (writeFile_free host _ _ _)
  intro _
  apply raises_handle (load_free host _ _ _)
  intro failure _
  have no : NoConflict (.ioFailed
      "config post-commit verification failed; previous source was restored") := by
    intro expected actual same
    cases same
  refine raises_bind (raises_write _) ?_
  intro _
  exact raises_throws no

theorem journal_free (prepared : Prepared) (result : ReadResult) :
    Raises NoConflict (appendMutationJournal host prepared result) := by
  apply raises_bind (raises_stopIf system_noConflict)
  intro _
  apply raises_bind (raises_of_free fun _ => free_fetch system_noConflict)
  intro revision
  exact writeFile_free host _ _ _

theorem mutate_free {reached : Volume} {source : Json} {revision : Option String}
    (current : currentSourceRevision host volume = (.ok revision, reached))
    (fails : (mutate host source revision volume).1 = .error failure) : NoConflict failure := by
  have rest : Raises NoConflict (do
      let priorRaw ← readTextIfExists host .readPrior host.paths.sourcePath
      let nextRaw ← look fun _ => fetch (host.stringify source) .system
      tryCandidate host nextRaw
      let previousMaterialized ← previousConfig host priorRaw
      copyPrevious host priorRaw
      pure (⟨revision, priorRaw, nextRaw, previousMaterialized⟩ : Prepared)) := by
    apply raises_bind (readText_free host _ _)
    intro priorRaw
    apply raises_bind (raises_of_free fun _ => free_fetch system_noConflict)
    intro nextRaw
    apply raises_bind (tryCandidate_free host nextRaw)
    intro _
    apply raises_bind (previousConfig_free host priorRaw)
    intro previousMaterialized
    apply raises_bind
    · cases priorRaw with
      | none => exact raises_pure ()
      | some raw => exact raises_write _
    · intro _
      exact raises_pure _
  have prepared : ∀ failure, (prepare host source revision volume).1 = .error failure →
      NoConflict failure := by
    intro own ended
    unfold prepare at ended
    rw [bind_ok current, stopIf_false (not_not.2 rfl)] at ended
    exact rest reached own ended
  cases ran : prepare host source revision volume with
  | mk result next =>
    unfold mutate at fails
    cases result with
    | error own =>
      rw [bind_error ran] at fails
      cases fails
      exact prepared _ (by rw [ran])
    | ok value =>
      rw [bind_ok ran] at fails
      refine raises_bind (commitSource_free host value) ?_ next failure fails
      intro result
      apply raises_bind (journal_free host value result)
      intro _
      exact raises_pure result

variable {host : Host} {before after : Volume} {call : Call} {allowLastKnownGood : Bool}
variable {result : ReadResult}

structure Unchanged (host : Host) (before after : Volume) : Prop where
  source : (host.disk after).read host.paths.sourcePath =
    (host.disk before).read host.paths.sourcePath
  files : SameFiles host.paths.sourcePath.dropLast (host.disk before) (host.disk after)

def walkedSource (host : Host) (volume : Volume) : Except ConfigError ResolvedConfigSource :=
  resolveConfigSource (host.surroundings .load volume) host.paths.sourcePath

theorem failing_none (disk : Disk) : failing none disk = disk := rfl

theorem surroundings_calm (calm : host.fault = none) (call : Call) (volume : Volume) :
    host.surroundings call volume = host.surroundings .load volume := by
  have quiet : ∀ other, host.walkFault other = none := by
    intro other
    rw [Host.walkFault, calm]
  unfold Host.surroundings
  rw [quiet call, quiet .load]

theorem walked_unchanged (calm : host.fault = none) (unchanged : Unchanged host before after) :
    walkedSource host after = walkedSource host before := by
  have quiet : host.walkFault .load = none := by
    rw [Host.walkFault, calm]
  unfold walkedSource Host.surroundings
  rw [quiet, failing_none, failing_none]
  exact @resolve_same ⟨host.disk before, host.paths.sourcePath.dropLast, host.limits, host.parse,
    host.localeBefore, host.sha256⟩ (host.disk after) unchanged.files host.paths.sourcePath

def sourceText (host : Host) (volume : Volume) : Except ConfigError (Option String) :=
  match (host.disk volume).read host.paths.sourcePath with
  | .ok raw => .ok (some raw)
  | .error .missing => .ok none
  | .error .unreadable => .error .system

theorem readSource_calm (calm : host.fault = none) (site : Site) (volume : Volume) :
    readTextIfExists host site host.paths.sourcePath volume = (sourceText host volume, volume) := by
  unfold readTextIfExists look sourceText
  rw [calm]
  exact congrArg (·, volume) (if_neg (by simp))

def comparedRevision (host : Host) (volume : Volume) : Except ConfigError (Option String) :=
  match sourceText host volume with
  | .error failure => .error failure
  | .ok none => .ok none
  | .ok (some text) =>
    match walkedSource host volume with
    | .ok resolved => .ok (some resolved.sourceRevision)
    | .error (.include code message includePath) =>
      .error (.include code message includePath)
    | .error .futureVersion => .error .futureVersion
    | .error _ => .ok (some (host.sha256 text))

theorem current_calm (calm : host.fault = none) (volume : Volume) :
    currentSourceRevision host volume = (comparedRevision host volume, volume) := by
  unfold currentSourceRevision comparedRevision
  cases text : sourceText host volume with
  | error failure =>
    rw [bind_error (by rw [readSource_calm calm, text])]
  | ok found =>
    rw [bind_ok (by rw [readSource_calm calm, text])]
    cases found with
    | none => rfl
    | some raw =>
      have sameWorld := surroundings_calm calm .revision volume
      dsimp only [look, walkedSource]
      generalize host.surroundings .revision volume = world at sameWorld ⊢
      subst sameWorld
      cases resolveConfigSource (host.surroundings .load volume) host.paths.sourcePath with
      | ok resolved => rfl
      | error failure => cases failure <;> rfl

inductive Reported (host : Host) (volume : Volume) (result : ReadResult) : Prop where
  | missing (text : sourceText host volume = .ok none) (revision : result.sourceRevision = none)
  | valid (raw : String) (resolved : ResolvedConfigSource) (config : Json)
      (text : sourceText host volume = .ok (some raw)) (walk : walkedSource host volume = .ok resolved)
      (accepted : host.validate resolved.source = .ok config)
      (revision : result.sourceRevision = some resolved.sourceRevision)
  | broken (raw : String) (failure : ConfigError)
      (text : sourceText host volume = .ok (some raw))
      (walk : walkedSource host volume = .error failure)
      (recoverable : recoverableSourceError failure = true)
      (revision : result.sourceRevision = some (host.sha256 raw))
  | rejected (raw : String) (resolved : ResolvedConfigSource) (issues : List ConfigIssue)
      (text : sourceText host volume = .ok (some raw)) (walk : walkedSource host volume = .ok resolved)
      (refused : host.validate resolved.source = .error (.invalid issues))
      (revision : result.sourceRevision = some (host.sha256 raw))

theorem persist_unrecoverable (persist : Bool) (result : ReadResult) :
    Raises (fun failure => recoverableSourceError failure = false)
      (persistWhen host persist result) := by
  have writes : ∀ target path content, Raises
      (fun failure => recoverableSourceError failure = false)
      (writeFileAtomic host target path content) := by
    intro target path content
    refine raises_bind (raises_stopIf rfl) ?_
    intro _
    refine raises_bind (raises_stopIf rfl) ?_
    intro _
    exact raises_write _
  unfold persistWhen
  split_ifs
  · refine raises_bind (raises_look ?_) ?_
    · intro _ failure ended
      unfold createSnapshot at ended
      split at ended
      · cases ended
        rfl
      · split_ifs at ended
        · cases ended
          rfl
    · intro snapshot
      refine raises_bind (writes _ _ _) ?_
      intro _
      exact writes _ _ _
  · exact raises_pure ()

theorem recover_ok {sourceRaw : String}
    (ended : (recover host call allowLastKnownGood sourceRaw failure volume).1 = .ok result) :
    recoverableSourceError failure = true ∧
      result.sourceRevision = some (host.sha256 sourceRaw) := by
  unfold recover at ended
  by_cases falls : (recoverableSourceError failure && allowLastKnownGood) = true
  · rw [if_pos falls] at ended
    refine ⟨(Bool.and_eq_true _ _ ▸ falls).1, ?_⟩
    cases ran : readLastKnownGood host volume with
    | mk found reached =>
      cases found with
      | error own =>
        rw [bind_error ran] at ended
        cases ended
      | ok snapshot =>
        rw [bind_ok ran] at ended
        cases snapshot with
        | none => cases ended
        | some own =>
          cases ended
          rfl
  · rw [if_neg falls] at ended
    cases ended

theorem build_ok (built : buildResultFromSource host call volume = .ok result) :
    ∃ resolved config,
      resolveConfigSource (host.surroundings call volume) host.paths.sourcePath = .ok resolved ∧
      host.validate resolved.source = .ok config ∧
      result.sourceRevision = some resolved.sourceRevision := by
  unfold buildResultFromSource at built
  simp only [bind_ok_iff, fetch_ok_iff, pure_ok_iff] at built
  obtain ⟨resolved, isResolved, config, isConfig, statuses, _, rfl⟩ := built
  refine ⟨resolved, config, isResolved, ?_, rfl⟩
  unfold Host.validated at isConfig
  cases checked : host.validate resolved.source with
  | error rejection =>
    rw [checked] at isConfig
    cases isConfig
  | ok own =>
    rw [checked] at isConfig
    cases isConfig
    rfl

theorem build_recoverable (built : buildResultFromSource host call volume = .error failure)
    (recoverable : recoverableSourceError failure = true) :
    resolveConfigSource (host.surroundings call volume) host.paths.sourcePath = .error failure ∨
    ∃ resolved issues,
      resolveConfigSource (host.surroundings call volume) host.paths.sourcePath = .ok resolved ∧
      host.validate resolved.source = .error (.invalid issues) := by
  unfold buildResultFromSource at built
  cases walk : resolveConfigSource (host.surroundings call volume) host.paths.sourcePath with
  | error own =>
    rw [walk] at built
    cases built
    exact Or.inl rfl
  | ok resolved =>
    rw [walk] at built
    refine Or.inr ⟨resolved, ?_⟩
    dsimp only [bind, Except.bind] at built
    unfold Host.validated at built
    cases checked : host.validate resolved.source with
    | error rejection =>
      rw [checked] at built
      cases rejection with
      | invalid issues => exact ⟨issues, rfl, rfl⟩
      | futureVersion =>
        cases built
        cases recoverable
    | ok config =>
      rw [checked] at built
      dsimp only at built
      cases statuses : host.secretStatuses call config with
      | none =>
        rw [statuses] at built
        cases built
        cases recoverable
      | some own =>
        rw [statuses] at built
        cases built

theorem load_reported (calm : host.fault = none) {persist : Bool}
    (loaded : (loadOpenRillConfig host .load persist allowLastKnownGood volume).1 = .ok result) :
    Reported host volume result := by
  unfold loadOpenRillConfig at loaded
  cases text : sourceText host volume with
  | error failure =>
    rw [bind_error (by rw [readSource_calm calm, text])] at loaded
    cases loaded
  | ok found =>
    rw [bind_ok (by rw [readSource_calm calm, text])] at loaded
    cases found with
    | none =>
      refine Reported.missing text ?_
      have isDefaults : defaultsResult host .load = .ok result := loaded
      unfold defaultsResult at isDefaults
      simp only [bind_ok_iff, pure_ok_iff] at isDefaults
      obtain ⟨_, _, rfl⟩ := isDefaults
      rfl
    | some raw =>
      dsimp only at loaded
      cases built : buildResultFromSource host .load volume with
      | error failure =>
        have source : loadSource host .load persist volume = (.error failure, volume) := by
          unfold loadSource
          rw [bind_error (by rw [look, built])]
        rw [handle_error source] at loaded
        have fell := recover_ok loaded
        rcases build_recoverable built fell.1 with walk | ⟨resolved, issues, walk, refused⟩
        · exact Reported.broken raw failure text walk fell.1 fell.2
        · exact Reported.rejected raw resolved issues text walk refused fell.2
      | ok own =>
        cases persisted : persistWhen host persist own volume with
        | mk ended reached =>
          cases ended with
          | error failure =>
            have source : loadSource host .load persist volume =
                (.error failure, reached) := by
              unfold loadSource
              rw [bind_ok (by rw [look, built]), bind_error persisted]
            rw [handle_error source] at loaded
            have no : recoverableSourceError failure = false :=
              persist_unrecoverable persist own volume failure (by rw [persisted])
            rw [(recover_ok loaded).1] at no
            cases no
          | ok _ =>
            have source : loadSource host .load persist volume =
                (.ok own, reached) := by
              unfold loadSource
              rw [bind_ok (by rw [look, built]), bind_ok persisted]
              rfl
            rw [handle_ok source] at loaded
            cases loaded
            obtain ⟨resolved, config, walk, accepted, revision⟩ := build_ok built
            exact Reported.valid raw resolved config text walk accepted revision

theorem load_fallback (calm : host.fault = none) (persist : Bool) {raw text : String}
    {snapshot : Snapshot} (isText : sourceText host volume = .ok (some raw))
    (built : buildResultFromSource host .load volume = .error failure)
    (recoverable : recoverableSourceError failure = true)
    (lastKnownGood : (host.disk volume).read host.paths.lastKnownGoodPath = .ok text)
    (some_text : text ≠ "") (usable : host.readSnapshot text = some snapshot) :
    loadOpenRillConfig host .load persist true volume =
      (.ok (lastKnownGoodResult host .load raw failure snapshot), volume) := by
  have source : loadSource host .load persist volume = (.error failure, volume) := by
    unfold loadSource
    rw [bind_error (by rw [look, built])]
  have read : readLastKnownGood host volume = (.ok (some snapshot), volume) := by
    have raw : readTextIfExists host .readLastKnownGood host.paths.lastKnownGoodPath volume =
        (.ok (some text), volume) := by
      unfold readTextIfExists look
      rw [calm]
      dsimp only
      rw [lastKnownGood]
      rfl
    unfold readLastKnownGood
    rw [bind_ok raw, pure_run]
    dsimp only
    rw [if_neg some_text, usable]
  unfold loadOpenRillConfig
  rw [bind_ok (by rw [readSource_calm calm, isText])]
  dsimp only
  rw [handle_error source, recover, recoverable, Bool.and_self, if_pos rfl, bind_ok read]
  rfl

/-- The exact condition: a source that is parsed and rejected by the schema has one digest for its
root file and for its include graph. -/
def DigestsAgree (host : Host) (volume : Volume) : Prop :=
  ∀ raw resolved issues, sourceText host volume = .ok (some raw) →
    walkedSource host volume = .ok resolved →
    host.validate resolved.source = .error (.invalid issues) →
      host.sha256 raw = resolved.sourceRevision

theorem compared_unchanged (calm : host.fault = none) (unchanged : Unchanged host before after) :
    comparedRevision host after = comparedRevision host before := by
  have text : sourceText host after = sourceText host before := by
    unfold sourceText
    rw [unchanged.source]
  unfold comparedRevision
  rw [text, walked_unchanged calm unchanged]

theorem compared_iff (reported : Reported host volume result) :
    comparedRevision host volume = .ok result.sourceRevision ↔ DigestsAgree host volume := by
  cases reported with
  | missing text revision =>
    constructor
    · intro _ raw resolved issues isText
      rw [text] at isText
      cases isText
    · intro _
      rw [comparedRevision, text, revision]
  | valid raw resolved config text walk accepted revision =>
    constructor
    · intro _ otherRaw other issues _ otherWalk refused
      rw [walk] at otherWalk
      cases otherWalk
      rw [accepted] at refused
      cases refused
    · intro _
      rw [comparedRevision, text]
      rw [walk, revision]
  | broken raw failure text walk recoverable revision =>
    constructor
    · intro _ otherRaw resolved issues _ otherWalk
      rw [walk] at otherWalk
      cases otherWalk
    · intro _
      rw [comparedRevision, text]
      rw [walk, revision]
      cases failure <;> first | rfl | cases recoverable
  | rejected raw resolved issues text walk refused revision =>
    constructor
    · intro compared otherRaw other otherIssues otherText otherWalk _
      rw [walk] at otherWalk
      cases otherWalk
      rw [text] at otherText
      cases otherText
      rw [comparedRevision, text] at compared
      rw [walk, revision] at compared
      exact (Option.some.inj (Except.ok.inj compared)).symm
    · intro agree
      rw [comparedRevision, text]
      rw [walk, revision, agree raw resolved issues text walk refused]

def builtInConfig : Json :=
  .object [("version", .number "1"),
    ("host", .object [("bind", .text "127.0.0.1"), ("port", .number "47117")]),
    ("modelProviders", .object []), ("workspaces", .list []),
    ("execution", .object [("approvalMode", .text "ask"), ("defaultTimeoutMs", .number "120000"),
      ("approvalTimeoutMs", .number "120000"), ("backend", .text "host"),
      ("fallback", .text "deny"), ("mountMode", .text "readOnly"), ("networkMode", .text "none"),
      ("docker", .object [("executable", .text "docker"), ("memoryBytes", .number "536870912"),
        ("pidsLimit", .number "256")])]),
    ("skills", .object [("roots", .list []), ("enabled", .list [])]),
    ("automation", .object [("enabled", .flag false)]),
    ("maintenance", .object [("enabled", .flag true), ("sweepIntervalMs", .number "300000"),
      ("batchSize", .number "100"), ("leaseDurationMs", .number "120000"),
      ("taskRetentionMs", .number "2592000000"), ("lostTaskRetentionMs", .number "604800000"),
      ("flowRetentionMs", .number "2592000000"), ("lostFlowRetentionMs", .number "604800000"),
      ("connectorDeliveryRetentionMs", .number "2592000000")]),
    ("extensions", .object [("roots", .list []), ("enabled", .list []), ("settings", .object [])]),
    ("browser", .object [("enabled", .flag false), ("headless", .flag true),
      ("launchTimeoutMs", .number "30000"), ("actionTimeoutMs", .number "15000"),
      ("idleTimeoutMs", .number "300000"), ("sweepIntervalMs", .number "30000"),
      ("maxSessions", .number "4"), ("maxPagesPerSession", .number "8"),
      ("allowPrivateNetwork", .flag false), ("allowedHostnames", .list [])]),
    ("ui", .object [("openOnStart", .flag false)])]

def rejectedText : String := "version: 1\nunknown: true\n"

def brokenText : String := "version: [broken\n"

def rejectedGraphText : String :=
  "[\n  \x7b\n    \"path\": \"agent.yaml\",\n" ++
    "    \"raw\": \"version: 1\\nunknown: true\\n\"\n  \x7d\n]\n"

def sampleSha (text : String) : String :=
  if text = rejectedText then
    "82396adcde1bc66529b2da68df5cb4d7493971a6c3a0931d7702d0b223c3f911"
  else if text = brokenText then
    "bc85201ca0084247af855eac6340626ace916f04323e843a7349bfa5295aa549"
  else if text = rejectedGraphText then
    "04264850cf7eb2c69aabae8708caeea07119ada0b314f1973ac4fefc3f5c92e7"
  else "25fde1c01456d2dd22edcf142bc2808f533e202ea41ef7324867f1fd22829099"

def sampleParse (text : String) : Except (List ConfigIssue) Json :=
  if text = rejectedText then
    .ok (.object [("version", .number "1"), ("unknown", .flag true)])
  else .error [⟨"<source>", "YAML_SYNTAX", "flow collections must use JSON syntax", some 1⟩]

def sampleValidate : Json → Except Rejection Json
  | .object [("version", _)] => .ok builtInConfig
  | _ => .error (.invalid [⟨"unknown", "UNKNOWN_KEY", "unknown configuration key", none⟩])

def sampleSnapshot : Snapshot :=
  ⟨"/config/agent.yaml", "0000", sampleSha (stableJson builtInConfig), [],
    "2026-08-01T10:00:00.000Z", builtInConfig, some builtInConfig, [], []⟩

def sampleHost : Host where
  layout := ⟨id, fun path => path == ["config"] || path == ["state"], fun _ => rfl⟩
  linkLimit := 40
  paths := ⟨["config", "agent.yaml"], ["state"], ["state", "materialized.json"],
    ["state", "last-known-good.json"], ["state", "journal"], ["state", "config.mutation.lock"]⟩
  limits := defaultIncludeLimits
  parse := sampleParse
  localeBefore := fun first second => decide (first ≤ second)
  sha256 := sampleSha
  validate := sampleValidate
  minimalSource := .object [("version", .number "1")]
  secretStatuses := fun _ _ => some []
  redact := id
  stringify := fun _ => some "version: 1\n"
  readSnapshot := fun _ => some sampleSnapshot
  changedPaths := fun _ _ => []
  lockOwner := fun text => if text = "" then none else some (1, text)
  alive := fun _ => true
  ownerId := "owner"
  lockText := "owner"
  candidatePath := ["config", ".agent.candidate.yaml"]
  clock := fun _ => "2026-08-01T10:00:00.000Z"
  changedAt := "2026-08-01T10:00:00.000Z"
  fault := none

def sampleVolume (source : String) : Volume := fun path =>
  if path = ["config", "agent.yaml"] then some (.file source)
  else if path = ["state", "last-known-good.json"] then some (.file sampleSnapshot.text)
  else none

theorem stableJson_not_empty (document : Json) : stableJson document ≠ "" := by
  intro empty
  have nothing := congrArg String.toList empty
  rw [stableJson, String.toList_ofList] at nothing
  simp at nothing

theorem sample_lastKnownGood (source : String) :
    (sampleHost.disk (sampleVolume source)).read ["state", "last-known-good.json"] =
      .ok sampleSnapshot.text := rfl

theorem sample_load {source : String} {failure : ConfigError}
    (built : buildResultFromSource sampleHost .load (sampleVolume source) = .error failure)
    (recoverable : recoverableSourceError failure = true) :
    loadOpenRillConfig sampleHost .load true true (sampleVolume source) =
      (.ok (lastKnownGoodResult sampleHost .load source failure sampleSnapshot),
        sampleVolume source) := by
  have isText : sourceText sampleHost (sampleVolume source) = .ok (some source) := rfl
  exact load_fallback rfl true isText built recoverable (sample_lastKnownGood source)
    (stableJson_not_empty _) rfl

theorem sample_unlinked (source : String) (path target : Path) :
    sampleVolume source path ≠ some (.link target) := by
  unfold sampleVolume
  split_ifs
  · intro same
    cases same
  · intro same
    cases same
  · intro same
    cases same

theorem config_not_lock {path : Path} (inside : within ["config"] path = true) :
    path ≠ ["state", "config.mutation.lock"] := by
  rintro rfl
  revert inside
  decide

theorem sample_unchanged (source text : String) :
    Unchanged sampleHost (sampleVolume source)
      (put sampleHost.layout ["state", "config.mutation.lock"] text (sampleVolume source)) := by
  have apart : ∀ path, path ≠ ["state", "config.mutation.lock"] →
      ["state", "config.mutation.lock"] ∉ trail sampleHost.layout (sampleVolume source) 40 path := by
    intro path other mem
    rcases List.mem_cons.1 mem with same | further
    · exact other same.symm
    · cases found : sampleVolume source (sampleHost.layout.home path) with
      | none =>
        rw [found] at further
        cases further
      | some entry =>
        rw [found] at further
        cases entry with
        | file own => cases further
        | link target => exact sample_unlinked source _ target found
  have seen : ∀ path, path ≠ ["state", "config.mutation.lock"] → _ := fun path other =>
    @disk_apart sampleHost (sampleVolume source) ["state", "config.mutation.lock"] path
      (some (.file text)) (by decide) (apart path other)
  constructor
  · exact (seen _ (by decide)).2.2
  constructor
  · exact (seen _ (by decide)).2.1
  · intro path inside
    exact (seen path (config_not_lock inside)).1
  · intro path inside
    exact (seen path (config_not_lock inside)).2.1
  · intro path inside
    exact (seen path (config_not_lock inside)).2.2

theorem sample_locked (source : String) :
    acquireMutationLock sampleHost (sampleVolume source) = (.ok (),
      put sampleHost.layout ["state", "config.mutation.lock"] "owner" (sampleVolume source)) := by
  have twice : put sampleHost.layout ["state", "config.mutation.lock"] "owner"
      (put sampleHost.layout ["state", "config.mutation.lock"] "" (sampleVolume source)) =
      put sampleHost.layout ["state", "config.mutation.lock"] "owner" (sampleVolume source) :=
    Function.update_idem _ _ _
  rw [← twice]
  rfl

theorem rejected_compared :
    comparedRevision sampleHost (sampleVolume rejectedText) =
      .ok (some "04264850cf7eb2c69aabae8708caeea07119ada0b314f1973ac4fefc3f5c92e7") := by
  have text : sourceText sampleHost (sampleVolume rejectedText) = .ok (some rejectedText) := rfl
  have walked : visit (sampleHost.surroundings .load (sampleVolume rejectedText)) 9 []
      ["config", "agent.yaml"] true WalkState.initial =
      .ok (.object [("version", .number "1"), ("unknown", .flag true)],
        ⟨[["config", "agent.yaml"]], [["config", "agent.yaml"]], 25, rejectedText,
          [⟨"agent.yaml", rejectedText⟩]⟩) := rfl
  have resolved : walkedSource sampleHost (sampleVolume rejectedText) =
      .ok ⟨.object [("version", .number "1"), ("unknown", .flag true)],
        [["config", "agent.yaml"]], rejectedText,
        "04264850cf7eb2c69aabae8708caeea07119ada0b314f1973ac4fefc3f5c92e7"⟩ := by
    unfold walkedSource resolveConfigSource
    rw [show (sampleHost.surroundings .load (sampleVolume rejectedText)).limits.maxDepth + 1 = 9
      from rfl, show sampleHost.paths.sourcePath = ["config", "agent.yaml"] from rfl, walked]
    dsimp only [bind, Except.bind, revisionOf]
    rw [List.mergeSort_singleton]
    rfl
  rw [comparedRevision, text]
  rw [resolved]

/-- While the files of the source stay as they were at a load that returned a result, the writer
compares the reported revision, and no write over it ends with a revision conflict, exactly when
the digests agree. -/
theorem repair_iff {host : Host} (calm : host.fault = none) {persist allowLastKnownGood : Bool}
    {before after : Volume} {result : ReadResult}
    (loaded : (loadOpenRillConfig host .load persist allowLastKnownGood before).1 = .ok result)
    (unchanged : ∀ checked, checked = after ∨
      acquireMutationLock host after = (.ok (), checked) → Unchanged host before checked) :
    ((currentSourceRevision host after).1 = .ok result.sourceRevision ∧
      ∀ source expected actual,
        (writeOpenRillConfig host source result.sourceRevision after).1 ≠
          .error (.revisionConflict expected actual)) ↔ DigestsAgree host before := by
  have reported := load_reported calm loaded
  have same := compared_unchanged calm (unchanged after (Or.inl rfl))
  rw [← compared_iff reported, current_calm calm, same]
  constructor
  · exact fun both => both.1
  intro compared
  refine ⟨compared, ?_⟩
  intro source expected actual conflict
  unfold writeOpenRillConfig at conflict
  cases locked : acquireMutationLock host after with
  | mk ended checked =>
    cases ended with
    | error failure =>
      rw [bind_error locked] at conflict
      cases conflict
      have no : Raises NoConflict (acquireMutationLock host) := by
        apply raises_bind (raises_stopIf system_noConflict)
        intro _
        exact takeLock_free host 2
      exact no after _ (by rw [locked]) expected actual rfl
    | ok _ =>
      rw [bind_ok locked] at conflict
      have current : currentSourceRevision host checked =
          (.ok result.sourceRevision, checked) := by
        rw [current_calm calm, compared_unchanged calm (unchanged checked (Or.inr locked)),
          compared]
      have body : ∀ failure, (mutate host source result.sourceRevision checked).1 =
          .error failure → NoConflict failure := by
        intro failure fails
        exact mutate_free host current fails
      cases ran : release host (mutate host source result.sourceRevision checked).2 with
      | mk released final =>
        cases released with
        | error failure =>
          rw [lastly_error ran] at conflict
          cases conflict
          exact release_free host _ _ (by rw [ran]) expected actual rfl
        | ok _ =>
          rw [lastly_ok ran] at conflict
          exact body _ conflict expected actual rfl

/-- A source that cannot be parsed can be written over. -/
theorem broken_repaired :
    ∃ result, (loadOpenRillConfig sampleHost .load true true (sampleVolume brokenText)).1 =
      .ok result ∧
    (currentSourceRevision sampleHost (sampleVolume brokenText)).1 = .ok result.sourceRevision ∧
    ∀ source expected actual,
      (writeOpenRillConfig sampleHost source result.sourceRevision (sampleVolume brokenText)).1 ≠
        .error (.revisionConflict expected actual) := by
  have loaded := @sample_load brokenText _ rfl rfl
  have unchanged : ∀ checked, checked = sampleVolume brokenText ∨
      acquireMutationLock sampleHost (sampleVolume brokenText) = (.ok (), checked) →
        Unchanged sampleHost (sampleVolume brokenText) checked := by
    rintro checked (rfl | locked)
    · exact ⟨rfl, rfl, fun _ _ => rfl, fun _ _ => rfl, fun _ _ => rfl⟩
    · rw [sample_locked] at locked
      cases locked
      exact sample_unchanged brokenText "owner"
  have agree : DigestsAgree sampleHost (sampleVolume brokenText) := by
    intro raw resolved issues _ walk
    cases walk
  exact ⟨_, congrArg Prod.fst loaded, (repair_iff rfl (congrArg Prod.fst loaded) unchanged).2 agree⟩

/-- A source that is parsed and rejected by the schema cannot be written over under the revision
that was reported for it. -/
theorem rejected_conflicts :
    ∃ result, (loadOpenRillConfig sampleHost .load true true (sampleVolume rejectedText)).1 =
        .ok result ∧
      result.sourceRevision =
        some "82396adcde1bc66529b2da68df5cb4d7493971a6c3a0931d7702d0b223c3f911" ∧
      (currentSourceRevision sampleHost (sampleVolume rejectedText)).1 =
        .ok (some "04264850cf7eb2c69aabae8708caeea07119ada0b314f1973ac4fefc3f5c92e7") ∧
      ∀ source, (writeOpenRillConfig sampleHost source result.sourceRevision
          (sampleVolume rejectedText)).1 = .error (.revisionConflict
        (some "82396adcde1bc66529b2da68df5cb4d7493971a6c3a0931d7702d0b223c3f911")
        (some "04264850cf7eb2c69aabae8708caeea07119ada0b314f1973ac4fefc3f5c92e7")) := by
  have loaded := @sample_load rejectedText _ rfl rfl
  have compared := rejected_compared
  refine ⟨_, congrArg Prod.fst loaded, rfl, ?_, ?_⟩
  · rw [current_calm rfl, compared]
  intro source
  have current := @current_calm sampleHost rfl
    (put sampleHost.layout ["state", "config.mutation.lock"] "owner" (sampleVolume rejectedText))
  rw [compared_unchanged rfl (sample_unchanged rejectedText "owner"), compared] at current
  have stopped : mutate sampleHost source
      (some "82396adcde1bc66529b2da68df5cb4d7493971a6c3a0931d7702d0b223c3f911")
      (put sampleHost.layout ["state", "config.mutation.lock"] "owner"
        (sampleVolume rejectedText)) = (.error (.revisionConflict
      (some "82396adcde1bc66529b2da68df5cb4d7493971a6c3a0931d7702d0b223c3f911")
      (some "04264850cf7eb2c69aabae8708caeea07119ada0b314f1973ac4fefc3f5c92e7")),
      put sampleHost.layout ["state", "config.mutation.lock"] "owner"
        (sampleVolume rejectedText)) := by
    unfold mutate prepare
    rw [bind_error]
    rw [bind_ok current, stopIf_true (by decide)]
    rfl
  change (writeOpenRillConfig sampleHost source
    (some "82396adcde1bc66529b2da68df5cb4d7493971a6c3a0931d7702d0b223c3f911")
    (sampleVolume rejectedText)).1 = _
  unfold writeOpenRillConfig
  rw [bind_ok (sample_locked rejectedText), lastly, stopped]
  rfl

end OpenRill.Config.Repairs
