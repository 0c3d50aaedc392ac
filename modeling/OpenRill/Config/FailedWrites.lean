import OpenRill.Config.Repairs
import OpenRill.Config.WritePlaces

/-!
# Writes that fail

A write that throws before the source file is replaced leaves the source and both snapshots as
they were, and so does one whose verification fails before the first snapshot is replaced. A
failure of the second snapshot, of the journal or of the release of the lock comes too late.
-/

namespace OpenRill.Config.FailedWrites

open OpenRill.Lib OpenRill.Lib.Paths OpenRill.Lib.Checked OpenRill.Lib.Effect OpenRill.Lib.Volumes
open OpenRill.Config.Sources OpenRill.Config.Store OpenRill.Config.WritePlaces

variable {host : Host} {before after volume : Volume} {path : Path} {prepared : Prepared}
variable {source : Json} {expectedRevision : Option String} {result : ReadResult}
variable {snapshot : Snapshot} {fault : Option Site} {target : Target}

/-- The failing operation is a step of this replacement whose failure is not caught. -/
def StopsAt (host : Host) (target : Target) : Prop :=
  ∃ step, step ≠ .chmod ∧ step ≠ .syncDirectory ∧ host.fault = some (.replace target step)

theorem writeFile_stops (stops : StopsAt host target) (path : Path) (content : String)
    (volume : Volume) :
    ∃ failure, writeFileAtomic host target path content volume = (.error failure, volume) := by
  obtain ⟨step, notMode, notSync, isFault⟩ := stops
  unfold writeFileAtomic
  by_cases early : host.fault ∈ [AtomicStep.mkdir, .openTemporary, .writeTemporary,
      .syncTemporary, .closeTemporary].map fun step => some (Site.replace target step)
  · rw [stopIf_true early]
    exact ⟨_, rfl⟩
  · have isRename : host.fault = some (.replace target .rename) := by
      cases step <;> simp_all
    rw [stopIf_false early, stopIf_true isRename]
    exact ⟨_, rfl⟩

theorem writeFile_runs (runs : ¬ StopsAt host target) {content : String} (volume : Volume) :
    writeFileAtomic host target path content volume =
      (.ok (), put host.layout path content volume) := by
  unfold writeFileAtomic
  have early : ¬ host.fault ∈ [AtomicStep.mkdir, .openTemporary, .writeTemporary,
      .syncTemporary, .closeTemporary].map (fun step => some (Site.replace target step)) := by
    intro mem
    obtain ⟨step, isStep, isFault⟩ := List.mem_map.1 mem
    apply runs
    refine ⟨step, ?_, ?_, isFault.symm⟩
    · rintro rfl
      revert isStep
      decide
    · rintro rfl
      revert isStep
      decide
  have late : ¬ host.fault = some (.replace target .rename) := by
    intro isFault
    exact runs ⟨.rename, by decide, by decide, isFault⟩
  rw [stopIf_false early, stopIf_false late]
  rfl

theorem createLock_text (sited : Sited host) {attempt : Nat}
    (ran : createLock host attempt before = (.ok true, after)) :
    readAt host after host.paths.mutationLockPath = .ok host.lockText := by
  unfold createLock at ran
  simp only [bind_returns_iff, stopIf_returns_iff, look_returns_iff] at ran
  obtain ⟨_, _, ⟨_, rfl⟩, taken, _, ⟨_, rfl⟩, ran⟩ := ran
  cases taken with
  | true => cases ran
  | false =>
    simp only [Bool.false_eq_true, if_false, bind_returns_iff, stopIf_returns_iff,
      write_returns_iff, pure_returns_iff] at ran
    obtain ⟨_, _, _, _, _, _, _, _, rfl, _, rfl⟩ := ran
    exact readAt_put sited (Or.inl List.mem_cons_self) host.lockText

theorem takeLock_text (sited : Sited host) {left : Nat}
    (ran : takeLock host left before = (.ok (), after)) :
    readAt host after host.paths.mutationLockPath = .ok host.lockText := by
  induction left generalizing before with
  | zero => cases ran
  | succ left ih =>
    unfold takeLock at ran
    rw [bind_returns_iff] at ran
    obtain ⟨isCreated, reached, created, ran⟩ := ran
    cases isCreated with
    | true =>
      cases ran
      exact createLock_text sited created
    | false =>
      simp only [Bool.false_eq_true, if_false, bind_returns_iff, stopIf_returns_iff] at ran
      obtain ⟨_, _, _, _, _, _, _, _, _, _, _, _, ran⟩ := ran
      exact ih ran

theorem acquire_text (sited : Sited host)
    (ran : acquireMutationLock host before = (.ok (), after)) :
    readAt host after host.paths.mutationLockPath = .ok host.lockText := by
  unfold acquireMutationLock at ran
  simp only [bind_returns_iff, stopIf_returns_iff] at ran
  obtain ⟨_, _, _, ran⟩ := ran
  exact takeLock_text sited ran

def Prior (priorRaw : Option String) (read : Except ReadFailure String) : Prop :=
  match priorRaw with
  | none => read = .error .missing
  | some raw => read = .ok raw

theorem readText_prior {site : Site} {found : Option String}
    (ran : readTextIfExists host site path before = (.ok found, after)) :
    Prior found (readAt host before path) ∧ after = before := by
  unfold readTextIfExists at ran
  rw [look_returns_iff] at ran
  obtain ⟨seen, rfl⟩ := ran
  refine ⟨?_, rfl⟩
  split_ifs at seen
  split at seen
  · next isRead =>
      cases seen
      exact isRead
  · next isRead =>
      cases seen
      exact isRead
  · cases seen

theorem prepare_prior (ran : prepare host source expectedRevision before = (.ok prepared, after)) :
    host.stringify source = some prepared.nextRaw ∧
      prepared.actualRevision = expectedRevision ∧
      Prior prepared.priorRaw (readAt host before host.paths.sourcePath) := by
  unfold prepare at ran
  simp only [bind_returns_iff, stopIf_returns_iff, look_returns_iff, pure_returns_iff] at ran
  obtain ⟨_, checked, current, _, _, ⟨expected, rfl⟩, priorRaw, _, prior, nextRaw, _,
    ⟨printed, _⟩, _, _, _, _, _, _, _, _, _, rfl, _⟩ := ran
  have same := @current_stays host Eq (fun _ => rfl) (fun _ _ _ => Eq.trans) before
  rw [current] at same
  obtain rfl : before = checked := same
  exact ⟨(fetch_ok_iff _ _ _).1 printed, not_not.1 expected, (readText_prior prior).1⟩

/-- A write as far as the replacement of the materialized snapshot, with the new text, the result
and the snapshot of it. -/
def promote (host : Host) (prepared : Prepared) : Procedure (ReadResult × Snapshot) := do
  writeFileAtomic host .source host.paths.sourcePath prepared.nextRaw
  let _ ← readTextIfExists host (.readSource .verify) host.paths.sourcePath
  let result ← look (buildResultFromSource host .verify)
  let snapshot ← look fun _ => createSnapshot result
  writeFileAtomic host .materialized host.paths.materializedPath snapshot.text
  pure (result, snapshot)

def materialize (host : Host) (source : Json) (expectedRevision : Option String) :
    Procedure (Prepared × ReadResult × Snapshot) := do
  acquireMutationLock host
  let prepared ← prepare host source expectedRevision
  let promoted ← promote host prepared
  pure (prepared, promoted)

inductive Committed (host : Host) (prepared : Prepared) (before : Volume) :
    Except ConfigError (ReadResult × Snapshot) → Except ConfigError ReadResult × Volume → Prop where
  | restored (early failure : ConfigError) (after : Volume) (apart : Apart host after)
      (same : ∀ path ∈ lockedFiles host, readAt host after path = readAt host before path) :
      Committed host prepared before (.error early) (.error failure, after)
  | half (result : ReadResult) (snapshot : Snapshot) (failure : ConfigError) (after : Volume)
      (stops : StopsAt host .lastKnownGood) (apart : Apart host after)
      (source : readAt host after host.paths.sourcePath = readAt host before host.paths.sourcePath)
      (materialized : readAt host after host.paths.materializedPath = .ok snapshot.text)
      (lastKnownGood : readAt host after host.paths.lastKnownGoodPath =
        readAt host before host.paths.lastKnownGoodPath) :
      Committed host prepared before (.ok (result, snapshot)) (.error failure, after)
  | done (result : ReadResult) (snapshot : Snapshot) (committed after : Volume)
      (runs : ¬ StopsAt host .lastKnownGood) (apart : Apart host after)
      (isCommitted : readAt host committed host.paths.sourcePath = .ok prepared.nextRaw)
      (built : buildResultFromSource host .verify committed = .ok result)
      (isSnapshot : createSnapshot result = .ok snapshot)
      (source : readAt host after host.paths.sourcePath = .ok prepared.nextRaw)
      (materialized : readAt host after host.paths.materializedPath = .ok snapshot.text)
      (lastKnownGood : readAt host after host.paths.lastKnownGoodPath = .ok snapshot.text)
      (lock : readAt host after host.paths.mutationLockPath =
        readAt host before host.paths.mutationLockPath) :
      Committed host prepared before (.ok (result, snapshot)) (.ok result, after)

theorem source_tracked : host.paths.sourcePath ∈ tracked host := List.mem_cons_self

theorem materialized_tracked : host.paths.materializedPath ∈ tracked host :=
  List.mem_cons_of_mem _ List.mem_cons_self

theorem lastKnownGood_tracked : host.paths.lastKnownGoodPath ∈ tracked host :=
  List.mem_cons_of_mem _ (List.mem_cons_of_mem _ List.mem_cons_self)

theorem tracked_apart (sited : Sited host) :
    host.layout.home host.paths.sourcePath ≠ host.layout.home host.paths.materializedPath ∧
      host.layout.home host.paths.sourcePath ≠ host.layout.home host.paths.lastKnownGoodPath ∧
      host.layout.home host.paths.materializedPath ≠
        host.layout.home host.paths.lastKnownGoodPath := by
  have distinct := sited.distinct
  simp only [namedFiles, tracked, List.map_cons, List.map_nil, List.nodup_cons, List.mem_cons,
    List.not_mem_nil, or_false, not_or] at distinct
  exact ⟨distinct.2.2.1.1, distinct.2.2.1.2, distinct.2.2.2.1⟩

theorem put_tracked (sited : Sited host) (mem : path ∈ tracked host) (text : String)
    (apart : Apart host volume) :
    Apart host (put host.layout path text volume) ∧
      readAt host (put host.layout path text volume) path = .ok text ∧
      ∀ kept ∈ lockedFiles host, host.layout.home path ≠ host.layout.home kept →
        readAt host (put host.layout path text volume) kept = readAt host volume kept := by
  have written : path ∈ namedFiles host ∨ journalFile host path := Or.inl (tracked_named mem)
  refine ⟨change_apart sited apart written (file_ends text), readAt_put sited written text, ?_⟩
  intro kept isKept different
  exact change_elsewhere sited apart written (locked_named isKept) different

theorem lock_locked : host.paths.mutationLockPath ∈ lockedFiles host := List.mem_cons_self

theorem tracked_locked (mem : path ∈ tracked host) : path ∈ lockedFiles host :=
  List.mem_cons_of_mem _ mem

theorem restore_runs (sited : Sited host) {priorRaw : Option String}
    (prior : Prior priorRaw (readAt host before host.paths.sourcePath))
    (apart : Apart host volume) :
    ∃ failure after, restore host priorRaw volume = (.error failure, after) ∧
      Apart host after ∧
      readAt host after host.paths.sourcePath = readAt host before host.paths.sourcePath ∧
      ∀ kept ∈ lockedFiles host,
        host.layout.home host.paths.sourcePath ≠ host.layout.home kept →
          readAt host after kept = readAt host volume kept := by
  have written : host.paths.sourcePath ∈ namedFiles host ∨
      journalFile host host.paths.sourcePath := Or.inl (tracked_named source_tracked)
  cases priorRaw with
  | none =>
    refine ⟨_, _, rfl, change_apart sited apart written nothing_ends, ?_, ?_⟩
    · exact (readAt_discard sited written).trans prior.symm
    · intro kept mem different
      exact change_elsewhere sited apart written (locked_named mem) different
  | some raw =>
    have after := put_tracked sited source_tracked raw apart
    exact ⟨_, _, rfl, after.1, after.2.1.trans prior.symm, after.2.2⟩

theorem recover_closed (call : Call) (sourceRaw : String) (failure : ConfigError) :
    recover host call false sourceRaw failure = throws failure := by
  unfold recover
  rw [Bool.and_false, if_neg (by decide)]

theorem verify_read {raw : String}
    (read : readTextIfExists host (.readSource .verify) host.paths.sourcePath volume =
      (.ok (some raw), volume)) :
    loadOpenRillConfig host .verify true false volume = loadSource host .verify true volume := by
  unfold loadOpenRillConfig
  rw [bind_ok read]
  dsimp only
  cases ran : loadSource host .verify true volume with
  | mk ended reached =>
    cases ended with
    | error failure =>
      rw [handle_error ran, recover_closed]
      rfl
    | ok result => rw [handle_ok ran]

theorem persist_runs (isSnapshot : createSnapshot result = .ok snapshot)
    (runs : ¬ StopsAt host .materialized) :
    persistValidSnapshot host result volume =
      writeFileAtomic host .lastKnownGood host.paths.lastKnownGoodPath snapshot.text
        (put host.layout host.paths.materializedPath snapshot.text volume) := by
  unfold persistValidSnapshot
  rw [bind_ok (by rw [look, isSnapshot]), bind_ok (writeFile_runs runs _)]

theorem loadSource_built {call : Call}
    (built : buildResultFromSource host call volume = .ok result) :
    loadSource host call true volume =
      (persistValidSnapshot host result >>= fun _ => pure result) volume := by
  unfold loadSource
  rw [bind_ok (by rw [look, built])]
  rfl

theorem committed_restored (sited : Sited host) {prepared : Prepared} {before : Volume}
    (apart : Apart host before)
    (prior : Prior prepared.priorRaw (readAt host before host.paths.sourcePath))
    (runs : ¬ StopsAt host .source) {early failure : ConfigError}
    (fails : loadOpenRillConfig host .verify true false
      (put host.layout host.paths.sourcePath prepared.nextRaw before) =
        (.error failure, put host.layout host.paths.sourcePath prepared.nextRaw before)) :
    Committed host prepared before (.error early) (commitSource host prepared before) := by
  have replaced := put_tracked sited source_tracked prepared.nextRaw apart
  obtain ⟨own, after, restored, isApart, source, others⟩ := restore_runs sited prior replaced.1
  have ran : commitSource host prepared before = (.error own, after) := by
    unfold commitSource
    rw [bind_ok (writeFile_runs runs _), handle_error fails, restored]
  rw [ran]
  refine Committed.restored early own after isApart ?_
  intro kept mem
  by_cases here : host.layout.home host.paths.sourcePath = host.layout.home kept
  · rcases List.mem_cons.1 mem with rfl | inTracked
    · exact absurd here.symm (lock_apart sited source_tracked)
    rcases List.mem_cons.1 inTracked with rfl | more
    · exact source
    · rcases List.mem_cons.1 more with rfl | last
      · exact absurd here (tracked_apart sited).1
      · rw [List.mem_singleton.1 last] at here
        exact absurd here (tracked_apart sited).2.1
  · rw [others kept mem here, replaced.2.2 kept mem here]

section

variable (sited : Sited host) (apart : Apart host before)
  (prior : Prior prepared.priorRaw (readAt host before host.paths.sourcePath))
include sited apart prior

theorem verified_committed (stopsSource : ¬ StopsAt host .source)
    (verify : loadOpenRillConfig host .verify true false
      (put host.layout host.paths.sourcePath prepared.nextRaw before) =
        loadSource host .verify true
          (put host.layout host.paths.sourcePath prepared.nextRaw before)) :
    Committed host prepared before
      ((do
        let result ← look (buildResultFromSource host .verify)
        let snapshot ← look fun _ => createSnapshot result
        writeFileAtomic host .materialized host.paths.materializedPath snapshot.text
        pure (result, snapshot) : Procedure (ReadResult × Snapshot))
        (put host.layout host.paths.sourcePath prepared.nextRaw before)).1
      (commitSource host prepared before) := by
  have replaced := put_tracked sited source_tracked prepared.nextRaw apart
  have restores := @committed_restored host sited prepared before apart prior stopsSource
  have different := tracked_apart sited
  rw [verify] at restores
  cases built : buildResultFromSource host .verify
      (put host.layout host.paths.sourcePath prepared.nextRaw before) with
  | error failure =>
    rw [bind_error (by rw [look, built])]
    apply restores
    unfold loadSource
    rw [bind_error (by rw [look, built])]
  | ok result =>
    rw [bind_ok (by rw [look, built])]
    rw [loadSource_built built] at restores verify
    cases isSnapshot : createSnapshot result with
    | error failure =>
      apply restores
      rw [bind_error]
      unfold persistValidSnapshot
      rw [bind_error (by rw [look, isSnapshot])]
    | ok snapshot =>
      rw [bind_ok (by rw [look])]
      by_cases stopsFirst : StopsAt host .materialized
      · obtain ⟨failure, ran⟩ := writeFile_stops stopsFirst host.paths.materializedPath
          snapshot.text (put host.layout host.paths.sourcePath prepared.nextRaw before)
        rw [bind_error ran]
        apply restores
        rw [bind_error]
        unfold persistValidSnapshot
        rw [bind_ok (by rw [look, isSnapshot]), bind_error ran]
      · rw [bind_ok (writeFile_runs stopsFirst _), pure_run]
        have first := put_tracked sited materialized_tracked snapshot.text replaced.1
        have sourceFirst := first.2.2 _ (tracked_locked source_tracked) (Ne.symm different.1)
        by_cases stopsSecond : StopsAt host .lastKnownGood
        · obtain ⟨failure, ran⟩ := writeFile_stops stopsSecond host.paths.lastKnownGoodPath
            snapshot.text (put host.layout host.paths.materializedPath snapshot.text
              (put host.layout host.paths.sourcePath prepared.nextRaw before))
          rw [bind_error (by rw [persist_runs isSnapshot stopsFirst, ran])] at verify
          obtain ⟨own, after, restored, isApart, source, others⟩ :=
            restore_runs sited prior first.1
          have committed : commitSource host prepared before = (.error own, after) := by
            unfold commitSource
            rw [bind_ok (writeFile_runs stopsSource _), handle_error verify, restored]
          rw [committed]
          apply Committed.half result snapshot own after stopsSecond isApart source
          · rw [others _ (tracked_locked materialized_tracked) different.1, first.2.1]
          · rw [others _ (tracked_locked lastKnownGood_tracked) different.2.1,
              first.2.2 _ (tracked_locked lastKnownGood_tracked) different.2.2,
              replaced.2.2 _ (tracked_locked lastKnownGood_tracked) different.2.1]
        · have second := put_tracked sited lastKnownGood_tracked snapshot.text first.1
          rw [bind_ok (by rw [persist_runs isSnapshot stopsFirst,
            writeFile_runs stopsSecond])] at verify
          have committed : commitSource host prepared before =
              (.ok result, put host.layout host.paths.lastKnownGoodPath snapshot.text
                (put host.layout host.paths.materializedPath snapshot.text
                  (put host.layout host.paths.sourcePath prepared.nextRaw before))) := by
            unfold commitSource
            rw [bind_ok (writeFile_runs stopsSource _), handle_ok verify]
          rw [committed]
          apply Committed.done result snapshot _ _ stopsSecond second.1 replaced.2.1 built
            isSnapshot
          · rw [second.2.2 _ (tracked_locked source_tracked) (Ne.symm different.2.1),
              sourceFirst, replaced.2.1]
          · rw [second.2.2 _ (tracked_locked materialized_tracked) (Ne.symm different.2.2),
              first.2.1]
          · exact second.2.1
          · rw [second.2.2 _ lock_locked (Ne.symm (lock_apart sited lastKnownGood_tracked)),
              first.2.2 _ lock_locked (Ne.symm (lock_apart sited materialized_tracked)),
              replaced.2.2 _ lock_locked (Ne.symm (lock_apart sited source_tracked))]

theorem commit_committed :
    Committed host prepared before (promote host prepared before).1
      (commitSource host prepared before) := by
  by_cases stopsSource : StopsAt host .source
  · obtain ⟨failure, ran⟩ := writeFile_stops stopsSource host.paths.sourcePath prepared.nextRaw
      before
    unfold promote commitSource
    rw [bind_error ran, bind_error ran]
    exact Committed.restored failure failure before apart fun _ _ => rfl
  · have replaced := put_tracked sited source_tracked prepared.nextRaw apart
    have restores := @committed_restored host sited prepared before apart prior stopsSource
    unfold promote
    rw [bind_ok (writeFile_runs stopsSource _)]
    cases read : readTextIfExists host (.readSource .verify) host.paths.sourcePath
        (put host.layout host.paths.sourcePath prepared.nextRaw before) with
    | mk ended reached =>
      obtain rfl : put host.layout host.paths.sourcePath prepared.nextRaw before = reached :=
        congrArg Prod.snd read
      cases ended with
      | error failure =>
        rw [bind_error read]
        apply restores
        unfold loadOpenRillConfig
        rw [bind_error read]
      | ok found =>
        rw [bind_ok read]
        have isNext := (readText_prior read).1
        rw [replaced.2.1] at isNext
        cases found with
        | none => cases isNext
        | some raw =>
          exact verified_committed sited apart prior stopsSource (verify_read read)

end

variable {revision : String}
variable {middle start locked : Volume} {body : Procedure ReadResult} {failure : ConfigError}

def LateFault (host : Host) : Prop :=
  host.fault = some .journalDirectory ∨ StopsAt host .journal ∨
    host.fault = some .releaseRead ∨ host.fault = some .releaseRemove

theorem journal_stops (stops : host.fault = some .journalDirectory ∨ StopsAt host .journal)
    (prepared : Prepared) (isRevision : result.sourceRevision = some revision) (volume : Volume) :
    ∃ failure, appendMutationJournal host prepared result volume = (.error failure, volume) := by
  unfold appendMutationJournal
  by_cases early : host.fault = some .journalDirectory
  · rw [stopIf_true early]
    exact ⟨_, rfl⟩
  · rw [stopIf_false early, bind_ok (pure_run ()), bind_ok (by rw [look, isRevision, fetch])]
    exact writeFile_stops (stops.resolve_left early) _ _ volume

theorem journal_runs (early : host.fault ≠ some .journalDirectory) (runs : ¬ StopsAt host .journal)
    (prepared : Prepared) (isRevision : result.sourceRevision = some revision) (volume : Volume) :
    appendMutationJournal host prepared result volume =
      (.ok (), put host.layout (journalPath host (journalRecord host prepared result revision))
        (stableJson (journalRecord host prepared result revision).document) volume) := by
  unfold appendMutationJournal
  rw [stopIf_false early, bind_ok (pure_run ()), bind_ok (by rw [look, isRevision, fetch])]
  exact writeFile_runs runs volume

theorem release_stays (sited : Sited host) :
    Respects (Stays host (Apart host) (tracked host)) (release host) := by
  apply respects_bind stays_trans (respects_look stays_refl _)
  intro raw
  split_ifs
  · apply respects_bind stays_trans (respects_stopIf stays_refl _ _)
    intro _
    apply respects_write
    intro volume apart
    refine ⟨change_apart sited apart (Or.inl List.mem_cons_self) nothing_ends, ?_⟩
    intro kept mem
    exact change_elsewhere sited apart (Or.inl List.mem_cons_self) (tracked_named mem)
      (lock_apart sited mem)
  · exact respects_pure stays_refl ()

theorem release_ends (sited : Sited host)
    (lock : readAt host volume host.paths.mutationLockPath = .ok host.lockText) :
    if host.fault = some .releaseRead ∨ host.fault = some .releaseRemove then
      ∃ failure, release host volume = (.error failure, volume)
    else release host volume =
      (.ok (), discard host.layout host.paths.mutationLockPath volume) := by
  obtain ⟨pid, owned⟩ := sited.owned
  have mine : (host.lockOwner ((some host.lockText).getD "")).any
      (fun owner => owner.2 = host.ownerId) = true := by
    rw [Option.getD_some, owned]
    simp
  unfold readAt at lock
  by_cases reads : host.fault = some .releaseRead
  · rw [if_pos (Or.inl reads)]
    have failed : readTextIfExists host .releaseRead host.paths.mutationLockPath volume =
        (.error .system, volume) := by
      unfold readTextIfExists look
      dsimp only
      rw [if_pos reads]
    refine ⟨.system, ?_⟩
    unfold release
    rw [bind_error failed]
  · have read : readTextIfExists host .releaseRead host.paths.mutationLockPath volume =
        (.ok (some host.lockText), volume) := by
      unfold readTextIfExists look
      dsimp only
      rw [if_neg reads, lock]
    by_cases removes : host.fault = some .releaseRemove
    · rw [if_pos (Or.inr removes)]
      refine ⟨.system, ?_⟩
      unfold release
      rw [bind_ok read, if_pos mine, stopIf_true removes]
      rfl
    · rw [if_neg (by rintro (isRead | isRemove)
                     · exact reads isRead
                     · exact removes isRemove)]
      unfold release
      rw [bind_ok read, if_pos mine, stopIf_false removes]
      rfl

structure Reflects (host : Host) (source : Json) (result : ReadResult) (after : Volume) :
    Prop where
  reflected : ∃ (nextRaw : String) (snapshot : Snapshot) (committed : Volume),
    host.stringify source = some nextRaw ∧
    readAt host committed host.paths.sourcePath = .ok nextRaw ∧
    buildResultFromSource host .verify committed = .ok result ∧
    createSnapshot result = .ok snapshot ∧
    readAt host after host.paths.sourcePath = .ok nextRaw ∧
    readAt host after host.paths.materializedPath = .ok snapshot.text ∧
    readAt host after host.paths.lastKnownGoodPath = .ok snapshot.text
  journaled : ∃ record : JournalRecord, result.sourceRevision = some record.sourceRevisionAfter ∧
    record.materializedRevision = result.materializedRevision ∧
    readAt host after (journalPath host record) = .ok (stableJson record.document)

/-- A write that throws changes no tracked file, and one that returns reflects its source. -/
def Correct (host : Host) (source : Json) (before : Volume)
    (ended : Except ConfigError ReadResult × Volume) : Prop :=
  match ended.1 with
  | .error _ => ∀ path ∈ tracked host, readAt host ended.2 path = readAt host before path
  | .ok result => Reflects host source result ended.2

/-- Where the write comes as far as the materialized snapshot, a failure of the second snapshot
finds the first one as it was, and a later failure finds all files as they were. -/
def Harmless (host : Host) (source : Json) (expectedRevision : Option String)
    (before : Volume) : Prop :=
  ∀ prepared result snapshot,
    (materialize host source expectedRevision before).1 = .ok (prepared, result, snapshot) →
      (StopsAt host .lastKnownGood →
        readAt host before host.paths.materializedPath = .ok snapshot.text) ∧
      (LateFault host →
        readAt host before host.paths.sourcePath = .ok prepared.nextRaw ∧
        readAt host before host.paths.materializedPath = .ok snapshot.text ∧
        readAt host before host.paths.lastKnownGoodPath = .ok snapshot.text)

theorem snapshot_revision (isSnapshot : createSnapshot result = .ok snapshot) :
    ∃ revision, result.sourceRevision = some revision := by
  unfold createSnapshot at isSnapshot
  cases revision : result.sourceRevision with
  | none =>
    rw [revision] at isSnapshot
    cases isSnapshot
  | some own => exact ⟨own, rfl⟩

theorem throws_correct (sited : Sited host) (ran : body start = (.error failure, middle))
    (apart : Apart host middle) :
    Correct host source before (lastly body (release host) start) ↔
      ∀ path ∈ tracked host, readAt host middle path = readAt host before path := by
  have stays := release_stays sited middle apart
  cases released : release host middle with
  | mk ended after =>
    rw [released] at stays
    have thrown : ∃ own, lastly body (release host) start = (.error own, after) := by
      cases ended with
      | error own =>
        refine ⟨own, ?_⟩
        rw [lastly_error]
        rw [ran, released]
      | ok _ =>
        refine ⟨failure, ?_⟩
        rw [lastly_ok (by rw [ran, released]), ran]
    obtain ⟨own, thrown⟩ := thrown
    rw [thrown]
    constructor
    · intro same path mem
      exact (stays.2 path mem).symm.trans (same path mem)
    · intro same path mem
      exact (stays.2 path mem).trans (same path mem)

theorem tracked_iff :
    (∀ path ∈ tracked host, readAt host after path = readAt host before path) ↔
      readAt host after host.paths.sourcePath = readAt host before host.paths.sourcePath ∧
      readAt host after host.paths.materializedPath =
        readAt host before host.paths.materializedPath ∧
      readAt host after host.paths.lastKnownGoodPath =
        readAt host before host.paths.lastKnownGoodPath := by
  constructor
  · intro same
    exact ⟨same _ source_tracked, same _ materialized_tracked, same _ lastKnownGood_tracked⟩
  intro same path mem
  rcases List.mem_cons.1 mem with rfl | more
  · exact same.1
  · rcases List.mem_cons.1 more with rfl | last
    · exact same.2.1
    · rw [List.mem_singleton.1 last]
      exact same.2.2

theorem stops_early (stops : StopsAt host .lastKnownGood) : ¬ LateFault host := by
  obtain ⟨step, _, _, isFault⟩ := stops
  rintro (isOther | ⟨other, _, _, isOther⟩ | isOther | isOther)
  · rw [isFault] at isOther
    cases isOther
  · rw [isFault] at isOther
    cases isOther
  · rw [isFault] at isOther
    cases isOther
  · rw [isFault] at isOther
    cases isOther

theorem late_correct (sited : Sited host) {nextRaw text : String}
    (ran : body start = (.error failure, middle)) (apart : Apart host middle)
    (isSource : readAt host middle host.paths.sourcePath = .ok nextRaw)
    (isMaterialized : readAt host middle host.paths.materializedPath = .ok text)
    (isLast : readAt host middle host.paths.lastKnownGoodPath = .ok text) :
    Correct host source before (lastly body (release host) start) ↔
      readAt host before host.paths.sourcePath = .ok nextRaw ∧
      readAt host before host.paths.materializedPath = .ok text ∧
      readAt host before host.paths.lastKnownGoodPath = .ok text := by
  rw [throws_correct sited ran apart, tracked_iff, isSource, isMaterialized, isLast]
  constructor
  · intro same
    exact ⟨same.1.symm, same.2.1.symm, same.2.2.symm⟩
  · intro same
    exact ⟨same.1.symm, same.2.1.symm, same.2.2.symm⟩

theorem done_correct (sited : Sited host) {committed : Volume}
    (prepares : prepare host source expectedRevision locked = (.ok prepared, start))
    (ran : commitSource host prepared start = (.ok result, middle)) (apart : Apart host middle)
    (isCommitted : readAt host committed host.paths.sourcePath = .ok prepared.nextRaw)
    (built : buildResultFromSource host .verify committed = .ok result)
    (isSnapshot : createSnapshot result = .ok snapshot)
    (isSource : readAt host middle host.paths.sourcePath = .ok prepared.nextRaw)
    (isMaterialized : readAt host middle host.paths.materializedPath = .ok snapshot.text)
    (isLast : readAt host middle host.paths.lastKnownGoodPath = .ok snapshot.text)
    (lock : readAt host middle host.paths.mutationLockPath = .ok host.lockText)
    (printed : host.stringify source = some prepared.nextRaw) :
    Correct host source before
        (lastly (mutate host source expectedRevision) (release host) locked) ↔
      (LateFault host →
        readAt host before host.paths.sourcePath = .ok prepared.nextRaw ∧
        readAt host before host.paths.materializedPath = .ok snapshot.text ∧
        readAt host before host.paths.lastKnownGoodPath = .ok snapshot.text) := by
  obtain ⟨revision, isRevision⟩ := snapshot_revision isSnapshot
  by_cases stops : host.fault = some .journalDirectory ∨ StopsAt host .journal
  · obtain ⟨failure, failed⟩ := journal_stops stops prepared isRevision middle
    have threw : mutate host source expectedRevision locked = (.error failure, middle) := by
      unfold mutate
      rw [bind_ok prepares, bind_ok ran, bind_error failed]
    have late : LateFault host := by
      rcases stops with directory | journal
      · exact Or.inl directory
      · exact Or.inr (Or.inl journal)
    rw [late_correct sited threw apart isSource isMaterialized isLast]
    exact ⟨fun same _ => same, fun same => same late⟩
  · rw [not_or] at stops
    have journal := journal_runs stops.1 stops.2 prepared isRevision middle
    generalize isRecord : journalRecord host prepared result revision = record at journal
    have isFile : journalFile host (journalPath host record) := ⟨record.name, rfl⟩
    have elsewhere : ∀ kept ∈ namedFiles host,
        readAt host (put host.layout (journalPath host record) (stableJson record.document) middle)
          kept = readAt host middle kept := by
      intro kept mem
      exact change_elsewhere sited apart (Or.inr isFile) mem (sited.journals _ isFile kept mem)
    have returned : mutate host source expectedRevision locked = (.ok result,
        put host.layout (journalPath host record) (stableJson record.document) middle) := by
      unfold mutate
      rw [bind_ok prepares, bind_ok ran, bind_ok journal]
      rfl
    have journalApart := change_apart sited apart (Or.inr isFile)
      (file_ends (stableJson record.document))
    have released := release_ends sited ((elsewhere _ List.mem_cons_self).trans lock)
    split_ifs at released with fails
    · obtain ⟨failure, failed⟩ := released
      have thrown : lastly (mutate host source expectedRevision) (release host) locked =
          (.error failure,
            put host.layout (journalPath host record) (stableJson record.document) middle) := by
        rw [lastly_error]
        rw [returned, failed]
      rw [thrown]
      have late : LateFault host := Or.inr (Or.inr fails)
      change (∀ path ∈ tracked host, _ = _) ↔ _
      rw [tracked_iff]
      rw [elsewhere _ (tracked_named source_tracked), elsewhere _ (tracked_named materialized_tracked),
        elsewhere _ (tracked_named lastKnownGood_tracked), isSource, isMaterialized, isLast]
      constructor
      · intro same _
        exact ⟨same.1.symm, same.2.1.symm, same.2.2.symm⟩
      · intro same
        exact ⟨(same late).1.symm, (same late).2.1.symm, (same late).2.2.symm⟩
    · have thrown : lastly (mutate host source expectedRevision) (release host) locked =
          (.ok result, discard host.layout host.paths.mutationLockPath
            (put host.layout (journalPath host record) (stableJson record.document) middle)) := by
        rw [lastly_ok (by rw [returned, released]), returned]
      rw [thrown]
      have calm : ¬ LateFault host := by
        rintro (directory | journals | release)
        · exact stops.1 directory
        · exact stops.2 journals
        · exact fails release
      have kept : ∀ path ∈ tracked host, readAt host (discard host.layout
          host.paths.mutationLockPath (put host.layout (journalPath host record)
            (stableJson record.document) middle)) path = readAt host middle path := by
        intro path mem
        exact (change_elsewhere sited journalApart (Or.inl List.mem_cons_self)
          (tracked_named mem) (lock_apart sited mem)).trans (elsewhere path (tracked_named mem))
      constructor
      · exact fun _ late => absurd late calm
      intro _
      refine ⟨⟨prepared.nextRaw, snapshot, committed, printed, isCommitted, built, isSnapshot,
        ?_, ?_, ?_⟩, record, ?_, ?_, ?_⟩
      · exact (kept _ source_tracked).trans isSource
      · exact (kept _ materialized_tracked).trans isMaterialized
      · exact (kept _ lastKnownGood_tracked).trans isLast
      · rw [← isRecord]
        exact isRevision
      · rw [← isRecord]
        rfl
      have away : host.layout.home host.paths.mutationLockPath ∉ trail host.layout
          (put host.layout (journalPath host record) (stableJson record.document) middle)
          host.linkLimit (journalPath host record) := by
        unfold put
        rw [trail_here sited.some_limit rfl (file_ends _), List.mem_singleton]
        exact fun same => sited.journals _ isFile _ List.mem_cons_self same.symm
      exact (disk_apart sited.some_limit away).2.2.trans (readAt_put sited (Or.inr isFile) _)

theorem mutate_correct (sited : Sited host) (ready : Ready host locked)
    (same : ∀ path ∈ tracked host, readAt host locked path = readAt host before path)
    (lock : readAt host locked host.paths.mutationLockPath = .ok host.lockText) :
    Correct host source before
        (lastly (mutate host source expectedRevision) (release host) locked) ↔
      ∀ prepared result snapshot,
        ((do
          let prepared ← prepare host source expectedRevision
          let promoted ← promote host prepared
          pure (prepared, promoted) : Procedure (Prepared × ReadResult × Snapshot))
          locked).1 = .ok (prepared, result, snapshot) →
        (StopsAt host .lastKnownGood →
          readAt host before host.paths.materializedPath = .ok snapshot.text) ∧
        (LateFault host →
          readAt host before host.paths.sourcePath = .ok prepared.nextRaw ∧
          readAt host before host.paths.materializedPath = .ok snapshot.text ∧
          readAt host before host.paths.lastKnownGoodPath = .ok snapshot.text) := by
  have leads := prepare_leads sited source expectedRevision locked ready
  cases prepares : prepare host source expectedRevision locked with
  | mk ended start =>
    rw [prepares] at leads
    cases ended with
    | error failure =>
      have ran : mutate host source expectedRevision locked = (.error failure, start) := by
        unfold mutate
        rw [bind_error prepares]
      rw [throws_correct sited ran leads.1, bind_error prepares]
      constructor
      · intro _ prepared result snapshot impossible
        cases impossible
      · intro _ path mem
        exact (leads.2 path (tracked_locked mem)).trans (same path mem)
    | ok prepared =>
      obtain ⟨printed, expected, prior⟩ := prepare_prior prepares
      have sourceStart := leads.2 _ (tracked_locked source_tracked)
      rw [← sourceStart] at prior
      have sameStart : ∀ path ∈ tracked host,
          readAt host start path = readAt host before path := by
        intro path mem
        exact (leads.2 path (tracked_locked mem)).trans (same path mem)
      have committed := commit_committed sited leads.1 prior
      rw [bind_ok prepares]
      have promoted : ∀ other result snapshot,
          ((promote host prepared >>= fun promoted => pure (prepared, promoted) :
            Procedure (Prepared × ReadResult × Snapshot)) start).1 =
            .ok (other, result, snapshot) ↔
          prepared = other ∧ (promote host prepared start).1 = .ok (result, snapshot) := by
        intro other result snapshot
        cases promotes : promote host prepared start with
        | mk reached next =>
          cases reached with
          | error failure =>
            rw [bind_error promotes]
            constructor
            · intro impossible
              cases impossible
            · rintro ⟨_, impossible⟩
              cases impossible
          | ok pair =>
            rw [bind_ok promotes, pure_run]
            constructor
            · intro isPair
              cases isPair
              exact ⟨rfl, rfl⟩
            · rintro ⟨rfl, isPair⟩
              cases isPair
              rfl
      simp only [promoted]
      cases ran : commitSource host prepared start with
      | mk result middle =>
        rw [ran] at committed
        generalize isEarly : (promote host prepared start).1 = early at committed
        cases committed with
        | restored early failure _ apart unchanged =>
          have threw : mutate host source expectedRevision locked =
              (.error failure, middle) := by
            unfold mutate
            rw [bind_ok prepares, bind_error ran]
          rw [throws_correct sited threw apart]
          constructor
          · rintro _ _ _ _ ⟨_, impossible⟩
            cases impossible
          · intro _ path mem
            exact (unchanged path (tracked_locked mem)).trans (sameStart path mem)
        | half result snapshot failure _ stops apart isSource isMaterialized isLast =>
          have threw : mutate host source expectedRevision locked =
              (.error failure, middle) := by
            unfold mutate
            rw [bind_ok prepares, bind_error ran]
          rw [throws_correct sited threw apart, tracked_iff, isSource, isMaterialized,
            isLast, sameStart _ source_tracked, sameStart _ lastKnownGood_tracked]
          constructor
          · rintro unchanged _ _ _ ⟨_, isPair⟩
            cases isPair
            exact ⟨fun _ => unchanged.2.1.symm, fun late => absurd late (stops_early stops)⟩
          · intro harmless
            exact ⟨rfl, ((harmless _ _ _ ⟨rfl, rfl⟩).1 stops).symm, rfl⟩
        | done result snapshot committed _ runs apart isCommitted built isSnapshot isSource
            isMaterialized isLast lockSame =>
            have needs : (∀ other otherResult otherSnapshot, prepared = other ∧
                (Except.ok (result, snapshot) : Except ConfigError (ReadResult × Snapshot)) =
                  .ok (otherResult, otherSnapshot) →
                (StopsAt host .lastKnownGood →
                  readAt host before host.paths.materializedPath = .ok otherSnapshot.text) ∧
                (LateFault host →
                  readAt host before host.paths.sourcePath = .ok other.nextRaw ∧
                  readAt host before host.paths.materializedPath = .ok otherSnapshot.text ∧
                  readAt host before host.paths.lastKnownGoodPath = .ok otherSnapshot.text)) ↔
                (LateFault host →
                  readAt host before host.paths.sourcePath = .ok prepared.nextRaw ∧
                  readAt host before host.paths.materializedPath = .ok snapshot.text ∧
                  readAt host before host.paths.lastKnownGoodPath = .ok snapshot.text) := by
              constructor
              · intro harmless
                exact (harmless _ _ _ ⟨rfl, rfl⟩).2
              · rintro harmless _ _ _ ⟨rfl, isPair⟩
                cases isPair
                exact ⟨fun stops => absurd stops runs, harmless⟩
            rw [needs]
            have lockMiddle : readAt host middle host.paths.mutationLockPath =
                .ok host.lockText := by
              rw [lockSame, leads.2 _ lock_locked, lock]
            exact done_correct sited prepares ran apart isCommitted built isSnapshot isSource
              isMaterialized isLast lockMiddle printed

def writerHost (fault : Option Site) : Host where
  layout := Repairs.sampleHost.layout
  linkLimit := 40
  paths := Repairs.sampleHost.paths
  limits := defaultIncludeLimits
  parse := fun _ => .ok (.object [("version", .number "1")])
  localeBefore := Repairs.sampleHost.localeBefore
  sha256 := fun _ => "04264850cf7eb2c69aabae8708caeea07119ada0b314f1973ac4fefc3f5c92e7"
  validate := Repairs.sampleValidate
  minimalSource := .object [("version", .number "1")]
  secretStatuses := fun _ _ => some []
  redact := id
  stringify := fun _ => some "version: 1\n"
  readSnapshot := fun _ => none
  changedPaths := fun _ _ => []
  lockOwner := Repairs.sampleHost.lockOwner
  alive := fun _ => true
  ownerId := "owner"
  lockText := "owner"
  candidatePath := ["config", ".agent.candidate.yaml"]
  clock := fun _ => "2026-08-01T10:00:00.000Z"
  changedAt := "2026-08-01T10:00:00.000Z"
  fault := fault

def emptyVolume : Volume := fun _ => none

theorem writerHost_files (fault : Option Site) : namedFiles (writerHost fault) =
    [["state", "config.mutation.lock"], ["config", ".agent.candidate.yaml"],
      ["config", "agent.yaml"], ["state", "materialized.json"],
      ["state", "last-known-good.json"]] := rfl

theorem writerHost_backup (fault : Option Site) :
    previousPath (writerHost fault) = ["config", "agent.yaml.previous"] := rfl

theorem writerHost_sited : Sited (writerHost fault) where
  some_limit := Nat.succ_pos 39
  owned := ⟨1, rfl⟩
  distinct := by
    change ([["state", "config.mutation.lock"], ["config", ".agent.candidate.yaml"],
      ["config", "agent.yaml"], ["state", "materialized.json"],
      ["state", "last-known-good.json"]] : List Path).Nodup
    decide
  journals := by
    rintro path ⟨name, rfl⟩ other mem same
    have short : ∀ own ∈ namedFiles (writerHost fault), own.length = 2 := by
      rw [writerHost_files]
      decide
    have long := congrArg List.length same
    have two := short other mem
    change 3 = other.length at long
    omega
  plain := by
    rintro path (mem | ⟨name, rfl⟩)
    · have plain : ∀ own ∈ namedFiles (writerHost fault),
          (own == ["config"] || own == ["state"]) = false := by
        rw [writerHost_files]
        decide
      exact plain path mem
    · rfl

theorem empty_way (fault : Option Site) (path : Path) :
    wayOf (writerHost fault) emptyVolume path = [path] := rfl

theorem empty_ready : Ready (writerHost fault) emptyVolume := by
  constructor
  · intro written _ kept _ different
    rw [empty_way, List.mem_singleton]
    exact different
  constructor
  · have away : ∀ own ∈ ([["state", "config.mutation.lock"],
        ["config", ".agent.candidate.yaml"]] : List Path),
        own ≠ ["config", "agent.yaml.previous"] := by decide
    intro written mem
    rw [empty_way, List.mem_singleton, writerHost_backup]
    exact away written mem
  · intro place onWay kept mem
    have away : ∀ own ∈ namedFiles (writerHost fault),
        (["config", "agent.yaml.previous"] : Path) ≠ own := by
      rw [writerHost_files]
      decide
    rw [empty_way, List.mem_singleton] at onWay
    rw [empty_way, List.mem_singleton, onWay, writerHost_backup]
    exact away kept mem

end OpenRill.Config.FailedWrites
