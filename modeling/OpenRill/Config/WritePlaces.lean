import OpenRill.Config.Store

/-!
# The files of a write

Where the files of a write lie, which of them a step changes, and that everything before the
replacement of the source leaves the source and both snapshots as they were.
-/

namespace OpenRill.Config.WritePlaces

open OpenRill.Lib OpenRill.Lib.Paths OpenRill.Lib.Checked OpenRill.Lib.Effect OpenRill.Lib.Volumes
open OpenRill.Config.Sources OpenRill.Config.Store

variable {host : Host} {path kept : Path} {entry : Option Entry} {files : List Path}

section Places

variable (host : Host)

def tracked : List Path :=
  [host.paths.sourcePath, host.paths.materializedPath, host.paths.lastKnownGoodPath]

def namedFiles : List Path :=
  host.paths.mutationLockPath :: host.candidatePath :: tracked host

def journalFile (path : Path) : Prop := ∃ name, path = host.paths.journalDir ++ [name]

/-- The files of a write lie at different places, and none of them is a directory; the text of the
lock names its owner. -/
structure Sited : Prop where
  some_limit : 0 < host.linkLimit
  owned : ∃ pid, host.lockOwner host.lockText = some (pid, host.ownerId)
  distinct : ((namedFiles host).map host.layout.home).Nodup
  journals : ∀ path, journalFile host path → ∀ other ∈ namedFiles host,
    host.layout.home path ≠ host.layout.home other
  plain : ∀ path, path ∈ namedFiles host ∨ journalFile host path →
    host.layout.directory (host.layout.home path) = false

variable (volume : Volume)

def readAt (path : Path) : Except ReadFailure String := (host.disk volume).read path

def wayOf (path : Path) : List Path := trail host.layout volume host.linkLimit path

def Apart : Prop :=
  ∀ written, written ∈ namedFiles host ∨ journalFile host written →
    ∀ kept ∈ namedFiles host, host.layout.home written ≠ host.layout.home kept →
      host.layout.home written ∉ wayOf host volume kept

structure Backup : Prop where
  apart : ∀ written ∈ [host.paths.mutationLockPath, host.candidatePath],
    host.layout.home written ∉ wayOf host volume (previousPath host)
  away : ∀ place ∈ wayOf host volume (previousPath host), ∀ kept ∈ namedFiles host,
    place ∉ wayOf host volume kept

end Places

variable {volume : Volume}

section

variable (sited : Sited host) (apart : Apart host volume)
  (written : path ∈ namedFiles host ∨ journalFile host path)
include sited apart written

theorem change_apart (ends : ∀ target, entry ≠ some (.link target)) :
    Apart host (Function.update volume (host.layout.home path) entry) := by
  intro other isWritten kept isKept different
  by_cases here : host.layout.home kept = host.layout.home path
  · unfold wayOf
    rw [trail_here sited.some_limit here ends]
    intro mem
    rw [List.mem_singleton.1 mem] at different
    exact different here.symm
  · have away := apart path written kept isKept (fun same => here same.symm)
    unfold wayOf
    rw [(trail_apart away).1]
    exact apart other isWritten kept isKept different

theorem change_elsewhere (isKept : kept ∈ namedFiles host)
    (different : host.layout.home path ≠ host.layout.home kept) :
    readAt host (Function.update volume (host.layout.home path) entry) kept =
      readAt host volume kept :=
  (disk_apart sited.some_limit (apart path written kept isKept different)).2.2

end

section

variable (sited : Sited host) (written : path ∈ namedFiles host ∨ journalFile host path)
include sited written

theorem readAt_put (text : String) :
    readAt host (put host.layout path text volume) path = .ok text := by
  unfold readAt Host.disk
  dsimp only
  rw [find_put sited.some_limit (sited.plain path written)]

theorem readAt_discard : readAt host (discard host.layout path volume) path = .error .missing := by
  unfold readAt Host.disk
  dsimp only
  rw [find_discard sited.some_limit (sited.plain path written)]

end

theorem change_backup (sited : Sited host) (apart : Apart host volume)
    (backup : Backup host volume)
    (written : path ∈ [host.paths.mutationLockPath, host.candidatePath])
    (ends : ∀ target, entry ≠ some (.link target)) :
    Backup host (Function.update volume (host.layout.home path) entry) := by
  have isNamed : path ∈ namedFiles host := by
    rcases List.mem_cons.1 written with rfl | more
    · exact List.mem_cons_self
    · exact List.mem_cons_of_mem _ (by rw [List.mem_singleton.1 more]; exact List.mem_cons_self)
  have way : wayOf host (Function.update volume (host.layout.home path) entry)
      (previousPath host) = wayOf host volume (previousPath host) :=
    (trail_apart (backup.apart path written)).1
  constructor
  · rw [way]
    exact backup.apart
  rw [way]
  intro place onWay kept isKept
  by_cases here : host.layout.home kept = host.layout.home path
  · unfold wayOf
    rw [trail_here sited.some_limit here ends]
    intro mem
    rw [List.mem_singleton.1 mem] at onWay
    exact backup.apart path written onWay
  · have away := apart path (Or.inl isNamed) kept isKept (fun same => here same.symm)
    unfold wayOf
    rw [(trail_apart away).1]
    exact backup.away place onWay kept isKept

def Stays (host : Host) (Inv : Volume → Prop) (files : List Path) (before after : Volume) : Prop :=
  Inv before → Inv after ∧ ∀ path ∈ files, readAt host after path = readAt host before path

variable {Inv : Volume → Prop}

theorem stays_refl (volume : Volume) : Stays host Inv files volume volume :=
  fun holds => ⟨holds, fun _ _ => rfl⟩

theorem stays_trans (first second third : Volume) (one : Stays host Inv files first second)
    (other : Stays host Inv files second third) : Stays host Inv files first third := by
  intro holds
  have middle := one holds
  have last := other middle.1
  exact ⟨last.1, fun path mem => (last.2 path mem).trans (middle.2 path mem)⟩

def Ready (host : Host) (volume : Volume) : Prop := Apart host volume ∧ Backup host volume

variable {Rel : Volume → Volume → Prop}

def lockedFiles (host : Host) : List Path := host.paths.mutationLockPath :: tracked host

theorem tracked_named (mem : path ∈ tracked host) : path ∈ namedFiles host :=
  List.mem_cons_of_mem _ (List.mem_cons_of_mem _ mem)

theorem locked_named (mem : path ∈ lockedFiles host) : path ∈ namedFiles host := by
  rcases List.mem_cons.1 mem with rfl | more
  · exact List.mem_cons_self
  · exact tracked_named more

theorem candidate_named : host.candidatePath ∈ namedFiles host :=
  List.mem_cons_of_mem _ List.mem_cons_self

theorem lock_apart (sited : Sited host) (mem : kept ∈ tracked host) :
    host.layout.home host.paths.mutationLockPath ≠ host.layout.home kept := by
  have distinct := sited.distinct
  rw [namedFiles, List.map_cons, List.nodup_cons] at distinct
  intro same
  apply distinct.1
  rw [same]
  exact List.mem_map_of_mem (List.mem_cons_of_mem _ mem)

theorem candidate_apart (sited : Sited host) (mem : kept ∈ lockedFiles host) :
    host.layout.home host.candidatePath ≠ host.layout.home kept := by
  have distinct := sited.distinct
  rw [namedFiles, List.map_cons, List.map_cons, List.nodup_cons, List.nodup_cons] at distinct
  intro same
  rcases List.mem_cons.1 mem with rfl | more
  · apply distinct.1
    rw [← same]
    exact List.mem_cons_self
  · apply distinct.2.1
    rw [same]
    exact List.mem_map_of_mem more

theorem change_ready (sited : Sited host)
    (written : path ∈ [host.paths.mutationLockPath, host.candidatePath])
    (named : ∀ kept ∈ files, kept ∈ namedFiles host)
    (away : ∀ kept ∈ files, host.layout.home path ≠ host.layout.home kept)
    (ends : ∀ target, entry ≠ some (.link target)) (volume : Volume) :
    Stays host (Ready host) files volume
      (Function.update volume (host.layout.home path) entry) := by
  intro ready
  have isNamed : path ∈ namedFiles host := by
    rcases List.mem_cons.1 written with rfl | more
    · exact List.mem_cons_self
    · rw [List.mem_singleton.1 more]
      exact candidate_named
  refine ⟨⟨change_apart sited ready.1 (Or.inl isNamed) ends,
    change_backup sited ready.1 ready.2 written ends⟩, ?_⟩
  intro kept mem
  exact change_elsewhere sited ready.1 (Or.inl isNamed) (named kept mem) (away kept mem)

theorem file_ends (text : String) (target : Path) :
    some (Entry.file text) ≠ some (.link target) := by
  intro same
  cases same

theorem nothing_ends (target : Path) : (none : Option Entry) ≠ some (.link target) := by
  intro same
  cases same

section

variable (sited : Sited host)
include sited

theorem lock_stays (ends : ∀ target, entry ≠ some (.link target)) (volume : Volume) :
    Stays host (Ready host) (tracked host) volume
      (Function.update volume (host.layout.home host.paths.mutationLockPath) entry) :=
  change_ready sited List.mem_cons_self (fun _ => tracked_named) (fun _ => lock_apart sited) ends
    volume

theorem candidate_stays (ends : ∀ target, entry ≠ some (.link target)) (volume : Volume) :
    Stays host (Ready host) (lockedFiles host) volume
      (Function.update volume (host.layout.home host.candidatePath) entry) :=
  change_ready sited (List.mem_cons_of_mem _ List.mem_cons_self) (fun _ => locked_named)
    (fun _ => candidate_apart sited) ends volume

theorem createLock_stays (attempt : Nat) :
    Respects (Stays host (Ready host) (tracked host)) (createLock host attempt) := by
  apply respects_bind stays_trans (respects_stopIf stays_refl _ _)
  intro _
  apply respects_bind stays_trans (respects_look stays_refl _)
  intro taken
  split_ifs
  · exact respects_pure stays_refl false
  apply respects_bind stays_trans
    (respects_write fun volume => lock_stays sited (file_ends "") volume)
  intro _
  apply respects_bind stays_trans (respects_stopIf stays_refl _ _)
  intro _
  apply respects_bind stays_trans
    (respects_write fun volume => lock_stays sited (file_ends host.lockText) volume)
  intro _
  exact respects_pure stays_refl true

theorem takeLock_stays (left : Nat) :
    Respects (Stays host (Ready host) (tracked host)) (takeLock host left) := by
  induction left with
  | zero => exact respects_throws stays_refl _
  | succ left ih =>
    apply respects_bind stays_trans (createLock_stays sited left)
    intro created
    split_ifs
    · exact respects_pure stays_refl ()
    apply respects_bind stays_trans (respects_look stays_refl _)
    intro raw
    apply respects_bind stays_trans (respects_stopIf stays_refl _ _)
    intro _
    apply respects_bind stays_trans (respects_stopIf stays_refl _ _)
    intro _
    apply respects_bind stays_trans
      (respects_write fun volume => lock_stays sited nothing_ends volume)
    intro _
    exact ih

theorem acquire_stays :
    Respects (Stays host (Ready host) (tracked host)) (acquireMutationLock host) := by
  apply respects_bind stays_trans (respects_stopIf stays_refl _ _)
  intro _
  exact takeLock_stays sited 2

end

theorem load_unpersisted (refl : ∀ volume, Rel volume volume)
    (trans : ∀ first second third, Rel first second → Rel second third → Rel first third)
    {call : Call} {allowLastKnownGood : Bool} :
    Respects Rel (loadOpenRillConfig host call false allowLastKnownGood) := by
  apply respects_bind trans (respects_look refl _)
  intro sourceRaw
  cases sourceRaw with
  | none => exact respects_look refl _
  | some raw =>
    apply respects_handle trans
    · apply respects_bind trans (respects_look refl _)
      intro result
      apply respects_bind trans (respects_pure refl ())
      intro _
      exact respects_pure refl result
    · intro failure
      unfold recover
      split_ifs
      · apply respects_bind trans
        · apply respects_bind trans (respects_look refl _)
          intro text
          exact respects_pure refl _
        · intro snapshot
          cases snapshot with
          | none => exact respects_throws refl _
          | some own => exact respects_pure refl _
      · exact respects_throws refl _

theorem current_stays {Rel : Volume → Volume → Prop} (refl : ∀ volume, Rel volume volume)
    (trans : ∀ first second third, Rel first second → Rel second third → Rel first third) :
    Respects Rel (currentSourceRevision host) := by
  apply respects_bind trans (respects_look refl _)
  intro raw
  cases raw with
  | none => exact respects_pure refl none
  | some text => exact respects_look refl _

theorem tryCandidate_stays (sited : Sited host) (nextRaw : String) :
    Respects (Stays host (Ready host) (lockedFiles host)) (tryCandidate host nextRaw) := by
  apply respects_bind stays_trans (respects_stopIf stays_refl _ _)
  intro _
  apply respects_bind stays_trans (respects_stopIf stays_refl _ _)
  intro _
  apply respects_bind stays_trans (respects_look stays_refl _)
  intro taken
  apply respects_bind stays_trans (respects_stopIf stays_refl _ _)
  intro _
  apply respects_bind stays_trans
    (respects_write fun volume => candidate_stays sited (file_ends nextRaw) volume)
  intro _
  apply respects_lastly stays_trans (respects_look stays_refl _)
  apply respects_bind stays_trans (respects_stopIf stays_refl _ _)
  intro _
  exact respects_write fun volume => candidate_stays sited nothing_ends volume

theorem previousConfig_stays (refl : ∀ volume, Rel volume volume)
    (trans : ∀ first second third, Rel first second → Rel second third → Rel first third)
    (priorRaw : Option String) : Respects Rel (previousConfig host priorRaw) := by
  cases priorRaw with
  | none => exact respects_look refl _
  | some raw =>
    apply respects_bind trans (load_unpersisted refl trans)
    intro result
    exact respects_pure refl _

def Leads (host : Host) (before after : Volume) : Prop :=
  Ready host before →
    Apart host after ∧ ∀ path ∈ lockedFiles host, readAt host after path = readAt host before path

theorem leads_of_stays (before after : Volume)
    (stays : Stays host (Ready host) (lockedFiles host) before after) :
    Leads host before after := by
  intro ready
  have after := stays ready
  exact ⟨after.1.1, after.2⟩

theorem stays_leads (first second third : Volume)
    (stays : Stays host (Ready host) (lockedFiles host) first second)
    (leads : Leads host second third) : Leads host first third := by
  intro ready
  have middle := stays ready
  have last := leads middle.1
  exact ⟨last.1, fun path mem => (last.2 path mem).trans (middle.2 path mem)⟩

theorem copyPrevious_leads (sited : Sited host) (priorRaw : Option String) :
    Respects (Leads host) (copyPrevious host priorRaw) := by
  cases priorRaw with
  | none => exact respects_pure (fun volume => leads_of_stays _ _ (stays_refl volume)) ()
  | some raw =>
    apply respects_write
    intro volume
    split_ifs
    · exact leads_of_stays _ _ (stays_refl volume)
    · cases leads : follow host.layout volume host.linkLimit (previousPath host) with
      | none => exact leads_of_stays _ _ (stays_refl volume)
      | some place =>
        intro ready
        have away := ready.2.away place (follow_mem_trail leads)
        refine ⟨?_, ?_⟩
        · intro written isWritten kept isKept different
          unfold wayOf
          rw [(trail_apart (away kept isKept)).1]
          exact ready.1 written isWritten kept isKept different
        · intro kept mem
          exact (disk_apart sited.some_limit (away kept (locked_named mem))).2.2

theorem prepare_leads (sited : Sited host) (source : Json) (expectedRevision : Option String) :
    Respects (Leads host) (prepare host source expectedRevision) := by
  have none_needed : ∀ volume, Stays host (Ready host) (lockedFiles host) volume volume :=
    stays_refl
  apply respects_seq leads_of_stays stays_leads (current_stays none_needed stays_trans)
  intro actualRevision
  apply respects_seq leads_of_stays stays_leads (respects_stopIf none_needed _ _)
  intro _
  apply respects_seq leads_of_stays stays_leads (respects_look none_needed _)
  intro priorRaw
  apply respects_seq leads_of_stays stays_leads (respects_look none_needed _)
  intro nextRaw
  apply respects_seq leads_of_stays stays_leads (tryCandidate_stays sited nextRaw)
  intro _
  apply respects_seq leads_of_stays stays_leads
    (previousConfig_stays none_needed stays_trans priorRaw)
  intro previousMaterialized
  apply respects_seq (fun _ _ leads => leads) ?_ (copyPrevious_leads sited priorRaw)
  · intro _
    exact fun volume => respects_pure (fun volume => (rfl : volume = volume)) _ volume
  · rintro first second third leads rfl
    exact leads

end OpenRill.Config.WritePlaces
