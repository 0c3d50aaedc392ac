import Mathlib

/-!
# The element refs of a browser page

A snapshot names each element of the current document by a ref, and an action gives the
ref back. Every operation waits for the page and for the navigation policy before it
applies what it observed, so observations come in any order and may be late. One step here
is what runs between two waits. The page's url and its times decide nothing about refs.
-/

namespace OpenRill.Browser.ElementRefs

inductive PageState where
  | opened
  | closing
  | closed
  | crashed
  deriving DecidableEq

structure PageRecord where
  state : PageState
  documentGeneration : Nat
  nextElementRef : Nat
  elementRefs : List (String × String)
  refElements : List (String × String)

def openedPage : PageRecord := ⟨.opened, 1, 0, [], []⟩

/-- The driver puts `aria:` before the name of every element. -/
structure ObservedElement where
  elementId : String
  named : elementId ≠ ""

/-- What an operation saw of the page. A generation that is no integer is refused as 0 is,
and `current` and `allowed` are the checks made before the observation is applied. -/
structure Observation where
  documentGeneration : Int
  current : Bool
  allowed : Bool

def refText (generation number : Nat) : String :=
  "e" ++ toString generation ++ "-" ++ toString number

/-- `#synchronizeDocument`; `none` when it throws. -/
def synchronizeDocument (page : PageRecord) (generation : Int) : Option PageRecord :=
  if generation ≤ 0 then none
  else if generation < page.documentGeneration then none
  else if page.documentGeneration < generation then
    some { page with
      documentGeneration := generation.toNat, nextElementRef := 0, elementRefs := [],
      refElements := [] }
  else some page

/-- A ref that was handed out, with the document it is about. -/
structure Issue where
  generation : Nat
  number : Nat
  elementId : String

def Issue.ref (issue : Issue) : String := refText issue.generation issue.number

/-- A page, and every ref that was ever made for it. -/
structure History where
  page : PageRecord
  issued : List Issue

def issueRef (history : History) (element : ObservedElement) : History :=
  match history.page.elementRefs.lookup element.elementId with
  | some _ => history
  | none =>
    let page := history.page
    let number := page.nextElementRef + 1
    let ref := refText page.documentGeneration number
    ⟨{ page with
        nextElementRef := number
        elementRefs := page.elementRefs ++ [(element.elementId, ref)]
        refElements := page.refElements ++ [(ref, element.elementId)] },
      history.issued ++ [⟨page.documentGeneration, number, element.elementId⟩]⟩

/-- The page after a step; `rejected` when nothing that was observed was applied. -/
structure Stepped where
  history : History
  rejected : Bool

def applied (history : History) (observation : Observation) (next : History → History) :
    Stepped :=
  if observation.current && observation.allowed then
    match synchronizeDocument history.page observation.documentGeneration with
    | some page => ⟨next { history with page := page }, false⟩
    | none => ⟨history, true⟩
  else ⟨history, true⟩

def closePageRecord (page : PageRecord) : PageRecord :=
  if page.state = .closed ∨ page.state = .crashed then page
  else { page with state := .closing, elementRefs := [], refElements := [] }

inductive Step where
  | snapshot (observation : Observation) (elements : List ObservedElement)
  | act (observation : Observation) (dialog : Bool)
  | screenshot (observation : Observation)
  | download (observation : Observation) (dialog : Bool)
  | navigated (generation : Int)
  | closePage
  | pageClosed
  | disconnected

def Step.generation? : Step → Option Int
  | .snapshot observation _ | .act observation _ | .screenshot observation
  | .download observation _ => some observation.documentGeneration
  | .navigated generation => some generation
  | .closePage | .pageClosed | .disconnected => none

def step (history : History) : Step → Stepped
  | .snapshot observation elements =>
    applied history observation (fun synchronized => elements.foldl issueRef synchronized)
  | .act observation dialog =>
    if dialog then ⟨history, true⟩
    else if observation.current && !observation.allowed then
      ⟨{ history with page := closePageRecord history.page }, true⟩
    else applied history observation id
  | .screenshot observation => applied history observation id
  | .download observation dialog =>
    if dialog then ⟨history, true⟩ else applied history observation id
  | .navigated generation =>
    if history.page.state = .opened then
      applied history ⟨generation, true, true⟩ id
    else ⟨history, true⟩
  | .closePage => ⟨{ history with page := closePageRecord history.page }, false⟩
  | .pageClosed =>
    if history.page.state = .opened then ⟨history, true⟩
    else ⟨{ history with page := { history.page with state := .closed } }, false⟩
  | .disconnected => ⟨{ history with page := { history.page with state := .crashed } }, false⟩

def run (history : History) (steps : List Step) : History :=
  steps.foldl (fun reached next => (step reached next).history) history

def start : History := ⟨openedPage, []⟩

def assertElementRefCurrent (page : PageRecord) (ref : String) : Option String :=
  if page.state = .closed ∨ page.state = .crashed then none
  else (page.refElements.lookup ref).filter (· ≠ "")

/-! ## Refs as text -/

theorem digit_not_dash (number : Nat) : '-' ∉ (toString number).toList := by
  rw [Nat.toString_eq_repr, Nat.repr, String.toList_ofList]
  intro dash
  have digit := Nat.isDigit_of_mem_toDigits (by decide) (by decide) dash
  exact absurd digit (by decide)

theorem refText_injective {generation number otherGeneration otherNumber : Nat}
    (same : refText generation number = refText otherGeneration otherNumber) :
    generation = otherGeneration ∧ number = otherNumber := by
  have lists := congrArg String.toList same
  simp only [refText, String.toList_append, List.append_assoc, List.append_cancel_left_eq]
    at lists
  obtain ⟨first, _, second⟩ := (List.append_cons_inj_of_notMem (digit_not_dash _)
    (digit_not_dash _)).mp lists
  exact ⟨Nat.repr_injective (String.toList_inj.mp first),
    Nat.repr_injective (String.toList_inj.mp second)⟩

theorem lookup_iff_mem {entries : List (String × String)} {key value : String}
    (distinct : (entries.map Prod.fst).Nodup) :
    entries.lookup key = some value ↔ (key, value) ∈ entries := by
  induction entries with
  | nil => simp
  | cons entry rest ih =>
    obtain ⟨fresh, distinct⟩ := List.nodup_cons.mp distinct
    rw [List.lookup_cons, List.mem_cons]
    split
    · next same =>
      obtain rfl := eq_of_beq same
      have absent : (entry.1, value) ∉ rest := fun member =>
        fresh (List.mem_map.mpr ⟨_, member, rfl⟩)
      simp [absent, Prod.ext_iff, eq_comm]
    · next other =>
      have differs : key ≠ entry.1 := by simpa using other
      simp [ih distinct, Prod.ext_iff, differs]

/-! ## What one step keeps -/

structure Inv (history : History) : Prop where
  swapped : history.page.refElements = history.page.elementRefs.map Prod.swap
  distinct : (history.page.elementRefs.map Prod.fst).Nodup
  held : ∀ pair ∈ history.page.elementRefs, ∃ issue ∈ history.issued,
    issue.generation = history.page.documentGeneration ∧ pair = (issue.elementId, issue.ref)
  bounded : ∀ issue ∈ history.issued,
    issue.generation < history.page.documentGeneration ∨
      issue.generation = history.page.documentGeneration ∧
        issue.number ≤ history.page.nextElementRef
  once : ∀ first ∈ history.issued, ∀ second ∈ history.issued,
    first.ref = second.ref → first = second
  named : ∀ issue ∈ history.issued, issue.elementId ≠ ""
  live : history.page.state = .opened → ∀ issue ∈ history.issued,
    issue.generation = history.page.documentGeneration →
    (issue.elementId, issue.ref) ∈ history.page.elementRefs

theorem start_inv : Inv start where
  swapped := rfl
  distinct := List.nodup_nil
  held := nofun
  bounded := nofun
  once := nofun
  named := nofun
  live _ := nofun

theorem issueRef_inv (inv : Inv history) (element : ObservedElement) :
    Inv (issueRef history element) := by
  unfold issueRef
  split
  · exact inv
  · next absent =>
    have unknown : element.elementId ∉ history.page.elementRefs.map Prod.fst := by
      intro member
      obtain ⟨pair, isPair, same⟩ := List.mem_map.mp member
      simpa [same] using List.lookup_eq_none_iff.mp absent pair isPair
    have fresh : ∀ issue ∈ history.issued, issue.ref ≠
        refText history.page.documentGeneration (history.page.nextElementRef + 1) := by
      intro issue issued same
      obtain ⟨sameGeneration, sameNumber⟩ := refText_injective same
      have bound := inv.bounded issue issued
      omega
    refine ⟨by simp [inv.swapped], ?_, ?_, ?_, ?_, ?_, ?_⟩
    · rw [List.map_append, List.nodup_append_comm]
      exact List.nodup_cons.mpr ⟨unknown, inv.distinct⟩
    · intro pair isPair
      rcases List.mem_append.mp isPair with earlier | new
      · obtain ⟨issue, issued, rest⟩ := inv.held pair earlier
        exact ⟨issue, List.mem_append_left _ issued, rest⟩
      · obtain rfl := List.mem_singleton.mp new
        exact ⟨_, List.mem_append_right _ (List.mem_singleton_self _), rfl, rfl⟩
    · rw [List.forall_mem_append, List.forall_mem_singleton]
      refine ⟨fun issue earlier => ?_, .inr ⟨rfl, le_rfl⟩⟩
      have bound := inv.bounded issue earlier
      dsimp only
      omega
    · simp only [List.forall_mem_append, List.forall_mem_singleton]
      exact ⟨fun first one => ⟨inv.once first one, fun same => absurd same (fresh first one)⟩,
        fun second two same => absurd same.symm (fresh second two), fun _ => trivial⟩
    · rw [List.forall_mem_append, List.forall_mem_singleton]
      exact ⟨inv.named, element.named⟩
    · rw [List.forall_mem_append, List.forall_mem_singleton]
      exact fun opened => ⟨fun issue earlier same =>
        List.mem_append_left _ (inv.live opened issue earlier same),
        fun _ => List.mem_append_right _ (List.mem_singleton_self _)⟩

theorem issueRef_generation (history : History) (element : ObservedElement) :
    (issueRef history element).page.documentGeneration =
      history.page.documentGeneration := by
  unfold issueRef
  split <;> rfl

theorem synchronize_inv (inv : Inv history)
    (synchronized : synchronizeDocument history.page generation = some page) :
    Inv { history with page := page } ∧
      history.page.documentGeneration ≤ page.documentGeneration := by
  unfold synchronizeDocument at synchronized
  split at synchronized
  · cases synchronized
  split at synchronized
  · cases synchronized
  split at synchronized
  · next newer =>
    cases Option.some.inj synchronized
    have later : history.page.documentGeneration < generation.toNat := by omega
    refine ⟨⟨rfl, List.nodup_nil, nofun, ?_, inv.once, inv.named, ?_⟩, later.le⟩
    · intro issue issued
      have bound := inv.bounded issue issued
      dsimp only
      omega
    · intro _ issue issued sameGeneration
      have bound := inv.bounded issue issued
      dsimp only at sameGeneration
      omega
  · cases Option.some.inj synchronized
    exact ⟨inv, le_rfl⟩

theorem clear_inv (inv : Inv history) (state : PageState) (shut : state ≠ .opened) :
    Inv { history with page :=
      { history.page with state := state, elementRefs := [], refElements := [] } } :=
  ⟨rfl, List.nodup_nil, nofun, inv.bounded, inv.once, inv.named,
    fun opened => absurd opened shut⟩

theorem shut_inv (inv : Inv history) (state : PageState) (shut : state ≠ .opened) :
    Inv { history with page := { history.page with state := state } } :=
  ⟨inv.swapped, inv.distinct, inv.held, inv.bounded, inv.once, inv.named,
    fun opened => absurd opened shut⟩

/-- What a step keeps: the invariant, and no older document. -/
structure Keeps (history next : History) : Prop where
  inv : Inv next
  generation : history.page.documentGeneration ≤ next.page.documentGeneration
  issued : history.issued <+: next.issued

theorem keeps_refl (inv : Inv history) : Keeps history history :=
  ⟨inv, le_rfl, List.prefix_rfl⟩

theorem Keeps.trans (first : Keeps history middle) (second : Keeps middle next) :
    Keeps history next :=
  ⟨second.inv, first.generation.trans second.generation, first.issued.trans second.issued⟩

section

variable (inv : Inv history)
include inv

theorem issueRefs_keeps (elements : List ObservedElement) :
    Keeps history (elements.foldl issueRef history) := by
  induction elements generalizing history with
  | nil => exact keeps_refl inv
  | cons element rest ih =>
    have grows : history.issued <+: (issueRef history element).issued := by
      unfold issueRef
      split
      · exact List.prefix_rfl
      · exact List.prefix_append _ _
    exact Keeps.trans ⟨issueRef_inv inv element, (issueRef_generation history element).ge,
      grows⟩ (ih (issueRef_inv inv element))

theorem applied_keeps (observation : Observation) {next : History → History}
    (keeps : ∀ reached, Inv reached → Keeps reached (next reached)) :
    Keeps history (applied history observation next).history := by
  unfold applied
  split
  · split
    · next page synchronized =>
      obtain ⟨reached, newer⟩ := synchronize_inv inv synchronized
      exact Keeps.trans ⟨reached, newer, List.prefix_rfl⟩ (keeps _ reached)
    · exact keeps_refl inv
  · exact keeps_refl inv

theorem closePageRecord_keeps :
    Keeps history { history with page := closePageRecord history.page } := by
  unfold closePageRecord
  split
  · exact keeps_refl inv
  · exact ⟨clear_inv inv .closing nofun, le_rfl, List.prefix_rfl⟩

theorem step_keeps (next : Step) : Keeps history (step history next).history := by
  cases next with
  | snapshot observation elements =>
    exact applied_keeps inv observation (fun _ reached => issueRefs_keeps reached elements)
  | act observation dialog =>
    simp only [step]
    split
    · exact keeps_refl inv
    · split
      · exact closePageRecord_keeps inv
      · exact applied_keeps inv observation (fun _ reached => keeps_refl reached)
  | screenshot observation =>
    exact applied_keeps inv observation (fun _ reached => keeps_refl reached)
  | download observation dialog =>
    simp only [step]
    split
    · exact keeps_refl inv
    · exact applied_keeps inv observation (fun _ reached => keeps_refl reached)
  | navigated generation =>
    simp only [step]
    split
    · exact applied_keeps inv _ (fun _ reached => keeps_refl reached)
    · exact keeps_refl inv
  | closePage => exact closePageRecord_keeps inv
  | pageClosed =>
    simp only [step]
    split
    · exact keeps_refl inv
    · exact ⟨shut_inv inv .closed nofun, le_rfl, List.prefix_rfl⟩
  | disconnected => exact ⟨shut_inv inv .crashed nofun, le_rfl, List.prefix_rfl⟩

end

theorem run_keeps (inv : Inv history) (steps : List Step) :
    Keeps history (run history steps) := by
  induction steps generalizing history with
  | nil => exact keeps_refl inv
  | cons next rest ih =>
    have kept := step_keeps inv next
    exact kept.trans (ih kept.inv)

/-! ## What holds of every run -/

/-- An action whose page went to an address that the policy refuses. -/
def Step.Shuts : Step → Prop
  | .act observation dialog =>
    dialog = false ∧ observation.current = true ∧ observation.allowed = false
  | _ => False

theorem applied_late (history : History) (observation : Observation) (next : History → History)
    (late : observation.documentGeneration < history.page.documentGeneration) :
    applied history observation next = ⟨history, true⟩ := by
  have thrown : synchronizeDocument history.page observation.documentGeneration = none := by
    unfold synchronizeDocument
    split
    · rfl
    · rfl
  unfold applied
  split
  · rw [thrown]
  · rfl

theorem step_late (history : History) (next : Step) (observed : next.generation? = some generation)
    (late : generation < history.page.documentGeneration) :
    (step history next).rejected = true ∧
      ((step history next).history = history ∨
        next.Shuts ∧ (step history next).history =
          { history with page := closePageRecord history.page }) := by
  cases next with
  | closePage => cases observed
  | pageClosed => cases observed
  | disconnected => cases observed
  | snapshot observation elements =>
    cases observed
    simp [step, applied_late history observation _ late]
  | screenshot observation =>
    cases observed
    simp [step, applied_late history observation _ late]
  | download observation dialog =>
    cases observed
    cases dialog <;> simp [step, applied_late history observation _ late]
  | navigated own =>
    cases observed
    simp only [step]
    split
    · simp [applied_late history ⟨generation, true, true⟩ _ late]
    · simp
  | act observation dialog =>
    cases observed
    simp only [step]
    split
    · simp
    · split
      · next told refused =>
        simp only [Bool.and_eq_true, Bool.not_eq_true'] at refused
        exact ⟨rfl, .inr ⟨⟨by simpa using told, refused.1, refused.2⟩, rfl⟩⟩
      · simp [applied_late history observation _ late]

theorem inverse (inv : Inv history) (elementId ref : String) :
    history.page.elementRefs.lookup elementId = some ref ↔
      history.page.refElements.lookup ref = some elementId := by
  have refs : (history.page.refElements.map Prod.fst).Nodup := by
    rw [inv.swapped, List.map_map]
    refine List.Nodup.map_on ?_ inv.distinct.of_map
    intro first isFirst second isSecond same
    obtain ⟨one, oneIssued, _, rfl⟩ := inv.held first isFirst
    obtain ⟨two, twoIssued, _, rfl⟩ := inv.held second isSecond
    rw [inv.once one oneIssued two twoIssued same]
  rw [lookup_iff_mem inv.distinct, lookup_iff_mem refs, inv.swapped]
  simp

theorem resolves_iff (inv : Inv history) (ref elementId : String) :
    assertElementRefCurrent history.page ref = some elementId ↔
      history.page.state ≠ .closed ∧ history.page.state ≠ .crashed ∧ elementId ≠ "" ∧
        (elementId, ref) ∈ history.page.elementRefs := by
  rw [← lookup_iff_mem inv.distinct, inverse inv]
  unfold assertElementRefCurrent
  split
  · next shut =>
    simp only [reduceCtorEq, false_iff]
    tauto
  · next usable =>
    simp only [Option.filter_eq_some_iff, decide_eq_true_eq]
    tauto

/-- What holds of the refs of a page between one moment and any later one. -/
structure Sound (before after : History) : Prop where
  generation : before.page.documentGeneration ≤ after.page.documentGeneration
  inverse : ∀ elementId ref, after.page.elementRefs.lookup elementId = some ref ↔
    after.page.refElements.lookup ref = some elementId
  resolves : ∀ ref elementId, assertElementRefCurrent after.page ref = some elementId →
    ∃ issue ∈ after.issued, issue.ref = ref
  directed : ∀ issue ∈ before.issued, ∀ elementId,
    assertElementRefCurrent after.page issue.ref = some elementId →
    issue.generation = after.page.documentGeneration ∧ elementId = issue.elementId
  live : ∀ issue ∈ before.issued, after.page.state = .opened →
    issue.generation = after.page.documentGeneration →
    assertElementRefCurrent after.page issue.ref = some issue.elementId
  once : ∀ first ∈ after.issued, ∀ second ∈ after.issued, first.ref = second.ref →
    first = second
  late : ∀ (next : Step) (generation : Int), next.generation? = some generation →
    generation < after.page.documentGeneration →
    (step after next).rejected = true ∧
      ((step after next).history = after ∨
        next.Shuts ∧ (step after next).history =
          { after with page := closePageRecord after.page })

/-- Whatever steps a page takes, a ref means the element it was made for as long as its
document is the page's, and never anything else. -/
theorem refs_sound (steps more : List Step) :
    Sound (run start steps) (run (run start steps) more) := by
  have kept := run_keeps (run_keeps start_inv steps).inv more
  have inv := kept.inv
  refine ⟨kept.generation, inverse inv, ?_, ?_, ?_, inv.once,
    fun next _ observed late => step_late _ next observed late⟩
  · intro ref elementId resolved
    obtain ⟨issue, issued, _, same⟩ := inv.held _ ((resolves_iff inv _ _).mp resolved).2.2.2
    exact ⟨issue, issued, (Prod.ext_iff.mp same).2.symm⟩
  · intro issue issued elementId resolved
    obtain ⟨other, otherIssued, current, same⟩ :=
      inv.held _ ((resolves_iff inv _ _).mp resolved).2.2.2
    obtain ⟨rfl, sameRef⟩ := Prod.ext_iff.mp same
    cases inv.once issue (kept.issued.subset issued) other otherIssued sameRef
    exact ⟨current, rfl⟩
  · intro issue issued opened current
    have stillIssued := kept.issued.subset issued
    rw [resolves_iff inv]
    exact ⟨by simp [opened], by simp [opened], inv.named issue stillIssued,
      inv.live opened issue stillIssued current⟩

/-- The late result of an action that ended on a refused address takes the refs of the
current document with it. -/
theorem late_action_clears_refs :
    let before := run start
      [.navigated 2, .snapshot ⟨2, true, true⟩ [⟨"aria:s1", by decide⟩]]
    let after := (step before (.act ⟨1, true, false⟩ false)).history
    before.page.documentGeneration = 2 ∧
      assertElementRefCurrent before.page "e2-1" = some "aria:s1" ∧
      assertElementRefCurrent after.page "e2-1" = none := by
  decide

end OpenRill.Browser.ElementRefs
