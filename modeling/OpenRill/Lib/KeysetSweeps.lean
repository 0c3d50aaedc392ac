import Mathlib.Data.Finset.Card
import Mathlib.Data.Finset.Filter
import Mathlib.Order.Basic

/-!
# Sweeps along a keyset cursor

A sweep reads a page of keys behind a cursor and leaves the cursor at the last key of the
page, or at the beginning when the page was not full. Whatever the cursor was, and whatever
is taken out of the keys on the way, all keys of a fixed set are seen within one full sweep
for each page that the set fills, and one more.
-/

namespace OpenRill.Lib.KeysetSweeps

variable {size count : Nat}

universe u

variable {Key : Type u} [LinearOrder Key] {cursor : Option Key}

/-- The key stands behind the cursor; every key stands behind no cursor. -/
def After (cursor : Option Key) (key : Key) : Prop :=
  match cursor with
  | none => True
  | some position => position < key

instance (cursor : Option Key) : DecidablePred (After cursor) := fun key =>
  match cursor with
  | none => isTrue trivial
  | some position => inferInstanceAs (Decidable (position < key))

theorem after_of_le {lower upper : Key} (after : After cursor lower) (ordered : lower ≤ upper) :
    After cursor upper := by
  cases cursor with
  | none => trivial
  | some position => exact lt_of_lt_of_le after ordered

/-- The pages that a number of keys fills, the last one perhaps in part. -/
def pages (count size : Nat) : Nat := (count + (size - 1)) / size

theorem pages_zero (positive : 0 < size) (none : pages count size = 0) : count = 0 := by
  rcases (Nat.div_eq_zero_iff).mp none with zero | small
  · omega
  · omega

theorem pages_mono {fewer : Nat} (ordered : fewer ≤ count) :
    pages fewer size ≤ pages count size := by
  exact Nat.div_le_div_right (by omega)

theorem pages_less {fewer count size : Nat} (positive : 0 < size)
    (less : fewer + size ≤ count) : pages fewer size + 1 ≤ pages count size := by
  unfold pages
  have shifted : (fewer + (size - 1)) / size + 1 = (fewer + (size - 1) + size) / size :=
    (Nat.add_div_right _ positive).symm
  rw [shifted]
  exact Nat.div_le_div_right (by omega)

theorem pages_split (behind ahead size : Nat) :
    behind / size + 1 + pages ahead size ≤ pages (behind + ahead) size + 1 := by
  unfold pages
  have parts : behind / size + (ahead + (size - 1)) / size ≤
      (behind + (ahead + (size - 1))) / size := Nat.div_add_div_le_add_div
  have same : behind + (ahead + (size - 1)) = behind + ahead + (size - 1) := by omega
  rw [same] at parts
  omega

/-- A sweep that was carried to its end: a page that is not full sees all keys behind the
cursor and the cursor returns to the beginning; a full page sees all keys up to its last. -/
inductive Sweeps (members : Finset Key) (size : Nat) (seen : Key → Prop)
    (cursor : Option Key) : Option Key → Prop where
  | round (all : ∀ key ∈ members, After cursor key → seen key) :
      Sweeps members size seen cursor none
  | page (last : Key) (later : After cursor last)
      (full : size ≤ (members.filter (fun key => After cursor key ∧ key ≤ last)).card)
      (all : ∀ key ∈ members, After cursor key → key ≤ last → seen key) :
      Sweeps members size seen cursor (some last)

/-- A sweep that was broken off: the cursor stays or moves over keys that were seen. -/
inductive Breaks (members : Finset Key) (seen : Key → Prop) (cursor : Option Key) :
    Option Key → Prop where
  | stays : Breaks members seen cursor cursor
  | moves (last : Key) (later : After cursor last)
      (all : ∀ key ∈ members, After cursor key → key ≤ last → seen key) :
      Breaks members seen cursor (some last)

/-- So many sweeps are enough to see all members that were not seen: the round that began
somewhere is finished first, or only a beginning of the members is left for this round. -/
inductive Within (members : Finset Key) (size : Nat) (seen : Key → Prop) (budget : Nat)
    (cursor : Option Key) : Prop where
  | firstRound (start : Option Key) (further : ∀ key, After cursor key → After start key)
      (between : ∀ key ∈ members, After start key → ¬ After cursor key → seen key)
      (enough : (members.filter (After cursor)).card / size + 1 +
        pages (members.filter (fun key => ¬ After start key)).card size ≤ budget)
  | lastRound (target : Finset Key) (within : target ⊆ members)
      (closed : ∀ upper ∈ target, ∀ lower ∈ members, lower ≤ upper → lower ∈ target)
      (others : ∀ key ∈ members, key ∉ target → seen key)
      (passed : ∀ key ∈ target, ¬ After cursor key → seen key)
      (enough : pages (target.filter (After cursor)).card size ≤ budget)

variable {members : Finset Key} {budget : Nat} {seen : Key → Prop} {next : Option Key}

/-- Wherever the cursor stands, one sweep for each page and one more are enough. -/
theorem within_start (seen : Key → Prop) (cursor : Option Key) :
    Within members size seen (pages members.card size + 1) cursor := by
  refine .firstRound cursor (fun _ after => after) ?_ ?_
  · intro key _ after notAfter
    exact absurd after notAfter
  · have parts := Finset.card_filter_add_card_filter_not (s := members) (After cursor)
    have bound := pages_split (members.filter (After cursor)).card
      (members.filter fun key => ¬ After cursor key).card size
    rw [parts] at bound
    exact bound

theorem within_all (all : ∀ key ∈ members, seen key) :
    Within members size seen budget cursor := by
  refine .lastRound ∅ (Finset.empty_subset members) ?_ (fun key keyIn _ => all key keyIn) ?_ ?_
  · intro upper upperIn
    simp at upperIn
  · intro key keyIn
    simp at keyIn
  · cases size with
    | zero => simp [pages]
    | succ size =>
      have none : (0 + (size + 1 - 1)) / (size + 1) = 0 := Nat.div_eq_of_lt (by omega)
      rw [Finset.filter_empty, Finset.card_empty, pages, none]
      exact Nat.zero_le budget

theorem within_mono {more : Key → Prop} (grown : ∀ key, seen key → more key)
    (within : Within members size seen budget cursor) :
    Within members size more budget cursor := by
  cases within with
  | firstRound start further between enough =>
    exact .firstRound start further
      (fun key keyIn after passed => grown key (between key keyIn after passed)) enough
  | lastRound target subset closed others passed enough =>
    exact .lastRound target subset closed
      (fun key keyIn notTarget => grown key (others key keyIn notTarget))
      (fun key keyIn notAfter => grown key (passed key keyIn notAfter)) enough

theorem card_page {keys : Finset Key} {last : Key} (later : After cursor last) :
    (keys.filter (After (some last))).card +
        (keys.filter (fun key => After cursor key ∧ key ≤ last)).card =
      (keys.filter (After cursor)).card := by
  have rest : (keys.filter (After cursor)).filter (fun key => ¬ key ≤ last) =
      keys.filter (After (some last)) := by
    rw [Finset.filter_filter]
    apply Finset.filter_congr
    intro key _
    constructor
    · rintro ⟨-, notLe⟩
      exact not_le.mp notLe
    · intro after
      exact ⟨after_of_le later (le_of_lt after), not_le.mpr after⟩
  have parts := Finset.card_filter_add_card_filter_not (s := keys.filter (After cursor))
    fun key => key ≤ last
  rw [rest, Finset.filter_filter] at parts
  omega

theorem not_after_some {last key : Key} : ¬ After (some last) key ↔ key ≤ last := not_lt

theorem within_sweep (positive : 0 < size)
    (within : Within members size seen (budget + 1) cursor)
    (sweep : Sweeps members size seen cursor next) :
    Within members size seen budget next := by
  cases within with
  | firstRound start further between enough =>
    cases sweep with
    | round all =>
      have target : ((members.filter fun key => ¬ After start key).filter
          (After none)).card = (members.filter fun key => ¬ After start key).card := by
        congr 1
        exact Finset.filter_true_of_mem fun _ _ => trivial
      refine .lastRound (members.filter fun key => ¬ After start key)
        (Finset.filter_subset _ _) ?_ ?_ ?_ ?_
      · intro upper upperIn lower lowerIn ordered
        refine Finset.mem_filter.mpr ⟨lowerIn, ?_⟩
        intro after
        exact (Finset.mem_filter.mp upperIn).2 (after_of_le after ordered)
      · intro key keyIn notTarget
        by_cases after : After cursor key
        · exact all key keyIn after
        · refine between key keyIn ?_ after
          by_contra notStart
          exact notTarget (Finset.mem_filter.mpr ⟨keyIn, notStart⟩)
      · intro key _ notAfter
        exact absurd trivial notAfter
      · have some_round := Nat.zero_le ((members.filter (After cursor)).card / size)
        rw [target]
        omega
    | page last later full all =>
      have counts := @card_page _ _ _ members _ later
      refine .firstRound start ?_ ?_ ?_
      · intro key after
        exact further key (after_of_le later (le_of_lt after))
      · intro key keyIn afterStart notAfter
        by_cases after : After cursor key
        · exact all key keyIn after (not_after_some.mp notAfter)
        · exact between key keyIn afterStart after
      · have less : (members.filter (After (some last))).card / size + 1 ≤
            (members.filter (After cursor)).card / size := by
          rw [← Nat.add_div_right _ positive]
          exact Nat.div_le_div_right (by omega)
        omega
  | lastRound target subset closed others passed enough =>
    have allSeen (reached : ∀ key ∈ target, After cursor key → seen key) :
        Within members size seen budget next := by
      apply within_all
      intro key keyIn
      by_cases inTarget : key ∈ target
      · by_cases after : After cursor key
        · exact reached key inTarget after
        · exact passed key inTarget after
      · exact others key keyIn inTarget
    cases sweep with
    | round all => exact allSeen fun key keyIn after => all key (subset keyIn) after
    | page last later full all =>
      by_cases reached : ∃ key ∈ target, last < key
      · obtain ⟨upper, upperIn, beyond⟩ := reached
        have onPage : (members.filter fun key => After cursor key ∧ key ≤ last).card ≤
            (target.filter fun key => After cursor key ∧ key ≤ last).card := by
          apply Finset.card_le_card
          intro key keyIn
          obtain ⟨inMembers, after, ordered⟩ := Finset.mem_filter.mp keyIn
          exact Finset.mem_filter.mpr
            ⟨closed upper upperIn key inMembers (le_of_lt (lt_of_le_of_lt ordered beyond)),
              after, ordered⟩
        have counts := @card_page _ _ _ target _ later
        refine .lastRound target subset closed others ?_ ?_
        · intro key keyIn notAfter
          by_cases after : After cursor key
          · exact all key (subset keyIn) after (not_after_some.mp notAfter)
          · exact passed key keyIn after
        · have less := @pages_less (target.filter (After (some last))).card
            (target.filter (After cursor)).card _ positive (by omega)
          omega
      · apply allSeen
        intro key keyIn after
        refine all key (subset keyIn) after (not_lt.mp ?_)
        intro beyond
        exact reached ⟨key, keyIn, beyond⟩

theorem within_break (within : Within members size seen budget cursor)
    (broken : Breaks members seen cursor next) : Within members size seen budget next := by
  cases broken with
  | stays => exact within
  | moves last later all =>
    have fewer (keys : Finset Key) : (keys.filter (After (some last))).card ≤
        (keys.filter (After cursor)).card := by
      have counts := @card_page _ _ _ keys _ later
      omega
    cases within with
    | firstRound start further between enough =>
      refine .firstRound start ?_ ?_ ?_
      · intro key after
        exact further key (after_of_le later (le_of_lt after))
      · intro key keyIn afterStart notAfter
        by_cases after : After cursor key
        · exact all key keyIn after (not_after_some.mp notAfter)
        · exact between key keyIn afterStart after
      · have less : (members.filter (After (some last))).card / size ≤
            (members.filter (After cursor)).card / size :=
          Nat.div_le_div_right (fewer members)
        omega
    | lastRound target subset closed others passed enough =>
      refine .lastRound target subset closed others ?_ ?_
      · intro key keyIn notAfter
        by_cases after : After cursor key
        · exact all key (subset keyIn) after (not_after_some.mp notAfter)
        · exact passed key keyIn after
      · exact le_trans (pages_mono (fewer target)) enough

theorem all_of_within (positive : 0 < size) (within : Within members size seen 0 cursor) :
    ∀ key ∈ members, seen key := by
  intro key keyIn
  cases within with
  | firstRound start further between enough =>
    have some_round := Nat.zero_le ((members.filter (After cursor)).card / size)
    omega
  | lastRound target subset closed others passed enough =>
    have empty := pages_zero positive (Nat.le_zero.mp enough)
    by_cases inTarget : key ∈ target
    · refine passed key inTarget ?_
      intro after
      have inFilter : key ∈ target.filter (After cursor) :=
        Finset.mem_filter.mpr ⟨inTarget, after⟩
      rw [Finset.card_eq_zero.mp empty] at inFilter
      simp at inFilter
    · exact others key keyIn inTarget

end OpenRill.Lib.KeysetSweeps
