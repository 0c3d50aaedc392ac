import Mathlib.Data.List.Nodup
import Mathlib.Data.Set.Basic
import Mathlib.Logic.Relation

/-!
# Rights that can be used once

Each key has one right. A holder takes the right of a key that is not spent, which
spends the key for good; a right that is held is used or dropped. No key is used twice,
whoever takes, drops and spends in between, and any number of keys may be spent without
anybody taking their rights.
-/

namespace OpenRill.Lib.OneShot

universe u v

variable {Key : Type u} {Holder : Type v}

structure Rights (Key : Type u) (Holder : Type v) where
  spent : Set Key
  held : Holder → Option Key
  used : List Key

section Steps

variable [DecidableEq Holder]

inductive Step : Rights Key Holder → Rights Key Holder → Prop where
  /-- Keys are spent, and none comes back. -/
  | spend (rights : Rights Key Holder) (more : Set Key) (kept : ∀ key ∈ rights.spent, key ∈ more) :
      Step rights { rights with spent := more }
  | take (rights : Rights Key Holder) (holder : Holder) (key : Key)
      (unspent : key ∉ rights.spent) :
      Step rights
        { rights with
          spent := insert key rights.spent
          held := Function.update rights.held holder (some key) }
  | use (rights : Rights Key Holder) (holder : Holder) (key : Key)
      (holds : rights.held holder = some key) :
      Step rights
        { rights with
          held := Function.update rights.held holder none
          used := rights.used ++ [key] }
  | drop (rights : Rights Key Holder) (holder : Holder) :
      Step rights { rights with held := Function.update rights.held holder none }

abbrev Steps : Rights Key Holder → Rights Key Holder → Prop := Relation.ReflTransGen Step

end Steps

/-- A right that is held is unused and nobody else's, and what was taken or used is
spent. -/
structure Sound (rights : Rights Key Holder) : Prop where
  heldSpent : ∀ holder key, rights.held holder = some key → key ∈ rights.spent
  heldUnused : ∀ holder key, rights.held holder = some key → key ∉ rights.used
  heldAlone : ∀ first second key, rights.held first = some key →
    rights.held second = some key → first = second
  usedSpent : ∀ key ∈ rights.used, key ∈ rights.spent
  usedOnce : rights.used.Nodup

theorem sound_unused (spent : Set Key) :
    Sound { spent := spent, held := fun _ : Holder => none, used := [] } where
  heldSpent _ _ holds := nomatch holds
  heldUnused _ _ holds := nomatch holds
  heldAlone _ _ _ holds := nomatch holds
  usedSpent _ member := nomatch member
  usedOnce := List.nodup_nil

section Moves

variable [DecidableEq Holder] {holder : Holder} {key : Key} {rights after : Rights Key Holder}

theorem held_update {held : Holder → Option Key} {other : Holder} {right : Option Key}
    (holds : Function.update held holder right other = some key) :
    other = holder ∧ right = some key ∨ other ≠ holder ∧ held other = some key := by
  by_cases same : other = holder
  · rw [same, Function.update_self] at holds
    exact Or.inl ⟨same, holds⟩
  · rw [Function.update_of_ne same] at holds
    exact Or.inr ⟨same, holds⟩

theorem drop_sound (sound : Sound rights) (holder : Holder) :
    Sound { rights with held := Function.update rights.held holder none } := by
  have kept : ∀ other key, Function.update rights.held holder none other = some key →
      other ≠ holder ∧ rights.held other = some key := by
    intro other key holds
    rcases held_update holds with ⟨-, none⟩ | kept
    · cases none
    · exact kept
  exact
    { heldSpent := fun other key holds => sound.heldSpent other key (kept other key holds).2
      heldUnused := fun other key holds => sound.heldUnused other key (kept other key holds).2
      heldAlone := fun first second key firstHolds secondHolds =>
        sound.heldAlone first second key (kept first key firstHolds).2
          (kept second key secondHolds).2
      usedSpent := sound.usedSpent
      usedOnce := sound.usedOnce }

theorem take_sound (sound : Sound rights) (holder : Holder) (unspent : key ∉ rights.spent) :
    Sound
      { rights with
        spent := insert key rights.spent
        held := Function.update rights.held holder (some key) } := by
  have unused : key ∉ rights.used := fun used => unspent (sound.usedSpent key used)
  have unheld : ∀ other, rights.held other ≠ some key :=
    fun other holds => unspent (sound.heldSpent other key holds)
  refine ⟨?_, ?_, ?_, fun used member => Or.inr (sound.usedSpent used member), sound.usedOnce⟩
  · intro other taken holds
    rcases held_update holds with ⟨-, isKey⟩ | ⟨-, before⟩
    · exact Or.inl (Option.some.inj isKey).symm
    · exact Or.inr (sound.heldSpent other taken before)
  · intro other taken holds
    rcases held_update holds with ⟨-, isKey⟩ | ⟨-, before⟩
    · rw [← Option.some.inj isKey]
      exact unused
    · exact sound.heldUnused other taken before
  · intro first second taken firstHolds secondHolds
    rcases held_update firstHolds with ⟨isFirst, firstKey⟩ | ⟨-, firstBefore⟩
    · rcases held_update secondHolds with ⟨isSecond, -⟩ | ⟨-, secondBefore⟩
      · exact isFirst.trans isSecond.symm
      · rw [← firstKey] at secondBefore
        exact absurd secondBefore (unheld second)
    · rcases held_update secondHolds with ⟨-, secondKey⟩ | ⟨-, secondBefore⟩
      · rw [← secondKey] at firstBefore
        exact absurd firstBefore (unheld first)
      · exact sound.heldAlone first second taken firstBefore secondBefore

theorem use_sound (sound : Sound rights) (holds : rights.held holder = some key) :
    Sound
      { rights with
        held := Function.update rights.held holder none
        used := rights.used ++ [key] } := by
  have dropped := drop_sound sound holder
  refine ⟨dropped.heldSpent, ?_, dropped.heldAlone, ?_, ?_⟩
  · intro other taken takes used
    rcases held_update takes with ⟨-, isKey⟩ | ⟨different, before⟩
    · cases isKey
    · rcases List.mem_append.mp used with earlier | last
      · exact sound.heldUnused other taken before earlier
      · rw [List.mem_singleton] at last
        rw [last] at before
        exact different (sound.heldAlone other holder key before holds)
  · intro used member
    rcases List.mem_append.mp member with earlier | last
    · exact sound.usedSpent used earlier
    · rw [List.mem_singleton.mp last]
      exact sound.heldSpent holder key holds
  · refine List.nodup_append.mpr ⟨sound.usedOnce, List.nodup_singleton key, ?_⟩
    intro used member last lastIn same
    rw [List.mem_singleton.mp lastIn] at same
    rw [same] at member
    exact sound.heldUnused holder key holds member

theorem steps_of_release (holder : Holder) (kept : ∀ key ∈ rights.spent, key ∈ after.spent)
    (held : after.held = rights.held ∨ after.held = Function.update rights.held holder none)
    (used : after.used = rights.used) : Steps rights after := by
  have spends := Relation.ReflTransGen.single (Step.spend rights after.spent kept)
  rcases held with same | dropped
  · have reached : after = { rights with spent := after.spent } := by
      rw [← same, ← used]
    rw [reached]
    exact spends
  · have reached : after =
        { rights with spent := after.spent, held := Function.update rights.held holder none } := by
      rw [← dropped, ← used]
    rw [reached]
    exact spends.tail (Step.drop { rights with spent := after.spent } holder)

theorem steps_of_take (holder : Holder) (unspent : key ∉ rights.spent)
    (spent : after.spent = insert key rights.spent)
    (held : after.held = Function.update rights.held holder (some key))
    (used : after.used = rights.used) : Steps rights after := by
  have reached : after =
      { rights with
        spent := insert key rights.spent
        held := Function.update rights.held holder (some key) } := by
    rw [← spent, ← held, ← used]
  rw [reached]
  exact Relation.ReflTransGen.single (Step.take rights holder key unspent)

theorem steps_of_use (holder : Holder) (holds : rights.held holder = some key)
    (spent : after.spent = rights.spent)
    (held : after.held = Function.update rights.held holder none)
    (used : after.used = rights.used ++ [key]) : Steps rights after := by
  have reached : after =
      { rights with
        held := Function.update rights.held holder none
        used := rights.used ++ [key] } := by
    rw [← spent, ← held, ← used]
  rw [reached]
  exact Relation.ReflTransGen.single (Step.use rights holder key holds)

theorem step_sound (taken : Step rights after) (sound : Sound rights) : Sound after := by
  cases taken with
  | spend more kept =>
    exact
      { heldSpent := fun holder key holds => kept key (sound.heldSpent holder key holds)
        heldUnused := sound.heldUnused
        heldAlone := sound.heldAlone
        usedSpent := fun key member => kept key (sound.usedSpent key member)
        usedOnce := sound.usedOnce }
  | take holder key unspent => exact take_sound sound holder unspent
  | use holder key holds => exact use_sound sound holds
  | drop holder => exact drop_sound sound holder

theorem steps_sound (taken : Steps rights after) (sound : Sound rights) : Sound after := by
  induction taken with
  | refl => exact sound
  | tail _ last ih => exact step_sound last ih

end Moves

end OpenRill.Lib.OneShot
