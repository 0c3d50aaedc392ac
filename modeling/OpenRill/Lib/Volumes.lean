import Mathlib.Logic.Function.Basic

/-!
# Files with symbolic links

A volume holds an entry for each place. A path is resolved to a place by its directory, whose
links stand still, and its last segment; an entry that is a link leads on to the path it names.
Replacing an entry changes only what is read over that place.
-/

namespace OpenRill.Lib.Volumes

abbrev Segments := List String

inductive Entry where
  | file (text : String)
  | link (target : Segments)
  deriving DecidableEq

/-- Where paths lie: the real directory with the last segment, and which places are directories. -/
structure Layout where
  home : Segments → Segments
  directory : Segments → Bool
  home_home : ∀ path, home (home path) = home path

abbrev Volume := Segments → Option Entry

variable (layout : Layout) (volume : Volume)

/-- The place a path leads to over at most so many links. -/
def follow : Nat → Segments → Option Segments
  | 0, _ => none
  | limit + 1, path =>
    match volume (layout.home path) with
    | some (.link target) => follow limit target
    | _ => some (layout.home path)

def trail : Nat → Segments → List Segments
  | 0, _ => []
  | limit + 1, path =>
    layout.home path :: match volume (layout.home path) with
      | some (.link target) => trail limit target
      | _ => []

inductive Found where
  | text (value : String)
  | missing
  | unreadable
  deriving DecidableEq

def find (limit : Nat) (path : Segments) : Found :=
  match follow layout volume limit path with
  | none => .unreadable
  | some place =>
    if layout.directory place = true then .unreadable
    else match volume place with
      | some (.file value) => .text value
      | _ => .missing

variable (layout : Layout)

/-- A rename onto a path, which replaces a link at its place. -/
def put (path : Segments) (text : String) (volume : Volume) : Volume :=
  Function.update volume (layout.home path) (some (.file text))

def discard (path : Segments) (volume : Volume) : Volume :=
  Function.update volume (layout.home path) none

variable {layout : Layout} {volume : Volume} {place path : Segments} {entry : Option Entry}
variable {limit : Nat}

theorem home_mem_trail (some_limit : 0 < limit) (path : Segments) :
    layout.home path ∈ trail layout volume limit path := by
  cases limit with
  | zero => cases some_limit
  | succ limit => exact List.mem_cons_self

theorem trail_apart (apart : place ∉ trail layout volume limit path) :
    trail layout (Function.update volume place entry) limit path =
        trail layout volume limit path ∧
      follow layout (Function.update volume place entry) limit path =
        follow layout volume limit path := by
  induction limit generalizing path with
  | zero => exact ⟨rfl, rfl⟩
  | succ limit ih =>
    rw [trail] at apart
    have other : layout.home path ≠ place := by
      intro same
      exact apart (by rw [same]; exact List.mem_cons_self)
    rw [trail, trail, follow, follow, Function.update_of_ne other]
    cases found : volume (layout.home path) with
    | none => exact ⟨rfl, rfl⟩
    | some own =>
      cases own with
      | file text => exact ⟨rfl, rfl⟩
      | link target =>
        rw [found] at apart
        have further := @ih target fun mem => apart (List.mem_cons_of_mem _ mem)
        exact ⟨congrArg _ further.1, further.2⟩

theorem follow_mem_trail {reached : Segments}
    (leads : follow layout volume limit path = some reached) :
    reached ∈ trail layout volume limit path := by
  induction limit generalizing path with
  | zero => cases leads
  | succ limit ih =>
    rw [follow] at leads
    rw [trail]
    cases found : volume (layout.home path) with
    | none =>
      rw [found] at leads
      cases leads
      exact List.mem_cons_self
    | some own =>
      rw [found] at leads
      cases own with
      | file text =>
        cases leads
        exact List.mem_cons_self
      | link target => exact List.mem_cons_of_mem _ (ih leads)

/-- A write to a place that is not on the way to a path changes nothing at that path. -/
theorem find_apart (apart : place ∉ trail layout volume limit path) :
    find layout (Function.update volume place entry) limit path =
      find layout volume limit path := by
  unfold find
  rw [(trail_apart apart).2]
  cases leads : follow layout volume limit path with
  | none => rfl
  | some reached =>
    have other : reached ≠ place := by
      rintro rfl
      exact apart (follow_mem_trail leads)
    dsimp only
    rw [Function.update_of_ne other]

theorem trail_here (some_limit : 0 < limit) (here : layout.home path = place)
    (ends : ∀ target, entry ≠ some (.link target)) :
    trail layout (Function.update volume place entry) limit path = [place] := by
  cases limit with
  | zero => cases some_limit
  | succ limit =>
    rw [trail, here, Function.update_self]
    cases entry with
    | none => rfl
    | some own =>
      cases own with
      | file text => rfl
      | link target => exact absurd rfl (ends target)

section

variable (some_limit : 0 < limit) (isFile : layout.directory (layout.home path) = false)
include some_limit isFile

theorem find_put (text : String) :
    find layout (put layout path text volume) limit path = .text text := by
  cases limit with
  | zero => cases some_limit
  | succ limit =>
    rw [find, follow, put, Function.update_self]
    dsimp only
    rw [isFile, Function.update_self]
    rfl

theorem find_discard : find layout (discard layout path volume) limit path = .missing := by
  cases limit with
  | zero => cases some_limit
  | succ limit =>
    rw [find, follow, discard, Function.update_self]
    dsimp only
    rw [isFile, Function.update_self]
    rfl

end

end OpenRill.Lib.Volumes
