import Mathlib.Data.List.Rotate
import EasyCab.Library.Numerals
import EasyCab.Library.Seek

/-!
# Menus

The options of a menu, one of which is hovered. `hoverNext` and `hoverPrevious` step over the
gaps between the options and around both ends. From an option, each undoes the other, and
`hoverNext` comes to every option once before it comes back.
-/

namespace EasyCab

open Library

/-- What a menu does with its options; how it is printed is left out. -/
structure Menu where
  options : List Chars
  selected : Bool
  hovered : Nat
deriving DecidableEq

namespace Menu

/-- `GAP`. -/
def gap : Chars := "\\g\\a\\p".toList

/-- `Menu(title, options)`. -/
def new (options : List Chars) : Menu := ⟨options, false, 0⟩

/-- `setOptions`. -/
def setOptions (menu : Menu) (options : List Chars) : Menu := { menu with options := options }

/-- `setOption`. -/
def setOption (menu : Menu) (index : Nat) (option : Chars) : Menu :=
  { menu with options := menu.options.set index option }

/-- `hover`. The last index of a menu without options is the greatest `size_t`. -/
def hover (menu : Menu) (index : Nat) : Menu :=
  { menu with
    hovered := min index (if menu.options.isEmpty then 18446744073709551615 else menu.options.length - 1) }

/-- `select`. -/
def select (menu : Menu) : Menu := { menu with selected := true }

/-- `deselect`. -/
def deselect (menu : Menu) : Menu := { menu with selected := false }

/-- `options[index] != GAP`. -/
def isOption (menu : Menu) (index : Nat) : Bool := menu.options.getD index gap ≠ gap

/-- `(hovered + 1) % size`. -/
def after (size hovered : Nat) : Nat := (hovered + 1) % size

/-- `(hovered + size - 1) % size`. -/
def before (size hovered : Nat) : Nat := (hovered + size - 1) % size

/-- `hoverNext`. -/
def hoverNext (menu : Menu) : Menu :=
  let size := menu.options.length
  { menu.deselect with hovered := seek (after size) menu.isOption (size + 2) menu.hovered }

/-- `hoverPrevious`. -/
def hoverPrevious (menu : Menu) : Menu :=
  let size := menu.options.length
  { menu.deselect with hovered := seek (before size) menu.isOption (size + 2) menu.hovered }

/-- The indices of the options that are no gaps. -/
def entries (menu : Menu) : List Nat :=
  (List.range menu.options.length).filter menu.isOption

end Menu

/-! ### Around the ring -/

namespace Menu

variable {size place : Nat}

theorem after_iterate (inside : place < size) (count : Nat) :
    (after size)^[count] place = (place + count) % size := by
  induction count with
  | zero => exact (Nat.mod_eq_of_lt inside).symm
  | succ count inductionHypothesis =>
      rw [Function.iterate_succ_apply', inductionHypothesis, after, Nat.mod_add_mod, Nat.add_assoc]

theorem before_after (inside : place < size) : before size (after size place) = place := by
  have positive : 0 < size := Nat.lt_of_le_of_lt (Nat.zero_le place) inside
  have whole : place + 1 + (size - 1) = place + size := by omega
  rw [before, after, Nat.add_sub_assoc positive, Nat.mod_add_mod, whole, Nat.add_mod_right,
    Nat.mod_eq_of_lt inside]

theorem after_before (inside : place < size) : after size (before size place) = place := by
  have whole : place + size - 1 + 1 = place + size := by omega
  rw [before, after, Nat.mod_add_mod, whole, Nat.add_mod_right, Nat.mod_eq_of_lt inside]

theorem after_lt : ∀ place < size, after size place < size := fun place inside =>
  Nat.mod_lt _ (Nat.lt_of_le_of_lt (Nat.zero_le place) inside)

theorem before_lt : ∀ place < size, before size place < size := fun place inside =>
  Nat.mod_lt _ (Nat.lt_of_le_of_lt (Nat.zero_le place) inside)

/-- Every index comes after every other one, at most once around the ring. -/
theorem exists_after_iterate {wanted : Nat} (inside : wanted < size) (place : Nat) :
    ∃ count < size, (after size)^[count + 1] place = wanted := by
  have positive : 0 < size := Nat.lt_of_le_of_lt (Nat.zero_le wanted) inside
  have next : after size place < size := Nat.mod_lt _ positive
  refine ⟨(wanted + (size - after size place)) % size, Nat.mod_lt _ positive, ?_⟩
  have whole : after size place + (wanted + (size - after size place)) = wanted + size := by omega
  rw [Function.iterate_succ_apply, after_iterate next, Nat.add_mod_mod, whole, Nat.add_mod_right,
    Nat.mod_eq_of_lt inside]

/-- Every index comes before every other one, at most once around the ring. -/
theorem exists_before_iterate {wanted : Nat} (wantedInside : wanted < size) (inside : place < size) :
    ∃ count < size, (before size)^[count + 1] place = wanted := by
  obtain ⟨count, enough, reaches⟩ := exists_after_iterate inside wanted
  refine ⟨count, enough, ?_⟩
  rw [← reaches]
  exact iterate_back_iterate after_lt (fun _ => before_after) wantedInside (count + 1)

/-- Once around the ring, every index comes once. -/
theorem iterate_after_perm (inside : place < size) :
    (List.iterate (after size) (after size place) size).Perm (List.range size) := by
  have rotated : List.iterate (after size) (after size place) size =
      (List.range size).rotate (place + 1) := by
    apply List.ext_getElem
    · simp
    · intro index early _
      rw [List.getElem_iterate, ← Function.iterate_succ_apply, after_iterate inside,
        List.getElem_rotate, List.getElem_range, List.length_range, Nat.add_left_comm]
  rw [rotated]
  exact List.rotate_perm _ _

/-! ### Going through the options -/

variable {menu : Menu}

/-- Whatever the options are, one of them stays hovered. -/
theorem hoverNext_lt (valid : menu.hovered < menu.options.length) :
    menu.hoverNext.hovered < menu.options.length :=
  seek_inside after_lt _ valid

theorem hoverPrevious_lt (valid : menu.hovered < menu.options.length) :
    menu.hoverPrevious.hovered < menu.options.length :=
  seek_inside before_lt _ valid

theorem lt_of_isOption {index : Nat} (option : menu.isOption index = true) :
    index < menu.options.length := by
  by_contra late
  have missing : menu.options[index]? = none := List.getElem?_eq_none (Nat.not_lt.mp late)
  simp [isOption, List.getD_eq_getElem?_getD, missing] at option

theorem mem_entries {index : Nat} : index ∈ menu.entries ↔ menu.isOption index = true := by
  rw [entries, List.mem_filter, List.mem_range, and_iff_right_iff_imp]
  exact lt_of_isOption

/-- A menu whose options are not all gaps has an index which can be hovered. -/
theorem exists_isOption (some : ∃ option ∈ menu.options, option ≠ gap) :
    ∃ index, menu.isOption index = true := by
  obtain ⟨option, member, visible⟩ := some
  obtain ⟨index, inside, rfl⟩ := List.getElem_of_mem member
  exact ⟨index, by simpa [isOption, List.getD_eq_getElem?_getD, inside] using visible⟩

section Options

variable (some : ∃ option ∈ menu.options, option ≠ gap)

include some

/-- The loop of `hoverNext` is long enough. -/
theorem near_after (place : Nat) : ∃ count < menu.options.length,
    FirstStop (after menu.options.length) menu.isOption place count := by
  obtain ⟨index, option⟩ := exists_isOption some
  obtain ⟨count, enough, rfl⟩ := exists_after_iterate (lt_of_isOption option) place
  obtain ⟨first, early, stops⟩ := exists_firstStop option
  exact ⟨first, Nat.lt_of_le_of_lt early enough, stops⟩

/-- The loop of `hoverPrevious` is long enough. -/
theorem near_before {place : Nat} (inside : place < menu.options.length) :
    ∃ count < menu.options.length,
      FirstStop (before menu.options.length) menu.isOption place count := by
  obtain ⟨index, option⟩ := exists_isOption some
  obtain ⟨count, enough, rfl⟩ := exists_before_iterate (lt_of_isOption option) inside
  obtain ⟨first, early, stops⟩ := exists_firstStop option
  exact ⟨first, Nat.lt_of_le_of_lt early enough, stops⟩

/-- `hoverNext` ends on the first option after the hovered index. -/
theorem hoverNext_first (valid : menu.hovered < menu.options.length) :
    ∃ count < menu.options.length,
      menu.hoverNext.hovered = (menu.hovered + (count + 1)) % menu.options.length ∧
        menu.isOption menu.hoverNext.hovered = true ∧
        ∀ earlier < count,
          menu.isOption ((menu.hovered + (earlier + 1)) % menu.options.length) = false := by
  obtain ⟨count, enough, first⟩ := near_after some menu.hovered
  have ends : menu.hoverNext.hovered = (after menu.options.length)^[count + 1] menu.hovered :=
    seek_eq (by omega) first
  refine ⟨count, enough, ?_, ?_, fun earlier early => ?_⟩
  · rw [ends, after_iterate valid]
  · rw [ends]
    exact first.1
  · rw [← after_iterate valid]
    exact first.2 earlier early

/-- From an option, `hoverPrevious` undoes `hoverNext`. -/
theorem hoverPrevious_hoverNext (here : menu.isOption menu.hovered = true) :
    menu.hoverNext.hoverPrevious = menu.deselect := by
  obtain ⟨count, enough, first⟩ := near_after some menu.hovered
  have back := seek_back (Nat.lt_of_lt_of_le enough (Nat.le_add_right _ 2)) first here
    (back_iterate after_lt (fun _ => before_after) (lt_of_isOption here))
  simp only [hoverNext, hoverPrevious, deselect, Menu.mk.injEq, true_and]
  exact back

/-- From an option, `hoverNext` undoes `hoverPrevious`. -/
theorem hoverNext_hoverPrevious (here : menu.isOption menu.hovered = true) :
    menu.hoverPrevious.hoverNext = menu.deselect := by
  obtain ⟨count, enough, first⟩ := near_before some (lt_of_isOption here)
  have back := seek_back (Nat.lt_of_lt_of_le enough (Nat.le_add_right _ 2)) first here
    (back_iterate before_lt (fun _ => after_before) (lt_of_isOption here))
  simp only [hoverNext, hoverPrevious, deselect, Menu.mk.injEq, true_and]
  exact back

omit some in
/-- Presses of `hoverNext` change nothing but what is hovered, and which option is selected. -/
theorem hoverNext_iterate (presses : Nat) :
    (hoverNext^[presses] menu).options = menu.options ∧
      (hoverNext^[presses] menu).hovered =
        (seek (after menu.options.length) menu.isOption (menu.options.length + 2))^[presses]
          menu.hovered := by
  induction presses with
  | zero => exact ⟨rfl, rfl⟩
  | succ presses inductionHypothesis =>
      obtain ⟨options, hovered⟩ := inductionHypothesis
      have same : (hoverNext^[presses] menu).isOption = menu.isOption := by
        funext index
        rw [isOption, isOption, options]
      rw [Function.iterate_succ_apply', Function.iterate_succ_apply']
      exact ⟨options, by rw [hoverNext, options, same, hovered]⟩

/-- From an option, as many presses of `hoverNext` as there are options come to each of them. -/
theorem hoverNext_orbit (here : menu.isOption menu.hovered = true) :
    (List.iterate (seek (after menu.options.length) menu.isOption (menu.options.length + 2))
      menu.hoverNext.hovered menu.entries.length).Perm menu.entries := by
  have around := iterate_after_perm (lt_of_isOption here)
  have near (place : Nat) : ∃ count < menu.options.length + 2,
      FirstStop (after menu.options.length) menu.isOption place count := by
    obtain ⟨count, enough, first⟩ := near_after some place
    exact ⟨count, Nat.lt_of_lt_of_le enough (Nat.le_add_right _ 2), first⟩
  have stops := filter_iterate near menu.options.length menu.hovered
  have count : (List.iterate (after menu.options.length) (after menu.options.length menu.hovered)
      menu.options.length).countP menu.isOption = menu.entries.length := by
    rw [around.countP_eq, entries, List.countP_eq_length_filter]
  rw [count] at stops
  change (List.iterate _ (seek _ _ _ _) _).Perm _
  rw [← stops]
  exact around.filter _

/-- As many presses of `hoverNext` as there are options come back to where the first one began. -/
theorem hoverNext_returns (here : menu.isOption menu.hovered = true) :
    (hoverNext^[menu.entries.length] menu).hovered = menu.hovered := by
  have orbit := hoverNext_orbit some here
  have once := orbit.nodup_iff.mpr (List.nodup_range.filter _)
  rw [(hoverNext_iterate _).2]
  obtain ⟨index, inside, same⟩ := List.getElem_of_mem (orbit.mem_iff.mpr (mem_entries.mpr here))
  rw [List.getElem_iterate] at same
  rw [List.length_iterate] at inside
  by_cases last : index + 1 = menu.entries.length
  · rw [← last, Function.iterate_succ_apply]
    exact same
  · -- The press after an early return would come to the first option again.
    have again := @List.Nodup.getElem_inj_iff _ _ once (index + 1) (by
      rw [List.length_iterate]
      omega) 0 (by
      rw [List.length_iterate]
      omega)
    rw [List.getElem_iterate, List.getElem_iterate, Function.iterate_succ_apply', same] at again
    cases again.mp rfl

end Options

/-- The indices which so many presses of `hoverNext` come to. -/
def visited (menu : Menu) (presses : Nat) : List Nat :=
  (List.range presses).map fun press => (hoverNext^[press + 1] menu).hovered

theorem visited_eq_iterate (presses : Nat) :
    menu.visited presses =
      List.iterate (seek (after menu.options.length) menu.isOption (menu.options.length + 2))
        menu.hoverNext.hovered presses := by
  apply List.ext_getElem
  · simp [visited]
  · intro index _ _
    simp only [visited, List.getElem_map, List.getElem_range]
    rw [List.getElem_iterate, (hoverNext_iterate _).2]
    rfl

end Menu

/-- `hoverNext` ends on the first option cyclically after the hovered index. From an option, it and
`hoverPrevious` undo each other, but for the selection, and as many presses of it as there are
options come to each of them once and back to the start. -/
theorem menu_navigation_cycle (menu : Menu) (valid : menu.hovered < menu.options.length)
    (some : ∃ option ∈ menu.options, option ≠ Menu.gap) :
    (∃ count < menu.options.length,
      menu.hoverNext.hovered = (menu.hovered + (count + 1)) % menu.options.length ∧
        menu.isOption menu.hoverNext.hovered = true ∧
        ∀ earlier < count,
          menu.isOption ((menu.hovered + (earlier + 1)) % menu.options.length) = false) ∧
      (menu.isOption menu.hovered = true →
        menu.hoverNext.hoverPrevious = menu.deselect ∧
          menu.hoverPrevious.hoverNext = menu.deselect ∧
          (menu.visited menu.entries.length).Perm menu.entries ∧
          (Menu.hoverNext^[menu.entries.length] menu).hovered = menu.hovered) := by
  refine ⟨Menu.hoverNext_first some valid, fun here => ?_⟩
  refine ⟨Menu.hoverPrevious_hoverNext some here, Menu.hoverNext_hoverPrevious some here, ?_,
    Menu.hoverNext_returns some here⟩
  rw [Menu.visited_eq_iterate]
  exact Menu.hoverNext_orbit some here

/-- Two options around a gap, with the last one hovered. -/
def gappedMenu : Menu := ⟨["Stop".toList, Menu.gap, "Clear".toList], false, 2⟩

theorem gapped_menu_cycle :
    (gappedMenu.visited gappedMenu.entries.length).Perm gappedMenu.entries :=
  ((menu_navigation_cycle gappedMenu (by decide) ⟨"Stop".toList, by decide, by decide⟩).2
    (by decide)).2.2.1

end EasyCab
