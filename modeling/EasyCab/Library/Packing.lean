import Mathlib.Data.List.Basic
import Mathlib.Data.List.Induction

/-!
# Greedy packing

Items are packed in their order into groups, each item into the last group if it still fits there
and into a new one otherwise. `pack_minimal` says that no other packing needs fewer groups, where
what fits is any property which the parts of a group inherit. The greedy packing is compared with
another one item by item: it never has more groups, and where it has as many, its last group is
no longer than the other's.
-/

namespace EasyCab.Library

variable {Item : Type} (fits : List Item → Prop)

/-- A group may hold one item whatever its size, and several if they fit. -/
def Admissible (group : List Item) : Prop :=
  group ≠ [] ∧ (group.length = 1 ∨ fits group)

section Pack

variable [DecidablePred fits]

/-- Pack one more item. -/
def packOne (groups : List (List Item)) (item : Item) : List (List Item) :=
  match groups.getLast? with
  | none => groups ++ [[item]]
  | some last =>
      if fits (last ++ [item]) then groups.dropLast ++ [last ++ [item]] else groups ++ [[item]]

/-- Pack all items. -/
def pack (items : List Item) : List (List Item) := items.foldl (packOne fits) []

@[simp] theorem pack_nil : pack fits [] = [] := rfl

theorem pack_append_singleton (items : List Item) (item : Item) :
    pack fits (items ++ [item]) = packOne fits (pack fits items) item := by
  simp [pack]

variable {fits}

/-- An item is packed into the last group or into a new one. -/
theorem packOne_cases (groups : List (List Item)) (item : Item) :
    (∃ earlier last, groups = earlier ++ [last] ∧ fits (last ++ [item]) ∧
      packOne fits groups item = earlier ++ [last ++ [item]]) ∨
      packOne fits groups item = groups ++ [[item]] := by
  rcases List.eq_nil_or_concat' groups with rfl | ⟨earlier, last, rfl⟩
  · exact .inr rfl
  · by_cases room : fits (last ++ [item])
    · exact .inl ⟨earlier, last, rfl, room, by simp [packOne, room]⟩
    · exact .inr (by simp [packOne, room])

/-- No item is lost and none changes its place. -/
theorem flatten_pack (items : List Item) : (pack fits items).flatten = items := by
  induction items using List.reverseRecOn with
  | nil => rfl
  | append_singleton items item inductionHypothesis =>
      rw [pack_append_singleton]
      rcases @packOne_cases _ fits _ (pack fits items) item with ⟨earlier, last, same, _, packed⟩ | packed
      · rw [packed, ← inductionHypothesis, same]
        simp
      · rw [packed, List.flatten_append, inductionHypothesis]
        simp

/-- Every group may be as it is. -/
theorem pack_admissible (items : List Item) : ∀ group ∈ pack fits items, Admissible fits group := by
  induction items using List.reverseRecOn with
  | nil => simp
  | append_singleton items item inductionHypothesis =>
      rw [pack_append_singleton]
      intro group member
      rcases @packOne_cases _ fits _ (pack fits items) item with ⟨earlier, last, same, room, packed⟩ | packed
      · rw [packed, List.mem_append, List.mem_singleton] at member
        rcases member with before | rfl
        · exact inductionHypothesis group (by simp [same, before])
        · exact ⟨by simp, .inr room⟩
      · rw [packed, List.mem_append, List.mem_singleton] at member
        rcases member with before | rfl
        · exact inductionHypothesis group before
        · exact ⟨by simp, .inl rfl⟩

/-- The greedy packing is no longer than the other, and where it is as long, its last group ends the
other's last group. -/
def Ahead (greedy other : List (List Item)) : Prop :=
  greedy.length < other.length ∨
    greedy.length = other.length ∧
      ∀ last ∈ greedy.getLast?, ∃ otherLast ∈ other.getLast?, last <:+ otherLast

/-- One more item makes the greedy packing at most one group longer, so it stays ahead where the
other packing begins a group. -/
theorem Ahead.packOne_of_lt {greedy other : List (List Item)} {last : List Item} {item : Item}
    (shorter : greedy.length < (other ++ [last]).length) (ends : [item] <:+ last) :
    Ahead (packOne fits greedy item) (other ++ [last]) := by
  rcases @packOne_cases _ fits _ greedy item with ⟨earlier, _, rfl, _, packed⟩ | packed
  · exact .inl (by rw [packed]; simpa using shorter)
  · rw [packed]
    by_cases equal : (greedy ++ [[item]]).length = (other ++ [last]).length
    · exact .inr ⟨equal, by simpa using ends⟩
    · refine .inl ?_
      rw [List.length_append, List.length_singleton] at equal ⊢
      omega

/-- The greedy packing stays ahead of any other one, where the parts of what fits fit too. -/
theorem pack_ahead (inherited : ∀ whole part, fits whole → part <:+: whole → fits part)
    (items : List Item) (groups : List (List Item)) (whole : groups.flatten = items)
    (admissible : ∀ group ∈ groups, Admissible fits group) : Ahead (pack fits items) groups := by
  induction items using List.reverseRecOn generalizing groups with
  | nil =>
      rcases List.eq_nil_or_concat' groups with rfl | ⟨earlier, last, rfl⟩
      · exact .inr ⟨rfl, by simp⟩
      · exact .inl (by simp)
  | append_singleton items item inductionHypothesis =>
      rw [pack_append_singleton]
      rcases List.eq_nil_or_concat' groups with rfl | ⟨earlier, last, rfl⟩
      · simp at whole
      · rw [List.forall_mem_append, List.forall_mem_singleton] at admissible
        obtain ⟨before, notEmpty, sized⟩ := admissible
        obtain ⟨front, ending, rfl⟩ := (List.eq_nil_or_concat' last).resolve_left notEmpty
        have parts : (earlier.flatten ++ front) ++ [ending] = items ++ [item] := by
          simpa using whole
        obtain ⟨rest, same⟩ := List.append_inj' parts rfl
        obtain rfl : item = ending := by simpa using same.symm
        by_cases alone : front = []
        · -- The other packing begins a group with this item.
          subst alone
          have ahead := inductionHypothesis earlier (by simpa using rest) before
          refine Ahead.packOne_of_lt ?_ (List.suffix_append _ _)
          rw [List.length_append, List.length_singleton]
          rcases ahead with shorter | ⟨equal, _⟩ <;> omega
        · -- It puts the item into its last group, so all of that group fits.
          have fitting : fits (front ++ [item]) := by
            refine sized.resolve_left fun single => alone ?_
            simpa using single
          have fittingFront : fits front :=
            inherited _ _ fitting (List.prefix_append front [item]).isInfix
          have ahead := inductionHypothesis (earlier ++ [front]) (by simpa using rest) (by
            rw [List.forall_mem_append, List.forall_mem_singleton]
            exact ⟨before, alone, .inr fittingFront⟩)
          rcases ahead with shorter | ⟨equal, ends⟩
          · refine Ahead.packOne_of_lt ?_ (List.suffix_append _ _)
            simpa using shorter
          · obtain ⟨others, greedyLast, packed⟩ :=
              (List.eq_nil_or_concat' (pack fits items)).resolve_left fun none => by
                simp [none] at equal
            rw [packed] at equal ends ⊢
            have tail : greedyLast ++ [item] <:+ front ++ [item] := by
              obtain ⟨begins, rfl⟩ : greedyLast <:+ front := by simpa using ends
              exact ⟨begins, (List.append_assoc _ _ _).symm⟩
            have room : fits (greedyLast ++ [item]) := inherited _ _ fitting tail.isInfix
            refine .inr ⟨?_, ?_⟩
            · simpa [packOne, room] using equal
            · simpa [packOne, room] using tail

/-- No packing needs fewer groups than the greedy one, where the parts of what fits fit too. -/
theorem pack_minimal (inherited : ∀ whole part, fits whole → part <:+: whole → fits part)
    {items : List Item} {groups : List (List Item)} (whole : groups.flatten = items)
    (admissible : ∀ group ∈ groups, Admissible fits group) :
    (pack fits items).length ≤ groups.length := by
  rcases pack_ahead inherited items groups whole admissible with shorter | ⟨equal, _⟩
  · exact Nat.le_of_lt shorter
  · exact Nat.le_of_eq equal

end Pack

end EasyCab.Library
