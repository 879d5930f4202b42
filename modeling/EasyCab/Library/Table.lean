import Mathlib.Data.List.MinMax
import Mathlib.Data.List.Sort

/-!
# Keyed tables

A table is a list of rows, kept in key order by `Table.insert?`, together with the
proof that no two rows share a key, so a table that violates its primary key
cannot be built. `Table.lookup` is the abstract view: a partial function from keys
to rows. Every operation is characterized by what it does to that function.
-/

namespace EasyCab.Library

universe u v

/-- Rows whose keys are pairwise distinct. -/
structure Table {Key : Type u} {Row : Type v} (key : Row → Key) where
  rows : List Row
  keysNodup : (rows.map key).Nodup

namespace Table

variable {Key : Type u} {Row : Type v} {key : Row → Key}

/-- The table without rows. -/
def empty : Table key := ⟨[], List.nodup_nil⟩

@[simp] theorem empty_rows : (empty : Table key).rows = [] := rfl

/-- A table has no more rows than there are numbers for its keys. -/
theorem length_le {bound : Nat} (table : Table key) {number : Key → Nat}
    (injective : Function.Injective number) (small : ∀ wanted, number wanted < bound) :
    table.rows.length ≤ bound := by
  have numbered : ((table.rows.map key).map number).Nodup := table.keysNodup.map injective
  have within : (table.rows.map key).map number ⊆ List.range bound := by
    intro index member
    obtain ⟨wanted, _, rfl⟩ := List.mem_map.mp member
    exact List.mem_range.mpr (small wanted)
  simpa using List.Nodup.length_le_of_subset numbered within

variable [DecidableEq Key]

/-- The row stored under `wanted`, if there is one. -/
def lookup (table : Table key) (wanted : Key) : Option Row :=
  table.rows.find? fun row => key row = wanted

/-- Rewrite the row stored under `wanted` by an update that keeps its key. -/
def modify (table : Table key) (wanted : Key) (update : Row → Row)
    (keeps : ∀ row, key (update row) = key row := by intro _; rfl) : Table key where
  rows := table.rows.map fun row => if key row = wanted then update row else row
  keysNodup := by
    have sameKeys : (table.rows.map fun row => if key row = wanted then update row else row).map key
        = table.rows.map key := by
      rw [List.map_map]
      apply List.map_congr_left
      intro row _
      by_cases hit : key row = wanted <;> simp [hit, keeps]
    rw [sameKeys]
    exact table.keysNodup

/-- Remove the row stored under `wanted`. -/
def erase (table : Table key) (wanted : Key) : Table key where
  rows := table.rows.filter fun row => key row ≠ wanted
  keysNodup := table.keysNodup.sublist (List.filter_sublist.map key)

/-- Add a row at its place in key order, refusing a key which is already stored. -/
def insert? [LE Key] [DecidableLE Key] (table : Table key) (row : Row) : Option (Table key) :=
  if fresh : key row ∉ table.rows.map key then
    some {
      rows := table.rows.orderedInsert (fun left right => key left ≤ key right) row
      keysNodup := by
        have sorted := (List.perm_orderedInsert
          (fun left right => key left ≤ key right) row table.rows).map key
        exact sorted.nodup_iff.mpr (List.nodup_cons.mpr ⟨fresh, table.keysNodup⟩) }
  else none

/-- A lookup answers exactly the stored row with that key. -/
theorem lookup_eq_some_iff {table : Table key} {wanted : Key} {row : Row} :
    table.lookup wanted = some row ↔ row ∈ table.rows ∧ key row = wanted := by
  constructor
  · intro found
    exact ⟨List.mem_of_find?_eq_some found, by simpa using List.find?_some found⟩
  · rintro ⟨member, rfl⟩
    cases found : table.lookup (key row) with
    | none => simpa using List.find?_eq_none.mp found row member
    | some other =>
        have otherMember := List.mem_of_find?_eq_some found
        have sameKey : key other = key row := by simpa using List.find?_some found
        rw [List.inj_on_of_nodup_map table.keysNodup otherMember member sameKey]

/-- The row found under a key carries that key. -/
theorem key_of_lookup {table : Table key} {wanted : Key} {row : Row}
    (found : table.lookup wanted = some row) : key row = wanted :=
  (lookup_eq_some_iff.mp found).2

/-- The row found under a key is stored. -/
theorem mem_of_lookup {table : Table key} {wanted : Key} {row : Row}
    (found : table.lookup wanted = some row) : row ∈ table.rows :=
  (lookup_eq_some_iff.mp found).1

/-- A stored row is found under its own key. -/
theorem lookup_of_mem {table : Table key} {row : Row} (member : row ∈ table.rows) :
    table.lookup (key row) = some row :=
  lookup_eq_some_iff.mpr ⟨member, rfl⟩

/-- A lookup fails exactly when no stored row has the key. -/
theorem lookup_eq_none_iff {table : Table key} {wanted : Key} :
    table.lookup wanted = none ↔ wanted ∉ table.rows.map key := by
  simp [lookup]

@[simp] theorem lookup_empty (wanted : Key) : (empty : Table key).lookup wanted = none := rfl

/-- An update changes what is stored under its own key and nothing else. -/
@[simp] theorem lookup_modify (table : Table key) (wanted other : Key) (update : Row → Row)
    (keeps : ∀ row, key (update row) = key row) :
    (table.modify wanted update keeps).lookup other =
      if other = wanted then (table.lookup other).map update else table.lookup other := by
  have pushed : (table.modify wanted update keeps).lookup other =
      (table.lookup other).map fun row => if key row = wanted then update row else row := by
    simp only [lookup, modify, List.find?_map]
    congr 2
    funext row
    by_cases hit : key row = wanted <;> simp [hit, keeps]
  rw [pushed]
  cases found : table.lookup other with
  | none => simp
  | some row =>
      have same := key_of_lookup found
      by_cases hit : other = wanted <;> simp [same, hit]

/-- A column which an update leaves alone reads the same under every key. -/
theorem map_lookup_modify {Column : Type*} (column : Row → Column) (table : Table key)
    (wanted other : Key) (update : Row → Row) (keeps : ∀ row, key (update row) = key row)
    (kept : ∀ row, column (update row) = column row) :
    ((table.modify wanted update keeps).lookup other).map column =
      (table.lookup other).map column := by
  rw [lookup_modify]
  by_cases hit : other = wanted
  · cases found : table.lookup other <;> simp [hit, kept]
  · simp [hit]

/-- The least element of an image is the image of the least element. -/
theorem argmin_map {Item Image : Type*} (image : Item → Image) (rank : Image → Nat)
    (items : List Item) :
    (items.map image).argmin rank = (items.argmin fun item => rank (image item)).map image := by
  induction items using List.reverseRecOn with
  | nil => rfl
  | append_singleton items last inductionHypothesis =>
      rw [List.map_append, List.map_singleton, List.argmin_concat, List.argmin_concat,
        inductionHypothesis]
      cases items.argmin fun item => rank (image item) with
      | none => rfl
      | some least =>
          simp only [Option.map_some]
          split <;> rfl

/-- An update which keeps a selection of rows and their rank keeps every column of the
least selected row that it leaves alone. -/
theorem map_argmin_modify {Column : Type*} (column : Row → Column) (selected : Row → Bool)
    (rank : Row → Nat) (table : Table key) (wanted : Key) (update : Row → Row)
    (keeps : ∀ row, key (update row) = key row)
    (kept : ∀ row, column (update row) = column row ∧ selected (update row) = selected row ∧
      rank (update row) = rank row) :
    (((table.modify wanted update keeps).rows.filter selected).argmin rank).map column =
      ((table.rows.filter selected).argmin rank).map column := by
  have each (row : Row) : let next := if key row = wanted then update row else row
      column next = column row ∧ selected next = selected row ∧ rank next = rank row := by
    intro next
    by_cases hit : key row = wanted
    · simpa only [next, if_pos hit] using kept row
    · simp only [next, if_neg hit, and_self]
  simp only [modify, List.filter_map]
  rw [argmin_map, Option.map_map]
  have sameSelected : (selected ∘ fun row => if key row = wanted then update row else row) =
      selected := funext fun row => (each row).2.1
  have sameRank : (fun row => rank (if key row = wanted then update row else row)) = rank :=
    funext fun row => (each row).2.2
  have sameColumn : (column ∘ fun row => if key row = wanted then update row else row) = column :=
    funext fun row => (each row).1
  rw [sameSelected, sameRank, sameColumn]

/-- Removing a row hides exactly its own key. -/
@[simp] theorem lookup_erase (table : Table key) (wanted other : Key) :
    (table.erase wanted).lookup other =
      if other = wanted then none else table.lookup other := by
  by_cases hit : other = wanted
  · simp [hit, lookup, erase]
  · simp only [hit, if_false]
    apply Option.ext
    intro row
    simp only [lookup_eq_some_iff, erase, List.mem_filter, decide_not, Bool.not_eq_true',
      decide_eq_false_iff_not]
    constructor
    · rintro ⟨⟨member, _⟩, same⟩
      exact ⟨member, same⟩
    · rintro ⟨member, same⟩
      exact ⟨⟨member, by rw [same]; exact hit⟩, same⟩

/-- Exactly one stored row is selected when exactly one key leads to a selected row. -/
theorem length_filter_eq_one_iff (table : Table key) (selected : Row → Bool) :
    (table.rows.filter selected).length = 1 ↔
      ∃! wanted, ∃ row, table.lookup wanted = some row ∧ selected row = true := by
  constructor
  · intro single
    obtain ⟨row, only⟩ := List.length_eq_one_iff.mp single
    have member : row ∈ table.rows.filter selected := by simp [only]
    rw [List.mem_filter] at member
    refine ⟨key row, ⟨row, lookup_of_mem member.1, member.2⟩, ?_⟩
    rintro wanted ⟨other, found, chosen⟩
    have otherMember : other ∈ table.rows.filter selected :=
      List.mem_filter.mpr ⟨mem_of_lookup found, chosen⟩
    rw [only, List.mem_singleton] at otherMember
    rw [← key_of_lookup found, otherMember]
  · rintro ⟨wanted, ⟨row, found, chosen⟩, unique⟩
    have member : row ∈ table.rows.filter selected :=
      List.mem_filter.mpr ⟨mem_of_lookup found, chosen⟩
    -- Every selected row is stored under the one key, and a key is stored once.
    have same : ∀ other ∈ table.rows.filter selected, other = row := by
      intro other otherMember
      rw [List.mem_filter] at otherMember
      have sameKey := unique (key other) ⟨other, lookup_of_mem otherMember.1, otherMember.2⟩
      have again := lookup_of_mem otherMember.1
      rw [sameKey, found] at again
      exact (Option.some.inj again).symm
    have repeated := List.eq_replicate_of_mem same
    have once : (table.rows.filter selected).Nodup :=
      (table.keysNodup.of_map key).sublist List.filter_sublist
    rw [repeated, List.nodup_replicate] at once
    have some := List.length_pos_of_mem member
    omega

section Insert

variable [LE Key] [DecidableLE Key]

/-- A row is refused exactly when its key is taken. -/
theorem insert?_eq_none_iff {table : Table key} {row : Row} :
    table.insert? row = none ↔ ∃ old, table.lookup (key row) = some old := by
  constructor
  · intro refused
    by_cases fresh : key row ∉ table.rows.map key
    · rw [insert?, dif_pos fresh] at refused
      cases refused
    · rw [← lookup_eq_none_iff, ← ne_eq, Option.ne_none_iff_exists'] at fresh
      exact fresh
  · rintro ⟨old, found⟩
    have taken : key row ∈ table.rows.map key := by
      by_contra fresh
      rw [lookup_eq_none_iff.mpr fresh] at found
      cases found
    simp [insert?, taken]

/-- A row is only added under a key which was free. -/
theorem lookup_of_insert? {table next : Table key} {row : Row}
    (inserted : table.insert? row = some next) : table.lookup (key row) = none := by
  by_contra taken
  obtain ⟨old, found⟩ := Option.ne_none_iff_exists'.mp taken
  rw [insert?_eq_none_iff.mpr ⟨old, found⟩] at inserted
  cases inserted

/-- Adding a row answers its own key and leaves every other key alone. -/
theorem lookup_insert? {table next : Table key} {row : Row}
    (inserted : table.insert? row = some next) (other : Key) :
    next.lookup other = if other = key row then some row else table.lookup other := by
  have free := lookup_of_insert? inserted
  unfold insert? at inserted
  split at inserted
  · cases inserted
    by_cases hit : other = key row
    · subst hit
      rw [if_pos rfl, lookup_eq_some_iff]
      exact ⟨(List.mem_orderedInsert _).mpr (.inl rfl), rfl⟩
    · rw [if_neg hit]
      apply Option.ext
      intro found
      simp only [lookup_eq_some_iff, List.mem_orderedInsert]
      constructor
      · rintro ⟨rfl | member, same⟩
        · exact absurd same.symm hit
        · exact ⟨member, same⟩
      · rintro ⟨member, same⟩
        exact ⟨.inr member, same⟩
  · cases inserted

end Insert

end Table

end EasyCab.Library
