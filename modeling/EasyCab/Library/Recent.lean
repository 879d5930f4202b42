/-!
# The most recent entries

A queue which is kept at a limit holds the most recent of the entries that were pushed to it, in
the order in which they came.
-/

namespace EasyCab.Library

variable {Entry : Type}

/-- The last entries, no more than a limit. -/
def recent (limit : Nat) (entries : List Entry) : List Entry := entries.drop (entries.length - limit)

/-- Push an entry, and pop the oldest one where there are more than the limit. -/
def pushRecent (limit : Nat) (queue : List Entry) (entry : Entry) : List Entry :=
  if limit < (queue ++ [entry]).length then (queue ++ [entry]).tail else queue ++ [entry]

variable {limit : Nat} {entries : List Entry}

theorem recent_length : (recent limit entries).length = min entries.length limit := by
  rw [recent, List.length_drop]
  omega

theorem recent_length_le : (recent limit entries).length ≤ limit := by
  rw [recent_length]
  exact Nat.min_le_right _ _

/-- Entries which are no more than the limit are all recent. -/
theorem recent_of_le (few : entries.length ≤ limit) : recent limit entries = entries := by
  rw [recent, Nat.sub_eq_zero_of_le few, List.drop_zero]

/-- Where fewer entries than the limit are recent, there are no others. -/
theorem recent_of_length_lt (few : (recent limit entries).length < limit) :
    recent limit entries = entries := by
  rw [recent_length] at few
  exact recent_of_le (by omega)

/-- A push keeps the most recent entries. -/
theorem pushRecent_recent (entry : Entry) :
    pushRecent limit (recent limit entries) entry = recent limit (entries ++ [entry]) := by
  have size : (recent limit entries ++ [entry]).length = min entries.length limit + 1 := by
    rw [List.length_append, recent_length, List.length_singleton]
  have pushed : recent limit entries ++ [entry] =
      (entries ++ [entry]).drop (entries.length - limit) :=
    (List.drop_append_of_le_length (Nat.sub_le _ _)).symm
  rw [pushRecent, size]
  by_cases full : limit ≤ entries.length
  · have oldest : entries.length + 1 - limit = entries.length - limit + 1 := by omega
    rw [if_pos (by omega), pushed, List.tail_drop, recent, List.length_append,
      List.length_singleton, oldest]
  · rw [if_neg (by omega), recent_of_le (by omega), recent_of_le]
    rw [List.length_append, List.length_singleton]
    omega

end EasyCab.Library
