import EasyCab.Library.InputStream
import EasyCab.Library.Packing

/-!
# Wrapped lines

`splitLines` breaks a text into lines at its blanks. It is the greedy packing of the words of the
text, so its lines lose nothing, are no longer than they may be unless they are single words, and
are as few as possible.
-/

namespace EasyCab

open Library

/-- What is done for a word which was read. -/
def addWord (lineLength : Nat) (lines : List Chars) (word : Chars) : List Chars :=
  match lines.getLast? with
  | none => lines ++ [word]
  | some back =>
      if back.length + word.length + 1 > lineLength then lines ++ [word]
      else lines.dropLast ++ [back ++ ' ' :: word]

/-- `splitLines`. -/
def splitLines (str : Chars) (lineLength : Nat) : List Chars :=
  (pieces ' ' str).foldl (addWord lineLength) []

/-- Words on one line. -/
def joined (words : List Chars) : Chars := [' '].intercalate words

/-- Words are not too long for one line. -/
def FitsLine (lineLength : Nat) (words : List Chars) : Prop := (joined words).length ≤ lineLength

instance (lineLength : Nat) : DecidablePred (FitsLine lineLength) := fun _ =>
  inferInstanceAs (Decidable (_ ≤ _))

section Words

variable {lineLength : Nat}

/-- More words come behind a blank. -/
theorem joined_append {words more : List Chars} (some : words ≠ []) (others : more ≠ []) :
    joined (words ++ more) = joined words ++ ' ' :: joined more := by
  induction words with
  | nil => exact absurd rfl some
  | cons first words inductionHypothesis =>
      cases words with
      | nil => simp [joined, List.intercalate_cons_of_ne_nil others]
      | cons second words =>
          have later := inductionHypothesis (by simp)
          simp only [joined, List.cons_append, List.intercalate_cons_cons] at later ⊢
          rw [later]
          simp

/-- A part of some words is no longer than they are. -/
theorem joined_length_le {whole part : List Chars} (within : part <:+: whole) :
    (joined part).length ≤ (joined whole).length := by
  obtain ⟨before, behind, rfl⟩ := within
  have longer (words more : List Chars) : (joined words).length ≤ (joined (words ++ more)).length ∧
      (joined more).length ≤ (joined (words ++ more)).length := by
    by_cases some : words = []
    · simp [some, joined]
    · by_cases others : more = []
      · simp [others, joined]
      · rw [joined_append some others, List.length_append, List.length_cons]
        omega
  exact Nat.le_trans (longer before part).2 (longer (before ++ part) behind).1

/-- Words on a line with one more are not too long exactly when the source says so. -/
theorem fitsLine_append_iff {words : List Chars} {word : Chars} (some : words ≠ []) :
    FitsLine lineLength (words ++ [word]) ↔
      ¬ (joined words).length + word.length + 1 > lineLength := by
  rw [FitsLine, joined_append some (by simp), List.length_append, List.length_cons]
  simp only [joined, List.intercalate_singleton]
  omega

/-- A word is added to lines as it is packed into the words on them. -/
theorem addWord_map_joined {groups : List (List Chars)} (some : ∀ group ∈ groups, group ≠ [])
    (word : Chars) :
    addWord lineLength (groups.map joined) word =
      (packOne (FitsLine lineLength) groups word).map joined := by
  rcases List.eq_nil_or_concat' groups with rfl | ⟨earlier, last, rfl⟩
  · simp [addWord, packOne, joined]
  · have notEmpty : last ≠ [] := some last (by simp)
    have room := @fitsLine_append_iff lineLength last word notEmpty
    have single : joined [word] = word := List.intercalate_singleton
    by_cases tooLong : lineLength < (joined last).length + word.length + 1
    · have full : ¬ FitsLine lineLength (last ++ [word]) := fun fits => room.mp fits tooLong
      simp [addWord, packOne, tooLong, full, single]
    · simp [addWord, packOne, tooLong, room.mpr tooLong, joined_append notEmpty, single]

/-- The lines are the greedy packing of the words. -/
theorem splitLines_eq_pack (str : Chars) :
    splitLines str lineLength = (pack (FitsLine lineLength) (pieces ' ' str)).map joined := by
  rw [splitLines]
  induction pieces ' ' str using List.reverseRecOn with
  | nil => rfl
  | append_singleton words word inductionHypothesis =>
      rw [List.foldl_append, inductionHypothesis, pack_append_singleton]
      exact addWord_map_joined (fun group member => (pack_admissible words group member).1) word

/-- Lines with blanks between them are their words with blanks between them. -/
theorem joined_map_joined {groups : List (List Chars)} (some : ∀ group ∈ groups, group ≠ []) :
    joined (groups.map joined) = joined groups.flatten := by
  induction groups with
  | nil => rfl
  | cons group groups inductionHypothesis =>
      rw [List.forall_mem_cons] at some
      rw [List.map_cons, List.flatten_cons]
      by_cases last : groups = []
      · simp [last, joined]
      · have others : groups.flatten ≠ [] := by
          obtain ⟨next, rest, rfl⟩ := List.exists_cons_of_ne_nil last
          have notEmpty := some.2 next List.mem_cons_self
          simp [notEmpty]
        rw [joined_append some.1 others, ← inductionHypothesis some.2]
        simp [joined, List.intercalate_cons_of_ne_nil, last]

end Words

/-- The lines of `splitLines` are the words of the text in their order, with nothing lost but a
blank at its end. A line which is too long is a single word, and no other way of breaking the words
into lines, on which several words stand only if they are not too long, has fewer lines. -/
theorem split_lines_optimal (str : Chars) (lineLength : Nat) :
    (str = joined (splitLines str lineLength) ∨ str = joined (splitLines str lineLength) ++ [' ']) ∧
      (∀ line ∈ splitLines str lineLength, lineLength < line.length → line ∈ pieces ' ' str) ∧
      ∀ breaking : List (List Chars), breaking.flatten = pieces ' ' str →
        (∀ words ∈ breaking, Admissible (FitsLine lineLength) words) →
          (splitLines str lineLength).length ≤ breaking.length := by
  have admissible := @pack_admissible _ (FitsLine lineLength) _ (pieces ' ' str)
  have whole := @flatten_pack _ (FitsLine lineLength) _ (pieces ' ' str)
  rw [splitLines_eq_pack]
  refine ⟨?_, ?_, ?_⟩
  · rw [joined_map_joined fun group member => (admissible group member).1, whole]
    exact intercalate_pieces str
  · intro line member long
    obtain ⟨words, packed, rfl⟩ := List.mem_map.mp member
    obtain ⟨_, single | fits⟩ := admissible words packed
    · obtain ⟨word, rfl⟩ := List.length_eq_one_iff.mp single
      rw [← whole]
      exact List.mem_flatten.mpr ⟨[word], packed, by simp [joined]⟩
    · exact absurd fits (Nat.not_le.mpr long)
  · intro breaking same allowed
    rw [List.length_map]
    exact pack_minimal (fun _ _ fits within => Nat.le_trans (joined_length_le within) fits) same
      allowed

end EasyCab
