import Mathlib.Data.Finset.Basic
import Mathlib.Logic.Function.Basic

/-!
# Resources with one owner

`Holdings` say which resources exist, who holds which, and what became of them. Each owner holds at
most one resource and passes it on or gives it back; an owner which gets a resource forgets the one
it had. `Holdings.Sound` says that nobody else has what somebody holds, and that only what exists is
given back. New resources are ones which did not exist, so this holds until somebody takes what does
not exist or what another one has. `Holdings.Tidy` is what forgetting spoils: everything which exists
is held by somebody.
-/

namespace EasyCab.Library

universe u v

/-- What becomes of a resource. -/
inductive Deed (Resource : Type v) where
  | acquired (resource : Resource)
  | released (resource : Resource)
deriving DecidableEq

/-- Which resources exist, who holds them, and what became of them, oldest first. -/
structure Holdings (Owner : Type u) (Resource : Type v) where
  live : Finset Resource
  held : Owner → Option Resource
  deeds : List (Deed Resource)

namespace Holdings

variable {Owner : Type u} {Resource : Type v} [DecidableEq Owner] [DecidableEq Resource]

section Operations

variable (holdings : Holdings Owner Resource)

/-- There is a resource which did not exist, and nobody holds it. -/
def create (resource : Resource) : Holdings Owner Resource :=
  { holdings with
    live := insert resource holdings.live
    deeds := holdings.deeds ++ [.acquired resource] }

/-- An owner takes a resource, whoever has it. -/
def take (owner : Owner) (resource : Resource) : Holdings Owner Resource :=
  { holdings with held := Function.update holdings.held owner (some resource) }

/-- An owner gets a resource which did not exist. -/
def acquire (owner : Owner) (resource : Resource) : Holdings Owner Resource where
  live := insert resource holdings.live
  held := Function.update holdings.held owner (some resource)
  deeds := holdings.deeds ++ [.acquired resource]

/-- An owner forgets what it holds. -/
def abandon (owner : Owner) : Holdings Owner Resource :=
  { holdings with held := Function.update holdings.held owner none }

/-- An owner gives back what it holds. -/
def release (owner : Owner) : Holdings Owner Resource :=
  match holdings.held owner with
  | none => holdings
  | some resource =>
      { live := holdings.live.erase resource
        held := Function.update holdings.held owner none
        deeds := holdings.deeds ++ [.released resource] }

/-- An owner passes on what it holds. -/
def give (source target : Owner) : Holdings Owner Resource :=
  { holdings with
    held := Function.update (Function.update holdings.held target (holdings.held source)) source none }

end Operations

/-- What is held exists and has one holder, and a resource was given back as often as it was
acquired, but for the last time if it exists. -/
structure Sound (holdings : Holdings Owner Resource) : Prop where
  exists_ : ∀ owner resource, holdings.held owner = some resource → resource ∈ holdings.live
  exclusive : ∀ first second resource, holdings.held first = some resource →
    holdings.held second = some resource → first = second
  balanced : ∀ resource, holdings.deeds.count (.released resource) +
    (if resource ∈ holdings.live then 1 else 0) = holdings.deeds.count (.acquired resource)

/-- Everything which exists is held. -/
def Tidy (holdings : Holdings Owner Resource) : Prop :=
  ∀ resource ∈ holdings.live, ∃ owner, holdings.held owner = some resource

variable {holdings : Holdings Owner Resource} {owner source target : Owner} {resource : Resource}

@[simp] theorem held_release : (holdings.release owner).held owner = none := by
  cases held : holdings.held owner <;> simp [release, held]

/-! ### Soundness -/

theorem Sound.abandon (sound : holdings.Sound) : (holdings.abandon owner).Sound := by
  have still {other : Owner} {resource : Resource}
      (held : (holdings.abandon owner).held other = some resource) :
      holdings.held other = some resource := by
    by_cases same : other = owner
    · simp [Holdings.abandon, same] at held
    · simpa [Holdings.abandon, same] using held
  refine ⟨?_, ?_, sound.balanced⟩
  · intro other resource held
    exact sound.exists_ other resource (still held)
  · intro first second resource here there
    exact sound.exclusive first second resource (still here) (still there)

omit [DecidableEq Owner] in
theorem Sound.create (sound : holdings.Sound) (fresh : resource ∉ holdings.live) :
    (holdings.create resource).Sound := by
  refine ⟨?_, sound.exclusive, ?_⟩
  · intro other found held
    exact Finset.mem_insert_of_mem (sound.exists_ other found held)
  · intro other
    have before := sound.balanced other
    by_cases same : other = resource
    · subst same
      simp only [fresh, if_false] at before
      simp [Holdings.create, ← before]
    · have differs : resource ≠ other := fun equal => same equal.symm
      simpa [Holdings.create, same, differs, List.count_singleton] using before

/-- A resource can be taken which exists and which nobody else holds. -/
theorem Sound.take (sound : holdings.Sound) (live : resource ∈ holdings.live)
    (free : ∀ other, holdings.held other = some resource → other = owner) :
    (holdings.take owner resource).Sound := by
  have held_iff {other : Owner} {found : Resource} :
      (holdings.take owner resource).held other = some found ↔
        if other = owner then resource = found else holdings.held other = some found := by
    by_cases same : other = owner <;> simp [Holdings.take, same]
  refine ⟨?_, ?_, sound.balanced⟩
  · intro other found held
    rw [held_iff] at held
    split at held
    · exact held ▸ live
    · exact sound.exists_ other found held
  · intro first second found here there
    rw [held_iff] at here there
    split at here <;> split at there
    · next one two => exact one.trans two.symm
    · next one _ => exact one.trans (free second (here ▸ there)).symm
    · next _ two => exact (free first (there ▸ here)).trans two.symm
    · exact sound.exclusive first second found here there

/-- A resource can be taken soundly only if it is live and nobody else holds it. -/
theorem Sound.of_take (sound : (holdings.take owner resource).Sound) :
    resource ∈ holdings.live ∧ ∀ other, holdings.held other = some resource → other = owner := by
  have taken : (holdings.take owner resource).held owner = some resource := by simp [Holdings.take]
  refine ⟨sound.exists_ owner resource taken, fun other held => ?_⟩
  by_contra differs
  have still : (holdings.take owner resource).held other = some resource := by
    simp [Holdings.take, differs, held]
  exact differs (sound.exclusive other owner resource still taken)

/-- An acquired resource is a new one which is taken. -/
theorem Sound.acquire (sound : holdings.Sound) (fresh : resource ∉ holdings.live) :
    (holdings.acquire owner resource).Sound := by
  have new : resource ∈ (holdings.create resource).live := Finset.mem_insert_self _ _
  refine (sound.create fresh).take new fun other held => ?_
  exact absurd (sound.exists_ other resource held) fresh

theorem Sound.release (sound : holdings.Sound) : (holdings.release owner).Sound := by
  cases held : holdings.held owner with
  | none => simpa [Holdings.release, held] using sound
  | some resource =>
      have forgets := @Sound.abandon _ _ _ _ holdings owner sound
      have nobody (other : Owner) : (holdings.abandon owner).held other ≠ some resource := by
        intro still
        by_cases same : other = owner
        · simp [Holdings.abandon, same] at still
        · have both : holdings.held other = some resource := by
            simpa [Holdings.abandon, same] using still
          exact same (sound.exclusive other owner resource both held)
      simp only [Holdings.release, held]
      refine ⟨?_, forgets.exclusive, ?_⟩
      · intro other found still
        refine Finset.mem_erase.mpr ⟨?_, forgets.exists_ other found still⟩
        rintro rfl
        exact nobody other still
      · intro other
        have before := sound.balanced other
        by_cases same : other = resource
        · subst same
          simp only [sound.exists_ owner other held, if_true] at before
          simp [← before]
        · have differs : resource ≠ other := fun equal => same equal.symm
          simpa [same, differs, List.count_singleton] using before

theorem Sound.give (sound : holdings.Sound) (differ : source ≠ target) :
    (holdings.give source target).Sound := by
  -- Whoever holds something holds what it held, or the target what the source held.
  have origin {other : Owner} {found : Resource}
      (held : (holdings.give source target).held other = some found) :
      other ≠ source ∧
        holdings.held (if other = target then source else other) = some found := by
    by_cases gave : other = source
    · simp [Holdings.give, gave] at held
    · by_cases got : other = target
      · subst got
        exact ⟨gave, by simpa [Holdings.give, gave] using held⟩
      · exact ⟨gave, by simpa [Holdings.give, gave, got] using held⟩
  refine ⟨?_, ?_, sound.balanced⟩
  · intro other found held
    exact sound.exists_ _ found (origin held).2
  · intro first second found here there
    obtain ⟨kept, before⟩ := origin here
    obtain ⟨keeps, also⟩ := origin there
    have same := sound.exclusive _ _ found before also
    split at same <;> split at same
    · next one two => exact one.trans two.symm
    · exact absurd same.symm keeps
    · exact absurd same kept
    · exact same

/-! ### Tidiness -/

section Tidiness

variable {next : Holdings Owner Resource}

omit [DecidableEq Owner] in
/-- A resource which its holder does not pass on is lost. -/
theorem Sound.lost (sound : holdings.Sound) (held : holdings.held owner = some resource)
    (live : resource ∈ next.live)
    (elsewhere : ∀ other, next.held other = some resource →
      ∃ holder, holder ≠ owner ∧ holdings.held holder = some resource) : ¬ next.Tidy := by
  intro tidy
  obtain ⟨other, holds⟩ := tidy resource live
  obtain ⟨holder, differs, before⟩ := elsewhere other holds
  exact differs (sound.exclusive holder owner resource before held)

omit [DecidableEq Owner] in
/-- What is new is not held. -/
theorem Sound.not_tidy_create (sound : holdings.Sound) (fresh : resource ∉ holdings.live) :
    ¬ (holdings.create resource).Tidy := by
  intro tidy
  obtain ⟨other, held⟩ := tidy resource (Finset.mem_insert_self _ _)
  exact fresh (sound.exists_ other resource held)

omit [DecidableEq Resource] in
/-- Who takes a resource and had none loses nothing. -/
theorem Tidy.take (tidy : holdings.Tidy) (empty : holdings.held owner = none) :
    (holdings.take owner resource).Tidy := by
  intro other member
  obtain ⟨holder, held⟩ := tidy other member
  have differs : holder ≠ owner := by
    rintro rfl
    rw [empty] at held
    cases held
  exact ⟨holder, by simpa [Holdings.take, differs] using held⟩

/-- Who gets a resource loses what it had. -/
theorem tidy_acquire_iff (sound : holdings.Sound) (tidy : holdings.Tidy)
    (fresh : resource ∉ holdings.live) :
    (holdings.acquire owner resource).Tidy ↔ holdings.held owner = none := by
  constructor
  · intro after
    by_contra full
    obtain ⟨old, held⟩ := Option.ne_none_iff_exists'.mp full
    have exists_ := sound.exists_ owner old held
    have live : old ∈ (holdings.acquire owner resource).live := Finset.mem_insert_of_mem exists_
    refine sound.lost held live (fun other holds => ?_) after
    by_cases same : other = owner
    · have equal : resource = old := by simpa [Holdings.acquire, same] using holds
      exact absurd (equal ▸ exists_) fresh
    · exact ⟨other, same, by simpa [Holdings.acquire, same] using holds⟩
  · intro empty other member
    rcases Finset.mem_insert.mp member with rfl | old
    · exact ⟨owner, by simp [Holdings.acquire]⟩
    · obtain ⟨holder, held⟩ := tidy other old
      refine ⟨holder, ?_⟩
      have differs : holder ≠ owner := by
        rintro rfl
        rw [empty] at held
        cases held
      simpa [Holdings.acquire, differs] using held

/-- Who forgets what it holds loses it. -/
theorem tidy_abandon_iff (sound : holdings.Sound) (tidy : holdings.Tidy) :
    (holdings.abandon owner).Tidy ↔ holdings.held owner = none := by
  constructor
  · intro after
    by_contra full
    obtain ⟨old, held⟩ := Option.ne_none_iff_exists'.mp full
    have live : old ∈ (holdings.abandon owner).live := sound.exists_ owner old held
    refine sound.lost held live (fun other holds => ?_) after
    by_cases same : other = owner
    · simp [Holdings.abandon, same] at holds
    · exact ⟨other, same, by simpa [Holdings.abandon, same] using holds⟩
  · intro empty
    have unchanged : holdings.abandon owner = holdings := by
      rw [Holdings.abandon, ← empty, Function.update_eq_self]
    rwa [unchanged]

/-- What is given back is not lost. -/
theorem tidy_release_iff : (holdings.release owner).Tidy ↔ holdings.Tidy := by
  cases held : holdings.held owner with
  | none => simp [Holdings.release, held]
  | some resource =>
      simp only [Holdings.release, held]
      constructor
      · intro after other member
        by_cases same : other = resource
        · exact ⟨owner, same ▸ held⟩
        · obtain ⟨holder, holds⟩ := after other (Finset.mem_erase.mpr ⟨same, member⟩)
          refine ⟨holder, ?_⟩
          have differs : holder ≠ owner := by
            rintro rfl
            simp at holds
          simpa [differs] using holds
      · intro tidy other member
        obtain ⟨apart, old⟩ := Finset.mem_erase.mp member
        obtain ⟨holder, holds⟩ := tidy other old
        refine ⟨holder, ?_⟩
        have differs : holder ≠ owner := by
          rintro rfl
          exact apart (Option.some.inj (holds.symm.trans held))
        simpa [differs] using holds

/-- Who is given something loses what it had. -/
theorem tidy_give_iff (sound : holdings.Sound) (tidy : holdings.Tidy) (differ : source ≠ target) :
    (holdings.give source target).Tidy ↔ holdings.held target = none := by
  constructor
  · intro after
    by_contra full
    obtain ⟨old, held⟩ := Option.ne_none_iff_exists'.mp full
    have live : old ∈ (holdings.give source target).live := sound.exists_ target old held
    refine sound.lost held live (fun other holds => ?_) after
    by_cases gave : other = source
    · simp [Holdings.give, gave] at holds
    · by_cases got : other = target
      · exact ⟨source, differ, by simpa [Holdings.give, got, differ.symm] using holds⟩
      · exact ⟨other, got, by simpa [Holdings.give, gave, got] using holds⟩
  · intro empty other member
    obtain ⟨holder, held⟩ := tidy other member
    have apart : holder ≠ target := by
      rintro rfl
      rw [empty] at held
      cases held
    by_cases gave : holder = source
    · subst gave
      exact ⟨target, by simpa [Holdings.give, apart, apart.symm] using held⟩
    · exact ⟨holder, by simpa [Holdings.give, gave, apart] using held⟩

/-- A change keeps holdings sound, and tidy unless something is lost. -/
def Keeps (before after : Holdings Owner Resource) (loses : Prop) : Prop :=
  before.Sound → after.Sound ∧ (before.Tidy → (after.Tidy ↔ ¬ loses))

omit [DecidableEq Owner] in
theorem keeps_refl : holdings.Keeps holdings False :=
  fun sound => ⟨sound, fun tidy => ⟨fun _ => id, fun _ => tidy⟩⟩

theorem keeps_take (empty : holdings.held owner = none) (live : resource ∈ holdings.live)
    (free : ∀ other, holdings.held other ≠ some resource) :
    holdings.Keeps (holdings.take owner resource) False :=
  fun sound => ⟨sound.take live fun other held => absurd held (free other), fun tidy =>
    ⟨fun _ => id, fun _ => tidy.take empty⟩⟩

theorem keeps_acquire (fresh : resource ∉ holdings.live) :
    holdings.Keeps (holdings.acquire owner resource) (holdings.held owner ≠ none) :=
  fun sound => ⟨sound.acquire fresh, fun tidy =>
    (tidy_acquire_iff sound tidy fresh).trans Classical.not_not.symm⟩

theorem keeps_abandon : holdings.Keeps (holdings.abandon owner) (holdings.held owner ≠ none) :=
  fun sound => ⟨sound.abandon, fun tidy => (tidy_abandon_iff sound tidy).trans Classical.not_not.symm⟩

theorem keeps_give (differ : source ≠ target) :
    holdings.Keeps (holdings.give source target) (holdings.held target ≠ none) :=
  fun sound => ⟨sound.give differ, fun tidy =>
    (tidy_give_iff sound tidy differ).trans Classical.not_not.symm⟩

/-- Nothing is lost by giving something back afterwards. -/
theorem Keeps.release {loses : Prop} (keeps : holdings.Keeps next loses) :
    holdings.Keeps (next.release owner) loses := by
  intro sound
  obtain ⟨after, tidily⟩ := keeps sound
  exact ⟨after.release, fun tidy => tidy_release_iff.trans (tidily tidy)⟩

/-- Nothing is lost where the target gives back what it has. -/
theorem keeps_release_give (differ : source ≠ target) :
    holdings.Keeps ((holdings.release target).give source target) False := by
  intro sound
  refine ⟨sound.release.give differ, fun tidy => ?_⟩
  have released : (holdings.release target).Tidy := tidy_release_iff.mpr tidy
  exact ⟨fun _ => id, fun _ => (tidy_give_iff sound.release released differ).mpr held_release⟩

end Tidiness

end Holdings

end EasyCab.Library
