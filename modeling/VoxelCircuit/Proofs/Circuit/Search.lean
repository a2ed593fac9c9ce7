import Mathlib.Data.Finset.Card
import Mathlib.Logic.Relation
import VoxelCircuit.Circuit.Demand

/-! # The order of leaving

A depth-first search leaves a target after all that it demands, except where demands
run in a circle (`VoxelCircuit.Search.leavingOrder_spec`). The targets that were entered
and not yet left lead to the one that is visited, each by its demands; this is kept by
every visit, and it is why a demand that is passed over leads back to who demands it.
-/

namespace VoxelCircuit.Search

open Relation

variable {α : Type} [Ord α] [Std.TransOrd α]

/-- One target demands another. -/
def Demands (demands : α → List α) (target demanded : α) : Prop :=
  demanded ∈ demands target

/-- A target was entered and not yet left. -/
def Underway (search : Search α) (target : α) : Prop :=
  target ∈ search.seen ∧ target ∉ search.left

/-- What holds of a search at any time. What a target demands was left before it, or
leads back to it. -/
structure Sound (demands : α → List α) (search : Search α) : Prop where
  left_seen : ∀ target ∈ search.left, target ∈ search.seen
  left_nodup : search.left.Nodup
  demanded_seen : ∀ target ∈ search.left, ∀ demanded ∈ demands target, demanded ∈ search.seen
  settled : ∀ later target earlier, search.left = later ++ target :: earlier →
    ∀ demanded ∈ demands target,
      demanded ∈ earlier ∨ ReflTransGen (Demands demands) demanded target

/-- A search went on from another and left all that it entered. -/
structure Continues (before after : Search α) : Prop where
  seen : ∀ target ∈ before.seen, target ∈ after.seen
  left : ∀ target ∈ before.left, target ∈ after.left
  underway : ∀ target, after.Underway target ↔ before.Underway target

private theorem Continues.refl (search : Search α) : Continues search search :=
  ⟨fun _ member => member, fun _ member => member, fun _ => Iff.rfl⟩

private theorem Continues.trans {first second third : Search α} (before : Continues first second)
    (after : Continues second third) : Continues first third :=
  ⟨fun target member => after.seen target (before.seen target member),
    fun target member => after.left target (before.left target member),
    fun target => (after.underway target).trans (before.underway target)⟩

variable {demands : α → List α}

/-- Visits of a list of targets, when each visit is as it should be. -/
theorem foldl_visit (depth : Nat) (targets : List α) {search : Search α}
    (ready : Search α → Prop) (sound : Sound demands search) (initially : ready search)
    (kept : ∀ {before after}, Continues before after → ready before → ready after)
    (visits : ∀ target ∈ targets, ∀ before, Sound demands before → ready before →
      Sound demands (visit demands depth before target) ∧
        Continues before (visit demands depth before target) ∧
          target ∈ (visit demands depth before target).seen) :
    Sound demands (targets.foldl (visit demands depth) search) ∧
      Continues search (targets.foldl (visit demands depth) search) ∧
        ∀ target ∈ targets, target ∈ (targets.foldl (visit demands depth) search).seen := by
  induction targets generalizing search with
  | nil => exact ⟨sound, .refl search, by simp⟩
  | cons first rest ih =>
      obtain ⟨firstSound, firstContinues, firstSeen⟩ :=
        visits first List.mem_cons_self search sound initially
      obtain ⟨restSound, restContinues, restSeen⟩ := ih firstSound (kept firstContinues initially)
        fun target member => visits target (List.mem_cons_of_mem _ member)
      refine ⟨restSound, firstContinues.trans restContinues, fun target member => ?_⟩
      rcases List.mem_cons.mp member with rfl | later
      · exact restContinues.seen _ firstSeen
      · exact restSeen target later

/-- The targets among some that were not yet entered. -/
def unseen (carrier : Finset α) (search : Search α) : Finset α :=
  carrier.filter fun target => target ∉ search.seen

/-- A search that has seen more has no more left unseen. -/
theorem card_unseen_le {carrier : Finset α} {before after : Search α}
    (grown : ∀ target ∈ before.seen, target ∈ after.seen) :
    (unseen carrier after).card ≤ (unseen carrier before).card := by
  apply Finset.card_le_card
  intro target member
  obtain ⟨inside, fresh⟩ := Finset.mem_filter.mp member
  exact Finset.mem_filter.mpr ⟨inside, fun old => fresh (grown target old)⟩

private theorem foldl_among {among : α → Prop} {step : Search α → α → Search α}
    (kept : ∀ search target, among target → (∀ other ∈ search.left, among other) →
      ∀ other ∈ (step search target).left, among other)
    (targets : List α) {search : Search α} (inside : ∀ target ∈ targets, among target)
    (before : ∀ other ∈ search.left, among other) :
    ∀ other ∈ (targets.foldl step search).left, among other := by
  induction targets generalizing search with
  | nil => exact before
  | cons first rest ih =>
      exact ih (fun target member => inside target (List.mem_cons_of_mem _ member))
        (kept search first (inside first List.mem_cons_self) before)

/-- A visit leaves nothing but what demands lead to. -/
theorem visit_among {among : α → Prop}
    (closed : ∀ target, among target → ∀ demanded ∈ demands target, among demanded) (depth : Nat)
    (search : Search α) (target : α) (inside : among target)
    (before : ∀ other ∈ search.left, among other) :
    ∀ other ∈ (visit demands depth search target).left, among other := by
  induction depth generalizing search target with
  | zero => exact before
  | succ depth ih =>
      rw [visit]
      split
      · exact before
      · intro other member
        rcases List.mem_cons.mp member with rfl | old
        · exact inside
        · refine foldl_among ih (demands target) (closed target inside) ?_ other old
          exact before

/-- All that a search leaves is what demands lead to from its roots. -/
theorem leavingOrder_among (among : α → Prop)
    (closed : ∀ target, among target → ∀ demanded ∈ demands target, among demanded)
    {roots : List α} (inside : ∀ root ∈ roots, among root) (depth : Nat) :
    ∀ target ∈ leavingOrder demands depth roots, among target := by
  intro target member
  refine foldl_among (visit_among closed depth) roots inside ?_ target (List.mem_reverse.mp member)
  simp [empty]

variable [Std.LawfulEqOrd α]

/-- Entering a target adds it to those seen. -/
theorem mem_enter {search : Search α} {target other : α} :
    other ∈ search.seen.insert target ↔ other = target ∨ other ∈ search.seen := by
  rw [Std.ExtTreeSet.mem_insert, Std.compare_eq_iff_eq, eq_comm]

/-- Entering a target leaves fewer to be entered. -/
theorem card_unseen_enter_lt {carrier : Finset α} {search : Search α} {target : α}
    (inside : target ∈ carrier) (fresh : target ∉ search.seen) :
    (unseen carrier { search with seen := search.seen.insert target }).card <
      (unseen carrier search).card := by
  apply Finset.card_lt_card
  refine Finset.ssubset_iff_subset_ne.mpr ⟨fun other member => ?_, fun same => ?_⟩
  · obtain ⟨within, absent⟩ := Finset.mem_filter.mp member
    exact Finset.mem_filter.mpr ⟨within, fun seen => absent (mem_enter.mpr (Or.inr seen))⟩
  · have member : target ∈ unseen carrier search := Finset.mem_filter.mpr ⟨inside, fresh⟩
    rw [← same] at member
    exact (Finset.mem_filter.mp member).2 (mem_enter.mpr (Or.inl rfl))

/-- Leaving a target, after all that it demands was entered. -/
theorem Sound.leave {search after : Search α} {target : α} (sound : Sound demands after)
    (continues : Continues { search with seen := search.seen.insert target } after)
    (fresh : target ∉ search.seen) (soundBefore : Sound demands search)
    (leads : ∀ other, search.Underway other → ReflTransGen (Demands demands) other target)
    (entered : ∀ demanded ∈ demands target, demanded ∈ after.seen) :
    Sound demands { after with left := target :: after.left } ∧
      Continues search { after with left := target :: after.left } := by
  have targetUnderway : after.Underway target := (continues.underway target).mpr
    ⟨mem_enter.mpr (Or.inl rfl), fun old => fresh (soundBefore.left_seen target old)⟩
  have underway : ∀ {other}, after.Underway other ↔ other = target ∨ search.Underway other := by
    intro other
    rw [continues.underway]
    unfold Underway
    rw [mem_enter]
    refine ⟨fun ⟨seen, rest⟩ => seen.imp id fun seen => ⟨seen, rest⟩, fun either => ?_⟩
    rcases either with rfl | ⟨seen, rest⟩
    · exact ⟨Or.inl rfl, fun old => fresh (soundBefore.left_seen other old)⟩
    · exact ⟨Or.inr seen, rest⟩
  refine ⟨⟨?_, ?_, ?_, ?_⟩, ⟨?_, ?_, ?_⟩⟩
  · intro other member
    rcases List.mem_cons.mp member with rfl | old
    · exact targetUnderway.1
    · exact sound.left_seen other old
  · exact List.nodup_cons.mpr ⟨targetUnderway.2, sound.left_nodup⟩
  · intro other member demanded demand
    rcases List.mem_cons.mp member with rfl | old
    · exact entered demanded demand
    · exact sound.demanded_seen other old demanded demand
  · intro later other earlier split demanded demand
    cases later with
    | nil =>
        obtain ⟨rfl, rfl⟩ := List.cons.inj split
        by_cases old : demanded ∈ after.left
        · exact Or.inl old
        · rcases underway.mp ⟨entered demanded demand, old⟩ with rfl | lead
          · exact Or.inr .refl
          · exact Or.inr (leads demanded lead)
    | cons newest later =>
        obtain ⟨rfl, tail⟩ := List.cons.inj split
        exact sound.settled later other earlier tail demanded demand
  · exact fun other seen => continues.seen other (mem_enter.mpr (Or.inr seen))
  · exact fun other old => List.mem_cons_of_mem _ (continues.left other old)
  · intro other
    have still : (other ∈ after.seen ∧ other ∉ target :: after.left) ↔
        after.Underway other ∧ other ≠ target := by
      rw [List.mem_cons, not_or, Underway]
      exact ⟨fun ⟨seen, apart, rest⟩ => ⟨⟨seen, rest⟩, apart⟩,
        fun ⟨⟨seen, rest⟩, apart⟩ => ⟨seen, apart, rest⟩⟩
    refine still.trans ⟨fun ⟨running, apart⟩ => ?_, fun running => ?_⟩
    · exact (underway.mp running).resolve_left apart
    · exact ⟨underway.mpr (Or.inr running), fun same => fresh (same ▸ running.1)⟩

/-- A visit that may go deep enough enters its target, and leaves it and all else that
it enters. -/
theorem visit_spec {carrier : Finset α}
    (closed : ∀ target ∈ carrier, ∀ demanded ∈ demands target, demanded ∈ carrier)
    {depth : Nat} {search : Search α} {target : α} (inside : target ∈ carrier)
    (enough : (unseen carrier search).card < depth) (sound : Sound demands search)
    (leads : ∀ other, search.Underway other → ReflTransGen (Demands demands) other target) :
    Sound demands (visit demands depth search target) ∧
      Continues search (visit demands depth search target) ∧
        target ∈ (visit demands depth search target).seen := by
  induction depth generalizing search target with
  | zero => omega
  | succ depth ih =>
      rw [visit]
      by_cases old : target ∈ search.seen
      · rw [if_pos (Std.ExtTreeSet.contains_iff_mem.mpr old)]
        exact ⟨sound, .refl search, old⟩
      · rw [if_neg (by rwa [Std.ExtTreeSet.contains_iff_mem])]
        have enters : Sound demands { search with seen := search.seen.insert target } :=
          ⟨fun other member => mem_enter.mpr (Or.inr (sound.left_seen other member)),
            sound.left_nodup, fun other member demanded demand =>
              mem_enter.mpr (Or.inr (sound.demanded_seen other member demanded demand)),
            sound.settled⟩
        have fewer : (unseen carrier { search with seen := search.seen.insert target }).card <
            depth := by
          have less := card_unseen_enter_lt inside old
          omega
        have leading : ∀ other, Underway { search with seen := search.seen.insert target } other →
            ReflTransGen (Demands demands) other target := by
          intro other running
          rcases mem_enter.mp running.1 with rfl | seen
          · exact .refl
          · exact leads other ⟨seen, running.2⟩
        obtain ⟨visited, continues, entered⟩ := foldl_visit depth (demands target)
          (fun before =>
            (unseen carrier before).card < depth ∧
              ∀ other, before.Underway other → ReflTransGen (Demands demands) other target)
          enters ⟨fewer, leading⟩
          (fun step ready => ⟨(card_unseen_le step.seen).trans_lt ready.1,
            fun other running => ready.2 other ((step.underway other).mp running)⟩)
          (fun demanded demand before soundBefore ready =>
            ih (closed target inside demanded demand) ready.1 soundBefore
              fun other running => (ready.2 other running).tail demand)
        obtain ⟨left, onward⟩ := visited.leave continues old sound leads entered
        exact ⟨left, onward, continues.seen target (mem_enter.mpr (Or.inl rfl))⟩

/-- **Demands come first.** The order in which a search that may go deep enough leaves its
targets lists no target twice, lists the roots and all that is demanded, and lists what
a target demands before the target unless it leads back to the target. -/
theorem leavingOrder_spec {carrier : Finset α} {roots : List α} {depth : Nat}
    (closed : ∀ target ∈ carrier, ∀ demanded ∈ demands target, demanded ∈ carrier)
    (inside : ∀ root ∈ roots, root ∈ carrier) (enough : carrier.card < depth) :
    (leavingOrder demands depth roots).Nodup ∧
      (∀ root ∈ roots, root ∈ leavingOrder demands depth roots) ∧
      (∀ target ∈ leavingOrder demands depth roots, ∀ demanded ∈ demands target,
        demanded ∈ leavingOrder demands depth roots) ∧
      ∀ earlier target later, leavingOrder demands depth roots = earlier ++ target :: later →
        ∀ demanded ∈ demands target,
          demanded ∈ earlier ∨ ReflTransGen (Demands demands) demanded target := by
  have nothing : ∀ target, ¬(empty : Search α).Underway target := by
    intro target running
    simp [Underway, empty] at running
  have begun : Sound demands (empty : Search α) :=
    ⟨by simp [empty], by simp [empty], by simp [empty], by simp [empty]⟩
  obtain ⟨sound, continues, entered⟩ := foldl_visit depth roots
    (fun before => (unseen carrier before).card < depth ∧ ∀ other, ¬before.Underway other) begun
    ⟨(Finset.card_filter_le _ _).trans_lt enough, nothing⟩
    (fun step ready => ⟨(card_unseen_le step.seen).trans_lt ready.1,
      fun other running => ready.2 other ((step.underway other).mp running)⟩)
    (fun root member before soundBefore ready =>
      visit_spec closed (inside root member) ready.1 soundBefore
        fun other running => (ready.2 other running).elim)
  have settled : ∀ target, target ∈ (roots.foldl (visit demands depth) empty).seen →
      target ∈ leavingOrder demands depth roots := by
    intro target seen
    by_contra absent
    refine nothing target ((continues.underway target).mp ⟨seen, fun left => absent ?_⟩)
    exact List.mem_reverse.mpr left
  refine ⟨List.nodup_reverse.mpr sound.left_nodup, fun root member => settled root
    (entered root member), fun target member demanded demand => settled demanded
      (sound.demanded_seen target (List.mem_reverse.mp member) demanded demand), ?_⟩
  intro earlier target later split demanded demand
  have reversed := congrArg List.reverse split
  rw [leavingOrder, List.reverse_reverse, List.reverse_append, List.reverse_cons,
    List.append_assoc, List.singleton_append] at reversed
  exact (sound.settled _ target _ reversed demanded demand).imp List.mem_reverse.mp id

end VoxelCircuit.Search
