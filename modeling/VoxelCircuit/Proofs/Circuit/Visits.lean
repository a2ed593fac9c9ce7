import VoxelCircuit.Proofs.Circuit.Search

/-! # Searches without a bound on the depth

The depth of a search bounds how far it follows demands. Here the same search is a
relation that follows them as far as they go (`VoxelCircuit.Search.Visits`). Where demands
stay among finitely many targets, circles among them included, this search comes to
exactly one end (`VoxelCircuit.Search.existsUnique_visits`), and a search with more depth
than there are targets is no other (`VoxelCircuit.Search.visits_foldl`).
-/

namespace VoxelCircuit.Search

variable {α : Type} [Ord α] [Std.TransOrd α]

/-- Visits of some targets in order lead from one search to another, where no visit stops
for being too deep. -/
inductive Visits (demands : α → List α) : List α → Search α → Search α → Prop
  | done {search : Search α} : Visits demands [] search search
  | again {target : α} {rest : List α} {search after : Search α}
      (old : target ∈ search.seen) (later : Visits demands rest search after) :
      Visits demands (target :: rest) search after
  | enter {target : α} {rest : List α} {search inner after : Search α}
      (fresh : target ∉ search.seen)
      (deeper : Visits demands (demands target)
        { search with seen := search.seen.insert target } inner)
      (later : Visits demands rest { inner with left := target :: inner.left } after) :
      Visits demands (target :: rest) search after

variable {demands : α → List α} {targets : List α} {search after other : Search α}

/-- A search that visits the same targets comes to the same end. -/
theorem Visits.unique (visits : Visits demands targets search after)
    (others : Visits demands targets search other) : other = after := by
  induction visits generalizing other with
  | done =>
      cases others
      rfl
  | again old _ ih =>
      cases others with
      | again _ later => exact ih later
      | enter fresh _ _ => exact (fresh old).elim
  | enter fresh _ _ ihDeeper ihLater =>
      cases others with
      | again old _ => exact (fresh old).elim
      | enter _ deeper later =>
          obtain rfl := ihDeeper deeper
          exact ihLater later

variable [Std.LawfulEqOrd α]

private theorem Visits.seen (visits : Visits demands targets search after) :
    ∀ target ∈ search.seen, target ∈ after.seen := by
  induction visits with
  | done => exact fun _ member => member
  | again _ _ ih => exact ih
  | enter _ _ _ ihDeeper ihLater =>
      exact fun target member =>
        ihLater target (ihDeeper target (mem_enter.mpr (Or.inr member)))

/-- A search that may go deeper than there are targets to enter goes as far as demands do. -/
theorem visits_foldl {carrier : Finset α}
    (closed : ∀ target ∈ carrier, ∀ demanded ∈ demands target, demanded ∈ carrier) {depth : Nat}
    (inside : ∀ target ∈ targets, target ∈ carrier)
    (enough : (unseen carrier search).card < depth) :
    Visits demands targets search (targets.foldl (visit demands depth) search) := by
  induction depth generalizing targets search with
  | zero => omega
  | succ depth ih =>
      induction targets generalizing search with
      | nil => exact .done
      | cons target rest later =>
          rw [List.foldl_cons]
          have others : ∀ other ∈ rest, other ∈ carrier := fun other member =>
            inside other (List.mem_cons_of_mem _ member)
          by_cases old : target ∈ search.seen
          · have stays : visit demands (depth + 1) search target = search := by
              rw [visit, if_pos (Std.ExtTreeSet.contains_iff_mem.mpr old)]
            rw [stays]
            exact .again old (later others enough)
          · have here := inside target List.mem_cons_self
            have fewer := card_unseen_enter_lt here old
            have deeper := ih (closed target here)
              (show (unseen carrier { search with seen := search.seen.insert target }).card < depth
                by omega)
            have goes : visit demands (depth + 1) search target =
                { (demands target).foldl (visit demands depth)
                    { search with seen := search.seen.insert target } with
                  left := target :: ((demands target).foldl (visit demands depth)
                    { search with seen := search.seen.insert target }).left } := by
              rw [visit, if_neg (by rwa [Std.ExtTreeSet.contains_iff_mem])]
            rw [goes]
            refine .enter old deeper (later others ?_)
            exact (card_unseen_le deeper.seen).trans_lt (fewer.trans enough)

/-- **Searches end.** Where demands stay among finitely many targets, the visits of some of
these come to exactly one end. -/
theorem existsUnique_visits {carrier : Finset α}
    (closed : ∀ target ∈ carrier, ∀ demanded ∈ demands target, demanded ∈ carrier)
    (inside : ∀ target ∈ targets, target ∈ carrier) (search : Search α) :
    ∃! after, Visits demands targets search after := by
  have enough : (unseen carrier search).card < carrier.card + 1 :=
    Nat.lt_succ_of_le (Finset.card_filter_le _ _)
  have visits := visits_foldl closed inside enough
  exact ⟨_, visits, fun other others => visits.unique others⟩

end VoxelCircuit.Search
