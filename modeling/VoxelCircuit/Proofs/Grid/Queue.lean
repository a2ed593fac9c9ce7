import VoxelCircuit.Proofs.Grid.BreadthFirst

/-! # Clusters from a queue

A search by levels and a search with a queue come to the same clusters. The search with a queue
keeps one set of visited blocks for all clusters. At each turn the block at the front of the
queue becomes a member of its cluster, and of the blocks beside it those that were not visited
before are visited and put at the end (`VoxelCircuit.Grid.QueueSearch.turn`).

When the blocks of a level have had their turns, the queue holds the next level
(`VoxelCircuit.Grid.QueueSearch.turns_level`). The visited blocks are those of earlier clusters,
then the members and then the queue, each in order. So a cluster is what the set has gained, and
earlier clusters are never in the way, since no path leads to them.
-/

namespace VoxelCircuit.Grid

open Relation

variable {γ : Type} [Grid γ]

/-- A search for the blocks of a cluster with a queue. -/
structure QueueSearch where
  /-- The blocks visited, in this search and in earlier ones. -/
  visited : OrderedSet Pos
  /-- The blocks that wait for their turns, in order. -/
  queue : List Pos
  /-- The blocks that had their turns, in order. -/
  members : List Pos

namespace QueueSearch

/-- Look from a block in a direction: a block with a behavior that was not visited before is
visited and put at the end of the queue. -/
def look (grid : γ) (here : Pos) (progress : OrderedSet Pos × List Pos) (direction : Direction) :
    OrderedSet Pos × List Pos :=
  let next := here.step direction
  if active grid next && !progress.1.contains next then
    (OrderedSet.add progress.1 next, progress.2 ++ [next])
  else progress

/-- The turn of the block at the front of the queue. A search with an empty queue is over. -/
def turn (grid : γ) (search : QueueSearch) : QueueSearch :=
  match search.queue with
  | [] => search
  | here :: rest =>
    let (visited, queue) := Direction.all.foldl (look grid here) (search.visited, rest)
    ⟨visited, queue, search.members ++ [here]⟩

/-- The search from a block, after some number of turns. -/
def fromSeed (grid : γ) (turns : Nat) (visited : OrderedSet Pos) (seed : Pos) : QueueSearch :=
  (turn grid)^[turns] ⟨OrderedSet.add visited seed, [seed], []⟩

end QueueSearch

/-- What a scan has visited and listed so far. -/
structure QueueScan where
  /-- The blocks visited. -/
  visited : OrderedSet Pos
  /-- The clusters found, in order. -/
  clusters : List (List Pos)

namespace QueueScan

/-- Take up a block with a behavior that was not visited before, in some number of turns. Its
cluster is listed if it holds more than wire. -/
def take (grid : γ) (turns : Nat) (scan : QueueScan) (seed : Pos) : QueueScan :=
  if scan.visited.contains seed || !active grid seed then scan
  else
    let search := QueueSearch.fromSeed grid turns scan.visited seed
    ⟨search.visited, if search.members.any (activeBeyondWire grid)
      then scan.clusters ++ [search.members] else scan.clusters⟩

end QueueScan

/-- The clusters that a scan of the bounds with a queue lists, where each search has some number
of turns. -/
def queueClusters (grid : γ) (turns : Nat) : List (List Pos) :=
  ((bounds grid).positions.foldl (QueueScan.take grid turns) ⟨.empty, []⟩).clusters

variable {grid : γ} {pos other seed : Pos}

namespace QueueSearch

/-- To look around is to take note of the neighbors. -/
theorem foldl_look (grid : γ) (here : Pos) (directions : List Direction) (visited : OrderedSet Pos)
    (queue fresh : List Pos) :
    directions.foldl (look grid here) (visited, queue ++ fresh.reverse) =
      Prod.map id (fun fresh => queue ++ fresh.reverse)
        (((directions.map here.step).filter (active grid)).foldl note (visited, fresh)) := by
  induction directions generalizing visited fresh with
  | nil => rfl
  | cons direction rest ih =>
      rw [List.foldl_cons, List.map_cons, look]
      by_cases present : active grid (here.step direction) = true
      · rw [List.filter_cons_of_pos present, List.foldl_cons, note, present]
        by_cases old : visited.contains (here.step direction) = true
        · simp only [old, Bool.not_true, Bool.and_false, Bool.false_eq_true, if_false, if_true]
          exact ih visited fresh
        · have later := ih (OrderedSet.add visited (here.step direction))
            (here.step direction :: fresh)
          rw [List.reverse_cons, ← List.append_assoc] at later
          simp only [old, Bool.not_false, Bool.and_true, if_true, Bool.false_eq_true, if_false]
          exact later
      · rw [List.filter_cons_of_neg present]
        simp only [present, Bool.false_and, Bool.false_eq_true, if_false]
        exact ih visited fresh

/-- When the blocks of a level have had their turns, the queue holds the next level. -/
theorem turns_level (grid : γ) (level fresh members : List Pos) (visited : OrderedSet Pos) :
    (turn grid)^[level.length] ⟨visited, level ++ fresh.reverse, members⟩ =
      ⟨((level.flatMap (neighbors grid)).foldl note (visited, fresh)).1,
        ((level.flatMap (neighbors grid)).foldl note (visited, fresh)).2.reverse,
        members ++ level⟩ := by
  induction level generalizing visited fresh members with
  | nil => simp
  | cons here rest ih =>
      have around := foldl_look grid here Direction.all visited rest fresh
      rw [List.length_cons, Function.iterate_succ_apply, List.cons_append, turn]
      simp only [around, Prod.map_fst, Prod.map_snd, id]
      rw [ih, List.flatMap_cons, List.foldl_append, List.append_assoc, List.singleton_append]
      rfl

/-- With enough levels to find all blocks, the queue runs empty when the search by levels ends,
and the members are what this search has found. -/
theorem turns_spread {base : List Pos} (levels : Nat) {level members : List Pos}
    {visited : OrderedSet Pos} (keys : visited.keys = base ++ (members ++ level))
    (enough : level ≠ [] → (unfound grid visited).card < levels) :
    ∃ turns last, (turn grid)^[turns] ⟨visited, level, members⟩ =
        ⟨spread grid levels level visited, [], last⟩ ∧
      (spread grid levels level visited).keys = base ++ last ∧
      last.length = members.length + turns := by
  induction levels generalizing level members visited with
  | zero =>
      obtain rfl : level = [] := by
        by_contra some
        exact Nat.not_lt_zero _ (enough some)
      rw [spread_nil]
      exact ⟨0, members, rfl, by simpa using keys, rfl⟩
  | succ levels ih =>
      cases level with
      | nil =>
          rw [spread_nil]
          exact ⟨0, members, rfl, by simpa using keys, rfl⟩
      | cons first rest =>
          have passed := turns_level grid (first :: rest) [] members visited
          rw [List.reverse_nil, List.append_nil] at passed
          set noted := ((first :: rest).flatMap (neighbors grid)).foldl note (visited, [])
            with noted_def
          have found : noted.1.keys = base ++ (members ++ (first :: rest) ++ noted.2.reverse) := by
            rw [noted_def, keys_foldl_note _ (List.append_nil _).symm, keys]
            simp only [List.append_assoc]
          have fewer : noted.2.reverse ≠ [] → (unfound grid noted.1).card < levels := by
            intro some
            have less : (unfound grid noted.1).card < (unfound grid visited).card :=
              card_unfound_lt some
            have before := enough (List.cons_ne_nil _ _)
            omega
          obtain ⟨turns, last, ends, gained, length⟩ := ih found fewer
          refine ⟨turns + (first :: rest).length, last, ?_, gained, ?_⟩
          · rw [Function.iterate_add_apply, passed, ends]
            rfl
          · rw [length, List.length_append]
            omega

end QueueSearch

section Beside

variable {old : List Pos} {visited found : OrderedSet Pos}

/-- Taking note of blocks is the same beside other blocks that are not among them. -/
theorem foldl_note_beside {items : List Pos} (apart : ∀ item ∈ items, item ∉ old)
    (keys : visited.keys = old ++ found.keys) (fresh : List Pos) :
    (items.foldl note (visited, fresh)).2 = (items.foldl note (found, fresh)).2 ∧
      (items.foldl note (visited, fresh)).1.keys =
        old ++ (items.foldl note (found, fresh)).1.keys := by
  induction items generalizing visited found fresh with
  | nil => exact ⟨rfl, keys⟩
  | cons item rest ih =>
      have same : visited.contains item = found.contains item := by
        rw [Bool.eq_iff_iff, Table.contains_iff, Table.contains_iff, keys, List.mem_append,
          or_iff_right (apart item List.mem_cons_self)]
      have later := fun other member => apart other (List.mem_cons_of_mem _ member)
      rw [List.foldl_cons, List.foldl_cons, note, note]
      by_cases known : found.contains item = true
      · simp only [same, known, if_true]
        exact ih later keys fresh
      · simp only [same, known, Bool.false_eq_true, if_false]
        apply ih later
        rw [OrderedSet.keys_add, OrderedSet.keys_add, if_neg known, if_neg (same ▸ known), keys,
          List.append_assoc]

/-- A search is the same beside blocks that no path leads to. -/
theorem spread_beside (apart : ∀ pos ∈ old, ¬ReflTransGen (Adjacent grid) seed pos)
    (levels : Nat) {level : List Pos} (keys : visited.keys = old ++ found.keys)
    (joined : ∀ pos ∈ level, active grid pos = true ∧ ReflTransGen (Adjacent grid) seed pos) :
    (spread grid levels level visited).keys = old ++ (spread grid levels level found).keys := by
  induction levels generalizing level visited found with
  | zero => exact keys
  | succ levels ih =>
      cases level with
      | nil => exact keys
      | cons first rest =>
          have onward : ∀ pos ∈ (first :: rest).flatMap (neighbors grid),
              active grid pos = true ∧ ReflTransGen (Adjacent grid) seed pos := by
            intro pos beside
            obtain ⟨before, listed, next⟩ := List.mem_flatMap.mp beside
            obtain ⟨step, present⟩ := mem_neighbors.mp next
            obtain ⟨earlier, path⟩ := joined before listed
            exact ⟨present, path.tail ⟨earlier, present, step⟩⟩
          obtain ⟨fresh, noted⟩ := foldl_note_beside
            (fun pos beside among => apart pos among (onward pos beside).2) keys []
          rw [spread, spread]
          simp only [fresh]
          refine ih noted fun pos member => onward pos ?_
          have new := (foldl_note _ found []).2.mp (List.mem_reverse.mp member)
          exact (new.resolve_left List.not_mem_nil).1

end Beside

private theorem length_groupOf_le (present : active grid seed = true) :
    (groupOf grid seed).length ≤ (support grid).cardinality := by
  have within : groupOf grid seed ⊆ (support grid).positions := fun pos member =>
    Box.mem_positions.mpr (mem_support_of_active ((groupOf_spec present).2.2 pos member).1)
  exact ((nodup_groupOf grid seed).subperm within).length_le.trans_eq (Box.length_positions _)

/-- With as many turns as there can be blocks, a search with a queue comes to its end. Its
members are the group of its first block, and these were visited after all others. -/
theorem QueueSearch.fromSeed_spec {turns : Nat} (enough : (support grid).cardinality ≤ turns)
    {visited : OrderedSet Pos} (present : active grid seed = true)
    (fresh : visited.contains seed = false)
    (apart : ∀ pos ∈ visited.keys, ¬ReflTransGen (Adjacent grid) seed pos) :
    (fromSeed grid turns visited seed).queue = [] ∧
      (fromSeed grid turns visited seed).members = groupOf grid seed ∧
      (fromSeed grid turns visited seed).visited.keys = visited.keys ++ groupOf grid seed := by
  have keys : (OrderedSet.add visited seed).keys = visited.keys ++ ([] ++ [seed]) := by
    rw [OrderedSet.keys_add, fresh, if_neg Bool.false_ne_true, List.nil_append]
  have alone : (OrderedSet.add .empty seed).keys = [seed] := OrderedSet.keys_add .empty seed
  have group : (spread grid ((support grid).cardinality + 1) [seed]
      (OrderedSet.add visited seed)).keys = visited.keys ++ groupOf grid seed := by
    have level : ∀ pos ∈ [seed], active grid pos = true ∧
        ReflTransGen (Adjacent grid) seed pos := by
      simp [present, ReflTransGen.refl]
    rw [spread_beside apart _ (keys.trans (by rw [alone, List.nil_append])) level,
      spread_of_enough (fun _ => card_unfound_le grid _) (Nat.le_succ _)]
    rfl
  obtain ⟨needed, last, ends, gained, length⟩ := turns_spread ((support grid).cardinality + 1)
    keys fun _ => Nat.lt_succ_of_le (card_unfound_le grid _)
  obtain rfl : last = groupOf grid seed := List.append_cancel_left (gained.symm.trans group)
  -- Once the queue is empty, more turns change nothing.
  have beyond : ∀ more, (turn grid)^[more + needed] ⟨OrderedSet.add visited seed, [seed], []⟩ =
      ⟨spread grid ((support grid).cardinality + 1) [seed] (OrderedSet.add visited seed), [],
        groupOf grid seed⟩ := by
    intro more
    rw [Function.iterate_add_apply, ends]
    exact Function.iterate_fixed rfl more
  have few : needed ≤ turns := by
    have bound := length_groupOf_le present
    rw [length] at bound
    simp only [List.length_nil] at bound
    omega
  have final := beyond (turns - needed)
  rw [Nat.sub_add_cancel few] at final
  unfold fromSeed
  rw [final]
  exact ⟨rfl, rfl, group⟩

/-- A scan with a queue has found what a scan by levels has. -/
structure QueueScan.Matches (grid : γ) (scan : QueueScan) (grouping : Grouping) : Prop where
  sound : grouping.Sound grid
  visited : scan.visited.keys = grouping.groups.reverse.flatten
  clusters : scan.clusters =
    grouping.groups.reverse.filter fun group => group.any (activeBeyondWire grid)

private theorem QueueScan.Matches.take {turns : Nat} (enough : (support grid).cardinality ≤ turns)
    {scan : QueueScan} {grouping : Grouping} (same : scan.Matches grid grouping)
    (inside : seed ∈ bounds grid) (present : active grid seed = true) :
    (scan.take grid turns seed).Matches grid (grouping.extend grid seed) := by
  have sound := same.sound.extend seed
  have known : scan.visited.contains seed = grouping.grouped.contains seed := by
    rw [Bool.eq_iff_iff, Table.contains_iff, same.visited, Std.ExtTreeSet.contains_iff_mem,
      same.sound.grouped]
    simp
  unfold QueueScan.take Grouping.extend at *
  by_cases old : grouping.grouped.contains seed = true
  · rw [if_pos (by rw [known, old]; rfl)]
    rw [if_neg fun next => next.2.2 old] at sound ⊢
    exact same
  · -- Were there a path to a visited block, the seed would be in the group of that block.
    have fresh : scan.visited.contains seed = false := known.trans ((Bool.not_eq_true _).mp old)
    have apart : ∀ pos ∈ scan.visited.keys, ¬ReflTransGen (Adjacent grid) seed pos := by
      intro pos listed path
      rw [same.visited, List.mem_flatten] at listed
      obtain ⟨group, among, member⟩ := listed
      rw [List.mem_reverse] at among
      obtain ⟨first, before, rfl⟩ := same.sound.seeded group among
      have joined := ((mem_groupOf before).mp member).trans (joined_symm path)
      exact old (Std.ExtTreeSet.contains_iff_mem.mpr
        ((same.sound.grouped seed).mpr ⟨_, among, (mem_groupOf before).mpr joined⟩))
    obtain ⟨_, members, visited⟩ := QueueSearch.fromSeed_spec enough present fresh apart
    rw [if_neg (by simp [fresh, present])]
    rw [if_pos ⟨inside, present, old⟩] at sound ⊢
    refine ⟨sound, ?_, ?_⟩
    · simp only [visited, same.visited, List.reverse_cons, List.flatten_append,
        List.flatten_singleton]
    · simp only [members, same.clusters, List.reverse_cons, List.filter_append]
      by_cases logic : (groupOf grid seed).any (activeBeyondWire grid) = true
      · simp [logic]
      · simp [logic]

/-- Blocks with a behavior within the bounds are taken up alike. -/
theorem QueueScan.Matches.scan {turns : Nat} (enough : (support grid).cardinality ≤ turns)
    {seeds : List Pos} (within : ∀ seed ∈ seeds, seed ∈ bounds grid ∧ active grid seed = true)
    {scan : QueueScan} {grouping : Grouping} (same : scan.Matches grid grouping) :
    (seeds.foldl (QueueScan.take grid turns) scan).Matches grid
      (seeds.foldl (Grouping.extend grid) grouping) := by
  induction seeds generalizing scan grouping with
  | nil => exact same
  | cons seed rest ih =>
      obtain ⟨inside, present⟩ := within seed List.mem_cons_self
      exact ih (fun other member => within other (List.mem_cons_of_mem _ member))
        (same.take enough inside present)

/-- What is idle on some items passes over them. -/
theorem foldl_eq_filter {α β : Type} {visit : α → β → α} {takes : β → Bool}
    (idle : ∀ value item, takes item = false → visit value item = value) (items : List β)
    (value : α) : items.foldl visit value = (items.filter takes).foldl visit value := by
  have passes : visit = fun value item => if takes item then visit value item else value := by
    funext value item
    cases taken : takes item with
    | true => rfl
    | false => exact idle value item taken
  rw [List.foldl_filter, ← passes]

/-- **A queue comes to the same clusters.** With as many turns for each search as there can be
blocks, a scan with a queue and one set of visited blocks lists the clusters, in their order and
each with its blocks in their order. -/
theorem queueClusters_eq (grid : γ) {turns : Nat} (enough : (support grid).cardinality ≤ turns) :
    queueClusters grid turns = clusters grid := by
  have cells : ((support grid).positions.filter fun pos =>
      decide (pos ∈ bounds grid) && active grid pos) =
        (bounds grid).positions.filter (active grid) := by
    apply Pos.eq_of_pairwise_precedes ((support grid).positions_pairwise.filter _)
      ((bounds grid).positions_pairwise.filter _)
    intro pos
    simp only [List.mem_filter, Box.mem_positions, Bool.and_eq_true, decide_eq_true_eq]
    refine ⟨And.right, fun both => ⟨mem_support_of_active both.2, both⟩⟩
  have idle : ∀ (scan : QueueScan) pos, active grid pos = false →
      scan.take grid turns pos = scan := by
    intro scan pos passive
    rw [QueueScan.take, if_pos (by simp [passive])]
  have alsoIdle : ∀ (grouping : Grouping) pos,
      (decide (pos ∈ bounds grid) && active grid pos) = false →
        grouping.extend grid pos = grouping := by
    intro grouping pos passive
    rw [Grouping.extend, if_neg]
    rintro ⟨inside, present, _⟩
    simp [inside, present] at passive
  have start : QueueScan.Matches grid ⟨.empty, []⟩ ⟨[], ∅⟩ :=
    ⟨⟨by simp, by simp, .nil⟩, rfl, rfl⟩
  have within : ∀ seed ∈ (bounds grid).positions.filter (active grid),
      seed ∈ bounds grid ∧ active grid seed = true := by
    intro seed member
    exact ⟨Box.mem_positions.mp (List.mem_filter.mp member).1, (List.mem_filter.mp member).2⟩
  have last := start.scan enough within
  rw [queueClusters, foldl_eq_filter idle, last.clusters, clusters, groups, Box.scan_eq_foldl,
    foldl_eq_filter alsoIdle (support grid).positions, cells]

end VoxelCircuit.Grid
