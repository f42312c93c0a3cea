import Mathlib.Algebra.BigOperators.Group.List.Basic
import Mathlib.Data.Int.ConditionallyCompleteOrder
import ZfsLocalPv.Driver.Scheduling
import ZfsLocalPv.Selection.Scan

/-!
# What the scheduling loops compute

The loops over pools find the first pool of the most free capacity or of the least weight, and
the loops that build weight maps add up. Each loop is brought into that form once; the rest of
the development uses only the forms.
-/

namespace ZfsLocalPv.Driver

open Api Go Selection

/-! ## Pools -/

/-- Every pool has a name, as the resource definition of ZFSNode demands. -/
def Named (pools : List Pool) : Prop :=
  ∀ pool ∈ pools, pool.name ≠ ""

/-- The pools that match. -/
def matching (pools : List Pool) (pattern : Pattern) : List Pool :=
  pools.filter fun pool => pattern pool.name

/-- The matching pools with room for a volume; no bytes fit everywhere. -/
def fitting (pools : List Pool) (pattern : Pattern) (minFree : Int) : List Pool :=
  (matching pools pattern).filter fun pool => decide (0 < minFree → minFree < pool.free)

variable {pools : List Pool} {pattern : Pattern} {pool : Pool} {minFree size : Int}
  {pmap : Weights}

theorem mem_matching_iff : pool ∈ matching pools pattern ↔ pool ∈ pools ∧ pattern pool.name := by
  simp [matching]

theorem mem_fitting_iff : pool ∈ fitting pools pattern minFree ↔
    pool ∈ matching pools pattern ∧ (0 < minFree → minFree < pool.free) := by
  rw [fitting, List.mem_filter, decide_eq_true_iff]

theorem Named.matching (named : Named pools) : Named (matching pools pattern) :=
  fun pool mem => named pool (mem_matching_iff.mp mem).1

theorem Named.fitting (named : Named pools) : Named (fitting pools pattern minFree) :=
  fun pool mem => named.matching pool (mem_fitting_iff.mp mem).1

theorem maxFreePool_eq (named : Named pools) :
    maxFreePool pools pattern =
      record "" 0 Pool.name Pool.free ((matching pools pattern).argmax Pool.free) := by
  rw [← foldl_keepBest_gt named.matching, matching, List.foldl_filter]
  rfl

theorem poolForNode_eq (named : Named pools) :
    poolForNode pools pattern minFree pmap =
      (record "" 0 Pool.name (fun pool => pmap.get pool.name)
        ((fitting pools pattern minFree).argmin fun pool => pmap.get pool.name)).1 := by
  rw [← foldl_keepBest_lt named.fitting, fitting, matching, List.foldl_filter, List.foldl_filter,
    poolForNode]
  congr 2
  funext best pool
  simp only [keepBest]
  grind

/-- A pool is found exactly if there is a matching one. -/
theorem maxFreePool_eq_blank_iff (named : Named pools) :
    (maxFreePool pools pattern).1 = "" ↔ matching pools pattern = [] := by
  rw [maxFreePool_eq named, record_eq_blank_iff, List.argmax_eq_none]
  intro pool found
  exact named.matching pool (List.argmax_mem found)

/-- The roomiest pool has more than the size exactly if some matching pool has. -/
theorem lt_maxFreePool_iff (named : Named pools) (found : matching pools pattern ≠ []) :
    size < (maxFreePool pools pattern).2 ↔ ∃ pool ∈ matching pools pattern, size < pool.free := by
  rw [maxFreePool_eq named]
  cases best : (matching pools pattern).argmax Pool.free with
  | none => exact absurd (List.argmax_eq_none.mp best) found
  | some roomiest =>
      constructor
      · intro room
        exact ⟨roomiest, List.argmax_mem best, room⟩
      · rintro ⟨pool, mem, room⟩
        exact room.trans_le (List.le_of_mem_argmax mem best)

/-- A pool is picked exactly if one fits. -/
theorem poolForNode_ne_blank_iff (named : Named pools) :
    poolForNode pools pattern minFree pmap ≠ "" ↔ fitting pools pattern minFree ≠ [] := by
  rw [poolForNode_eq named, Ne, record_eq_blank_iff, List.argmin_eq_none]
  intro pool found
  exact named.fitting pool (List.argmin_mem found)

/-- The pool picked is one that fits. -/
theorem exists_fitting_of_poolForNode (named : Named pools)
    (picked : poolForNode pools pattern minFree pmap ≠ "") :
    ∃ pool ∈ fitting pools pattern minFree,
      poolForNode pools pattern minFree pmap = pool.name := by
  rw [poolForNode_eq named] at picked ⊢
  cases best : (fitting pools pattern minFree).argmin fun pool => pmap.get pool.name with
  | none =>
      rw [best] at picked
      contradiction
  | some lightest => exact ⟨lightest, List.argmin_mem best, rfl⟩

/-! ## Nodes -/

variable {nodelist : List ZFSNode}

/-- Some matching pool of the node has more than the size. -/
def HasRoom (pattern : Pattern) (size : Int) (node : ZFSNode) : Prop :=
  ∃ pool ∈ matching node.pools pattern, size < pool.free

/-- Without a matching pool no capacity is free. -/
theorem hasRoom_iff {node : ZFSNode} (named : Named node.pools) (nonneg : 0 ≤ size) :
    HasRoom pattern size node ↔ size < (maxFreePool node.pools pattern).2 := by
  by_cases none : matching node.pools pattern = []
  · have blank : (maxFreePool node.pools pattern).2 = 0 := by
      rw [maxFreePool_eq named, none]
      rfl
    simp [HasRoom, none, blank, nonneg]
  · exact (lt_maxFreePool_iff named none).symm

/-- The last round of the loop of `suitableNodes`. -/
theorem suitableNodes_concat (node : ZFSNode) :
    suitableNodes (nodelist ++ [node]) pattern size =
      if (maxFreePool node.pools pattern).1 = "" then suitableNodes nodelist pattern size
      else (if (maxFreePool node.pools pattern).2 > size then
          k8sNodeName node :: (suitableNodes nodelist pattern size).1
        else (suitableNodes nodelist pattern size).1, true) := by
  rw [suitableNodes, List.foldl_append]
  rfl

/-- The suitable nodes are those with room. -/
theorem mem_suitableNodes_iff (named : ∀ node ∈ nodelist, Named node.pools) (name : String) :
    name ∈ (suitableNodes nodelist pattern size).1 ↔
      ∃ node ∈ nodelist, k8sNodeName node = name ∧ HasRoom pattern size node := by
  induction nodelist using List.reverseRecOn with
  | nil => simp [suitableNodes]
  | append_singleton nodelist node ih =>
      have rest := ih fun node mem => named node (List.mem_append_left _ mem)
      have poolsNamed : Named node.pools := named node (by simp)
      rw [suitableNodes_concat]
      by_cases none : matching node.pools pattern = []
      · rw [if_pos ((maxFreePool_eq_blank_iff poolsNamed).mpr none), rest]
        have full : ¬ HasRoom pattern size node := by simp [HasRoom, none]
        grind
      · rw [if_neg (none ∘ (maxFreePool_eq_blank_iff poolsNamed).mp)]
        have room : HasRoom pattern size node ↔ size < (maxFreePool node.pools pattern).2 :=
          (lt_maxFreePool_iff poolsNamed none).symm
        grind

/-- Whether any pool of any node matches. -/
theorem matched_suitableNodes_iff (named : ∀ node ∈ nodelist, Named node.pools) :
    (suitableNodes nodelist pattern size).2 = true ↔
      ∃ node ∈ nodelist, matching node.pools pattern ≠ [] := by
  induction nodelist using List.reverseRecOn with
  | nil => simp [suitableNodes]
  | append_singleton nodelist node ih =>
      have rest := ih fun node mem => named node (List.mem_append_left _ mem)
      have blank : (maxFreePool node.pools pattern).1 = "" ↔ matching node.pools pattern = [] :=
        maxFreePool_eq_blank_iff (named node (by simp))
      rw [suitableNodes_concat]
      grind

/-! ## Weight maps -/

namespace Weights

variable {name other : String} {weights : Weights}

theorem lookup_set_self (name : String) (weight : Int) (weights : Weights) :
    (set name weight weights).lookup name = some weight := by
  induction weights with
  | nil => simp [set]
  | cons entry weights ih =>
      rw [set]
      grind

theorem lookup_set_of_ne (differs : other ≠ name) (weight : Int) (weights : Weights) :
    (set name weight weights).lookup other = weights.lookup other := by
  induction weights with
  | nil => simp [set, differs]
  | cons entry weights ih =>
      rw [set]
      grind

theorem lookup_add_self (name : String) (amount : Int) (weights : Weights) :
    (add name amount weights).lookup name = some (wrap64 (get weights name + amount)) := by
  induction weights with
  | nil => simp [add, get]
  | cons entry weights ih =>
      rw [add]
      grind [get]

theorem lookup_add_of_ne (differs : other ≠ name) (amount : Int) (weights : Weights) :
    (add name amount weights).lookup other = weights.lookup other := by
  induction weights with
  | nil => simp [add, differs]
  | cons entry weights ih =>
      rw [add]
      grind

/-- Add up a list of entries. -/
def tally (items : List (String × Int)) : Weights :=
  items.foldl (fun weights item => add item.1 item.2 weights) []

/-- The amounts listed under a name. -/
def amounts (name : String) (items : List (String × Int)) : List Int :=
  (items.filter fun item => decide (item.1 = name)).map Prod.snd

theorem tally_concat (items : List (String × Int)) (name : String) (amount : Int) :
    tally (items ++ [(name, amount)]) = add name amount (tally items) := by
  rw [tally, List.foldl_append]
  rfl

/-- A tally has an entry for each name listed, the sum of its amounts. -/
theorem lookup_tally (items : List (String × Int)) (name : String) :
    (tally items).lookup name =
      if amounts name items = [] then none else some (wrap64 (amounts name items).sum) := by
  induction items using List.reverseRecOn with
  | nil => simp [tally, amounts]
  | append_singleton items item ih =>
      obtain ⟨key, amount⟩ := item
      rw [tally_concat]
      by_cases same : key = name
      · subst same
        have listed : amounts key (items ++ [(key, amount)]) = amounts key items ++ [amount] := by
          simp [amounts]
        rw [lookup_add_self, get, ih, listed]
        split
        · rename_i empty
          simp [empty]
        · simp [wrap64]
      · have listed : amounts name (items ++ [(key, amount)]) = amounts name items := by
          simp [amounts, same]
        rw [lookup_add_of_ne (Ne.symm same), ih, listed]

/-- Set the entries of a list one after the other. -/
def collect (items : List (String × Int)) : Weights :=
  items.foldl (fun weights item => set item.1 item.2 weights) []

/-- Entries of distinct names do not overwrite each other. -/
theorem lookup_collect {items : List (String × Int)} (distinct : (items.map Prod.fst).Nodup)
    (name : String) : (collect items).lookup name = items.lookup name := by
  induction items using List.reverseRecOn with
  | nil => rfl
  | append_singleton items item ih =>
      obtain ⟨key, weight⟩ := item
      have last : collect (items ++ [(key, weight)]) = set key weight (collect items) := by
        rw [collect, List.foldl_append]
        rfl
      rw [List.map_append, List.nodup_append] at distinct
      rw [last, List.lookup_append]
      by_cases same : name = key
      · subst same
        have unlisted : items.lookup name = none := by
          rw [List.lookup_eq_none_iff]
          intro entry mem
          have differs := distinct.2.2 entry.1 (List.mem_map_of_mem mem) name (by simp)
          simpa using differs.symm
        simp [lookup_set_self, unlisted]
      · have missing : List.lookup name [(key, weight)] = none := by simp [same]
        rw [lookup_set_of_ne same, ih distinct.1, missing, Option.or_none]

/-- The total over the names that satisfy a predicate. -/
def total (weights : Weights) (p : String → Bool) : Int :=
  ((weights.filter fun entry => p entry.1).map Prod.snd).sum

/-- Counting up, without overflow. -/
theorem total_add {p : String → Bool} {amount : Int} (small : IsInt64 amount)
    (bounded : ∀ entry ∈ weights, IsInt64 (entry.2 + amount)) :
    total (add name amount weights) p = total weights p + if p name then amount else 0 := by
  induction weights with
  | nil =>
      rw [add, wrap64_of_isInt64 small]
      by_cases counted : p name <;> simp [total, counted]
  | cons entry weights ih =>
      obtain ⟨key, weight⟩ := entry
      have rest := ih fun entry mem => bounded entry (.tail _ mem)
      have exact := wrap64_of_isInt64 (bounded (key, weight) (.head _))
      rw [add]
      split
      · rename_i same
        subst same
        rw [exact]
        by_cases counted : p key
        · simp [total, counted]
          omega
        · simp [total, counted]
      · by_cases counted : p key
        · simp [total, counted] at rest ⊢
          omega
        · simpa [total, counted] using rest

theorem mem_add {amount : Int} {entry : String × Int} (mem : entry ∈ add name amount weights) :
    entry ∈ weights ∨ ∃ weight, (weight = 0 ∨ (name, weight) ∈ weights) ∧
      entry = (name, wrap64 (weight + amount)) := by
  induction weights with
  | nil =>
      rw [add, List.mem_singleton] at mem
      exact .inr ⟨0, .inl rfl, by simpa using mem⟩
  | cons head weights ih =>
      rw [add] at mem
      grind

/-- Counting gives small numbers, whose total is the number of names counted. -/
theorem total_tally_ones (names : List String) (fits : (names.length : Int) < 2 ^ 63) :
    (∀ entry ∈ tally (names.map fun name => (name, 1)), 0 ≤ entry.2 ∧ entry.2 ≤ names.length) ∧
    ∀ p : String → Bool,
      total (tally (names.map fun name => (name, 1))) p = names.countP p := by
  induction names using List.reverseRecOn with
  | nil => simp [tally, total]
  | append_singleton names name ih =>
      rw [List.length_append, List.length_singleton] at fits ⊢
      push_cast at fits ⊢
      obtain ⟨bounds, counts⟩ := ih (by omega)
      rw [List.map_append, List.map_singleton, tally_concat]
      constructor
      · intro entry mem
        rcases mem_add mem with old | ⟨weight, isOld, rfl⟩
        · have := bounds entry old
          omega
        · have inRange : IsInt64 (weight + 1) ∧ 0 ≤ weight ∧ weight ≤ names.length := by
            rcases isOld with rfl | old
            · exact ⟨by decide, by omega, by omega⟩
            · have := bounds _ old
              unfold IsInt64
              omega
          rw [wrap64_of_isInt64 inRange.1]
          dsimp only
          omega
      · intro p
        rw [total_add (by decide), counts, List.countP_append, List.countP_singleton]
        · split <;> simp
        · intro entry mem
          have := bounds entry mem
          unfold IsInt64
          omega

/-- The entry of a name that is counted is the number of its occurrences. -/
theorem get_tally_ones (names : List String) (fits : (names.length : Int) < 2 ^ 63)
    (name : String) : get (tally (names.map fun name => (name, 1))) name = names.count name := by
  have listed : amounts name (names.map fun name => (name, 1)) =
      List.replicate (names.count name) 1 := by
    induction names with
    | nil => rfl
    | cons head names ih =>
        have rest := ih (by rw [List.length_cons] at fits; push_cast at fits; omega)
        rw [amounts] at rest ⊢
        by_cases same : head = name
        · simp [same, rest, List.replicate_succ]
        · simp [same, rest]
  have bound : names.count name ≤ names.length := List.count_le_length
  have inRange : IsInt64 (names.count name) := by
    unfold IsInt64
    omega
  rw [get, lookup_tally, listed, List.sum_replicate, nsmul_one]
  split
  · rename_i empty
    have absent : names.count name = 0 := by simpa using empty
    simp [absent]
  · simp [wrap64_of_isInt64 inRange]

end Weights

/-! ## The maps of the schedulers -/

section Distinct

variable {α : Type} {key : α → String} {items : List α} {item : α}

/-- An item of a list with distinct keys is the only one of its key. -/
theorem filter_key_eq (distinct : (items.map key).Nodup) (mem : item ∈ items) :
    (items.filter fun other => decide (key other = key item)) = [item] := by
  induction items with
  | nil => contradiction
  | cons head items ih =>
      rw [List.map_cons, List.nodup_cons] at distinct
      rcases List.mem_cons.mp mem with rfl | mem
      · have others : (items.filter fun other => decide (key other = key item)) = [] := by
          apply List.filter_eq_nil_iff.mpr
          intro other isOther same
          exact distinct.1 (of_decide_eq_true same ▸ List.mem_map_of_mem isOther)
        simp [others]
      · have differs : key head ≠ key item := by
          intro same
          exact distinct.1 (same ▸ List.mem_map_of_mem mem)
        simp [differs, ih distinct.2 mem]

/-- The amounts under the key of an item are those the item contributes. -/
theorem amounts_flatMap (distinct : (items.map key).Nodup) (mem : item ∈ items)
    (contributes : α → List Int) :
    Weights.amounts (key item)
      (items.flatMap fun item => (contributes item).map fun amount => (key item, amount)) =
      contributes item := by
  have split (others : List α) : Weights.amounts (key item)
      (others.flatMap fun item => (contributes item).map fun amount => (key item, amount)) =
      (others.filter fun other => decide (key other = key item)).flatMap contributes := by
    induction others with
    | nil => rfl
    | cons head others ih =>
        rw [List.flatMap_cons, Weights.amounts, List.filter_append, List.map_append]
        have rest := ih
        rw [Weights.amounts] at rest
        rw [rest]
        by_cases same : key head = key item
        · simp [same, List.filter_map, Function.comp_def]
        · simp [same, List.filter_map, Function.comp_def]
  rw [split, filter_key_eq distinct mem, List.flatMap_singleton]

/-- The entry under the key of an item is the one the item has. -/
theorem lookup_filterMap (distinct : (items.map key).Nodup) (mem : item ∈ items)
    (entry : α → Option Int) :
    (items.filterMap fun item => (entry item).map fun weight => (key item, weight)).lookup
      (key item) = entry item := by
  induction items with
  | nil => contradiction
  | cons head items ih =>
      rw [List.map_cons, List.nodup_cons] at distinct
      rcases List.mem_cons.mp mem with rfl | mem
      · cases found : entry item with
        | some weight => simp [found]
        | none =>
            simp only [List.filterMap_cons, found, Option.map_none]
            rw [List.lookup_eq_none_iff]
            intro pair isPair
            obtain ⟨other, isOther, made⟩ := List.mem_filterMap.mp isPair
            obtain ⟨weight, _, rfl⟩ := Option.map_eq_some_iff.mp made
            have differs : key item ≠ key other := by
              intro same
              exact distinct.1 (same ▸ List.mem_map_of_mem isOther)
            simpa using differs
      · have differs : key item ≠ key head := by
          intro same
          exact distinct.1 (same ▸ List.mem_map_of_mem mem)
        cases found : entry head with
        | none => simp [found, ih distinct.2 mem]
        | some weight => simp [found, beq_false_of_ne differs, List.lookup_cons, ih distinct.2 mem]

theorem keys_filterMap_sublist (entry : α → Option Int) :
    ((items.filterMap fun item => (entry item).map fun weight => (key item, weight)).map
      Prod.fst).Sublist (items.map key) := by
  induction items with
  | nil => exact .slnil
  | cons head items ih =>
      cases found : entry head with
      | none => simpa [found] using ih.cons (key head)
      | some weight => simpa [found] using ih

/-- The collected entry of an item is the one the item has. -/
theorem lookup_collect_filterMap (distinct : (items.map key).Nodup) (mem : item ∈ items)
    (entry : α → Option Int) :
    (Weights.collect (items.filterMap fun item =>
      (entry item).map fun weight => (key item, weight))).lookup (key item) = entry item := by
  rw [Weights.lookup_collect ((keys_filterMap_sublist entry).nodup distinct),
    lookup_filterMap distinct mem]

end Distinct

theorem capacityWeightedMap_eq : capacityWeightedMap nodelist pattern =
    Weights.tally (nodelist.flatMap fun node =>
      ((matching node.pools pattern).map Pool.used).map fun used => (k8sNodeName node, used)) := by
  rw [Weights.tally, List.foldl_flatMap, capacityWeightedMap]
  congr 1
  funext weights node
  rw [List.map_map, List.foldl_map, matching, List.foldl_filter]
  rfl

theorem spaceWeightedMap_eq : spaceWeightedMap nodelist pattern =
    Weights.collect (nodelist.filterMap fun node =>
      (if (maxFreePool node.pools pattern).1 = "" then none
        else some (wrap64 (maxInt64 - (maxFreePool node.pools pattern).2))).map
          fun weight => (k8sNodeName node, weight)) := by
  rw [Weights.collect, List.foldl_filterMap, spaceWeightedMap]
  congr 1
  funext weights node
  dsimp only
  split <;> rfl

theorem poolWeightMap_eq (schd : String) : poolWeightMap schd pools =
    Weights.collect (pools.filterMap fun pool =>
      (some (if schd = "SpaceWeighted" then wrap64 (maxInt64 - pool.free) else pool.used)).map
        fun weight => (pool.name, weight)) := by
  rw [Weights.collect, List.foldl_filterMap, poolWeightMap]
  rfl

theorem poolVolumeMap_eq (zvlist : List ZFSVolume) (nodeid : String) :
    poolVolumeMap zvlist nodeid =
      Weights.tally (((zvlist.filter fun zv => decide (zv.spec.ownerNodeID = nodeid)).map
        fun zv => poolRoot zv.spec.poolName).map fun root => (root, 1)) := by
  rw [Weights.tally, List.map_map, List.foldl_map, List.foldl_filter, poolVolumeMap]
  simp

/-- The node name of a node id, if some ZFSNode has it. -/
def nodeNames (nodelist : List ZFSNode) : StringMap :=
  nodelist.foldl (fun map node => StringMap.insert node.name (k8sNodeName node) map) []

theorem volumeWeightedMap_eq (zvlist : List ZFSVolume) :
    volumeWeightedMap zvlist nodelist pattern =
      Weights.tally (((zvlist.filter fun zv => pattern (poolRoot zv.spec.poolName)).map
        fun zv => ((nodeNames nodelist).lookup zv.spec.ownerNodeID).getD zv.spec.ownerNodeID).map
          fun name => (name, 1)) := by
  rw [Weights.tally, List.map_map, List.foldl_map, List.foldl_filter, volumeWeightedMap]
  rfl

theorem lookup_nodeNames (distinct : (nodelist.map ZFSNode.name).Nodup) {node : ZFSNode}
    (mem : node ∈ nodelist) :
    (nodeNames nodelist).lookup node.name = some (k8sNodeName node) := by
  induction nodelist using List.reverseRecOn with
  | nil => contradiction
  | append_singleton nodelist last ih =>
      have step : nodeNames (nodelist ++ [last]) =
          StringMap.insert last.name (k8sNodeName last) (nodeNames nodelist) := by
        rw [nodeNames, List.foldl_append]
        rfl
      rw [List.map_append, List.nodup_append] at distinct
      rw [step]
      rcases List.mem_append.mp mem with mem | isLast
      · have differs : node.name ≠ last.name :=
          distinct.2.2 node.name (List.mem_map_of_mem mem) last.name (by simp)
        rw [StringMap.lookup_insert_of_ne differs, ih distinct.1 mem]
      · cases List.mem_singleton.mp isLast
        exact StringMap.lookup_insert_self _ _ _

end ZfsLocalPv.Driver
