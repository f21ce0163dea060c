import Mathlib.Data.List.Nodup
import VparFleet.Proofs.Monitor.Keeping

/-!
# Rows of nodes that were kept

The row of a node shows its address and amounts. After nodes were kept one after the other, an
address shows the amounts of the last of them that has it, and every other address what it showed
before. Addresses stay in their order, and nothing is written exactly when every node is shown as it
is already.

* `NodeTable.amountsAt?`: what a table shows at an address.
* `amountsAt?_keepAll`: what it shows after nodes were kept; `lastAt?`: the last node of an address.
* `keepAll_of_shown`, `countP_wrote_eq_zero_iff`: when nothing is written.
* `map_shown_congr`: what a table shows is settled by its addresses and what it shows at them.
* `keepAll_again_iff`, `map_shown_again`: what the same nodes do a second time.
-/

namespace VparFleet

/-- The last of some nodes with an address. -/
def lastAt? (nodes : List Node) (address : String) : Option Node :=
  (nodes.filter (·.address = address)).getLast?

/-- A node is the last at its address unless a later one is. -/
theorem lastAt?_cons (node : Node) (nodes : List Node) (address : String) :
    lastAt? (node :: nodes) address =
      if node.address = address then some ((lastAt? nodes address).getD node)
      else lastAt? nodes address := by
  unfold lastAt?
  rw [List.filter_cons]
  by_cases h : node.address = address
  · rw [if_pos (decide_eq_true h), if_pos h, List.getLast?_cons]
  · rw [if_neg (by simpa using h), if_neg h]

theorem mem_of_lastAt? {nodes : List Node} {address : String} {node : Node}
    (h : lastAt? nodes address = some node) : node ∈ nodes ∧ node.address = address := by
  have hmem := List.mem_of_getLast? h
  exact ⟨List.mem_of_mem_filter hmem, by simpa using List.of_mem_filter hmem⟩

theorem lastAt?_eq_none_iff {nodes : List Node} {address : String} :
    lastAt? nodes address = none ↔ address ∉ nodes.map (·.address) := by
  simp [lastAt?]

theorem exists_lastAt? {nodes : List Node} {node : Node} (h : node ∈ nodes) :
    ∃ last, lastAt? nodes node.address = some last := by
  refine Option.ne_none_iff_exists'.mp fun hnone => ?_
  exact lastAt?_eq_none_iff.mp hnone (List.mem_map_of_mem h)

namespace Store

/-- What a row shows: its address and its amounts. -/
def NodeRow.shown (row : NodeRow) : String × List Int :=
  (row.address, row.amounts)

namespace NodeTable

variable {table table' : NodeTable} {node : Node} {nodes : List Node} {address : String}

/-- What a table shows at an address. -/
def amountsAt? (table : NodeTable) (address : String) : Option (List Int) :=
  (table.find? address).map (·.amounts)

theorem amountsAt?_eq_none_iff :
    table.amountsAt? address = none ↔ address ∉ table.map (·.address) := by
  rw [amountsAt?, Option.map_eq_none_iff, find?_eq_none_iff]
  simp

/-! ## One node -/

/-- A node that is shown as it is stays as it is. -/
theorem keep_of_shown (h : table.amountsAt? node.address = some (NodeRow.of node).amounts) :
    table.keep node = (table, .unchanged) := by
  obtain ⟨row, hfind, hsame⟩ := Option.map_eq_some_iff.mp h
  rw [keep, hfind]
  exact if_pos hsame

/-- Nothing is written exactly if the row shows what the node has. -/
theorem wrote_keep_eq_false_iff :
    (table.keep node).2.wrote = false ↔
      table.amountsAt? node.address = some (NodeRow.of node).amounts := by
  refine ⟨fun h => ?_, fun h => by rw [keep_of_shown h]; rfl⟩
  unfold keep at h
  split at h
  · exact nomatch h
  · next row hfind =>
    split at h
    · next hsame => rw [amountsAt?, hfind, Option.map_some, hsame]
    · exact nomatch h

/-- A row is replaced where it stands. -/
theorem find?_put (table : NodeTable) (node : Node) (address : String) :
    (table.put node).find? address =
      (table.find? address).map fun old =>
        if old.address = node.address then .of node else old := by
  have haddress (old : NodeRow) :
      (if old.address = node.address then NodeRow.of node else old).address = old.address := by
    by_cases h : old.address = node.address
    · rw [if_pos h, h]
      rfl
    · rw [if_neg h]
  rw [find?, put, List.find?_map]
  simp only [Function.comp_def, haddress]
  rfl

/-- A row that is put in place leaves all addresses. -/
theorem map_address_put (table : NodeTable) (node : Node) :
    (table.put node).map (·.address) = table.map (·.address) := by
  rw [put, List.map_map]
  refine List.map_congr_left fun old _ => ?_
  by_cases h : old.address = node.address
  · simp [NodeRow.of, h]
  · simp [h]

/-- The row of a new node comes after rows that all have other addresses. -/
theorem amountsAt?_append (h : table.find? node.address = none) (address : String) :
    amountsAt? (table ++ [.of node]) address =
      if node.address = address then some (NodeRow.of node).amounts
      else table.amountsAt? address := by
  rw [amountsAt?, find?, List.find?_append]
  by_cases haddress : node.address = address
  · subst haddress
    rw [if_pos rfl, show List.find? (·.address = node.address) table = none from h]
    simp [NodeRow.of]
  · rw [if_neg haddress, List.find?_singleton, if_neg (by simp [NodeRow.of, haddress]),
      Option.or_none]
    rfl

/-- What stands at another address is not the row that is replaced. -/
theorem amountsAt?_put {old : NodeRow} (h : table.find? node.address = some old)
    (address : String) :
    (table.put node).amountsAt? address =
      if node.address = address then some (NodeRow.of node).amounts
      else table.amountsAt? address := by
  rw [amountsAt?, find?_put]
  by_cases haddress : node.address = address
  · subst haddress
    rw [if_pos rfl, h, Option.map_some, Option.map_some, if_pos (find?_eq_some h).2]
  · rw [if_neg haddress, Option.map_map]
    refine Option.map_congr fun row hrow => ?_
    rw [Function.comp_apply, if_neg ((find?_eq_some hrow).2 ▸ Ne.symm haddress)]

/-- A node that is kept is shown as it is, and no other address is touched. -/
theorem amountsAt?_keep (table : NodeTable) (node : Node) (address : String) :
    (table.keep node).1.amountsAt? address =
      if node.address = address then some (NodeRow.of node).amounts
      else table.amountsAt? address := by
  cases hfind : table.find? node.address with
  | none =>
    have hkeep : (table.keep node).1 = table ++ [.of node] := by rw [keep, hfind]
    rw [hkeep]
    exact amountsAt?_append hfind address
  | some old =>
    -- a stored row is written only if it shows other amounts
    by_cases hsame : old.amounts = (NodeRow.of node).amounts
    · have hshown : table.amountsAt? node.address = some (NodeRow.of node).amounts := by
        rw [amountsAt?, hfind, Option.map_some, hsame]
      rw [keep_of_shown hshown]
      split
      · next h => exact h ▸ hshown
      · rfl
    · have hkeep : (table.keep node).1 = table.put node := by
        rw [keep, hfind]
        exact congrArg _ (if_neg hsame)
      rw [hkeep]
      exact amountsAt?_put hfind address

/-- A new address comes last. -/
theorem map_address_keep (table : NodeTable) (node : Node) :
    (table.keep node).1.map (·.address) =
      if node.address ∈ table.map (·.address) then table.map (·.address)
      else table.map (·.address) ++ [node.address] := by
  have hnone : table.amountsAt? node.address = none ↔ _ := amountsAt?_eq_none_iff
  rw [amountsAt?, Option.map_eq_none_iff] at hnone
  unfold keep
  split
  · next hfind =>
    rw [if_neg (hnone.mp hfind), List.map_append]
    rfl
  · -- a row that is there is changed in its place
    next old hfind =>
    have hold : node.address ∈ table.map (·.address) := by
      by_contra hnew
      exact nomatch hfind.symm.trans (hnone.mpr hnew)
    rw [if_pos hold]
    split
    · rfl
    · exact map_address_put table node

/-! ## Nodes one after the other -/

/-- An address shows the last node that has it, and what it showed before if there is none. -/
theorem amountsAt?_keepAll (table : NodeTable) (nodes : List Node) (address : String) :
    (table.keepAll nodes).amountsAt? address =
      match lastAt? nodes address with
      | some last => some (NodeRow.of last).amounts
      | none => table.amountsAt? address := by
  induction nodes generalizing table with
  | nil => rfl
  | cons node nodes ih =>
    show ((table.keep node).1.keepAll nodes).amountsAt? address = _
    rw [ih, lastAt?_cons, amountsAt?_keep]
    -- the first node counts only if no later one has its address
    by_cases h : node.address = address
    · rw [if_pos h, if_pos h]
      cases lastAt? nodes address <;> rfl
    · rw [if_neg h, if_neg h]

/-- Every node that is kept has a row, and no row is lost. -/
theorem mem_addresses_keepAll {nodes : List Node} :
    address ∈ (table.keepAll nodes).map (·.address) ↔
      address ∈ table.map (·.address) ∨ address ∈ nodes.map (·.address) := by
  rw [← not_iff_not, not_or, ← amountsAt?_eq_none_iff, ← amountsAt?_eq_none_iff,
    ← lastAt?_eq_none_iff, amountsAt?_keepAll]
  cases lastAt? nodes address <;> simp

/-- Keeping nodes gives no address twice. -/
theorem nodup_addresses_keepAll (h : (table.map (·.address)).Nodup) (nodes : List Node) :
    ((table.keepAll nodes).map (·.address)).Nodup := by
  induction nodes generalizing table with
  | nil => exact h
  | cons node nodes ih =>
    refine ih ?_
    rw [map_address_keep]
    split
    · exact h
    · next hnew => exact List.nodup_append.mpr ⟨h, List.nodup_singleton _, by simpa using hnew⟩

/-- No address is added where all are known. -/
theorem map_address_keepAll (h : ∀ node ∈ nodes, node.address ∈ table.map (·.address)) :
    (table.keepAll nodes).map (·.address) = table.map (·.address) := by
  induction nodes generalizing table with
  | nil => rfl
  | cons node nodes ih =>
    obtain ⟨hnode, hnodes⟩ := List.forall_mem_cons.mp h
    have hkeep := map_address_keep table node
    rw [if_pos hnode] at hkeep
    rw [← hkeep] at hnodes ⊢
    exact ih hnodes

/-- If the rows show what the nodes have, nothing changes. -/
theorem keepAll_of_shown
    (h : ∀ node ∈ nodes, table.amountsAt? node.address = some (NodeRow.of node).amounts) :
    table.keepAll nodes = table := by
  induction nodes with
  | nil => rfl
  | cons node nodes ih =>
    obtain ⟨hnode, hnodes⟩ := List.forall_mem_cons.mp h
    show (table.keep node).1.keepAll nodes = table
    rw [keep_of_shown hnode]
    exact ih hnodes

/-- Nothing is written exactly when every node is shown as it is. -/
theorem countP_wrote_eq_zero_iff :
    (table.outcomes nodes).countP (·.wrote) = 0 ↔
      ∀ node ∈ nodes, table.amountsAt? node.address = some (NodeRow.of node).amounts := by
  induction nodes with
  | nil => exact iff_of_true rfl nofun
  | cons node nodes ih =>
    rw [outcomes, List.countP_cons, List.forall_mem_cons, ← wrote_keep_eq_false_iff, ← ih]
    cases hwrote : (table.keep node).2.wrote with
    | true => simp
    | false =>
      rw [keep_of_shown (wrote_keep_eq_false_iff.mp hwrote)]
      simp

/-! ## Whole tables -/

theorem find?_of_mem (hd : (table.map (·.address)).Nodup) {row : NodeRow} (h : row ∈ table) :
    table.find? row.address = some row := by
  cases hfind : table.find? row.address with
  | none => exact absurd rfl (find?_eq_none_iff.mp hfind row h)
  | some other =>
    obtain ⟨hmem, haddress⟩ := find?_eq_some hfind
    rw [List.inj_on_of_nodup_map hd hmem h haddress]

/-- What a table shows is what it shows at its addresses. -/
theorem map_shown (hd : (table.map (·.address)).Nodup) :
    table.map (·.shown) =
      (table.map (·.address)).map fun address =>
        (address, (table.amountsAt? address).getD []) := by
  rw [List.map_map]
  refine List.map_congr_left fun row hrow => ?_
  rw [Function.comp_apply, amountsAt?, find?_of_mem hd hrow]
  rfl

/-- Tables with the same addresses that show the same at each of them show the same as a whole. -/
theorem map_shown_congr (hd : (table.map (·.address)).Nodup)
    (haddresses : table'.map (·.address) = table.map (·.address))
    (h : ∀ address, table'.amountsAt? address = table.amountsAt? address) :
    table'.map (·.shown) = table.map (·.shown) := by
  rw [map_shown hd, map_shown (haddresses ▸ hd), haddresses]
  simp only [h]

/-! ## The same nodes again -/

/-- Nothing is written by the same nodes again exactly when those of one address have the same
amounts. -/
theorem countP_wrote_again_eq_zero_iff (table : NodeTable) (nodes : List Node) :
    ((table.keepAll nodes).outcomes nodes).countP (·.wrote) = 0 ↔
      ∀ a ∈ nodes, ∀ b ∈ nodes, a.address = b.address → a.gauges = b.gauges := by
  -- what is shown at the address of a node is what the last node with that address has
  have hshown {node last : Node} (hlast : lastAt? nodes node.address = some last) :
      (table.keepAll nodes).amountsAt? node.address = some (NodeRow.of node).amounts ↔
        last.gauges = node.gauges := by
    rw [amountsAt?_keepAll, hlast, Option.some_inj, NodeRow.amounts_of_eq_iff, Node.sameUsage,
      beq_iff_eq]
  rw [countP_wrote_eq_zero_iff]
  constructor
  · intro h a ha b hb hab
    obtain ⟨last, hlast⟩ := exists_lastAt? ha
    rw [← (hshown hlast).mp (h a ha), (hshown (hab ▸ hlast)).mp (h b hb)]
  · intro h node hnode
    obtain ⟨last, hlast⟩ := exists_lastAt? hnode
    obtain ⟨hmem, haddress⟩ := mem_of_lastAt? hlast
    exact (hshown hlast).mpr (h last hmem node hnode haddress)

/-- Then the table stays as it is too. -/
theorem keepAll_again_iff (table : NodeTable) (nodes : List Node) :
    ((table.keepAll nodes).outcomes nodes).countP (·.wrote) = 0 ∧
        (table.keepAll nodes).keepAll nodes = table.keepAll nodes ↔
      ∀ a ∈ nodes, ∀ b ∈ nodes, a.address = b.address → a.gauges = b.gauges := by
  rw [← countP_wrote_again_eq_zero_iff table]
  exact and_iff_left_of_imp fun h => keepAll_of_shown (countP_wrote_eq_zero_iff.mp h)

/-- What a table shows is not changed by the same nodes again. -/
theorem map_shown_again (hd : (table.map (·.address)).Nodup) (nodes : List Node) :
    ((table.keepAll nodes).keepAll nodes).map (·.shown) =
      (table.keepAll nodes).map (·.shown) := by
  refine map_shown_congr (nodup_addresses_keepAll hd nodes) (map_address_keepAll ?_) ?_
  · intro node hnode
    exact mem_addresses_keepAll.mpr (Or.inr (List.mem_map_of_mem hnode))
  · intro address
    rw [amountsAt?_keepAll, amountsAt?_keepAll]
    cases lastAt? nodes address <;> rfl

end NodeTable

end Store

end VparFleet
