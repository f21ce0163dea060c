import VparFleet.Proofs.Store.Calls
import VparFleet.Proofs.Store.Registry

/-!
# Calls on the node table

However nodes are created, updated, upserted and read, the node table holds a registry and every
call is answered from it. A call that fails leaves the registry as it was. As new nodes come last
and changed ones stay where they are, nodes are listed in the order in which their addresses first
came.

* `NodeCall`, `NodeCall.operation`: what can be called, and the program of each call.
* `Registry.Step`: what a call makes of a registry, and what it ends with.
* `NodeCall.ends`: one call; `node_calls_keep_registry`: any number of them.
-/

namespace VparFleet

open Store Text.Decimal

/-! ## Calls -/

/-- What can be called on the node table. -/
inductive NodeCall where
  | create (node : Node)
  | update (node : Node)
  /-- Adds a node, or changes it where an amount differs. -/
  | upsert (node : Node)
  | get (address : String)
  | list

namespace NodeCall

/-- What a call ends with unless it fails. -/
def Result : NodeCall → Type
  | create _ => Unit
  | update _ => Unit
  | upsert _ => UpsertOutcome
  | get _ => Option Node
  | list => List Node

/-- The program of a call. -/
def operation : (call : NodeCall) → Operation call.Result
  | create node => .addNode node
  | update node => .updateNode node
  | upsert node => upsertNode node
  | get address => .findNode address
  | list => .listNodes

/-- The node that a call may write. -/
def node? : NodeCall → Option Node
  | create node => some node
  | update node => some node
  | upsert node => some node
  | get _ => none
  | list => none

end NodeCall

namespace Registry

/-- What a call makes of a registry, and what it ends with. -/
inductive Step : Registry → Ended NodeCall.Result → Registry → Prop where
  | created {before after : Registry} {node : Node} (hs : node.Storable)
      (hnew : node.address ∉ before.addresses) (hafter : after.nodes = before.nodes ++ [node]) :
      Step before ⟨.create node, .ok ()⟩ after
  | notCreated {before : Registry} {node : Node} {fault : Fault}
      (h : ¬ (node.Storable ∧ node.address ∉ before.addresses))
      (hkind : fault.kind = .database) :
      Step before ⟨.create node, .error fault⟩ before
  | updated {before after : Registry} {node : Node} (hs : node.Storable)
      (hold : node.address ∈ before.addresses) (hafter : after.nodes = before.replaced node) :
      Step before ⟨.update node, .ok ()⟩ after
  | notThere {before : Registry} {node : Node} {fault : Fault} (hs : node.Storable)
      (hnew : node.address ∉ before.addresses) (hkind : fault.kind = .notFound) :
      Step before ⟨.update node, .error fault⟩ before
  | notUpdated {before : Registry} {node : Node} {fault : Fault} (hs : ¬ node.Storable) :
      Step before ⟨.update node, .error fault⟩ before
  | inserted {before after : Registry} {node : Node} (hs : node.Storable)
      (hnew : node.address ∉ before.addresses) (hafter : after.nodes = before.nodes ++ [node]) :
      Step before ⟨.upsert node, .ok .created⟩ after
  | changed {before after : Registry} {node stored : Node} (hs : node.Storable)
      (hmem : stored ∈ before.nodes) (haddress : stored.address = node.address)
      (hdiffer : stored.gauges ≠ node.gauges) (hafter : after.nodes = before.replaced node) :
      Step before ⟨.upsert node, .ok .updated⟩ after
  | kept {before : Registry} {node stored : Node} (hs : node.Storable)
      (hmem : stored ∈ before.nodes) (haddress : stored.address = node.address)
      (hsame : stored.gauges = node.gauges) :
      Step before ⟨.upsert node, .ok .unchanged⟩ before
  | notUpserted {before : Registry} {node : Node} {fault : Fault} (hs : ¬ node.Storable)
      (hkind : fault.kind = .database) :
      Step before ⟨.upsert node, .error fault⟩ before
  | found {before : Registry} {address : String} :
      Step before ⟨.get address, .ok (before.nodes.find? (·.address = address))⟩ before
  | listed {before : Registry} :
      Step before ⟨.list, .ok before.nodes⟩ before

end Registry

/-! ## One call -/

/-- A call comes to an end with what it has to make of a registry, and changes nothing else. -/
def NodeCall.Ends (call : NodeCall) (shared : Shared) (registry : Registry) : Prop :=
  ∃ outcome after, call.operation.run.Ends shared outcome (shared.withNodes after.rows) ∧
    Registry.Step registry ⟨call, outcome⟩ after

section OneCall

open Program Shared

variable {shared : Shared} {registry : Registry} {node : Node}
  (ho : shared.store.isOpen = true) (hrows : shared.store.nodes = registry.rows)

include hrows in
/-- A statement that fails is a call that changes nothing. -/
theorem NodeCall.Ends.of_unchanged {call : NodeCall} {outcome : Outcome call.Result}
    (hends : call.operation.run.Ends shared outcome shared)
    (hstep : Registry.Step registry ⟨call, outcome⟩ registry) : call.Ends shared registry := by
  refine ⟨outcome, registry, ?_, hstep⟩
  rw [withNodes_rows hrows]
  exact hends

include ho hrows in
/-- A node is added if it can be stored and its address is new. -/
theorem create_ends (hr : node.InRange) : (NodeCall.create node).Ends shared registry := by
  by_cases h : node.Storable ∧ node.address ∉ registry.addresses
  · obtain ⟨after, hafter, ha⟩ := answer_addNode_registry ho hrows h.1 hr h.2 0
    exact ⟨.ok (), after, (ends_act ha).mpr ends_done, .created h.1 h.2 hafter⟩
  · -- what the table refuses is said of its rows
    rw [← Registry.find?_rows_eq_none_iff, ← hrows] at h
    obtain ⟨fault, hkind, ha⟩ := answer_addNode_refused ho h 0
    rw [hrows, Registry.find?_rows_eq_none_iff] at h
    exact .of_unchanged hrows ((ends_act ha).mpr ends_done) (.notCreated h hkind)

include ho hrows in
/-- A node is changed if it can be stored and its address is there. -/
theorem update_ends (hr : node.InRange) : (NodeCall.update node).Ends shared registry := by
  -- columns and checks come before the row is looked for
  by_cases hs : node.Storable
  · by_cases hold : node.address ∈ registry.addresses
    · obtain ⟨after, hafter, ha⟩ := answer_updateNode_registry ho hrows hs hr hold 0
      exact ⟨.ok (), after, (ends_act ha).mpr ends_done, .updated hs hold hafter⟩
    · have hnone : shared.store.nodes.find? node.address = none := by
        rw [hrows]
        exact Registry.find?_rows_eq_none_iff.mpr hold
      obtain ⟨fault, hkind, ha⟩ := answer_updateNode_missing ho (hs.sound hr.vcpus) hnone 0
      exact .of_unchanged hrows ((ends_act ha).mpr ends_done) (.notThere hs hold hkind)
  · obtain ⟨fault, -, ha⟩ := answer_updateNode_refused ho hs 0
    exact .of_unchanged hrows ((ends_act ha).mpr ends_done) (.notUpdated hs)

include ho hrows in
/-- A node that is not there is added, and one that is there is changed where an amount differs. -/
theorem upsert_ends (hr : node.InRange) : (NodeCall.upsert node).Ends shared registry := by
  have hanswer := answer_findNode_registry ho hrows 0 node.address
  -- the program first asks for the node, and then adds it or changes it
  cases hfind : registry.nodes.find? (·.address = node.address) with
  | none =>
    rw [hfind] at hanswer
    have hnew : node.address ∉ registry.addresses := by
      rw [← Registry.find?_rows_eq_none_iff, registry.find?_rows, hfind]
      rfl
    by_cases hs : node.Storable
    · obtain ⟨after, hafter, ha⟩ := answer_addNode_registry ho hrows hs hr hnew 0
      refine ⟨.ok .created, after, ?_, .inserted hs hnew hafter⟩
      exact (ends_act hanswer).mpr ((ends_act ha).mpr ends_done)
    · obtain ⟨fault, hkind, ha⟩ := answer_addNode_refused ho (fun h => hs h.1) 0
      refine .of_unchanged hrows ?_ (.notUpserted hs hkind)
      exact (ends_act hanswer).mpr ((ends_act ha).mpr ends_done)
  | some stored =>
    rw [hfind] at hanswer
    -- what is done to a node that is there depends on its amounts before it is checked
    have hmem : stored ∈ registry.nodes := List.mem_of_find?_eq_some hfind
    have haddress : stored.address = node.address := by simpa using List.find?_some hfind
    have hold : node.address ∈ registry.addresses :=
      List.mem_map.mpr ⟨stored, hmem, haddress⟩
    -- what is left of the program once the stored node is known
    have hends {outcome : Outcome UpsertOutcome} {after : Shared}
        (h : ((if stored.sameUsage node then pure .unchanged
          else Operation.updateNode node >>= fun _ => pure .updated
            : Operation UpsertOutcome).run).Ends shared outcome after) :
        (NodeCall.upsert node).operation.run.Ends shared outcome after :=
      (ends_act hanswer).mpr h
    by_cases hsame : stored.gauges = node.gauges
    · refine .of_unchanged hrows (hends ?_) (.kept ?_ hmem haddress hsame)
      · rw [if_pos (Node.sameUsage_iff.mpr hsame)]
        exact ends_done
      · exact (registry.storable stored hmem).of_gauges hsame
    · have hdiffer := mt Node.sameUsage_iff.mp hsame
      by_cases hs : node.Storable
      · obtain ⟨after, hafter, ha⟩ := answer_updateNode_registry ho hrows hs hr hold 0
        refine ⟨.ok .updated, after, hends ?_, .changed hs hmem haddress hsame hafter⟩
        rw [if_neg hdiffer]
        exact (ends_act ha).mpr ends_done
      · -- the fault is one of the database, for the row was there
        obtain ⟨fault, hkind, ha⟩ := answer_updateNode_refused ho hs 0
        have hfound : shared.store.nodes.find? node.address ≠ none := by
          rw [hrows, ne_eq, Registry.find?_rows_eq_none_iff]
          exact not_not_intro hold
        refine .of_unchanged hrows (hends ?_) (.notUpserted hs (hkind hfound))
        rw [if_neg hdiffer]
        exact (ends_act ha).mpr ends_done

include ho hrows in
/-- A call does to the registry what it has to do. -/
theorem NodeCall.ends (call : NodeCall) (hr : ∀ node, call.node? = some node → node.InRange) :
    call.Ends shared registry := by
  cases call with
  | create node => exact create_ends ho hrows (hr node rfl)
  | update node => exact update_ends ho hrows (hr node rfl)
  | upsert node => exact upsert_ends ho hrows (hr node rfl)
  | get address =>
    have ha := answer_findNode_registry ho hrows 0 address
    exact .of_unchanged hrows ((ends_act ha).mpr ends_done) .found
  | list =>
    have ha := answer_listNodes_registry ho hrows 0
    exact .of_unchanged hrows ((ends_act ha).mpr ends_done) .listed

end OneCall

/-! ## Any number of calls -/

namespace Registry

variable {before after : Registry} {x : Ended NodeCall.Result}

/-- A call that fails leaves the registry as it was. -/
theorem Step.unchanged (h : Step before x after) {fault : Fault}
    (hx : x.outcome = .error fault) : after = before := by
  cases h with
  | created => exact nomatch hx
  | updated => exact nomatch hx
  | inserted => exact nomatch hx
  | changed => exact nomatch hx
  | _ => rfl

/-- After an upsert the amounts are those that were to be kept. -/
theorem Step.gauges_of_upsert {node : Node} {outcome : UpsertOutcome}
    (h : Step before ⟨.upsert node, .ok outcome⟩ after) :
    ∃ stored ∈ after.nodes, stored.address = node.address ∧ stored.gauges = node.gauges := by
  cases h with
  | inserted hs hnew hafter =>
    refine ⟨node, ?_, rfl, rfl⟩
    rw [hafter]
    exact List.mem_append_right _ (List.mem_singleton_self node)
  | changed hs hmem haddress hdiffer hafter =>
    refine ⟨node, ?_, rfl, rfl⟩
    rw [hafter]
    exact List.mem_map.mpr ⟨_, hmem, if_pos haddress⟩
  | kept hs hmem haddress hsame => exact ⟨_, hmem, haddress, hsame⟩

/-- Nothing has been done but to fill the node table. -/
def shared (registry : Registry) : Shared :=
  (Shared.ofStore .empty).withNodes registry.rows

/-- What holds of every call, whatever it is. -/
structure Keeps (before : Registry) (x : Ended NodeCall.Result) (after : Registry) : Prop where
  ends : x.call.operation.run.Ends before.shared x.outcome after.shared
  step : Step before x after
  unchanged : ∀ fault, x.outcome = .error fault → after = before
  gauges : ∀ node outcome, x = ⟨.upsert node, .ok outcome⟩ →
    ∃ stored ∈ after.nodes, stored.address = node.address ∧ stored.gauges = node.gauges

/-- What a call makes of a registry says all that holds of every call. -/
theorem Step.keeps (h : Step before x after)
    (hends : x.call.operation.run.Ends before.shared x.outcome after.shared) :
    Keeps before x after where
  ends := hends
  step := h
  unchanged _ hx := h.unchanged hx
  gauges := by
    rintro node outcome rfl
    exact h.gauges_of_upsert

end Registry

/-- The address for which a call has added a row, or found one that was there. -/
def Ended.address? : Ended NodeCall.Result → Option String
  | ⟨.create node, .ok _⟩ => some node.address
  | ⟨.upsert node, .ok _⟩ => some node.address
  | _ => none

namespace Registry

variable {before after : Registry} {x : Ended NodeCall.Result} {past : List (Ended NodeCall.Result)}

/-- A call adds at most one address, and adds it at the end. -/
theorem Step.addresses (h : Step before x after) :
    (∃ address ∉ before.addresses, x.address? = some address ∧
      after.addresses = before.addresses ++ [address]) ∨
    (∀ address, x.address? = some address → address ∈ before.addresses) ∧
      after.addresses = before.addresses := by
  -- the ways in which a call can change the nodes, and what they do to the addresses
  have happended {node : Node} (hafter : after.nodes = before.nodes ++ [node]) :
      after.addresses = before.addresses ++ [node.address] := by
    rw [Registry.addresses, hafter, List.map_append]
    rfl
  have hreplaced {node : Node} (hafter : after.nodes = before.replaced node) :
      after.addresses = before.addresses := by
    rw [Registry.addresses, hafter, addresses_replaced]
  have hstored {node stored : Node} (hmem : stored ∈ before.nodes)
      (haddress : stored.address = node.address) :
      ∀ address, some node.address = some address → address ∈ before.addresses := by
    rintro _ ⟨⟩
    exact List.mem_map.mpr ⟨stored, hmem, haddress⟩
  -- calls that add no row and find none
  have hnone : ∀ address, none = some address → address ∈ before.addresses := by
    rintro _ ⟨⟩
  -- two calls add a row; all others leave the addresses as they are
  cases h with
  | created hs hnew hafter => exact Or.inl ⟨_, hnew, rfl, happended hafter⟩
  | inserted hs hnew hafter => exact Or.inl ⟨_, hnew, rfl, happended hafter⟩
  | updated hs hold hafter => exact Or.inr ⟨hnone, hreplaced hafter⟩
  | changed hs hmem haddress hdiffer hafter =>
    exact Or.inr ⟨hstored hmem haddress, hreplaced hafter⟩
  | kept hs hmem haddress hsame => exact Or.inr ⟨hstored hmem haddress, rfl⟩
  | _ => exact Or.inr ⟨hnone, rfl⟩

theorem removeAll_cons_of_mem {a : String} {as seen : List String} (h : a ∈ seen) :
    (a :: as).removeAll seen = as.removeAll seen := by
  simp [List.cons_removeAll, h]

theorem removeAll_cons_of_notMem {a : String} {as seen : List String} (h : a ∉ seen) :
    (a :: as).removeAll seen = a :: as.removeAll seen := by
  simp [List.cons_removeAll, h]

/-- One more address that was seen takes it out of those that count. -/
theorem removeAll_append {a : String} {as seen : List String} :
    as.removeAll (seen ++ [a]) = (as.removeAll seen).filter (fun b => !b == a) := by
  simp only [List.removeAll, List.filter_filter]
  refine List.filter_congr fun b _ => Bool.eq_iff_iff.mpr ?_
  simp [and_comm]

/-- What comes after a call adds the addresses that are new, each where it first came. -/
theorem Step.addresses_append (h : Step before x after) (rest : List String) :
    after.addresses ++ (rest.removeAll after.addresses).eraseDups =
      before.addresses ++
        ((x.address?.toList ++ rest).removeAll before.addresses).eraseDups := by
  rcases h.addresses with ⟨address, hnew, hx, hafter⟩ | ⟨hold, hafter⟩
  · rw [hafter, hx, Option.toList_some, List.singleton_append, removeAll_cons_of_notMem hnew,
      List.eraseDups_cons, removeAll_append, List.append_assoc, List.singleton_append]
  · rw [hafter]
    cases hx : x.address? with
    | none => rfl
    | some address =>
      rw [Option.toList_some, List.singleton_append, removeAll_cons_of_mem (hold address hx)]

/-- The addresses are in the order in which they first came. -/
theorem addresses_of_follows (h : Follows Keeps before past after) :
    after.addresses = before.addresses ++
      ((past.filterMap Ended.address?).removeAll before.addresses).eraseDups := by
  induction h with
  | stop registry => simp [List.removeAll]
  -- the addresses after the first call, and those that the others add
  | @step before middle last x past hx hrest ih =>
    rw [ih, hx.step.addresses_append]
    cases hx : x.address? with
    | none => rw [List.filterMap_cons_none hx, Option.toList_none, List.nil_append]
    | some address => rw [List.filterMap_cons_some hx, Option.toList_some, List.singleton_append]

end Registry

/-! ## Nodes kept one after the other -/

namespace Registry

variable {node : Node} {outcome : UpsertOutcome}

/-- What becomes of a table in which a node is kept is what an upsert makes of it. -/
theorem exists_keep (registry : Registry) (hs : node.Storable) (hr : node.InRange) :
    ∃ outcome after, after.rows = (registry.rows.keep node).1 ∧
      Step registry ⟨.upsert node, .ok outcome⟩ after := by
  cases hfind : registry.nodes.find? (·.address = node.address) with
  | none =>
    have hrow : registry.rows.find? node.address = none := by
      rw [registry.find?_rows, hfind, Option.map_none]
    have hnew := find?_rows_eq_none_iff.mp hrow
    obtain ⟨after, hafter, hrows⟩ := registry.exists_append hs hr hnew
    refine ⟨.created, after, ?_, .inserted hs hnew hafter⟩
    rw [hrows, NodeTable.keep, hrow]
  | some stored =>
    have hrow : registry.rows.find? node.address = some (.of stored) := by
      rw [registry.find?_rows, hfind, Option.map_some]
    have hmem : stored ∈ registry.nodes := List.mem_of_find?_eq_some hfind
    have haddress : stored.address = node.address := by simpa using List.find?_some hfind
    have hamounts : (NodeRow.of stored).amounts = (NodeRow.of node).amounts ↔
        stored.gauges = node.gauges :=
      NodeRow.amounts_of_eq_iff.trans Node.sameUsage_iff
    -- the row is there: it is written only if an amount differs
    rw [NodeTable.keep, hrow]
    dsimp only
    by_cases hsame : stored.gauges = node.gauges
    · rw [if_pos (hamounts.mpr hsame)]
      exact ⟨.unchanged, registry, rfl, .kept hs hmem haddress hsame⟩
    · obtain ⟨after, hafter, hrows⟩ := registry.exists_replace hs hr
      rw [if_neg (mt hamounts.mp hsame)]
      exact ⟨.updated, after, hrows, .changed hs hmem haddress hsame hafter⟩

/-- An upsert sets the amounts of its node and leaves all other nodes as they are. -/
theorem Step.upserted (h : Step before ⟨.upsert node, .ok outcome⟩ after) :
    ∀ stored ∈ after.nodes, stored.address = node.address ∧ stored.gauges = node.gauges ∨
      stored.address ≠ node.address ∧ stored ∈ before.nodes := by
  intro stored hstored
  cases h with
  | inserted hs hnew hafter =>
    rw [hafter] at hstored
    rcases List.mem_append.mp hstored with hold | hnode
    · refine Or.inr ⟨fun haddress => hnew ?_, hold⟩
      exact List.mem_map.mpr ⟨stored, hold, haddress⟩
    · obtain rfl := List.mem_singleton.mp hnode
      exact Or.inl ⟨rfl, rfl⟩
  | changed hs hmem haddress hdiffer hafter =>
    rw [hafter] at hstored
    obtain ⟨old, hold, rfl⟩ := List.mem_map.mp hstored
    by_cases hsame : old.address = node.address
    · rw [if_pos hsame]
      exact Or.inl ⟨rfl, rfl⟩
    · rw [if_neg hsame]
      exact Or.inr ⟨hsame, hold⟩
  | kept hs hmem haddress hsame =>
    by_cases h : stored.address = node.address
    · -- no other node has the address
      obtain rfl := List.inj_on_of_nodup_map before.distinct hstored hmem (h.trans haddress.symm)
      exact Or.inl ⟨h, hsame⟩
    · exact Or.inr ⟨h, hstored⟩

end Registry

/-- However nodes are created, updated, upserted and read, the node table holds a registry, every
call is answered from it and makes of it what it has to, and the addresses are in the order in which
they first came. -/
theorem node_calls_keep_registry (calls : List NodeCall)
    (hr : ∀ call ∈ calls, ∀ node, call.node? = some node → node.InRange) :
    ∃ (past : List (Ended NodeCall.Result)) (registry : Registry),
      (inTurn NodeCall.operation calls).Ends (.ofStore .empty) past registry.shared ∧
      past.map (·.call) = calls ∧
      Follows Registry.Keeps .empty past registry ∧
      registry.addresses = (past.filterMap Ended.address?).eraseDups := by
  -- one call does to the registry what it has to do
  have hstep : ∀ call ∈ calls, ∀ (registry : Registry) (shared : Shared),
      shared = registry.shared → ∃ outcome middle after,
        call.operation.run.Ends shared outcome after ∧
        Registry.Keeps registry ⟨call, outcome⟩ middle ∧ after = middle.shared := by
    rintro call hcall registry _ rfl
    have hrows : registry.shared.store.nodes = registry.rows := rfl
    obtain ⟨outcome, middle, hends, hs⟩ := call.ends rfl hrows (hr call hcall)
    exact ⟨outcome, middle, _, hends, hs.keeps hends, rfl⟩
  have hstart : Shared.ofStore .empty = Registry.empty.shared := rfl
  obtain ⟨past, registry, _, hends, hcalls, hfollows, rfl⟩ := inTurn_follows hstep hstart
  refine ⟨past, registry, hends, hcalls, hfollows, ?_⟩
  have haddresses := Registry.addresses_of_follows hfollows
  simpa [Registry.empty, Registry.addresses, List.removeAll] using haddresses

/-- A node is added, changed, added in vain and asked for, and one that uses more than it has is
refused. -/
def NodeCall.sample : List NodeCall :=
  let node := Node.observed "10.0.0.2" none "nPar" 8 5 65424 55936 557 91
  [.create node, .upsert { node with memoryUsed := 0 }, .create node,
    .upsert { node with address := "10.0.0.1", diskUsed := 558 }, .get "10.0.0.2", .list]

/-- Six calls, of which two are refused. -/
theorem node_calls_keep_registry_sample :
    (∀ call ∈ NodeCall.sample, ∀ node, call.node? = some node → node.InRange) ∧
      ∃ (past : List (Ended NodeCall.Result)) (registry : Registry),
        (inTurn NodeCall.operation NodeCall.sample).Ends (.ofStore .empty) past registry.shared ∧
        past.map (·.call) = NodeCall.sample ∧
        Follows Registry.Keeps .empty past registry ∧
        registry.addresses = (past.filterMap Ended.address?).eraseDups := by
  have hr : ∀ call ∈ NodeCall.sample, ∀ node, call.node? = some node → node.InRange := by
    -- the amounts of the sample fit their columns
    have hwritten : ∀ call ∈ NodeCall.sample, ∀ node ∈ call.node?,
        node.vcpus < word32 ∧ node.vcpusUsed < word32 ∧ node.memory < word64 ∧
          node.memoryUsed < word64 ∧ node.disk < word64 ∧ node.diskUsed < word64 := by
      decide
    intro call hcall node hnode
    obtain ⟨hc, hcu, hm, hmu, hd, hdu⟩ := hwritten call hcall node hnode
    exact ⟨hc, hcu, hm, hmu, hd, hdu⟩
  exact ⟨hr, node_calls_keep_registry NodeCall.sample hr⟩

end VparFleet
