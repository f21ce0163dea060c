import VparFleet.Proofs.Monitor.KeptRows
import VparFleet.Proofs.Monitor.Upkeep

/-!
# Updates that are repeated

After an update that went well the store lets all its nodes be kept again, whatever their amounts
are. So an update that is given the same answers asks the same questions, observes the same nodes
and goes well too. It writes nothing exactly when nodes with one address were observed alike; what
the table shows it never changes.

* `Store.Welcomes`: a store lets a node be kept, whatever its row shows.
* `Round.welcomes`: what has been kept is welcome.
* `Round.replay`: the same answers to a store that welcomes the nodes are the same round.
* `update_again`: two whole updates.
-/

namespace VparFleet

open Program Report Store

namespace Store

variable {store : Store} {table : NodeTable} {node other : Node} {nodes : List Node}
  {address : String}

/-- A table that a store can hold: no two rows have one address, and every amount fits its
column. -/
structure NodeTable.Possible (table : NodeTable) : Prop where
  distinct : (table.map (·.address)).Nodup
  fits : ∀ row ∈ table, ∀ amount ∈ row.amounts, amount < columnBound

/-- Every amount that a table shows fits its column. -/
def NodeTable.Fits (table : NodeTable) : Prop :=
  ∀ address amounts, table.amountsAt? address = some amounts →
    ∀ amount ∈ amounts, amount < columnBound

theorem NodeTable.Possible.shownFits (h : table.Possible) : table.Fits := by
  intro address amounts hshown
  obtain ⟨row, hrow, rfl⟩ := Option.map_eq_some_iff.mp hshown
  exact h.fits row (NodeTable.find?_eq_some hrow).1

/-- The amounts of a row are the gauges of its node. -/
theorem NodeRow.amounts_of_lt_iff {bound : Nat} :
    (∀ amount ∈ (of node).amounts, amount < bound) ↔ ∀ gauge ∈ node.gauges, gauge < bound := by
  have hamounts : (of node).amounts = node.gauges.map Int.ofNat := rfl
  rw [hamounts, List.forall_mem_map]
  exact forall₂_congr fun _ _ => Int.ofNat_lt

/-- Amounts that fit still do after a node that fits was kept. -/
theorem NodeTable.Fits.keep (h : table.Fits) (hs : node.Storable) : Fits (table.keep node).1 := by
  intro address amounts hshown
  rw [amountsAt?_keep] at hshown
  split at hshown
  · obtain rfl := Option.some.inj hshown
    exact NodeRow.amounts_of_lt_iff.mpr hs.fit
  · exact h address amounts hshown

/-- What can be read stays so when a node is kept. -/
theorem NodeTable.ReadableAt.keep (h : table.ReadableAt address) (hn : other.InRange) :
    ReadableAt (table.keep other).1 address := by
  -- a row is added, changed or left alone
  unfold NodeTable.keep
  split
  · intro row hrow
    rw [find?, List.find?_append, Option.or_eq_some_iff] at hrow
    rcases hrow with hrow | ⟨-, hrow⟩
    · exact h row hrow
    · exact ⟨other, hn, List.mem_singleton.mp (List.mem_of_find?_eq_some hrow)⟩
  · split
    · exact h
    · intro row hrow
      rw [find?_put] at hrow
      obtain ⟨old, hold, rfl⟩ := Option.map_eq_some_iff.mp hrow
      split
      · exact ⟨other, hn, rfl⟩
      · exact h old hold

/-- A store lets a node be kept, whatever its row shows. -/
structure Welcomes (store : Store) (node : Node) : Prop where
  isOpen : store.isOpen = true
  readable : store.nodes.ReadableAt node.address
  storable : node.Storable

theorem Welcomes.accepts (h : store.Welcomes node) : store.Accepts node :=
  ⟨h.isOpen, h.readable, fun _ => h.storable⟩

/-- A store that welcomes a node still does after other nodes were kept. -/
theorem Welcomes.keep (h : store.Welcomes node) (hn : other.InRange) :
    Welcomes { store with nodes := (store.nodes.keep other).1 } node :=
  ⟨h.isOpen, h.readable.keep hn, h.storable⟩

theorem Welcomes.keepAll (h : store.Welcomes node) (hn : ∀ other ∈ nodes, other.InRange) :
    Welcomes { store with nodes := store.nodes.keepAll nodes } node := by
  induction nodes generalizing store with
  | nil => exact h
  | cons other nodes ih =>
    obtain ⟨hother, hnodes⟩ := List.forall_mem_cons.mp hn
    exact ih (h.keep hother) hnodes

end Store

namespace Monitor

variable {m : Monitor} {store store' : Store} {client : Client} {clients clients' : List Client}
  {asked asked' course course' : List Exchange} {node : Node} {nodes nodes' : List Node}
  {fault? : Option Fault} {outcome : Outcome Node} {past past' : List Exchange}

/-! ## What has been kept is welcome -/

/-- What is observed and accepted can be stored, even if it did not have to be written. -/
theorem Keeps.sound (h : m.Keeps store client asked (.ok node)) (hclient : client.Bounded)
    (hfits : store.nodes.Fits) : node.Sound := by
  obtain ⟨hasked, haccepts⟩ := h.observes
  have hc := hasked.vcpus_lt hclient
  cases hwrote : (store.nodes.keep node).2.wrote with
  | true => exact (haccepts.storable hwrote).sound hc
  | false =>
    -- the row shows the same amounts, and they fit its columns
    have hshown := NodeTable.wrote_keep_eq_false_iff.mp hwrote
    obtain ⟨hcu, hmu, hdu⟩ := hasked.used_le
    have hstorable : node.Storable :=
      ⟨NodeRow.amounts_of_lt_iff.mp (hfits _ _ hshown), hcu, hmu, hdu⟩
    exact hstorable.sound hc

/-- Whatever was kept is sound. -/
theorem Upkeep.sound (h : m.Upkeep store clients course nodes fault?)
    (hclients : ∀ client ∈ clients, client.Bounded) (hfits : store.nodes.Fits) :
    ∀ node ∈ nodes, node.Sound := by
  induction h with
  | done => exact List.forall_mem_nil _
  | failed => exact List.forall_mem_nil _
  | kept h rest ih =>
    obtain ⟨hclient, hclients⟩ := List.forall_mem_cons.mp hclients
    have hsound := h.sound hclient hfits
    exact List.forall_mem_cons.mpr ⟨hsound, ih hclients (hfits.keep hsound.storable)⟩

/-- So a store that has kept nodes would accept them again. -/
theorem Upkeep.welcomes (h : m.Upkeep store clients course nodes fault?)
    (hsound : ∀ node ∈ nodes, node.Sound) :
    ∀ node ∈ nodes, Welcomes { store with nodes := store.nodes.keepAll nodes } node := by
  induction h with
  | done => exact List.forall_mem_nil _
  | failed => exact List.forall_mem_nil _
  | @kept store client clients asked course node nodes fault? h rest ih =>
    obtain ⟨hnode, hnodes⟩ := List.forall_mem_cons.mp hsound
    have haccepts := h.observes.2
    have hwelcome : store.Welcomes node := ⟨haccepts.isOpen, haccepts.readable, hnode.storable⟩
    refine List.forall_mem_cons.mpr ⟨?_, ih hnodes⟩
    exact (hwelcome.keep hnode.inRange).keepAll fun other hmem => (hnodes other hmem).inRange

/-- Whatever a round has kept is sound. -/
theorem Round.sound (h : m.Round store course clients nodes fault?) (hfits : store.nodes.Fits) :
    ∀ node ∈ nodes, node.Sound := by
  cases h with
  | failed => exact List.forall_mem_nil _
  | surveyed h hs =>
    obtain ⟨text, rfl, hread⟩ := heard_eq_ok_iff.mp h
    exact hs.sound (fun client hmem => Client.bounded_of_readAll hread client
      (List.mem_of_mem_filter hmem)) hfits

/-- So its store would accept the nodes again. -/
theorem Round.welcomes (h : m.Round store course clients nodes fault?)
    (hsound : ∀ node ∈ nodes, node.Sound) :
    ∀ node ∈ nodes, Welcomes { store with nodes := store.nodes.keepAll nodes } node := by
  cases h with
  | failed => exact List.forall_mem_nil _
  | surveyed h hs => exact hs.welcomes hsound

/-! ## The same answers again -/

/-- A node that gives its answers again is observed as it was. -/
theorem Observes.replay {rest rest' : List (Outcome String)}
    (h : m.Observes client asked (.ok node)) (h' : m.Observes client asked' outcome)
    (hsame : Compatible (answers asked' ++ rest') (answers asked ++ rest)) :
    asked' = asked ∧ outcome = .ok node ∧ Compatible rest' rest := by
  cases h with
  | observed hfree hdisk =>
    -- the first observation went well, so its answers are no faults, and the second has them too
    cases h' with
    | capacityFailed hfault =>
      obtain ⟨rfl, -⟩ := compatible_cons.mp hsame
      exact nomatch hfault.symm.trans hfree
    | groupFailed hfree' hfault =>
      obtain ⟨rfl, hlater⟩ := compatible_cons.mp hsame
      obtain ⟨rfl, -⟩ := compatible_cons.mp hlater
      exact nomatch hfault.symm.trans hdisk
    | observed hfree' hdisk' =>
      obtain ⟨rfl, hlater⟩ := compatible_cons.mp hsame
      obtain ⟨rfl, hrest⟩ := compatible_cons.mp hlater
      obtain rfl := Except.ok.inj (hfree'.symm.trans hfree)
      obtain rfl := Except.ok.inj (hdisk'.symm.trans hdisk)
      exact ⟨rfl, rfl, hrest⟩

/-- The same answers to a store that welcomes the nodes lead to the same nodes. -/
theorem Upkeep.replay (h : m.Upkeep store clients course nodes none)
    (h' : m.Upkeep store' clients course' nodes' fault?)
    (hwelcome : ∀ node ∈ nodes, store'.Welcomes node) (hsound : ∀ node ∈ nodes, node.Sound)
    (hsame : Compatible (answers course') (answers course)) :
    course' = course ∧ nodes' = nodes ∧ fault? = none := by
  generalize hnone : (none : Option Fault) = ending at h
  induction h generalizing store' course' nodes' fault? with
  | done =>
    cases h'
    exact ⟨rfl, rfl, rfl⟩
  | failed => exact nomatch hnone
  | kept h _ ih =>
    obtain ⟨hnode, hnodes⟩ := List.forall_mem_cons.mp hsound
    obtain ⟨hfirst, hothers⟩ := List.forall_mem_cons.mp hwelcome
    rw [answers_append] at hsame
    cases h' with
    | failed h' =>
      rw [← List.append_nil (answers course')] at hsame
      cases h' with
      | unheard h' => exact nomatch (h.observes.1.replay h' hsame).2.1
      | refused h' hn =>
        obtain rfl := Except.ok.inj (h.observes.1.replay h' hsame).2.1
        exact absurd hfirst.accepts hn
    | kept h' rest' =>
      rw [answers_append] at hsame
      obtain ⟨rfl, hsame', hsame⟩ := h.observes.1.replay h'.observes.1 hsame
      obtain rfl := Except.ok.inj hsame'
      -- the store welcomes the other nodes after the first one too
      obtain ⟨rfl, rfl, rfl⟩ := ih rest' (fun node hmem => (hothers node hmem).keep hnode.inRange)
        hnodes hsame hnone
      exact ⟨rfl, rfl, rfl⟩

/-- Two rounds with the same answers are one, if the store of the second accepts the nodes of the
first. -/
theorem Round.replay (h : m.Round store course clients nodes none)
    (h' : m.Round store' course' clients' nodes' fault?)
    (hwelcome : ∀ node ∈ nodes, store'.Welcomes node) (hsound : ∀ node ∈ nodes, node.Sound)
    (hsame : Compatible (answers course') (answers course)) :
    course' = course ∧ clients' = clients ∧ nodes' = nodes ∧ fault? = none := by
  cases h with
  | surveyed hinventory hs =>
    cases h' with
    | failed hfault =>
      obtain ⟨rfl, -⟩ := compatible_cons.mp hsame
      exact nomatch hfault.symm.trans hinventory
    | surveyed hinventory' hs' =>
      obtain ⟨rfl, hlater⟩ := compatible_cons.mp hsame
      obtain rfl := Except.ok.inj (hinventory'.symm.trans hinventory)
      -- the inventory is the same text, so the same clients are surveyed
      obtain ⟨rfl, rfl, rfl⟩ := hs.replay hs' hwelcome hsound hlater
      exact ⟨rfl, rfl, rfl, rfl⟩

/-- Answers are what hosts say. -/
theorem answers_remotely (past : List Exchange) : answers (remotely past) = answers past := by
  rw [answers, remotely, List.filterMap_filter]
  refine List.filterMap_congr fun exchange _ => ?_
  -- an answer to a command is one of a host
  obtain ⟨action, reply⟩ := exchange
  cases action <;> rfl

/-- A round without a failure, whose answers are given again to the store that it leaves, is the
same round. -/
theorem Round.again {store : Store}
    (h : m.Round store (remotely past) clients nodes none) (hfits : store.nodes.Fits)
    (h' : m.Round { store with nodes := store.nodes.keepAll nodes } (remotely past') clients' nodes'
      fault?)
    (hsame : Compatible (answers past') (answers past)) :
    remotely past' = remotely past ∧ clients' = clients ∧ nodes' = nodes ∧ fault? = none := by
  have hsound := h.sound hfits
  rw [← answers_remotely past', ← answers_remotely past] at hsame
  exact h.replay h' (h.welcomes hsound) hsound hsame

end Monitor

open Monitor

/-- An update that is given the answers of the one before it is the same round, and goes well. -/
theorem Tasks.Run.round_again {m : Monitor} {shared after : Shared} {clients : List Client}
    {nodes : List Node} {past : List Exchange} {report : RefreshReport}
    {happenings : List Happening} {tasks : Tasks (Outcome RefreshReport)}
    {outcome : Outcome RefreshReport}
    (hround : m.Round shared.store (remotely past) clients nodes none)
    (hafter : after = shared.refreshed nodes (.ok report)) (hfits : shared.store.nodes.Fits)
    (hfree : shared.refreshers = [])
    (run : Tasks.Run ⟨after, [m.update.run]⟩ happenings tasks)
    (hsame : Compatible (answers (Tasks.own 0 happenings)) (answers past))
    (hdone : tasks.programs = [.done outcome]) :
    remotely (Tasks.own 0 happenings) = remotely past ∧
      tasks.shared.store.nodes = (shared.store.nodes.keepAll nodes).keepAll nodes ∧
      ∃ now, outcome = .ok (reportOf (shared.store.nodes.keepAll nodes) clients nodes now) := by
  subst hafter
  obtain ⟨clients', nodes', fault?, hround', hreports, hstate⟩ := run.round hfree hdone
  -- the rows of the first round are those that the second begins with
  obtain ⟨hcourse, rfl, rfl, rfl⟩ := hround.again hfits hround' hsame
  cases hreports with
  | completed now => exact ⟨hcourse, by rw [hstate]; rfl, now, rfl⟩

/-- An update that is given the answers of the one before it goes well too. It writes nothing
exactly when nodes with one address were observed with the same amounts, and never changes what the
node table shows. -/
theorem update_again {m : Monitor} {shared : Shared} {first second : List Happening}
    {between after : Tasks (Outcome RefreshReport)} {report : RefreshReport}
    (run : Tasks.Run ⟨shared, [m.update.run]⟩ first between)
    (hpossible : shared.store.nodes.Possible) (hfree : shared.refreshers = [])
    (hdone : between.programs = [.done (.ok report)])
    (again : Tasks.Run ⟨between.shared, [m.update.run]⟩ second after)
    (hsame : answers (Tasks.own 0 second) <+: answers (Tasks.own 0 first)) :
    (∃ clients, m.RefreshCourse (remotely (Tasks.own 0 first)) clients report.nodes none) ∧
    (∃ rest last report', Tasks.Run after rest last ∧ last.programs = [.done (.ok report')] ∧
      answers (Tasks.own 0 (second ++ rest)) = answers (Tasks.own 0 first)) ∧
    ∀ outcome, after.programs = [.done outcome] → ∃ report', outcome = .ok report' ∧
      report'.nodes = report.nodes ∧
      (report'.writes = 0 ∧ after.shared.store.nodes = between.shared.store.nodes ↔
        ∀ a ∈ report.nodes, ∀ b ∈ report.nodes, a.address = b.address → a.gauges = b.gauges) ∧
      ((report.nodes.map (·.address)).Nodup →
        report'.writes = 0 ∧ after.shared.store.nodes = between.shared.store.nodes) ∧
      after.shared.store.nodes.map (·.shown) = between.shared.store.nodes.map (·.shown) := by
  -- the first update ended well, so its round went through all nodes
  obtain ⟨clients, nodes, fault?, hround, hreports, hbetween⟩ := run.round hfree hdone
  cases hreports with
  | completed now =>
    have hfits := hpossible.shownFits
    refine ⟨⟨clients, hround.refreshCourse⟩, ?_, fun outcome hdone' => ?_⟩
    · -- what is left of the second update is given what is left of the answers
      obtain ⟨script, hscript⟩ := hsame
      have hfree' : between.shared.refreshers = [] := by
        rw [hbetween]
        exact hfree
      obtain ⟨rest, last, outcome, hrest, hlast, hanswers⟩ :=
        (again.alone (update_round hfree')).ends_with script
      have hsame' : Compatible (answers (Tasks.own 0 (second ++ rest)))
          (answers (Tasks.own 0 first)) := by
        rw [Tasks.own_append, answers_append, ← hscript]
        exact hanswers.imp (List.prefix_append_right_inj _).mpr (List.prefix_append_right_inj _).mpr
      -- with all answers used up, the two rounds have done the same
      obtain ⟨hcourse, -, now', rfl⟩ :=
        Tasks.Run.round_again hround hbetween hfits hfree (again.append hrest) hsame' hlast
      refine ⟨rest, last, _, hrest, hlast, ?_⟩
      rw [← answers_remotely, hcourse, answers_remotely]
    · -- an update that has ended keeps the nodes of the first one again
      obtain ⟨-, hnodes, now', rfl⟩ :=
        Tasks.Run.round_again hround hbetween hfits hfree again (Or.inl hsame) hdone'
      have hkept : between.shared.store.nodes = shared.store.nodes.keepAll nodes := by
        rw [hbetween]
        rfl
      -- so the question is what keeping the same nodes twice changes
      have hagain := NodeTable.keepAll_again_iff shared.store.nodes nodes
      rw [hnodes, hkept]
      refine ⟨_, rfl, rfl, hagain, fun hd => hagain.mpr ?_,
        NodeTable.map_shown_again hpossible.distinct nodes⟩
      -- where addresses are distinct, two nodes at one address are one node
      intro a ha b hb hab
      rw [List.inj_on_of_nodup_map hd ha hb hab]

/-- A node that is listed with other processors the second time is written by every update, and
shown with the same amounts after each. -/
theorem update_again_sample :
    Sample.updated.2.programs = [.done (.ok Sample.doubledReport)] ∧
      ∃ second after report,
        Tasks.Run ⟨Sample.updated.2.shared, [Sample.controller.monitor.update.run]⟩ second after ∧
        after.programs = [.done (.ok report)] ∧
        answers (Tasks.own 0 second) = answers (Tasks.own 0 Sample.updated.1) ∧
        ¬ (report.writes = 0 ∧ after.shared.store.nodes = Sample.updated.2.shared.store.nodes) ∧
        after.shared.store.nodes.map (·.shown) =
          Sample.updated.2.shared.store.nodes.map (·.shown) := by
  have hpossible : Sample.updating.shared.store.nodes.Possible := ⟨by decide, by decide⟩
  -- an update that has not begun can go on with the answers of the one before
  obtain ⟨-, ⟨second, after, report, hsecond, hdone, hanswers⟩, -⟩ :=
    update_again Sample.updated_run hpossible rfl Sample.updated_done (.stop _) List.nil_prefix
  obtain ⟨-, -, hends⟩ := update_again Sample.updated_run hpossible rfl Sample.updated_done hsecond
    (hanswers ▸ List.prefix_rfl)
  obtain ⟨_, hok, -, hwrites, -, hshown⟩ := hends _ hdone
  obtain rfl := Except.ok.inj hok
  refine ⟨Sample.updated_done, second, after, report, hsecond, hdone, hanswers, ?_, hshown⟩
  rw [hwrites]
  decide

end VparFleet
