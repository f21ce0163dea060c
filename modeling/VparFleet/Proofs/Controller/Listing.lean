import VparFleet.Proofs.Controller.RemovalCourse
import VparFleet.Proofs.Controller.Serving
import VparFleet.Proofs.Report.Table
import VparFleet.Proofs.Store.Registry

/-!
# Listing the fleet

What runs in the fleet is asked of its nodes every time: of all that are registered, one after the
other, up to the first that does not answer. Where nodes answer with printed tables, what is listed
are the names in the rows of partitions that are up.

* `Asks`: the questions about what runs.
* `Run.shared_of_uses`: tasks that only look leave everything shared as it is.
* `ScanCourse.printed`: what is read from printed tables.
* `listing_exact`: every question that is asked alone.
-/

namespace VparFleet

open Program

/-- The questions about what runs, and their answers from the names of all running partitions. -/
inductive Asks : {α : Type} → Operation α → (List String → α) → Prop where
  /-- All names. -/
  | list : Asks Controller.list id
  /-- Their number. -/
  | count : Asks Controller.count List.length
  /-- Whether one of them is this. -/
  | exists? (name : String) : Asks (Controller.exists? name) fun names => decide (name ∈ names)

variable {α : Type} {op : Operation α} {answer : List String → α}

/-- All three questions ask for the list first. -/
theorem Asks.eq_listed (h : Asks op answer) :
    op = (Controller.list >>= fun names => pure (answer names)) := by
  cases h with
  | list => exact (bind_pure _).symm
  | count => rfl
  | exists? name =>
    have hmem (names : List String) : decide (name ∈ names) = names.contains name := by simp
    simp only [hmem]
    rfl

theorem Asks.uses (h : Asks op answer) : op.run.Uses Controller.IsScan := by
  rw [h.eq_listed]
  exact Controller.list_uses.andThen fun _ => uses_done

/-! ## Looking changes nothing -/

/-- Tasks whose actions change nothing that is shared leave it as it is. -/
theorem Tasks.Run.shared_of_uses {start tasks : Tasks α} {happenings : List Happening}
    {allowed : Action → Prop} (run : Run start happenings tasks)
    (hu : ∀ p ∈ start.programs, p.Uses allowed)
    (hkeep : ∀ action, allowed action → ∀ (shared : Shared) task,
      shared.answer task action = .outside ∨
        ∃ reply, shared.answer task action = .reply reply shared) :
    tasks.shared = start.shared := by
  -- along the run the programs stay within what they may use
  have hinvariant := run.invariant
    (fun _ tasks => tasks.shared = start.shared ∧ ∀ p ∈ tasks.programs, p.Uses allowed)
    ⟨rfl, hu⟩ ?_
  · exact hinvariant.1
  rintro past tasks happening next - ⟨hshared, hall⟩ hs
  have hnext {i : Nat} {p : Program α} (hp : p.Uses allowed) :
      ∀ q ∈ tasks.programs.set i p, q.Uses allowed := by
    intro q hq
    rcases List.mem_or_eq_of_mem_set hq with hq | rfl
    · exact hall q hq
    · exact hp
  cases hs with
  | @inside i action k reply shared hp ha =>
    have huses := hall _ (List.mem_of_getElem? hp)
    refine ⟨?_, hnext (huses.2 reply)⟩
    rcases hkeep action huses.1 tasks.shared i with hout | ⟨reply', hreply⟩
    · exact nomatch ha.symm.trans hout
    · injection ha.symm.trans hreply with _ heq
      exact heq.trans hshared
  | @outside i action k reply hp ha =>
    have huses := hall _ (List.mem_of_getElem? hp)
    exact ⟨hshared, hnext (huses.2 reply)⟩
  | @wait i action k shared hp ha =>
    have huses := hall _ (List.mem_of_getElem? hp)
    rcases hkeep action huses.1 tasks.shared i with hout | ⟨reply', hreply⟩
    · exact nomatch ha.symm.trans hout
    · exact nomatch ha.symm.trans hreply

/-- A search lists nodes and asks hosts, and neither changes anything. -/
theorem Controller.IsScan.keeps {action : Action} (h : Controller.IsScan action) (shared : Shared)
    (task : Nat) :
    shared.answer task action = .outside ∨
      ∃ reply, shared.answer task action = .reply reply shared := by
  rcases h with rfl | ⟨host, rfl⟩
  · exact Or.inr ⟨_, shared.answer_listNodes task⟩
  · exact Or.inl rfl

/-! ## What is read -/

/-- The query of a node, and the table that it answered with. -/
def queried (tables : Node → Report.PrintedTable) (node : Node) : Exchange :=
  ⟨.run node.address "/opt/hpvm/bin/vparstatus", .ok (String.ofList (tables node).text)⟩

/-- Where nodes answer with printed tables, a search ends with the names in the rows of partitions
that are up, or with the fault of the first node that does not answer; and no other one is asked
then. -/
theorem ScanCourse.printed {nodes : List Node} {scan : List Exchange}
    {outcome : Outcome (List String)} {tables : Node → Report.PrintedTable}
    (h : ScanCourse nodes scan outcome)
    (hprinted : ∀ node ∈ nodes, ∀ output,
      ⟨.run node.address "/opt/hpvm/bin/vparstatus", .ok output⟩ ∈ scan →
        output.toList = (tables node).text) :
    (scan = nodes.map (queried tables) ∧
        outcome = .ok (nodes.flatMap fun node => (tables node).upNames)) ∨
      ∃ before node after fault, nodes = before ++ node :: after ∧
        scan = before.map (queried tables) ++
          [⟨.run node.address "/opt/hpvm/bin/vparstatus", .error fault⟩] ∧
        outcome = .error fault := by
  induction h with
  | nil => exact Or.inl ⟨rfl, rfl⟩
  | @failed node nodes fault => exact Or.inr ⟨[], node, nodes, fault, rfl, rfl, rfl⟩
  | @cons node nodes output scan outcome hrest ih =>
    have houtput : output = String.ofList (tables node).text := by
      rw [← hprinted node List.mem_cons_self output List.mem_cons_self, String.ofList_toList]
    subst houtput
    rw [String.toList_ofList, Report.PrintedTable.runningNames_text]
    -- the rest of the scan is a scan of the other nodes
    have hmore := ih fun other hother output hmem =>
      hprinted other (List.mem_cons_of_mem node hother) output (List.mem_cons_of_mem _ hmem)
    rcases hmore with ⟨rfl, rfl⟩ | ⟨before, failing, after, fault, rfl, rfl, rfl⟩
    · exact Or.inl ⟨rfl, rfl⟩
    · exact Or.inr ⟨node :: before, failing, after, fault, rfl, rfl, rfl⟩

/-- Every question about what runs that is asked alone, and whatever the nodes answer, changes
nothing and comes to an end. It asks the registered nodes in their order. If all of them answer with
printed tables, it is answered from the names in the rows of partitions that are up, in the order of
nodes and rows and with repetitions; and these are the rows of running partitions. Otherwise it
fails as the first node that does not answer, and asks no other one. -/
theorem listing_exact {shared : Shared} {happenings : List Happening}
    {tasks : Tasks (Outcome α)} {registry : Registry} {tables : Node → Report.PrintedTable}
    (hasks : Asks op answer) (run : Tasks.Run ⟨shared, [op.run]⟩ happenings tasks)
    (hopen : shared.store.isOpen = true) (hrows : shared.store.nodes = registry.rows)
    (hprinted : ∀ node ∈ registry.nodes, ∀ output,
      ⟨.run node.address "/opt/hpvm/bin/vparstatus", .ok output⟩ ∈ Tasks.own 0 happenings →
        output.toList = (tables node).text) :
    tasks.shared = shared ∧
    (∃ rest last outcome, Tasks.Run tasks rest last ∧ last.programs = [.done outcome]) ∧
    (∀ node, ∀ row ∈ (tables node).rows,
      (PowerState.ofRunState row.runState = .running ↔ row.runState = "UP") ∧
      ((PowerState.ofRunState row.runState).isRunning = true ↔ row.runState = "UP")) ∧
    ∀ outcome, tasks.programs = [.done outcome] →
      (Tasks.own 0 happenings =
          ⟨.listNodes, .ok registry.nodes⟩ :: registry.nodes.map (queried tables) ∧
        outcome = .ok (answer (registry.nodes.flatMap fun node => (tables node).upNames))) ∨
      ∃ before node after fault, registry.nodes = before ++ node :: after ∧
        Tasks.own 0 happenings = ⟨.listNodes, .ok registry.nodes⟩ :: before.map (queried tables) ++
          [⟨.run node.address "/opt/hpvm/bin/vparstatus", .error fault⟩] ∧
        outcome = .error fault := by
  have hnodes := Registry.nodesAnswer_eq hopen hrows
  have hlonely := run.alone (hasks.eq_listed ▸ listed_alone answer)
  refine ⟨?_, hlonely.ends, fun node row hrow => ?_, fun outcome hdone => ?_⟩
  · have huses : ∀ p ∈ [op.run], p.Uses Controller.IsScan :=
      List.forall_mem_singleton.mpr hasks.uses
    exact run.shared_of_uses huses fun action h => h.keeps
  · rw [← Report.PrintedTable.read_text] at hrow
    have hrunning := Report.ofRunState_eq_running_iff hrow
    exact ⟨hrunning, (Report.isRunning_ofRunState_iff _).trans hrunning⟩
  · obtain ⟨-, hcourse⟩ := hlonely.goal_of_done hdone
    rcases hcourse with ⟨fault, hfault, -⟩ | ⟨nodes, scan, found, hfound, hown, hscan, rfl⟩
    · exact nomatch hnodes.symm.trans hfault
    -- the registry is readable, so these are its nodes
    obtain rfl := Except.ok.inj (hnodes.symm.trans hfound)
    rw [List.nil_append] at hown
    have hread := hscan.printed fun node hnode output hmem =>
      hprinted node hnode output (hown ▸ List.mem_cons_of_mem _ hmem)
    rcases hread with ⟨rfl, rfl⟩ | ⟨before, node, after, fault, hsplit, rfl, rfl⟩
    · exact Or.inl ⟨hown, rfl⟩
    · exact Or.inr ⟨before, node, after, fault, hsplit, hown, rfl⟩

namespace Sample

open Report

/-- The node of the small fleet. -/
def registry : Registry where
  nodes := [⟨"10.0.0.11", none, "rx2800", 8, 0, 65536, 0, 500, 0⟩]
  distinct := by decide
  storable := by
    refine List.forall_mem_singleton.mpr ⟨by decide, by decide, by decide, by decide⟩
  inRange := by
    refine List.forall_mem_singleton.mpr ⟨?_, ?_, ?_, ?_, ?_, ?_⟩ <;> decide

/-- A number of blanks. -/
def blanks (n : Nat) : Padding where
  chars := List.replicate n ' '
  blank c hc := by
    rw [List.eq_of_mem_replicate hc]
    decide
  inLine h := absurd (List.eq_of_mem_replicate h) (by decide)

/-- A field of a text in which no blank is found. -/
def field (text : String) (hne : text ≠ "") (h : text.toList.all (!Text.isBlank ·) = true) :
    SolidField where
  text := text
  ne_empty := hne
  solid := by simpa using h

/-- The table that its node answers with. -/
def statusTable : PrintedTable where
  ended := [
    (.other {
      chars := "Num Name RunState State".toList
      inLine := by decide
      unnumbered := by
        intro word hword n hn hnumeral
        obtain rfl : "Num".toList = word := Option.some.inj hword
        have hread := Text.Decimal.read?_eq_some_iff.mpr ⟨hnumeral, hn⟩
        exact nomatch hread }, .lineFeed),
    (.row {
      num := 1
      inRange := by decide
      numeral := ['1']
      writes := ⟨['1'], Or.inl rfl, by decide, List.forall_mem_singleton.mpr rfl, rfl⟩
      name := field "web" (by decide) (by decide)
      runState := field "UP" (by decide) (by decide)
      state := field "Active" (by decide) (by decide)
      before := blanks 2
      afterNum := ⟨blanks 1, by decide⟩
      afterName := ⟨blanks 1, by decide⟩
      afterRunState := ⟨blanks 1, by decide⟩
      after := blanks 0 }, .lineFeed)]
  last := none

end Sample

/-- The small fleet is asked what it runs. -/
theorem listing_exact_sample :
    let alone : Tasks (Outcome (List String)) := ⟨.ofStore Sample.store, [Controller.list.run]⟩
    (alone.goOn Sample.hosts 0).2.programs = [.done (.ok ["web"])] ∧
    Tasks.own 0 (alone.goOn Sample.hosts 0).1 = ⟨.listNodes, .ok Sample.registry.nodes⟩ ::
      Sample.registry.nodes.map (queried fun _ => Sample.statusTable) := by
  intro alone
  have hdone : (alone.goOn Sample.hosts 0).2.programs = [.done (.ok ["web"])] :=
    Program.eq_done_of_results (by decide +kernel)
  have hprinted : ∀ node ∈ Sample.registry.nodes, ∀ output,
      ⟨.run node.address "/opt/hpvm/bin/vparstatus", .ok output⟩ ∈
        Tasks.own 0 (alone.goOn Sample.hosts 0).1 →
      output.toList = Sample.statusTable.text := by
    intro node _ output hmem
    -- these hosts print one table, whatever node they are asked on
    have hhosts := Tasks.goOn_outside Sample.hosts 0 (Tasks.mem_of_mem_own hmem) fun _ => rfl
    obtain rfl := Except.ok.inj (Option.some.inj hhosts)
    decide +kernel
  have hrows : alone.shared.store.nodes = Sample.registry.rows := rfl
  obtain ⟨-, -, -, hends⟩ :=
    listing_exact .list (Tasks.goOn_run Sample.hosts 0 alone) rfl hrows hprinted
  rcases hends _ hdone with ⟨hown, -⟩ | ⟨_, _, _, fault, -, -, hfault⟩
  · exact ⟨hdone, hown⟩
  · exact nomatch hfault

end VparFleet
