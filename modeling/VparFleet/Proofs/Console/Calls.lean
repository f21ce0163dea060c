import Mathlib.Data.List.Chain
import VparFleet.Proofs.Program.Reaches
import VparFleet.Proofs.Provisioning.NetworkBoot

/-!
# Calls of a firmware console

A console is driven by any number of calls: conversations, each with a plan of its own, and
closings. A conversation is made of parts, one for each stage that is left. A part is a list of
sends and waits; when all of them went well the next stage is entered, and otherwise the stage
stays.

* `FirmwareConsole.turnsFrom`: the sends and waits of each part.
* `drive_eq_parts`: a conversation is its parts, in the order of the stages.
* `Climb`: how far a conversation comes, and which stages it enters.
* `run_refused`: a conversation does nothing in any stage but the first.
* `session_never_replayed`: all calls of a console, with any answers.
-/

namespace VparFleet

/-! ## Answers of programs -/

namespace Program

variable {α : Type} {p : Program α} {goal : List Exchange → α → Prop} {course : List Exchange}
  {a : α}

/-- What holds of every course holds of one that is known. -/
theorem Leads.of_reaches (h : p.Leads goal) (hr : p.Reaches course (done a)) : goal course a := by
  generalize hend : done a = q at hr
  induction hr generalizing goal with
  | here p =>
    subst hend
    exact h
  | step _ ih => exact ih (h _) hend

theorem leads_reaches (p : Program α) : p.Leads fun course a => p.Reaches course (done a) := by
  induction p with
  | done a => exact .here _
  | act action next ih => exact fun reply => (ih reply).mono fun course a h => .step h

end Program

/-! ## Parts of a conversation -/

namespace ConsoleStage

/-- The stage after a stage. -/
def next? : ConsoleStage → Option ConsoleStage
  | connected => some loggedIn
  | loggedIn => some attached
  | attached => some writable
  | writable => some configured
  | configured => some booting
  | booting => none

/-- Whether a stage comes right after another one. -/
def Precedes (stage next : ConsoleStage) : Prop :=
  stage.next? = some next

/-- Stages one after the other, from the first one on, are the first of all stages. -/
theorem isPrefix_of_isChain {entered : List ConsoleStage}
    (h : (connected :: entered).IsChain Precedes) : connected :: entered <+: all := by
  -- the stages from any one on, so that the induction is on those that are left
  have hgo (stage : ConsoleStage) (h : (stage :: entered).IsChain Precedes) :
      stage :: entered <+: all.dropWhile (· != stage) := by
    clear * - h
    induction entered generalizing stage with
    | nil => cases stage <;> decide
    | cons next rest ih =>
      obtain ⟨hnext, hrest⟩ := List.isChain_cons_cons.mp h
      have hlater := ih next hrest
      have hstage : all.dropWhile (· != stage) = stage :: all.dropWhile (· != next) := by
        cases stage <;> cases hnext <;> rfl
      rw [hstage]
      exact List.cons_prefix_cons.mpr ⟨rfl, hlater⟩
  exact hgo connected h

theorem ne_connected_of_precedes {stage next : ConsoleStage} (h : stage.Precedes next) :
    next ≠ connected := by
  rintro rfl
  cases stage <;> exact nomatch h

end ConsoleStage

/-- A send or a wait. -/
inductive Turn where
  | send (bytes : List UInt8)
  | wait (limit : Span)

namespace FirmwareConsole

open ConsoleStage

variable (c : FirmwareConsole) (plan : BootPlan)

/-- The action of a turn. -/
def action : Turn → Action
  | .send bytes => .send c.console bytes
  | .wait limit => .waitForPrompt c.console c.prompt limit

/-- Takes a turn, and gives what was shown last. -/
def take (shown : List Char) : Turn → Dialogue (List Char)
  | .send bytes => do
    ask (.perform (.send c.console bytes))
    return shown
  | .wait limit => c.waitForPrompt limit

/-- The sends and waits between a stage and the next one. What the selection of the console has
shown says whether write access is asked for. -/
def turnsFrom (shown : List Char) : ConsoleStage → List Turn
  | .connected => [.wait c.step]
  | .loggedIn => [.send (Text.Utf8.encode (plan.attachLine ++ "\n")), .wait c.step,
      .send (Text.Utf8.encode ("CO" ++ "\r")), .wait c.step]
  | .attached =>
    if isReadOnly shown then
      [.send writeAccessKeys, .send (Text.Utf8.encode ("" ++ "\r")), .wait c.step]
    else []
  | .writable => [.send (Text.Utf8.encode (plan.networkLine ++ "\r")), .wait c.step,
      .send (Text.Utf8.encode (plan.bootFileLine ++ "\r")), .wait c.step]
  | .configured => [.send (Text.Utf8.encode (plan.bootLine ++ "\r")), .wait c.boot]
  | .booting => []

/-- The part of a conversation that leaves a stage. -/
def part (shown : List Char) (stage : ConsoleStage) : Dialogue (List Char) := do
  require stage
  let shown ← (c.turnsFrom plan shown stage).foldlM c.take shown
  set (stage.next?.getD stage)
  return shown

/-- Write access is asked for where the turns say so. -/
theorem ensureWritable_eq_part (banner : List Char) :
    c.ensureWritable banner = (do
      let _ ← c.part plan banner .attached
      return ()) := by
  cases hbanner : isReadOnly banner <;>
    simp [ensureWritable, part, turnsFrom, take, sendKeys, sendConsoleLine, next?, hbanner]

/-- A conversation is its parts, in the order of the stages. -/
theorem drive_eq_parts :
    c.drive plan = (do
      let _ ← [connected, loggedIn, attached, writable, configured].foldlM (c.part plan) []
      get) := by
  simp only [drive, login, attach, configure, bootFromNetwork, c.ensureWritable_eq_part plan, part,
    turnsFrom, take, sendShellLine, sendConsoleLine, next?, Option.getD_some, List.foldlM_cons,
    List.foldlM_nil, bind_assoc, pure_bind]

/-! ## How a conversation goes -/

/-- Whether a turn was taken, and with which fault if any. -/
def Gets (turn : Turn) (exchange : Exchange) (fault? : Option Fault) : Prop :=
  exchange.action = c.action turn ∧ exchange.turnFault? = fault?

/-- Whether turns were taken in their order, up to the first that ended with a fault. -/
inductive Taken : List Turn → List Exchange → Option Fault → Prop where
  | nil : Taken [] [] none
  | failed {turn : Turn} {turns : List Turn} {exchange : Exchange} {fault : Fault}
      (h : c.Gets turn exchange (some fault)) : Taken (turn :: turns) [exchange] (some fault)
  | passed {turn : Turn} {turns : List Turn} {exchange : Exchange} {talk : List Exchange}
      {fault? : Option Fault} (h : c.Gets turn exchange none) (rest : Taken turns talk fault?) :
    Taken (turn :: turns) (exchange :: talk) fault?

/-- How a conversation goes on from a stage: a part of it takes all its turns and enters the next
stage, or it ends with the first fault of a turn and leaves the stage as it is. -/
inductive Climb : List Char → ConsoleStage → List Exchange → List ConsoleStage → Option Fault →
    Prop where
  | top (shown : List Char) : Climb shown .booting [] [] none
  | stuck {shown : List Char} {stage : ConsoleStage} {talk : List Exchange} {fault : Fault}
      (h : (StateT.run (ExceptT.run (c.part plan shown stage)) stage).Reaches talk
        (.done (.error fault, stage)))
      (ht : c.Taken (c.turnsFrom plan shown stage) talk (some fault)) :
    Climb shown stage talk [] (some fault)
  | up {shown shown' : List Char} {stage next : ConsoleStage} {talk more : List Exchange}
      {entered : List ConsoleStage} {fault? : Option Fault}
      (h : (StateT.run (ExceptT.run (c.part plan shown stage)) stage).Reaches talk
        (.done (.ok shown', next)))
      (ht : c.Taken (c.turnsFrom plan shown stage) talk none) (hn : stage.Precedes next)
      (rest : Climb shown' next more entered fault?) :
    Climb shown stage (talk ++ more) (next :: entered) fault?

variable {shown : List Char} {stage last : ConsoleStage} {talk : List Exchange}
  {entered : List ConsoleStage} {fault? : Option Fault}

/-- A turn is one exchange, and it changes no stage. -/
theorem take_leads (turn : Turn) :
    (StateT.run (ExceptT.run (c.take shown turn)) stage).Leads fun talk result =>
      result.2 = stage ∧
        ∃ exchange, talk = [exchange] ∧ c.Gets turn exchange (Outcome.fault? result.1) := by
  cases turn with
  | send bytes =>
    intro reply
    rcases reply with fault | done
    · exact ⟨rfl, _, rfl, rfl, rfl⟩
    · exact ⟨rfl, _, rfl, rfl, rfl⟩
  | wait limit =>
    intro reply
    rcases reply with fault | text
    · exact ⟨rfl, _, rfl, rfl, rfl⟩
    · exact ⟨rfl, _, rfl, rfl, rfl⟩

/-- Turns leave the stage as it is. -/
theorem turns_lead (turns : List Turn) :
    (StateT.run (ExceptT.run (turns.foldlM c.take shown)) stage).Leads fun talk result =>
      result.2 = stage ∧ c.Taken turns talk (Outcome.fault? result.1) := by
  induction turns generalizing shown with
  | nil => exact ⟨rfl, .nil⟩
  | cons turn turns ih =>
    rw [List.foldlM_cons]
    refine Dialogue.leads_andThen (c.take_leads turn) ?_ ?_
    · rintro _ shown' _ ⟨rfl, exchange, rfl, hgets⟩
      exact ih.mono fun more result h => ⟨h.1, .passed hgets h.2⟩
    · rintro _ fault _ ⟨rfl, exchange, rfl, hgets⟩
      exact ⟨rfl, .failed hgets⟩

/-- A part takes its turns. If all go well, the next stage is entered. -/
theorem part_leads :
    (StateT.run (ExceptT.run (c.part plan shown stage)) stage).Leads fun talk result =>
      c.Taken (c.turnsFrom plan shown stage) talk (Outcome.fault? result.1) ∧
        (∀ fault, result.1 = .error fault → result.2 = stage) ∧
        ∀ shown', result.1 = .ok shown' → result.2 = stage.next?.getD stage := by
  have hrequire : (StateT.run (ExceptT.run (require stage)) stage).Leads fun talk result =>
      talk = [] ∧ result.1 = .ok () ∧ result.2 = stage := by
    cases stage <;> exact ⟨rfl, rfl, rfl⟩
  -- a part first looks at the stage, which it finds as it is, and then takes its turns
  refine Dialogue.leads_andThen hrequire ?_ ?_
  · rintro _ _ now ⟨rfl, -, hnow⟩
    obtain rfl : now = stage := hnow
    refine Dialogue.leads_andThen (c.turns_lead (c.turnsFrom plan shown now)) ?_ ?_
    · rintro talk shown' _ ⟨-, htaken⟩
      rw [← List.append_nil talk] at htaken
      exact ⟨htaken, nofun, fun _ _ => rfl⟩
    · rintro talk fault now' ⟨hnow', htaken⟩
      exact ⟨htaken, fun _ _ => hnow', nofun⟩
  · rintro _ fault _ ⟨-, hok, -⟩
    exact nomatch hok

/-- The parts from a stage on. -/
theorem parts_lead {stages : List ConsoleStage} (h : (stages ++ [booting]).IsChain Precedes)
    (hs : (stages ++ [booting]).head? = some stage) :
    (StateT.run (ExceptT.run (stages.foldlM (c.part plan) shown)) stage).Leads fun talk result =>
      ∃ entered, c.Climb plan shown stage talk entered (Outcome.fault? result.1) ∧
        (stage :: entered).getLast? = some result.2 := by
  -- by induction on the parts that are left; the next one begins at the stage that the last one
  -- entered
  induction stages generalizing shown stage with
  | nil =>
    obtain rfl : booting = stage := Option.some.inj hs
    exact ⟨[], .top shown, rfl⟩
  | cons first stages ih =>
    obtain rfl : first = stage := Option.some.inj hs
    obtain ⟨next, rest, hnext⟩ : ∃ next rest, stages ++ [booting] = next :: rest :=
      List.exists_cons_of_ne_nil (by simp)
    rw [List.cons_append, hnext, List.isChain_cons_cons] at h
    rw [List.foldlM_cons]
    refine Dialogue.leads_andThen (Program.leads_reaches _) ?_ ?_
    · intro talk shown' reached hreached
      obtain ⟨htaken, -, hmoved⟩ := (c.part_leads plan).of_reaches hreached
      have hnow : reached = first.next?.getD first := hmoved shown' rfl
      rw [show first.next? = some next from h.1, Option.getD_some] at hnow
      subst hnow
      refine (ih (hnext ▸ h.2) (by rw [hnext]; rfl)).mono ?_
      rintro more result ⟨entered, hclimb, hlast⟩
      exact ⟨reached :: entered, .up hreached htaken h.1 hclimb, hlast⟩
    · -- a part that fails leaves the stage, and the climb is stuck there
      intro talk fault reached hreached
      obtain ⟨htaken, hstayed, -⟩ := (c.part_leads plan).of_reaches hreached
      obtain rfl : reached = first := hstayed fault rfl
      exact ⟨[], .stuck hreached htaken, rfl⟩

/-- A whole conversation climbs from the first stage on. -/
theorem run_leads :
    (c.run plan .connected).Leads fun talk result => ∃ entered,
      c.Climb plan [] .connected talk entered (Outcome.fault? result.1) ∧
        (.connected :: entered).getLast? = some result.2 ∧
        ∀ stage, result.1 = .ok stage → stage = result.2 := by
  have hstages : ([connected, loggedIn, attached, writable, configured] ++ [booting]).IsChain
      Precedes := by
    simp [Precedes, next?]
  -- a whole call is its parts in their order
  rw [run, drive_eq_parts]
  refine Dialogue.leads_andThen (c.parts_lead plan hstages rfl) ?_ ?_
  · rintro talk shown' reached ⟨entered, hclimb, hlast⟩
    rw [← List.append_nil talk] at hclimb
    exact ⟨entered, hclimb, hlast, fun _ h => (Except.ok.inj h).symm⟩
  · rintro talk fault reached ⟨entered, hclimb, hlast⟩
    exact ⟨entered, hclimb, hlast, nofun⟩

namespace Climb

variable {c plan}

/-- The stages are entered one after the other, and none is left out. -/
theorem isChain (h : c.Climb plan shown stage talk entered fault?) :
    (stage :: entered).IsChain Precedes := by
  induction h with
  | top => exact .singleton _
  | stuck => exact .singleton _
  | up _ _ hn _ ih => exact List.isChain_cons_cons.mpr ⟨hn, ih⟩

/-- A conversation without a fault comes to the last stage. -/
theorem getLast?_eq (h : c.Climb plan shown stage talk entered none) :
    (stage :: entered).getLast? = some .booting := by
  generalize hnone : (none : Option Fault) = ending at h
  induction h with
  | top => rfl
  | stuck => exact nomatch hnone
  | up _ _ _ _ ih => exact ih hnone

end Climb

end FirmwareConsole

/-! ## Calls -/

/-- A call of a console. -/
inductive ConsoleCall where
  /-- A whole conversation. -/
  | run (plan : BootPlan)
  | close

/-- What a call gives. -/
def ConsoleCall.Result : ConsoleCall → Type
  | run _ => ConsoleStage
  | close => Unit

/-- A call that has come to its end. -/
structure ConsoleEvent where
  call : ConsoleCall
  /-- The stage in which the console was called. -/
  before : ConsoleStage
  /-- All that was sent, received or closed. -/
  talk : List Exchange
  outcome : Outcome call.Result
  /-- The stage that the console was left in. -/
  after : ConsoleStage

/-- Whether a call has sent anything. -/
def ConsoleEvent.Sends (event : ConsoleEvent) : Prop :=
  ∃ exchange ∈ event.talk, exchange.action.sent? ≠ none

namespace FirmwareConsole

open ConsoleStage

variable (c : FirmwareConsole) {plan : BootPlan} {before after last : ConsoleStage}
  {call : ConsoleCall} {outcome : Outcome call.Result} {talk : List Exchange}
  {events : List ConsoleEvent}

/-- What a call does in a stage; its outcome comes with the stage after it. -/
def serve (stage : ConsoleStage) : (call : ConsoleCall) →
    Program (Outcome call.Result × ConsoleStage)
  | .run plan => c.run plan stage
  | .close => do
    let outcome ← c.close
    return (outcome, stage)

/-- Calls one after the other, from a stage to a stage, with any answers. -/
inductive Session : ConsoleStage → List ConsoleEvent → ConsoleStage → Prop where
  | nil (stage : ConsoleStage) : Session stage [] stage
  | cons {call : ConsoleCall} {before after last : ConsoleStage} {talk : List Exchange}
      {outcome : Outcome call.Result} {events : List ConsoleEvent}
      (h : (c.serve before call).Reaches talk (.done (outcome, after)))
      (rest : Session after events last) :
    Session before (⟨call, before, talk, outcome, after⟩ :: events) last

/-- What calls come to, with the stages that they enter. -/
inductive Goes : ConsoleEvent → List ConsoleStage → Prop where
  /-- A console is closed in any stage, and stays in it. -/
  | closed {stage : ConsoleStage} {outcome : Outcome Unit} :
    Goes ⟨.close, stage, [⟨.closeConsole c.console, outcome⟩], outcome, stage⟩ []
  /-- In a later stage nothing is said. -/
  | refused {plan : BootPlan} {stage : ConsoleStage} (h : stage ≠ .connected) :
    Goes ⟨.run plan, stage, [], .error ⟨.protocol,
      s!"console step expects state connected, current state is {stage.name}"⟩, stage⟩ []
  /-- A conversation that fails leaves the console in the last stage that it has entered. -/
  | failed {plan : BootPlan} {talk : List Exchange} {entered : List ConsoleStage} {fault : Fault}
      {after : ConsoleStage} (h : c.Climb plan [] .connected talk entered (some fault))
      (hl : (.connected :: entered).getLast? = some after) :
    Goes ⟨.run plan, .connected, talk, .error fault, after⟩ entered
  /-- A conversation without a fault boots the partition. -/
  | booted {plan : BootPlan} {talk : List Exchange} {entered : List ConsoleStage}
      (h : c.Climb plan [] .connected talk entered none) :
    Goes ⟨.run plan, .connected, talk, .ok ConsoleStage.booting, .booting⟩ entered

variable {c}

/-- A console that is past its first stage is not driven again. -/
theorem run_refused (h : before ≠ .connected) :
    c.run plan before = .done (.error ⟨.protocol,
      s!"console step expects state connected, current state is {before.name}"⟩, before) := by
  cases before with
  | connected => exact absurd rfl h
  | _ => rfl

/-- Every call is one of these, and the stages that it enters lead from the one before it to the one
after it. -/
theorem exists_goes (h : (c.serve before call).Reaches talk (.done (outcome, after))) :
    ∃ entered, c.Goes ⟨call, before, talk, outcome, after⟩ entered ∧
      (before :: entered).IsChain Precedes ∧ (before :: entered).getLast? = some after := by
  cases call with
  | close =>
    have hclose : (c.serve before .close).Leads fun talk result =>
        talk = [⟨.closeConsole c.console, result.1⟩] ∧ result.2 = before :=
      fun _ => ⟨rfl, rfl⟩
    obtain ⟨rfl, rfl⟩ := hclose.of_reaches h
    exact ⟨[], .closed, .singleton _, rfl⟩
  | run plan =>
    rw [serve] at h
    by_cases hb : before = .connected
    · subst hb
      obtain ⟨entered, hclimb, hlast, hok⟩ := (c.run_leads plan).of_reaches h
      refine ⟨entered, ?_, hclimb.isChain, hlast⟩
      cases outcome with
      | error fault => exact .failed hclimb hlast
      | ok stage =>
        -- the last stage has been entered, and is told
        obtain rfl : stage = after := hok stage rfl
        obtain rfl : booting = stage := Option.some.inj (hclimb.getLast?_eq.symm.trans hlast)
        exact .booted hclimb
    · rw [run_refused hb] at h
      cases h
      exact ⟨[], .refused hb, .singleton _, rfl⟩

/-- The stages that the calls of a session enter lead from its first stage to its last. -/
theorem Session.exists_entered (h : c.Session before events last) :
    ∃ trails, List.Forall₂ c.Goes events trails ∧
      (before :: trails.flatten).IsChain Precedes ∧
      (before :: trails.flatten).getLast? = some last := by
  induction h with
  | nil stage => exact ⟨[], .nil, .singleton _, rfl⟩
  | cons hcall _ ih =>
    obtain ⟨entered, hgoes, hchain, hlast⟩ := exists_goes hcall
    obtain ⟨trails, hrest, hchain', hlast'⟩ := ih
    -- the stage after the call is the last of its own stages, and the first of the later ones
    obtain ⟨earlier, hearlier⟩ := List.getLast?_eq_some_iff.mp hlast
    refine ⟨entered :: trails, .cons hgoes hrest, ?_⟩
    rw [List.flatten_cons, ← List.cons_append, hearlier]
    rw [hearlier] at hchain
    refine ⟨hchain.append_overlap hchain' (List.cons_ne_nil _ _), ?_⟩
    rw [List.append_assoc, List.singleton_append, List.getLast?_append_of_ne_nil _
      (List.cons_ne_nil _ _), hlast']

/-! ## Nothing is sent twice -/

/-- A climb never comes back to the first stage. -/
theorem ne_connected_of_isChain {stage : ConsoleStage} {entered : List ConsoleStage}
    (h : (stage :: entered).IsChain Precedes) : ∀ next ∈ entered, next ≠ connected := by
  induction entered generalizing stage with
  | nil => exact List.forall_mem_nil _
  | cons next entered ih =>
    obtain ⟨hnext, hrest⟩ := List.isChain_cons_cons.mp h
    exact List.forall_mem_cons.mpr ⟨ne_connected_of_precedes hnext, ih hrest⟩

/-- Only the wait for the shell comes before the second stage, so a call that has sent anything has
entered that stage. -/
theorem Goes.entered_ne_nil {event : ConsoleEvent} {entered : List ConsoleStage}
    (h : c.Goes event entered) (hs : event.Sends) : entered ≠ [] := by
  obtain ⟨exchange, hmem, hsent⟩ := hs
  cases h with
  | closed =>
    obtain rfl := List.mem_singleton.mp hmem
    exact absurd rfl hsent
  | refused => exact absurd hmem List.not_mem_nil
  | failed hclimb =>
    -- the first part is a single wait, so a climb that sent something has entered a stage
    cases hclimb with
    | up => exact List.cons_ne_nil _ _
    | stuck _ ht =>
      cases ht with
      | passed _ rest => cases rest
      | failed hgets =>
        obtain rfl := List.mem_singleton.mp hmem
        rw [hgets.1] at hsent
        exact absurd rfl hsent
  | booted hclimb =>
    cases hclimb with
    | up => exact List.cons_ne_nil _ _

/-- In a later stage no call sends anything. -/
theorem Session.silent (h : c.Session before events last) (hb : before ≠ connected) :
    ∀ event ∈ events, ¬event.Sends := by
  induction h with
  | nil => exact List.forall_mem_nil _
  | cons hcall _ ih =>
    obtain ⟨entered, hgoes, hchain, hlast⟩ := exists_goes hcall
    -- no stage is entered, so nothing was sent and the stage is the one before
    obtain rfl : entered = [] := by
      cases hgoes with
      | closed => rfl
      | refused => rfl
      | failed => exact absurd rfl hb
      | booted => exact absurd rfl hb
    obtain rfl := Option.some.inj hlast
    exact List.forall_mem_cons.mpr ⟨fun hs => hgoes.entered_ne_nil hs rfl, ih hb⟩

/-- After a call that has sent anything, no call sends anything. -/
theorem Session.silent_after {early late : List ConsoleEvent} {event : ConsoleEvent}
    (h : c.Session before (early ++ event :: late) last) (hs : event.Sends) :
    ∀ other ∈ late, ¬other.Sends := by
  induction early generalizing before with
  | nil =>
    cases h with
    | cons hcall rest =>
      obtain ⟨entered, hgoes, hchain, hlast⟩ := exists_goes hcall
      -- the call has left the first stage, and only there would another one do anything
      refine rest.silent ?_
      rw [List.getLast?_cons_of_ne_nil (hgoes.entered_ne_nil hs)] at hlast
      exact ne_connected_of_isChain hchain _ (List.mem_of_getLast? hlast)
  | cons first early ih =>
    cases h with
    | cons _ rest => exact ih rest

/-- However often and with whatever plans a console is called, and whatever it answers: each call is
a closing, which leaves the stage as it is, a conversation in a later stage, which is refused
without a word, or a conversation from the first stage on. The stages that are entered by all calls
together are the first of all stages, in their order; a conversation that fails leaves the console
in the last stage all of whose turns went well, and only one that comes to the end succeeds. Once a
call has sent anything, no later call does. -/
theorem session_never_replayed (h : c.Session connected events last) :
    (∃ trails, List.Forall₂ c.Goes events trails ∧ connected :: trails.flatten <+: all ∧
      (connected :: trails.flatten).getLast? = some last) ∧
    ∀ early event late, events = early ++ event :: late → event.Sends →
      ∀ other ∈ late, ¬other.Sends := by
  obtain ⟨trails, hgoes, hchain, hlast⟩ := h.exists_entered
  refine ⟨⟨trails, hgoes, isPrefix_of_isChain hchain, hlast⟩, ?_⟩
  rintro early event late rfl hs
  exact h.silent_after hs

namespace Sample

/-- The first console of all. -/
def console : FirmwareConsole := ⟨0, .empty, .ofSeconds 10, .ofSeconds 60⟩

/-- How a console answers that hangs up. -/
def hangUp : Fault := ⟨.connectivity, "Channel send error"⟩

/-- A conversation that is cut off at its first line. -/
def cutOff : ConsoleEvent where
  call := .run VparFleet.Sample.bootPlan
  before := .connected
  talk := [⟨.waitForPrompt 0 .empty (.ofSeconds 10), .ok []⟩,
    ⟨.send 0 (Text.Utf8.encode (VparFleet.Sample.bootPlan.attachLine ++ "\n")), .error hangUp⟩]
  outcome := .error hangUp
  after := .loggedIn

/-- A second conversation with the same console. -/
def repeated : ConsoleEvent where
  call := .run VparFleet.Sample.bootPlan
  before := .loggedIn
  talk := []
  outcome := .error ⟨.protocol, "console step expects state connected, current state is logged_in"⟩
  after := .loggedIn

/-- The end. -/
def closing : ConsoleEvent where
  call := .close
  before := .loggedIn
  talk := [⟨.closeConsole 0, .ok ()⟩]
  outcome := .ok ()
  after := .loggedIn

end Sample

/-- The line that was cut off is not sent again. -/
theorem session_never_replayed_sample :
    Sample.console.Session connected [Sample.cutOff, Sample.repeated, Sample.closing] loggedIn ∧
    (∃ trails, List.Forall₂ Sample.console.Goes [Sample.cutOff, Sample.repeated, Sample.closing]
      trails ∧ connected :: trails.flatten <+: all ∧
      (connected :: trails.flatten).getLast? = some loggedIn) ∧
    Sample.cutOff.Sends ∧ ¬Sample.repeated.Sends := by
  have hsession : Sample.console.Session connected
      [Sample.cutOff, Sample.repeated, Sample.closing] loggedIn :=
    .cons (.step (.step (.here _))) (.cons (.here _) (.cons (.step (.here _)) (.nil _)))
  have hsends : Sample.cutOff.Sends := ⟨_, List.mem_cons_of_mem _ List.mem_cons_self, nofun⟩
  obtain ⟨hstages, hsilent⟩ := session_never_replayed hsession
  refine ⟨hsession, hstages, hsends, ?_⟩
  exact hsilent [] Sample.cutOff [Sample.repeated, Sample.closing] rfl hsends _ List.mem_cons_self

end FirmwareConsole

end VparFleet
