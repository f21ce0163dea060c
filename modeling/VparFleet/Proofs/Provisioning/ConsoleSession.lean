import VparFleet.Console.Firmware
import VparFleet.Proofs.Program.Course

/-!
# Console sessions

A network boot opens a console, talks to the firmware in fixed turns, and closes the console. Every
turn is a send or a wait for the prompt; the first that fails is the last. Only what was shown when
the console was selected decides whether write access is asked for.

* `FirmwareConsole.turns`: all turns, each with the stage that a failure leaves the console in.
* `drive_leads`: the conversation takes these turns.
* `ConsoleCourse`, `networkBoot_leads`: all ways through a network boot.
-/

namespace VparFleet

/-- How a failure names the stage that the console stays in. -/
def ConsoleStage.label (stage : ConsoleStage) : String :=
  s!"console at {stage.name}"

/-! ## Turns -/

namespace FirmwareConsole

variable (c : FirmwareConsole) (plan : BootPlan)

/-- A send. -/
def sends (stage : ConsoleStage) (bytes : List UInt8) : Checkpoint where
  action := .send c.console bytes
  names := [stage.label]
  flaw? := Outcome.fault?
  tells _ := True

/-- A wait for the prompt. -/
def waits (stage : ConsoleStage) (limit : Span) (shows : Outcome (List Char) → Prop) :
    Checkpoint where
  action := .waitForPrompt c.console c.prompt limit
  names := [stage.label]
  flaw? := Outcome.fault?
  tells := shows

/-- A line, and the wait for the prompt that answers it. -/
def asks (stage : ConsoleStage) (line : String) (limit : Span) : List Checkpoint :=
  [c.sends stage (Text.Utf8.encode line), c.waits stage limit fun _ => True]

/-- The wait for the shell. -/
def loginTurns : List Checkpoint :=
  [c.waits .connected c.step fun _ => True]

/-- The turns that select the console of the partition, which shows whether it takes input. -/
def attachTurns (readOnly : Bool) : List Checkpoint :=
  c.asks .loggedIn (plan.attachLine ++ "\n") c.step ++
    [c.sends .loggedIn (Text.Utf8.encode ("CO" ++ "\r")),
      c.waits .loggedIn c.step fun shown =>
        ∃ banner, shown = .ok banner ∧ isReadOnly banner = readOnly]

/-- The turns that ask for write access, where that is needed. The keys are not waited for. -/
def accessTurns (readOnly : Bool) : List Checkpoint :=
  if readOnly then c.sends .attached writeAccessKeys :: c.asks .attached ("" ++ "\r") c.step else []

/-- The turns that write the boot profile. -/
def configureTurns : List Checkpoint :=
  c.asks .writable (plan.networkLine ++ "\r") c.step ++
    c.asks .writable (plan.bootFileLine ++ "\r") c.step

/-- The turns that boot from the network. -/
def bootTurns : List Checkpoint :=
  c.asks .configured (plan.bootLine ++ "\r") c.boot

/-- All turns. -/
def turns (readOnly : Bool) : List Checkpoint :=
  c.loginTurns ++ (c.attachTurns plan readOnly ++
    (c.accessTurns readOnly ++ (c.configureTurns plan ++ c.bootTurns plan)))

/-- Whether an action sends to a console or waits for its prompt. -/
def Talks (action : Action) : Prop :=
  (∃ bytes, action = .send c.console bytes) ∨
    ∃ limit, action = .waitForPrompt c.console c.prompt limit

/-- A line and the wait for its answer are talk. -/
theorem asks_talk (stage : ConsoleStage) (text : String) (limit : Span) :
    ∀ point ∈ c.asks stage text limit, c.Talks point.action := by
  intro point hpoint
  rcases List.mem_cons.mp hpoint with rfl | hpoint
  · exact Or.inl ⟨_, rfl⟩
  · rw [List.mem_singleton.mp hpoint]
    exact Or.inr ⟨limit, rfl⟩

/-- All turns are on one console. -/
theorem turns_talk (readOnly : Bool) : ∀ point ∈ c.turns plan readOnly, c.Talks point.action := by
  have hsends (stage : ConsoleStage) (bytes : List UInt8) : c.Talks (c.sends stage bytes).action :=
    Or.inl ⟨bytes, rfl⟩
  have hwaits (stage : ConsoleStage) (limit : Span) (shows : Outcome (List Char) → Prop) :
      c.Talks (c.waits stage limit shows).action :=
    Or.inr ⟨limit, rfl⟩
  -- the turns of all parts but one are there in any case; those of that one are looked at by cases
  simp only [turns, loginTurns, attachTurns, configureTurns, bootTurns, List.forall_mem_append,
    List.forall_mem_cons]
  refine ⟨⟨hwaits _ _ _, nofun⟩, ⟨c.asks_talk _ _ _, hsends _ _, hwaits _ _ _, nofun⟩, ?_,
    ⟨c.asks_talk _ _ _, c.asks_talk _ _ _⟩, c.asks_talk _ _ _⟩
  cases readOnly with
  | false => exact nofun
  | true => exact List.forall_mem_cons.mpr ⟨hsends _ _, c.asks_talk _ _ _⟩

end FirmwareConsole

/-! ## Dialogues -/

namespace Dialogue

variable {α β : Type} {points points' : List Checkpoint} {stage : ConsoleStage}
  {post : α → ConsoleStage → Prop} {post' : β → ConsoleStage → Prop}

/-- The fault of a dialogue, under the name of the stage that it has come to. -/
def fault? (result : Outcome α × ConsoleStage) : Option Fault :=
  Outcome.fault? (result.1.atStep result.2.label)

/-- Whatever the answers are, a dialogue in a stage takes checkpoints, and if all are passed,
something holds of its result and the stage after it. -/
def Takes (points : List Checkpoint) (post : α → ConsoleStage → Prop) (stage : ConsoleStage)
    (dialogue : Dialogue α) : Prop :=
  (StateT.run (ExceptT.run dialogue) stage).Leads fun course result =>
    Passage points course (fault? result) ∧ ∀ a, result.1 = .ok a → post a result.2

/-- A dialogue that fails ends where it failed; one that succeeds goes on in its stage. -/
theorem leads_andThen {dialogue : Dialogue α} {k : α → Dialogue β}
    {mid : List Exchange → Outcome α × ConsoleStage → Prop}
    {goal : List Exchange → Outcome β × ConsoleStage → Prop}
    (h : (StateT.run (ExceptT.run dialogue) stage).Leads mid)
    (hk : ∀ course a stage, mid course (.ok a, stage) →
      (StateT.run (ExceptT.run (k a)) stage).Leads fun course' => goal (course ++ course'))
    (he : ∀ course fault stage, mid course (.error fault, stage) →
      goal course (.error fault, stage)) :
    (StateT.run (ExceptT.run (dialogue >>= k)) stage).Leads goal := by
  rw [ExceptT.run_bind, StateT.run_bind, Program.leads_bind]
  refine h.mono fun course result hm => ?_
  obtain ⟨outcome, stage⟩ := result
  cases outcome with
  | error fault =>
    -- nothing follows a fault, so the course is the one so far
    have hgoal := he course fault stage hm
    rw [← List.append_nil course] at hgoal
    exact hgoal
  | ok a => exact hk course a stage hm

/-- Turns of two dialogues in a row are taken one after the other. -/
theorem Takes.andThen {dialogue : Dialogue α} {k : α → Dialogue β}
    (h : Takes points post stage dialogue)
    (hk : ∀ a stage, post a stage → Takes points' post' stage (k a)) :
    Takes (points ++ points') post' stage (dialogue >>= k) := by
  refine leads_andThen h ?_ ?_
  · rintro course a stage ⟨hpassage, hpost⟩
    refine (hk a stage (hpost a rfl)).mono fun course' result h' => ?_
    exact ⟨hpassage.append h'.1, h'.2⟩
  · rintro course fault stage ⟨hpassage, -⟩
    exact ⟨hpassage.append_failed points', nofun⟩

/-- A stage that is there is required without a word. -/
theorem takes_require (stage : ConsoleStage) :
    Takes [] (fun _ now => now = stage) stage (FirmwareConsole.require stage) := by
  have hrun : StateT.run (ExceptT.run (FirmwareConsole.require stage)) stage
      = .done (.ok (), stage) := by
    -- the stage is compared with itself
    cases stage <;> rfl
  rw [Takes, hrun]
  exact ⟨.nil, fun _ _ => rfl⟩

theorem takes_set (stage next : ConsoleStage) :
    Takes [] (fun _ now => now = next) stage (set next : Dialogue PUnit) :=
  ⟨.nil, fun _ _ => rfl⟩

theorem takes_get (stage : ConsoleStage) :
    Takes [] (fun seen now => seen = stage ∧ now = stage) stage (get : Dialogue ConsoleStage) := by
  refine ⟨.nil, fun seen hseen => ⟨?_, rfl⟩⟩
  exact (Except.ok.inj hseen).symm

/-- An action that may be answered with a fault, as the checkpoint that wants it answered. -/
theorem takes_send (c : FirmwareConsole) (stage : ConsoleStage) (bytes : List UInt8) :
    Takes [c.sends stage bytes] (fun _ now => now = stage) stage
      (FirmwareConsole.ask (.perform (.send c.console bytes))) := by
  intro reply
  rcases reply with fault | done
  · exact ⟨.failed rfl, nofun⟩
  · exact ⟨.passed rfl trivial .nil, fun _ _ => rfl⟩

/-- A wait whose text does not matter, as the checkpoint that wants it answered. -/
theorem takes_wait (c : FirmwareConsole) (stage : ConsoleStage) (limit : Span) :
    Takes [c.waits stage limit fun _ => True] (fun _ now => now = stage) stage
      (c.waitForPrompt limit) := by
  intro reply
  rcases reply with fault | text
  · exact ⟨.failed rfl, nofun⟩
  · exact ⟨.passed rfl trivial .nil, fun _ _ => rfl⟩

end Dialogue

/-! ## The firmware console -/

namespace FirmwareConsole

open Dialogue

variable (c : FirmwareConsole) (plan : BootPlan)

/-- The login waits for the shell, and has come to it then. -/
theorem login_takes :
    Takes c.loginTurns (fun _ stage => stage = .loggedIn) .connected c.login := by
  refine (takes_require .connected).andThen ?_
  rintro - _ rfl
  refine (takes_wait c .connected c.step).andThen ?_
  rintro - _ rfl
  exact takes_set .connected .loggedIn

/-- What is shown last says whether the console takes input. -/
theorem attach_leads :
    (StateT.run (ExceptT.run (c.attach plan)) .loggedIn).Leads fun course result => ∃ readOnly,
      Passage (c.attachTurns plan readOnly) course (fault? result) ∧
        ∀ banner, result.1 = .ok banner → isReadOnly banner = readOnly ∧ result.2 = .attached := by
  -- the line that attaches, and its prompt
  intro reply
  rcases reply with fault | sent
  · exact ⟨false, .failed rfl, nofun⟩
  intro reply
  rcases reply with fault | text
  · exact ⟨false, .passed rfl trivial (.failed rfl), nofun⟩
  -- the line that selects the console, and what that shows
  intro reply
  rcases reply with fault | sent'
  · exact ⟨false, .passed rfl trivial (.passed rfl trivial (.failed rfl)), nofun⟩
  intro reply
  rcases reply with fault | banner
  · refine ⟨false, .passed rfl trivial (.passed rfl trivial (.passed rfl trivial ?_)), nofun⟩
    exact .failed rfl
  · refine ⟨isReadOnly banner, .passed rfl trivial (.passed rfl trivial (.passed rfl trivial ?_)),
      fun shown hshown => ?_⟩
    · exact .passed rfl ⟨banner, rfl, rfl⟩ .nil
    · -- the banner that is given back is the text that was shown
      obtain rfl := Except.ok.inj hshown
      exact ⟨rfl, rfl⟩

/-- Write access is asked for when the banner says that the console only reads. -/
theorem ensureWritable_takes (banner : List Char) :
    Takes (c.accessTurns (isReadOnly banner)) (fun _ stage => stage = .writable) .attached
      (c.ensureWritable banner) := by
  show Takes ([] ++ c.accessTurns (isReadOnly banner)) _ _ _
  refine (takes_require .attached).andThen ?_
  rintro - _ rfl
  -- the code and the turns ask the same question of the banner
  unfold accessTurns
  split
  · refine (takes_send c .attached writeAccessKeys).andThen ?_
    rintro - _ rfl
    refine (takes_send c .attached _).andThen ?_
    rintro - _ rfl
    refine (takes_wait c .attached c.step).andThen ?_
    rintro - _ rfl
    exact takes_set .attached .writable
  · exact takes_set .attached .writable

/-- The boot profile is written in its two lines. -/
theorem configure_takes :
    Takes (c.configureTurns plan) (fun _ stage => stage = .configured) .writable
      (c.configure plan) := by
  refine (takes_require .writable).andThen ?_
  rintro - _ rfl
  refine (takes_send c .writable _).andThen ?_
  rintro - _ rfl
  refine (takes_wait c .writable c.step).andThen ?_
  rintro - _ rfl
  refine (takes_send c .writable _).andThen ?_
  rintro - _ rfl
  refine (takes_wait c .writable c.step).andThen ?_
  rintro - _ rfl
  exact takes_set .writable .configured

/-- The boot is one line, and its prompt is awaited as long as a boot may take. -/
theorem bootFromNetwork_takes :
    Takes (c.bootTurns plan) (fun _ stage => stage = .booting) .configured
      (c.bootFromNetwork plan) := by
  refine (takes_require .configured).andThen ?_
  rintro - _ rfl
  refine (takes_send c .configured _).andThen ?_
  rintro - _ rfl
  refine (takes_wait c .configured c.boot).andThen ?_
  rintro - _ rfl
  exact takes_set .configured .booting

/-- The conversation takes its turns, up to the first that fails. -/
theorem drive_leads :
    (c.run plan .connected).Leads fun talk result => ∃ readOnly,
      Passage (c.turns plan readOnly) talk (fault? result) ∧
        ∀ stage, result.1 = .ok stage → stage = .booting := by
  -- after the banner the turns are known
  have hrest (banner : List Char) :
      Takes (c.accessTurns (isReadOnly banner) ++ (c.configureTurns plan ++ c.bootTurns plan))
        (fun stage _ => stage = .booting) .attached (do
          c.ensureWritable banner
          c.configure plan
          c.bootFromNetwork plan
          get) := by
    refine (c.ensureWritable_takes banner).andThen ?_
    rintro - _ rfl
    refine (c.configure_takes plan).andThen ?_
    rintro - _ rfl
    rw [← List.append_nil (c.bootTurns plan)]
    refine (c.bootFromNetwork_takes plan).andThen ?_
    rintro - _ rfl
    exact (takes_get .booting).mono fun _ _ h => ⟨h.1, fun stage hs => (h.2 stage hs).1⟩
  have hlogin := c.login_takes
  rw [Takes] at hlogin
  refine leads_andThen hlogin ?_ ?_
  · rintro login _ stage ⟨hlogin, hstage⟩
    -- logged in, the console is attached to next
    obtain rfl := hstage () rfl
    refine leads_andThen (c.attach_leads plan) ?_ ?_
    · rintro attach banner stage ⟨readOnly, hattach, hbanner⟩
      -- the banner says which turns are still to come
      obtain ⟨rfl, hstage⟩ := hbanner banner rfl
      obtain rfl : stage = .attached := hstage
      refine (hrest banner).mono fun talk result h => ?_
      exact ⟨isReadOnly banner, hlogin.append (hattach.append h.1), h.2⟩
    · rintro attach fault stage ⟨readOnly, hattach, -⟩
      -- no turn follows a failed one, so those after the banner may be any
      exact ⟨readOnly, hlogin.append (hattach.append_failed _), nofun⟩
  · rintro login fault stage ⟨hlogin, -⟩
    exact ⟨false, hlogin.append_failed _, nofun⟩

end FirmwareConsole

/-! ## Sessions -/

section Session

variable (host : String) (plan : BootPlan) (prompt : Pattern) (step boot : Span)
  (console : ConsoleId)

/-- The opening of a console. -/
def opens : Checkpoint where
  action := .openConsole host
  names := []
  flaw? := Outcome.fault?
  tells reply := reply = .ok console

/-- A network boot: the opening of a console and all turns on it. -/
def bootPoints (readOnly : Bool) : List Checkpoint :=
  opens host console :: FirmwareConsole.turns ⟨console, prompt, step, boot⟩ plan readOnly

/-- A console is closed last, if it was opened; how it answers to that does not matter. -/
inductive Closed (talk : List Exchange) : List Exchange → Prop where
  /-- There is nothing to close. -/
  | unopened (h : ∀ console, ⟨.openConsole host, .ok console⟩ ∉ talk) : Closed talk talk
  /-- The console is closed. -/
  | opened {answer : Outcome Unit} (h : ⟨.openConsole host, .ok console⟩ ∈ talk) :
    Closed talk (talk ++ [⟨.closeConsole console, answer⟩])

variable {host console} in
/-- What was done before without a console does not matter. -/
theorem Closed.prepend {before talk course : List Exchange} (h : Closed host console talk course)
    (hb : ∀ exchange ∈ before, exchange.action ≠ .openConsole host) :
    Closed host console (before ++ talk) (before ++ course) := by
  cases h with
  | unopened h =>
    refine .unopened fun console hmem => ?_
    rcases List.mem_append.mp hmem with hmem | hmem
    · exact hb _ hmem rfl
    · exact h console hmem
  | opened h =>
    rw [← List.append_assoc]
    exact .opened (List.mem_append_right _ h)

/-- Ways through a network boot. -/
def ConsoleCourse (course : List Exchange) (outcome : Outcome ConsoleStage) : Prop :=
  ∃ console readOnly talk,
    Passage (bootPoints host plan prompt step boot console readOnly) talk (Outcome.fault? outcome) ∧
    Closed host console talk course ∧ ∀ stage, outcome = .ok stage → stage = .booting

/-- Every network boot takes one of the ways through it. -/
theorem networkBoot_leads :
    (networkBoot host plan prompt step boot).run.Leads
      (ConsoleCourse host plan prompt step boot) := by
  -- a lifted program cannot fail, so the conversation is always followed by the closing
  have hopened (console : ConsoleId) : (do
      let result ← ExceptT.lift (FirmwareConsole.run ⟨console, prompt, step, boot⟩ plan .connected)
      let _ ← ExceptT.lift (FirmwareConsole.close ⟨console, prompt, step, boot⟩)
      Operation.ofOutcome (result.1.atStep result.2.label) : Operation ConsoleStage).run.Leads
        fun course => ConsoleCourse host plan prompt step boot
          (⟨.openConsole host, .ok console⟩ :: course) := by
    rw [Operation.run_bind, ExceptT.run_lift, bind_map_left, Program.leads_bind]
    refine (FirmwareConsole.drive_leads _ plan).mono fun talk result h closed => ?_
    obtain ⟨readOnly, hpassage, hbooting⟩ := h
    refine ⟨console, readOnly, _, .passed rfl rfl hpassage, .opened List.mem_cons_self, ?_⟩
    intro stage hstage
    -- only a talk without a fault ends in a stage, the one that it came to
    obtain ⟨outcome, reached⟩ := result
    cases outcome with
    | error fault => exact nomatch hstage
    | ok reached =>
      obtain rfl := Except.ok.inj hstage
      exact hbooting reached rfl
  rw [networkBoot, Operation.run_bind, Program.leads_bind]
  intro reply
  rcases reply with fault | console
  · -- a console that was not opened is not closed
    refine ⟨0, false, _, .failed rfl, .unopened fun console hmem => ?_, nofun⟩
    exact nomatch (Exchange.mk.inj (List.mem_singleton.mp hmem)).2
  · exact hopened console

end Session

end VparFleet
