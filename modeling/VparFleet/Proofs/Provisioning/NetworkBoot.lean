import Mathlib.Data.List.Chain
import VparFleet.Proofs.Provisioning.ProvisionOutcome

/-!
# What a network boot does on a console

A console is driven by sends and waits in turn. A line is sent only when the prompt that answers the
one before has been seen; the first turn that fails is the last, and the fault names the stage that
was complete by then. Whatever happens, an opened console is closed once, at the end.

* `isReadOnly_iff`: when a console is taken to be read only.
* `Passage.split`: what a passage has done before any of its exchanges.
* `FirmwareConsole.turns_chain`: which turn follows which.
* `BootTalk`: what is done on an open console, and what comes of it.
* `networkBoot_prompt_gated`: every network boot, in any company and with any answers.
-/

namespace VparFleet

/-! ## Reading a dialogue -/

/-- The bytes of a send. -/
def Action.sent? : Action → Option (List UInt8)
  | .send _ bytes => some bytes
  | _ => none

/-- What a wait for the prompt was answered with. -/
def Exchange.shown? : Exchange → Option (Outcome (List Char))
  | ⟨.waitForPrompt _ _ _, reply⟩ => some reply
  | _ => none

/-- The fault that a send or a wait ended with. -/
def Exchange.turnFault? : Exchange → Option Fault
  | ⟨.send _ _, reply⟩ => Outcome.fault? reply
  | ⟨.waitForPrompt _ _ _, reply⟩ => Outcome.fault? reply
  | _ => none

/-- Whether the banner of a console that takes no input stands within the last 70 characters. -/
def EndsReadOnly (output : List Char) : Prop :=
  ∃ before after, output = before ++ "Read only".toList ++ after ∧
    "Read only".length + after.length ≤ 70

/-- What is looked for in the last 70 characters is the banner. -/
theorem isReadOnly_iff {output : List Char} :
    isReadOnly output = true ↔ EndsReadOnly output := by
  have hbanner : "Read only" = readOnlyBanner := rfl
  have hwindow : 70 = bannerWindow := rfl
  rw [isReadOnly, Text.occurs_iff, Text.lastChars, EndsReadOnly, hbanner, hwindow]
  constructor
  · rintro ⟨before, after, hwindow⟩
    -- what the window cuts off goes in front of what is before the banner in it
    have hsplit := List.take_append_drop (output.length - bannerWindow) output
    rw [← hwindow] at hsplit
    have hlength := congrArg List.length hwindow
    simp only [List.length_append, List.length_drop, String.length_toList] at hlength
    refine ⟨output.take (output.length - bannerWindow) ++ before, after, ?_, by omega⟩
    simp only [List.append_assoc] at hsplit ⊢
    exact hsplit.symm
  · rintro ⟨before, after, rfl, hlength⟩
    -- the window begins before the banner, so only a part of what is before it is cut off
    have hcut : (before ++ readOnlyBanner.toList ++ after).length - bannerWindow ≤
        before.length := by
      simp only [List.length_append, String.length_toList]
      omega
    rw [List.append_assoc] at hcut ⊢
    rw [List.drop_append_of_le_length hcut, ← List.append_assoc]
    exact ⟨_, after, rfl⟩

namespace BootPlan

/-- The keys that ask for write access: Control-E, `c`, `f`. -/
def accessKeys : List UInt8 := [0x05, 0x63, 0x66]

/-- All that a network boot sends, where a console that takes no input is first asked to. -/
def lines (plan : BootPlan) (readOnly : Bool) : List (List UInt8) :=
  let ⟨partition, server, client, gateway, netmask, bootFile, profile⟩ := plan
  [Text.Utf8.encode s!"/opt/hpvm/bin/vparconsole -P {partition}\n", Text.Utf8.encode "CO\r"] ++
    (if readOnly then [accessKeys, Text.Utf8.encode "\r"] else []) ++
    [Text.Utf8.encode (s!"dbprofile -dn {profile} -sip {server} -cip {client} -gip {gateway}"
        ++ s!" -m {netmask}" ++ "\r"),
      Text.Utf8.encode (s!"dbprofile -dn {profile} -b \"{bootFile}\"" ++ "\r"),
      Text.Utf8.encode s!"lanboot select -index 01 -dn {profile}\r"]

end BootPlan

namespace ConsoleStage

/-- All stages, in their order. -/
def all : List ConsoleStage :=
  [connected, loggedIn, attached, writable, configured, booting]

/-- How many sends and waits have to go well before a stage is reached. -/
def turnsNeeded (readOnly : Bool) : ConsoleStage → Nat
  | connected => 0
  | loggedIn => 1
  | attached => 5
  | writable => if readOnly then 8 else 5
  | configured => if readOnly then 12 else 9
  | booting => if readOnly then 14 else 11

/-- The last stage that is complete after so many turns. -/
def after (readOnly : Bool) (turns : Nat) : ConsoleStage :=
  (all.filter fun stage => stage.turnsNeeded readOnly ≤ turns).getLastD connected

end ConsoleStage

/-! ## Passages and their turns -/

/-- A passage begins at the first checkpoint: it ends there, or goes on to the next one. -/
theorem Passage.first {point : Checkpoint} {points : List Checkpoint} {course : List Exchange}
    {fault? : Option Fault} (h : Passage (point :: points) course fault?) :
    (∃ reply cause, point.flaw? reply = some cause ∧ course = [⟨point.action, reply⟩] ∧
      fault? = some (cause.atSteps point.names)) ∨
    ∃ reply rest, point.flaw? reply = none ∧ point.tells reply ∧
      course = ⟨point.action, reply⟩ :: rest ∧ Passage points rest fault? := by
  cases h with
  | @failed _ _ reply cause hf => exact Or.inl ⟨reply, cause, hf, rfl, rfl⟩
  | @passed _ _ reply rest _ hf ht hrest => exact Or.inr ⟨reply, rest, hf, ht, rfl, hrest⟩

/-- What has been done before an exchange is a passed checkpoint each, and the exchange is the next
one. -/
theorem Passage.split {points : List Checkpoint} {course before after : List Exchange}
    {exchange : Exchange} {fault? : Option Fault} (h : Passage points course fault?)
    (hcourse : course = before ++ exchange :: after) :
    ∃ passed point left, points = passed ++ point :: left ∧
      List.Forall₂ Checkpoint.Passed passed before ∧
      Passage (point :: left) (exchange :: after) fault? := by
  induction h generalizing before with
  | nil => exact absurd hcourse (by simp)
  | @failed point points reply fault hf =>
    -- a failure is the only exchange left, so nothing is before it
    obtain ⟨rfl, hrest⟩ := List.append_eq_singleton_iff.mp hcourse.symm |>.resolve_right (by simp)
    obtain ⟨rfl, rfl⟩ := List.cons.inj hrest
    exact ⟨[], point, points, rfl, .nil, .failed hf⟩
  | @passed point points reply course fault? hf ht rest ih =>
    cases before with
    | nil =>
      obtain ⟨rfl, rfl⟩ := List.cons.inj hcourse
      exact ⟨[], point, points, rfl, .nil, .passed hf ht rest⟩
    | cons first before =>
      obtain ⟨rfl, hrest⟩ := List.cons.inj hcourse
      obtain ⟨passed, next, left, rfl, hpassed, hpassage⟩ := ih hrest
      exact ⟨point :: passed, next, left, rfl, .cons ⟨reply, rfl, hf, ht⟩ hpassed, hpassage⟩

namespace FirmwareConsole

variable (c : FirmwareConsole) (plan : BootPlan) (readOnly : Bool)

/-- A turn is answered well exactly when its answer is no fault. -/
theorem turns_flaw? :
    ∀ point ∈ c.turns plan readOnly, ∀ reply,
      point.flaw? reply = Exchange.turnFault? ⟨point.action, reply⟩ := by
  have hasks (stage : ConsoleStage) (line : String) (limit : Span) :
      ∀ point ∈ c.asks stage line limit, ∀ reply,
        point.flaw? reply = Exchange.turnFault? ⟨point.action, reply⟩ := by
    intro point hpoint
    rcases List.mem_pair.mp hpoint with rfl | rfl
    · exact fun _ => rfl
    · exact fun _ => rfl
  -- all turns are sends and waits, so this is looked at turn by turn
  simp only [turns, loginTurns, attachTurns, configureTurns, bootTurns, List.forall_mem_append,
    List.forall_mem_cons]
  refine ⟨⟨fun _ => rfl, List.forall_mem_nil _⟩,
    ⟨hasks _ _ _, fun _ => rfl, fun _ => rfl, List.forall_mem_nil _⟩, ?_,
    ⟨hasks _ _ _, hasks _ _ _⟩, hasks _ _ _⟩
  cases readOnly with
  | false => exact List.forall_mem_nil _
  | true => exact List.forall_mem_cons.mpr ⟨fun _ => rfl, hasks _ _ _⟩

/-- The sends among the turns are the lines of the plan. -/
theorem turns_sent :
    (c.turns plan readOnly).filterMap (·.action.sent?) = plan.lines readOnly := by
  cases readOnly <;> rfl

/-- The turns are named after the stage that is complete before them. -/
theorem turns_names :
    (c.turns plan readOnly).map (·.names) =
      (List.range (c.turns plan readOnly).length).map fun n =>
        [(ConsoleStage.after readOnly n).label] := by
  cases readOnly <;> rfl

/-- A send comes after a wait, but for the empty line after the keys for write access. -/
def Follows (first second : Action) : Prop :=
  ∀ bytes, second = .send c.console bytes →
    (∃ limit, first = .waitForPrompt c.console c.prompt limit) ∨
      first = .send c.console BootPlan.accessKeys ∧ bytes = Text.Utf8.encode "\r"

/-- All turns follow each other so. -/
theorem turns_chain :
    ((c.turns plan readOnly).map (·.action)).IsChain c.Follows := by
  -- a wait may come before and after anything, so only the keys are a case of their own
  have hwait (limit : Span) (second : Action) :
      c.Follows (.waitForPrompt c.console c.prompt limit) second :=
    fun _ _ => Or.inl ⟨limit, rfl⟩
  have hprompt (first : Action) (limit : Span) :
      c.Follows first (.waitForPrompt c.console c.prompt limit) :=
    fun _ => nofun
  have hkeys : c.Follows (.send c.console writeAccessKeys)
      (.send c.console (Text.Utf8.encode "\r")) :=
    fun _ heq => Or.inr ⟨rfl, (Action.send.inj heq).2.symm⟩
  cases readOnly with
  | false => simp [turns, loginTurns, attachTurns, accessTurns, configureTurns, bootTurns, asks,
      sends, waits, hwait, hprompt]
  | true => simp [turns, loginTurns, attachTurns, accessTurns, configureTurns, bootTurns, asks,
      sends, waits, hwait, hprompt, hkeys]

end FirmwareConsole

/-! ## The dialogue on an open console -/

/-- What is done on an open console during a network boot, and what comes of it. -/
structure BootTalk (c : FirmwareConsole) (plan : BootPlan) (readOnly : Bool) (talk : List Exchange)
    (outcome : Outcome ConsoleStage) : Prop where
  /-- Nothing is done but sends and waits for the prompt. -/
  talks : ∀ exchange ∈ talk, c.Talks exchange.action
  /-- What is sent are the first lines of the plan. -/
  sent : talk.filterMap (·.action.sent?) <+: plan.lines readOnly
  /-- Write access is asked for if what the third wait showed says that it is needed. -/
  access : ∀ banner, (talk.filterMap Exchange.shown?)[2]? = some (.ok banner) →
    (readOnly = true ↔ EndsReadOnly banner)
  /-- A send comes right after a prompt was found, but for the empty line after the keys. -/
  gated : ∀ before bytes reply after, talk = before ++ ⟨.send c.console bytes, reply⟩ :: after →
    (∃ limit text, before.getLast? = some ⟨.waitForPrompt c.console c.prompt limit, .ok text⟩) ∨
      before.getLast? = some ⟨.send c.console BootPlan.accessKeys, .ok ()⟩ ∧
        bytes = Text.Utf8.encode "\r"
  /-- Nothing comes after a turn that failed. -/
  stops : ∀ before exchange after, talk = before ++ exchange :: after →
    exchange.turnFault? ≠ none → after = []
  /-- The partition boots exactly when no turn failed. -/
  booted : outcome = .ok .booting ↔ ∀ exchange ∈ talk, exchange.turnFault? = none
  /-- Then all lines were sent. -/
  complete : outcome = .ok .booting → talk.filterMap (·.action.sent?) = plan.lines readOnly
  /-- Otherwise the fault is that of the failed turn, and names the last stage that was complete. -/
  fault : ∀ before exchange cause, talk = before ++ [exchange] →
    exchange.turnFault? = some cause →
    outcome = .error ⟨cause.kind,
      (ConsoleStage.after readOnly before.length).label ++ ": " ++ cause.detail⟩

theorem Outcome.fault?_eq_none_iff {α : Type} {outcome : Outcome α} :
    Outcome.fault? outcome = none ↔ ∃ a, outcome = .ok a := by
  cases outcome <;> simp

theorem Outcome.fault?_eq_some_iff {α : Type} {outcome : Outcome α} {fault : Fault} :
    Outcome.fault? outcome = some fault ↔ outcome = .error fault := by
  cases outcome <;> simp

namespace BootTalk

variable {c : FirmwareConsole} {plan : BootPlan} {readOnly : Bool} {talk : List Exchange}
  {fault? : Option Fault} {outcome : Outcome ConsoleStage}

/-- The third text that is shown is the one that `CO` brings up. -/
theorem access_of_passage (h : Passage (c.turns plan readOnly) talk fault?) {banner : List Char}
    (hshown : (talk.filterMap Exchange.shown?)[2]? = some (.ok banner)) :
    readOnly = true ↔ EndsReadOnly banner := by
  -- a passage that ends before the wait after `CO` has not shown so much
  rcases h.first with ⟨_, _, -, rfl, -⟩ | ⟨shell, rest, -, -, rfl, h1⟩
  · exact nomatch hshown
  rcases h1.first with ⟨_, _, -, rfl, -⟩ | ⟨attached, rest, -, -, rfl, h2⟩
  · exact nomatch hshown
  rcases h2.first with ⟨_, _, -, rfl, -⟩ | ⟨prompt, rest, -, -, rfl, h3⟩
  · exact nomatch hshown
  rcases h3.first with ⟨_, _, -, rfl, -⟩ | ⟨selected, rest, -, -, rfl, h4⟩
  · exact nomatch hshown
  rcases h4.first with ⟨reply, _, hf, rfl, -⟩ | ⟨reply, rest, -, ht, rfl, -⟩
  · -- a wait that failed has shown nothing
    obtain rfl : reply = .ok banner := Option.some.inj hshown
    exact nomatch hf
  · obtain ⟨shown, rfl, hreadOnly⟩ := ht
    obtain rfl : shown = banner := Except.ok.inj (Option.some.inj hshown)
    rw [← hreadOnly, isReadOnly_iff]

/-- The turn before a send is a wait that found its prompt, or the keys. -/
theorem gated_of_passage (h : Passage (c.turns plan readOnly) talk fault?)
    {before after : List Exchange} {bytes : List UInt8} {reply : Outcome Unit}
    (htalk : talk = before ++ ⟨.send c.console bytes, reply⟩ :: after) :
    (∃ limit text, before.getLast? = some ⟨.waitForPrompt c.console c.prompt limit, .ok text⟩) ∨
      before.getLast? = some ⟨.send c.console BootPlan.accessKeys, .ok ()⟩ ∧
        bytes = Text.Utf8.encode "\r" := by
  obtain ⟨passed, point, left, hturns, hpassed, hrest⟩ := h.split htalk
  -- the checkpoint of the exchange is a turn that sends
  have haction : point.action = .send c.console bytes := by
    rcases hrest.first with ⟨reply, cause, -, heq, -⟩ | ⟨reply, rest, -, -, heq, -⟩
    · exact (Exchange.mk.inj (List.cons.inj heq).1).1.symm
    · exact (Exchange.mk.inj (List.cons.inj heq).1).1.symm
  have hchain := c.turns_chain plan readOnly
  rw [hturns, List.map_append, List.map_cons, haction] at hchain
  rcases List.eq_nil_or_concat passed with rfl | ⟨earlier, last, rfl⟩
  · -- the first turn is a wait
    obtain rfl := (List.cons.inj hturns).1
    exact nomatch haction
  -- the turn before was answered well, and it is a wait or the keys
  have hback := List.forall₂_reverse_iff.mpr hpassed
  rw [List.concat_eq_append, List.reverse_concat] at hback
  obtain ⟨_, _, ⟨answer, rfl, hflaw, -⟩, -, hbefore⟩ := List.forall₂_cons_left_iff.mp hback
  have hlast : before.getLast? = some ⟨last.action, answer⟩ := by
    rw [← List.head?_reverse, hbefore]
    rfl
  -- it is one of the turns, so it had no fault
  have hturn : last ∈ c.turns plan readOnly := by
    rw [hturns]
    simp
  rw [c.turns_flaw? plan readOnly last hturn] at hflaw
  have hfollows : c.Follows last.action (.send c.console bytes) :=
    (List.isChain_append.mp hchain).2.2 _ (by simp) _ (by simp)
  obtain ⟨action, names, flaw?, tells⟩ := last
  rcases hfollows bytes rfl with ⟨limit, rfl⟩ | ⟨rfl, hbytes⟩
  · obtain ⟨text, rfl⟩ := Outcome.fault?_eq_none_iff.mp hflaw
    exact Or.inl ⟨limit, text, hlast⟩
  · obtain ⟨⟨⟩, rfl⟩ := Outcome.fault?_eq_none_iff.mp hflaw
    exact Or.inr ⟨hlast, hbytes⟩

/-- The exchanges of a passage before its end went well, and so did the last one if there is no
fault. -/
theorem eq_none_iff_of_passage (h : Passage (c.turns plan readOnly) talk fault?) :
    fault? = none ↔ ∀ exchange ∈ talk, exchange.turnFault? = none := by
  constructor
  · -- without a fault every exchange has passed a turn
    rintro rfl exchange hmem
    obtain ⟨before, after, htalk⟩ := List.append_of_mem hmem
    obtain ⟨passed, point, left, hturns, -, hrest⟩ := h.split htalk
    have hpoint : point ∈ c.turns plan readOnly := by simp [hturns]
    rcases hrest.first with ⟨_, _, -, -, hfault⟩ | ⟨reply, rest, hflaw, -, heq, -⟩
    · exact nomatch hfault
    · rw [(List.cons.inj heq).1, ← c.turns_flaw? plan readOnly point hpoint]
      exact hflaw
  · intro hall
    rcases fault? with _ | fault
    · rfl
    · -- with a fault the last exchange has failed one
      obtain ⟨passed, point, left, reached, reply, cause, hturns, rfl, -, hflaw, -⟩ :=
        h.firstFailure rfl
      have hpoint : point ∈ c.turns plan readOnly := by simp [hturns]
      rw [c.turns_flaw? plan readOnly point hpoint, hall _ (by simp)] at hflaw
      exact nomatch hflaw

/-- A turn with a fault is the last one, and its fault is that of the passage. -/
theorem stops_of_passage (h : Passage (c.turns plan readOnly) talk fault?)
    {before after : List Exchange} {exchange : Exchange} {cause : Fault}
    (htalk : talk = before ++ exchange :: after) (hcause : exchange.turnFault? = some cause) :
    after = [] ∧
      fault? = some (cause.atStep (ConsoleStage.after readOnly before.length).label) := by
  obtain ⟨passed, point, left, hturns, hpassed, hrest⟩ := h.split htalk
  have hpoint : point ∈ c.turns plan readOnly := by simp [hturns]
  rcases hrest.first with ⟨reply, cause', hflaw, heq, rfl⟩ | ⟨reply, rest, hflaw, -, heq, -⟩
  · obtain ⟨rfl, rfl⟩ := List.cons.inj heq
    rw [c.turns_flaw? plan readOnly point hpoint, hcause] at hflaw
    obtain rfl := Option.some.inj hflaw
    -- the name of the turn is the one at its place among all turns
    have hnames : point.names = [(ConsoleStage.after readOnly before.length).label] := by
      have hplace := congrArg (·[passed.length]?) (c.turns_names plan readOnly)
      simpa [hturns, hpassed.length_eq] using hplace
    rw [hnames]
    exact ⟨rfl, rfl⟩
  · -- a turn that was passed has no fault
    obtain ⟨rfl, rfl⟩ := List.cons.inj heq
    rw [c.turns_flaw? plan readOnly point hpoint, hcause] at hflaw
    exact nomatch hflaw

/-- A passage through the turns is such a talk. -/
theorem of_passage (h : Passage (c.turns plan readOnly) talk (Outcome.fault? outcome))
    (hbooting : ∀ stage, outcome = .ok stage → stage = .booting) :
    BootTalk c plan readOnly talk outcome where
  talks exchange hmem := by
    obtain ⟨point, hpoint, haction⟩ := h.exists_point hmem
    rw [haction]
    exact c.turns_talk plan readOnly point hpoint
  sent := c.turns_sent plan readOnly ▸ h.filterMap_isPrefix Action.sent?
  access _ hshown := access_of_passage h hshown
  gated _ _ _ _ htalk := gated_of_passage h htalk
  stops before exchange after htalk hfault := by
    obtain ⟨cause, hcause⟩ := Option.ne_none_iff_exists'.mp hfault
    exact (stops_of_passage h htalk hcause).1
  booted := by
    -- no fault is the same as a stage, and the only stage at the end is that of booting
    rw [← eq_none_iff_of_passage h, Outcome.fault?_eq_none_iff]
    constructor
    · intro hok
      exact ⟨_, hok⟩
    · rintro ⟨stage, rfl⟩
      rw [hbooting stage rfl]
  complete hok := by
    rw [hok] at h
    rw [← c.turns_sent plan readOnly]
    exact h.filterMap_eq Action.sent?
  fault before exchange cause htalk hcause :=
    Outcome.fault?_eq_some_iff.mp (stops_of_passage h htalk hcause).2

end BootTalk

/-! ## Network boots -/

variable {host : String} {plan : BootPlan} {prompt : Pattern} {step boot : Span}
  {start tasks : Tasks (Outcome ConsoleStage)} {happenings : List Happening} {i : Nat}

/-- A network boot that cannot open a console does nothing more; one that can closes it at the end,
once, whatever comes of the talk in between. -/
theorem ConsoleCourse.opened_or_failed {course : List Exchange} {outcome : Outcome ConsoleStage}
    (h : ConsoleCourse host plan prompt step boot course outcome) :
    (∃ fault, course = [⟨.openConsole host, .error fault⟩] ∧ outcome = .error fault) ∨
    ∃ console readOnly talk closing,
      course = ⟨.openConsole host, .ok console⟩ :: talk ++ [⟨.closeConsole console, closing⟩] ∧
      BootTalk ⟨console, prompt, step, boot⟩ plan readOnly talk outcome := by
  obtain ⟨console, readOnly, talk, hpassage, hclosed, hbooting⟩ := h
  -- the opening is the first checkpoint
  rcases hpassage.first with ⟨reply, fault, hflaw, rfl, hfault⟩ | ⟨reply, rest, -, ht, rfl, hrest⟩
  · obtain rfl := Outcome.fault?_eq_some_iff.mp hflaw
    refine Or.inl ⟨fault, ?_, Outcome.fault?_eq_some_iff.mp hfault⟩
    cases hclosed with
    | unopened => rfl
    | opened hopened => exact nomatch (Exchange.mk.inj (List.mem_singleton.mp hopened)).2
  · -- once opened, the turns are what is left of the checkpoints
    obtain rfl : reply = .ok console := ht
    refine Or.inr ⟨console, readOnly, rest, ?_⟩
    cases hclosed with
    | unopened hunopened => exact absurd List.mem_cons_self (hunopened console)
    | opened => exact ⟨_, rfl, .of_passage hrest hbooting⟩

/-- Every network boot, in any company and with any answers, can come to its end. If the console
cannot be opened, nothing else is done. If it can, it is closed at the end, and what is done in
between is a talk in which no line is sent before its prompt is found. -/
theorem networkBoot_prompt_gated (run : Tasks.Run start happenings tasks)
    (hp : start.programs[i]? = some (networkBoot host plan prompt step boot).run) :
    (∃ rest last outcome, Tasks.Run tasks rest last ∧
      last.programs[i]? = some (.done outcome)) ∧
    ∃ more outcome,
      (∀ ended, tasks.programs[i]? = some (.done ended) → more = [] ∧ ended = outcome) ∧
      ((∃ fault, Tasks.own i happenings ++ more = [⟨.openConsole host, .error fault⟩] ∧
          outcome = .error fault) ∨
        ∃ console readOnly talk closing,
          Tasks.own i happenings ++ more = ⟨.openConsole host, .ok console⟩ :: talk ++
            [⟨.closeConsole console, closing⟩] ∧
          BootTalk ⟨console, prompt, step, boot⟩ plan readOnly talk outcome) := by
  -- what is left of it only acts on hosts, so it never has to wait
  obtain ⟨q, hq, hremote⟩ := run.uses hp (networkBoot_uses host plan prompt step boot)
  refine ⟨Tasks.exists_end hq hremote fun action ha shared => shared.answer_remote ha i, ?_⟩
  obtain ⟨more, outcome, hcourse, hended⟩ :=
    run.leads hp (networkBoot_leads host plan prompt step boot)
  exact ⟨more, outcome, hended, hcourse.opened_or_failed⟩

namespace Sample

/-- How hosts answer whose consoles take no input before they are asked to. -/
def readOnlyConsoles : (action : Action) → Option action.Reply
  | .waitForPrompt _ _ _ => some (.ok "\r\n[Read only]\r\n".toList)
  | action => willing action

/-- How a partition of the fleet boots. -/
def bootPlan : BootPlan where
  partition := "web"
  server := "10.0.0.1"
  client := "10.0.1.5"
  gateway := "10.0.1.1"
  netmask := "255.255.255.0"
  bootFile := "boot.efi"
  profile := "web"

/-- One network boot. -/
def booting : Tasks (Outcome ConsoleStage) where
  shared := .ofStore store
  programs := [(networkBoot "10.0.0.11" bootPlan .empty (.ofSeconds 10) (.ofSeconds 60)).run]

end Sample

/-- With such hosts the partition boots, after write access was asked for. -/
theorem networkBoot_prompt_gated_sample :
    (Sample.booting.goOn Sample.readOnlyConsoles 0).2.programs = [.done (.ok .booting)] ∧
    ∃ console talk closing,
      Tasks.own 0 (Sample.booting.goOn Sample.readOnlyConsoles 0).1 =
        ⟨.openConsole "10.0.0.11", .ok console⟩ :: talk ++ [⟨.closeConsole console, closing⟩] ∧
      BootTalk ⟨console, .empty, .ofSeconds 10, .ofSeconds 60⟩ Sample.bootPlan true talk
        (.ok .booting) := by
  have hdone : (Sample.booting.goOn Sample.readOnlyConsoles 0).2.programs =
      [.done (.ok .booting)] := by
    refine Program.eq_done_of_results ?_
    decide +kernel
  refine ⟨hdone, ?_⟩
  obtain ⟨-, more, outcome, hended, hcourse⟩ := networkBoot_prompt_gated
    (Tasks.goOn_run Sample.readOnlyConsoles 0 Sample.booting) (i := 0) rfl
  obtain ⟨rfl, rfl⟩ := hended (.ok .booting) (by rw [hdone]; rfl)
  rw [List.append_nil] at hcourse
  rcases hcourse with ⟨fault, -, hfault⟩ | ⟨console, readOnly, talk, closing, howned, htalk⟩
  · exact nomatch hfault
  -- seven lines are seen in the history, so write access was asked for
  have hseven : ((Tasks.own 0 (Sample.booting.goOn Sample.readOnlyConsoles 0).1).filterMap
      (·.action.sent?)).length = 7 := by decide +kernel
  have hsent : (Sample.bootPlan.lines readOnly).length = 7 := by
    rw [← htalk.complete rfl, ← hseven, howned]
    simp [Action.sent?]
  cases readOnly with
  | false => exact nomatch hsent
  | true => exact ⟨console, talk, closing, howned, htalk⟩

end VparFleet
