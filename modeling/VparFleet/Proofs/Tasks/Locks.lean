import VparFleet.Proofs.KeyedLock.WholeCalls
import VparFleet.Proofs.Tasks.History

/-!
# Locks on partition names in a run

Which name a task holds can be read from what it has done: the one that it locked last and has not
given back. Whatever the programs are, no two tasks hold one name at the same time.

* `held`: the name that a task holds, read from its history.
* `LocksAgree`: how histories and locks fit together; every step keeps it.
* `Run.held_unique`: no two tasks hold one name.
* `Run.locks_idle`: at the end of all programs that give back what they took, nobody wants a lock.
-/

namespace VparFleet

/-- The name held after one more exchange. -/
def Exchange.holding (before : Option String) (exchange : Exchange) : Option String :=
  match exchange.action with
  | .lockName name => some name
  | .unlockName _ => none
  | _ => before

/-- The name that a task holds: the one that it locked last, unless it has given it back. -/
def held (past : List Exchange) : Option String :=
  past.foldl Exchange.holding none

@[simp] theorem held_nil : held [] = none :=
  rfl

/-- What is held after more exchanges depends on the past only through what was held. -/
theorem held_append (past more : List Exchange) :
    held (past ++ more) = more.foldl Exchange.holding (held past) :=
  List.foldl_append

theorem held_concat (past : List Exchange) (exchange : Exchange) :
    held (past ++ [exchange]) = exchange.holding (held past) :=
  held_append past [exchange]

/-- At the end of a program no name is held. -/
def Program.GivesBack {α : Type} (p : Program α) : Prop :=
  p.Obeys (fun _ _ => True) (fun past _ => held past = none) []

/-- Whether an action has to do with locks on names. -/
def Action.isNameLock : Action → Bool
  | .lockName _ => true
  | .unlockName _ => true
  | _ => false

theorem Exchange.holding_of_not_isNameLock {exchange : Exchange} {before : Option String}
    (h : exchange.action.isNameLock = false) : exchange.holding before = before := by
  obtain ⟨action, reply⟩ := exchange
  cases action <;> first | rfl | exact nomatch h

namespace Shared

variable {shared shared' : Shared} {task : Nat} {name : String}

/-- Actions that have nothing to do with locks on names leave them alone. -/
theorem answer_names {action : Action} {reply : action.Reply}
    (h : shared.answer task action = .reply reply shared') (hl : action.isNameLock = false) :
    shared'.names = shared.names := by
  cases action with
  | lockName name => exact absurd hl (by simp [Action.isNameLock])
  | unlockName name => exact absurd hl (by simp [Action.isNameLock])
  | lockRefresh =>
    rw [answer] at h
    dsimp only at h
    split at h
    · injection h with _ h
      rw [← h]
      rfl
    · exact nomatch h
  | run | openConsole | send | waitForPrompt | closeConsole | pause | clock => exact nomatch h
  | _ =>
    injection h with _ h
    subst h
    rfl

/-- The locks after a task has got in line for a name. -/
def inLine (shared : Shared) (task : Nat) (name : String) : KeyedLock String Nat :=
  if (shared.names.claim? task).isSome then shared.names else shared.names.enter task name

/-- Whoever has its turn gets the lock. -/
theorem lockName_of_turn {names : KeyedLock String Nat}
    (h : (shared.inLine task name).acquireInTurn? task = some names) :
    shared.lockName task name = (true, { shared with names }) := by
  unfold inLine at h
  rw [lockName, h]

theorem lockName_of_no_turn (h : (shared.inLine task name).acquireInTurn? task = none) :
    shared.lockName task name = (false, { shared with names := shared.inLine task name }) := by
  unfold inLine at h ⊢
  rw [lockName, h]

/-- A lock is given to a task whose turn it is. -/
theorem answer_lockName {reply : Unit}
    (h : shared.answer task (.lockName name) = .reply reply shared') :
    (shared.inLine task name).acquireInTurn? task = some shared'.names := by
  rw [answer] at h
  -- without a turn there would be no answer
  cases ht : (shared.inLine task name).acquireInTurn? task with
  | none =>
    rw [lockName_of_no_turn ht] at h
    exact nomatch h
  | some names =>
    rw [lockName_of_turn ht] at h
    injection h with _ h
    rw [← h]

/-- A task that waits wants a lock, for which it is in line, or the refresh guard. -/
theorem answer_wait {action : Action} (h : shared.answer task action = .wait shared') :
    (∃ name, action = .lockName name ∧ shared'.names = shared.inLine task name) ∨
      action = .lockRefresh ∧ shared'.names = shared.names := by
  cases action with
  | lockName name =>
    refine Or.inl ⟨name, rfl, ?_⟩
    rw [answer] at h
    cases ht : (shared.inLine task name).acquireInTurn? task with
    | none =>
      rw [lockName_of_no_turn ht] at h
      injection h with h
      rw [← h]
    | some names =>
      rw [lockName_of_turn ht] at h
      exact nomatch h
  | lockRefresh =>
    refine Or.inr ⟨rfl, ?_⟩
    rw [answer] at h
    dsimp only at h
    split at h
    · exact nomatch h
    · injection h with h
      rw [← h]
      rfl
  | _ => exact nomatch h

/-- A lock is given at once if nobody wants any lock. -/
theorem answer_lockName_free (shared : Shared) (task : Nat) (name : String)
    (h : shared.names.claims = []) :
    ∃ names lock, shared.answer task (.lockName name) = .reply () { shared with names } ∧
      names.claims = [⟨task, name, lock, .holding⟩] := by
  have hs : shared.names.Sound := .idle h
  have hnone : shared.names.claim? task = none := by simp [KeyedLock.claim?, h]
  obtain ⟨-, lock, hclaims⟩ : (shared.names.enter task name).Sound ∧ ∃ lock, _ := hs.enter hnone
  have hline : shared.inLine task name = shared.names.enter task name := by
    rw [inLine, hnone]
    rfl
  rw [h, List.nil_append, ← hline] at hclaims
  -- the new claim is the only one: it is the first in line, and its lock is free
  have hturn : (shared.inLine task name).acquireInTurn? task =
      some ((shared.inLine task name).setPhase task .holding) := by
    simp [KeyedLock.acquireInTurn?, KeyedLock.acquire?, KeyedLock.claim?, KeyedLock.isFirst,
      KeyedLock.isHeld, hclaims, guard]
  refine ⟨(shared.inLine task name).setPhase task .holding, lock, ?_, ?_⟩
  · rw [answer, lockName_of_turn hturn]
    rfl
  · simp [KeyedLock.setPhase, hclaims]

end Shared

namespace Tasks

variable {α : Type} {start next last : Tasks α} {past happenings : List Happening}
  {programs programs' : List (Program α)} {names names' : KeyedLock String Nat}
  {i j : Nat} {name : String}

/-- What a task holds after one more happening. -/
theorem held_own (past : List Happening) (x : Happening) (i : Nat) :
    held (own i (past ++ [x])) =
      if x.task = i then x.exchange.holding (held (own i past)) else held (own i past) := by
  rw [own_append]
  by_cases h : x.task = i
  · subst h
    rw [own_cons_self, held_append, if_pos rfl]
    rfl
  · rw [own_cons_ne h, own_nil, List.append_nil, if_neg h]

/-- What histories, locks and programs have to do with each other between two steps. -/
structure LocksAgree (past : List Happening) (names : KeyedLock String Nat)
    (programs : List (Program α)) : Prop where
  /-- The locks are in order. -/
  sound : names.Sound
  /-- Who holds a lock has taken it. -/
  holding : ∀ claim ∈ names.claims, claim.phase = .holding →
    held (own claim.task past) = some claim.key
  /-- Who is in line is about to take the lock. -/
  waiting : ∀ claim ∈ names.claims, claim.phase = .waiting →
    ∃ k, programs[claim.task]? = some (.act (.lockName claim.key) k)
  /-- Who has taken a lock holds it. -/
  claimed : ∀ i name, held (own i past) = some name →
    ∃ claim ∈ names.claims, claim.task = i ∧ claim.key = name ∧ claim.phase = .holding

/-- At the start nothing has happened, and nobody wants a lock. -/
theorem LocksAgree.idle (h : names.claims = []) : LocksAgree [] names programs where
  sound := .idle h
  holding := by simp [h]
  waiting := by simp [h]
  claimed := by simp

/-- Getting in line. -/
theorem LocksAgree.inLine {shared : Shared} {k : Unit → Program α}
    (h : LocksAgree past shared.names programs)
    (hp : programs[i]? = some (.act (.lockName name) k)) :
    LocksAgree past (shared.inLine i name) programs := by
  unfold Shared.inLine
  cases hc : shared.names.claim? i with
  -- who waits already keeps its place
  | some claim => exact h
  | none =>
    obtain ⟨hs, lock, hclaims⟩ : (shared.names.enter i name).Sound ∧ ∃ lock, _ :=
      h.sound.enter hc
    rw [if_neg (by simp)]
    -- the new claim waits, so nobody holds more than before
    refine ⟨hs, ?_, ?_, ?_⟩ <;> rw [hclaims]
    · intro claim hmem hphase
      rcases List.mem_append.mp hmem with hold | hnew
      · exact h.holding claim hold hphase
      · obtain rfl := List.mem_singleton.mp hnew
        exact nomatch hphase
    · intro claim hmem hphase
      rcases List.mem_append.mp hmem with hold | hnew
      · exact h.waiting claim hold hphase
      · obtain rfl := List.mem_singleton.mp hnew
        exact ⟨k, hp⟩
    · intro j n hheld
      obtain ⟨claim, hmem, hrest⟩ := h.claimed j n hheld
      exact ⟨claim, List.mem_append_left _ hmem, hrest⟩

/-- Taking the lock. -/
theorem LocksAgree.take {k : Unit → Program α} (h : LocksAgree past names programs)
    (hp : programs[i]? = some (.act (.lockName name) k))
    (ha : names.acquireInTurn? i = some names') :
    LocksAgree (past ++ [⟨i, .lockName name, ()⟩]) names' (programs.set i (k ())) := by
  have hs := h.sound.acquireInTurn ha
  obtain ⟨claim, hmem, rfl, hphase, -, rfl⟩ := KeyedLock.acquireInTurn?_eq_some ha
  -- the claim that waited is the one for this name
  have hkey : claim.key = name := by
    obtain ⟨k', hk'⟩ := h.waiting claim hmem hphase
    rw [hp] at hk'
    injection hk' with hk'
    injection hk' with hk'
    injection hk' with hk'
    exact hk'.symm
  refine ⟨hs, ?_, ?_, ?_⟩
  · intro c hc hcphase
    obtain ⟨c, hmem', rfl⟩ := KeyedLock.mem_setPhase.mp hc
    -- the task that takes the lock holds it now, all others hold what they held
    rw [held_own]
    by_cases ht : c.task = claim.task
    · rw [if_pos ht, if_pos (by exact ht.symm)]
      have := List.inj_on_of_nodup_map h.sound.tasks hmem' hmem ht
      rw [this, ← hkey]
      rfl
    · rw [if_neg ht] at hcphase ⊢
      rw [if_neg (by exact Ne.symm ht)]
      exact h.holding c hmem' hcphase
  · intro c hc hcphase
    -- who still waits is another task, and has not moved
    obtain ⟨c, hmem', rfl⟩ := KeyedLock.mem_setPhase.mp hc
    by_cases ht : c.task = claim.task
    · rw [if_pos ht] at hcphase
      exact nomatch hcphase
    · rw [if_neg ht] at hcphase ⊢
      rw [List.getElem?_set_ne (Ne.symm ht)]
      exact h.waiting c hmem' hcphase
  · intro j n hheld
    rw [held_own] at hheld
    by_cases ht : claim.task = j
    · rw [if_pos (by exact ht)] at hheld
      refine ⟨{ claim with phase := .holding },
        KeyedLock.mem_setPhase.mpr ⟨claim, hmem, if_pos rfl⟩, ht, ?_, rfl⟩
      exact hkey.trans (Option.some.inj hheld)
    · rw [if_neg (by exact ht)] at hheld
      obtain ⟨c, hmem', hct, hrest⟩ := h.claimed j n hheld
      refine ⟨c, KeyedLock.mem_setPhase.mpr ⟨c, hmem', if_neg ?_⟩, hct, hrest⟩
      rw [hct]
      exact Ne.symm ht

/-- Giving a lock back, or giving nothing back. -/
theorem LocksAgree.giveBack {k : Unit → Program α} (h : LocksAgree past names programs)
    (hp : programs[i]? = some (.act (.unlockName name) k)) :
    LocksAgree (past ++ [⟨i, .unlockName name, ()⟩]) (names.finish i)
      (programs.set i (k ())) := by
  -- a task that gives a lock back is not in line
  have hwait : ∀ c ∈ names.claims, c.phase = .waiting → c.task ≠ i := by
    rintro c hc hphase rfl
    obtain ⟨k', hk'⟩ := h.waiting c hc hphase
    rw [hp] at hk'
    injection hk' with hk'
    injection hk' with hk'
    exact nomatch hk'
  -- held or not: the claims of the other tasks are what is left
  have hclaims : (names.finish i).Sound ∧
      ∀ c, c ∈ (names.finish i).claims ↔ c ∈ names.claims ∧ c.task ≠ i := by
    cases hc : names.claim? i with
    | none =>
      rw [KeyedLock.finish_of_not_holding fun c hc' => nomatch hc.symm.trans hc']
      exact ⟨h.sound, fun c => (and_iff_left_of_imp (KeyedLock.claim?_eq_none_iff.mp hc c)).symm⟩
    | some claim =>
      obtain ⟨hmem, htask⟩ := KeyedLock.mem_of_claim?_eq_some hc
      have hphase : claim.phase = .holding :=
        (h.sound.phase claim hmem).resolve_left fun hw => hwait claim hmem hw htask
      refine ⟨h.sound.finish hc hphase, fun c => ?_⟩
      rw [KeyedLock.finish_claims hc hphase]
      simp
  obtain ⟨hs, hclaims⟩ := hclaims
  refine ⟨hs, ?_, ?_, ?_⟩
  · intro c hc hphase
    obtain ⟨hmem, hne⟩ := (hclaims c).mp hc
    rw [held_own, if_neg (by exact Ne.symm hne)]
    exact h.holding c hmem hphase
  · intro c hc hphase
    obtain ⟨hmem, hne⟩ := (hclaims c).mp hc
    rw [List.getElem?_set_ne (Ne.symm hne)]
    exact h.waiting c hmem hphase
  · intro j n hheld
    rw [held_own] at hheld
    by_cases ht : i = j
    · rw [if_pos (by exact ht)] at hheld
      exact nomatch hheld
    · rw [if_neg (by exact ht)] at hheld
      obtain ⟨c, hmem, hct, hrest⟩ := h.claimed j n hheld
      exact ⟨c, (hclaims c).mpr ⟨hmem, fun hci => ht (hci.symm.trans hct)⟩, hct, hrest⟩

/-- Doing something else. -/
theorem LocksAgree.other {x : Happening} {k : x.action.Reply → Program α}
    (h : LocksAgree past names programs) (hp : programs[x.task]? = some (.act x.action k))
    (hl : x.action.isNameLock = false) :
    LocksAgree (past ++ [x]) names (programs.set x.task (k x.reply)) := by
  have hheld (i : Nat) : held (own i (past ++ [x])) = held (own i past) := by
    rw [held_own, Exchange.holding_of_not_isNameLock hl, ite_self]
  refine ⟨h.sound, ?_, ?_, ?_⟩
  · intro c hc hphase
    rw [hheld]
    exact h.holding c hc hphase
  · intro c hc hphase
    -- a task in line is about to lock, so it is not the one that acted
    obtain ⟨k', hk'⟩ := h.waiting c hc hphase
    by_cases ht : x.task = c.task
    · rw [← ht, hp] at hk'
      injection hk' with hk'
      injection hk' with hk'
      rw [hk'] at hl
      exact nomatch hl
    · rw [List.getElem?_set_ne ht]
      exact ⟨k', hk'⟩
  · intro j n hj
    rw [hheld] at hj
    exact h.claimed j n hj

/-- Every step keeps histories and locks in agreement. -/
theorem LocksAgree.step {tasks : Tasks α} {happening : Option Happening}
    (h : LocksAgree past tasks.shared.names tasks.programs) (hs : Step tasks happening next) :
    LocksAgree (past ++ happening.toList) next.shared.names next.programs := by
  -- inside: the locks change only with the two actions on them; outside and waiting: hardly
  -- anything
  cases hs with
  | @inside i action k reply shared hp ha =>
    cases hl : action.isNameLock with
    | false =>
      rw [Shared.answer_names ha hl]
      exact h.other (x := ⟨i, action, reply⟩) hp hl
    | true =>
      cases action with
      -- the task gets in line, if it is not there yet, and takes the lock in its turn
      | lockName name => exact (h.inLine hp).take hp (Shared.answer_lockName ha)
      | unlockName name =>
        injection ha with _ ha
        rw [← ha]
        exact h.giveBack hp
      | _ => exact nomatch hl
  | @outside i action k reply hp ha =>
    -- locks are never up to the hosts
    have hl : action.isNameLock = false := by
      cases action with
      | lockName name =>
        rw [Shared.answer] at ha
        dsimp only at ha
        split at ha <;> exact nomatch ha
      | unlockName name => exact nomatch ha
      | _ => rfl
    exact h.other (x := ⟨i, action, reply⟩) hp hl
  -- who waits gets in line, or waits for the refresh guard
  | @wait i action k shared hp ha =>
    rw [Option.toList_none, List.append_nil]
    rcases Shared.answer_wait ha with ⟨name, rfl, hnames⟩ | ⟨rfl, hnames⟩
    · rw [hnames]
      exact h.inLine hp
    · rw [hnames]
      exact h

/-- Histories and locks agree after every run. -/
theorem Run.locksAgree (run : Run start happenings last) (h : start.shared.names.claims = []) :
    LocksAgree happenings last.shared.names last.programs :=
  run.invariant (fun past tasks =>
    LocksAgree past tasks.shared.names tasks.programs) (.idle h)
    fun _ _ _ _ _ hold hs => hold.step hs

/-- No two tasks hold one name. -/
theorem Run.held_unique (run : Run start happenings last) (h : start.shared.names.claims = [])
    (hi : held (own i happenings) = some name) (hj : held (own j happenings) = some name) :
    i = j := by
  -- both tasks have claims that hold, and a lock has one holder
  have agree := run.locksAgree h
  obtain ⟨a, ha, rfl, hak, hap⟩ := agree.claimed i name hi
  obtain ⟨b, hb, rfl, hbk, hbp⟩ := agree.claimed j name hj
  rw [agree.sound.holder_unique ha hb hap hbp (hak.trans hbk.symm)]

/-- When all programs have come to their ends, and gave back what they took, nobody wants a lock. -/
theorem Run.locks_idle (run : Run start happenings last) (h : start.shared.names.claims = [])
    (hback : ∀ p ∈ start.programs, p.GivesBack)
    (hended : ∀ p ∈ last.programs, ∃ a, p = .done a) : last.shared.names.claims = [] := by
  have agree := run.locksAgree h
  refine List.eq_nil_iff_forall_not_mem.mpr fun claim hmem => ?_
  rcases agree.sound.phase claim hmem with hphase | hphase
  · -- who is in line has not come to its end
    obtain ⟨k, hk⟩ := agree.waiting claim hmem hphase
    obtain ⟨a, ha⟩ := hended _ (List.mem_of_getElem? hk)
    exact nomatch ha
  · -- who holds a lock has come to its end, and gives back what it took
    have hheld := agree.holding claim hmem hphase
    have hbegun : own claim.task happenings ≠ [] := by
      intro hnil
      rw [hnil] at hheld
      exact nomatch hheld
    have hp := List.getElem?_eq_getElem (run.lt_length_of_own hbegun)
    obtain ⟨q, hq, hobeys⟩ := run.obeys hp (hback _ (List.getElem_mem _))
    obtain ⟨a, rfl⟩ := hended q (List.mem_of_getElem? hq)
    exact nomatch hheld.symm.trans hobeys

end Tasks

end VparFleet
