import VparFleet.KeyedLock
import Mathlib.Data.List.Nodup
import Mathlib.Data.Option.Basic

/-!
# Whole calls on locks by key

When no other claim steps in between the steps of a call, that is when entering, taking the lock in
turn and finishing are each done at once, all claims on a key share one lock, and at most one of
them holds it.

* `Sound`: what such calls keep.
* `Sound.enter`, `Sound.acquireInTurn`, `Sound.finish`: they keep it, and what becomes of the
  claims.
* `Sound.holder_unique`: no key is held twice.
-/

namespace VparFleet.KeyedLock

variable {κ ι : Type}

/-- Entries of other keys do not matter to a key. -/
theorem lookup_filter_of_keeps [DecidableEq κ] {entries : List (κ × Nat)} {keep : κ × Nat → Bool}
    {key : κ} (h : ∀ entry ∈ entries, entry.1 = key → keep entry = true) :
    (entries.filter keep).lookup key = entries.lookup key := by
  induction entries with
  | nil => rfl
  | cons entry entries ih =>
    have ih := ih fun e he => h e (List.mem_cons_of_mem _ he)
    by_cases hkey : entry.1 = key
    · subst hkey
      rw [List.filter_cons_of_pos (h entry List.mem_cons_self rfl)]
      rw [List.lookup_cons_self, List.lookup_cons_self]
    · -- an entry of another key is skipped, whether it is kept or not
      have hne : (key == entry.1) = false := by simpa using Ne.symm hkey
      rw [List.lookup_cons, hne]
      by_cases hkeep : keep entry = true
      · rw [List.filter_cons_of_pos hkeep, List.lookup_cons, hne]
        exact ih
      · rw [List.filter_cons_of_neg hkeep]
        exact ih

variable {locks next : KeyedLock κ ι} {task : ι} {key : κ}

theorem phase_references_pos (phase : Phase) : 0 < phase.references := by
  cases phase <;> decide

/-- Counting references adds to what has been counted. -/
theorem foldr_references_ge (claims : List (Claim κ ι)) (n : Nat) :
    n ≤ claims.foldr (·.phase.references + ·) n := by
  induction claims with
  | nil => exact Nat.le_refl n
  | cons claim claims ih =>
    rw [List.foldr_cons]
    omega

/-- Every claim refers to its lock. -/
theorem references_pos {claim : Claim κ ι} (h : claim ∈ locks.claims) :
    0 < locks.references claim.lock := by
  have hmem : claim ∈ locks.claims.filter (·.lock = claim.lock) :=
    List.mem_filter.mpr ⟨h, by simp⟩
  obtain ⟨before, after, hsplit⟩ := List.append_of_mem hmem
  have hpos := phase_references_pos claim.phase
  -- the references of the claim come on top of those after it, and below those before it
  have hsum := foldr_references_ge before
    (claim.phase.references + after.foldr (·.phase.references + ·) 0)
  rw [references, hsplit, List.foldr_append, List.foldr_cons]
  omega

/-- Two claims on one lock are more than one reference. -/
theorem eq_of_references_eq_one {a b : Claim κ ι} (ha : a ∈ locks.claims)
    (hb : b ∈ locks.claims) (hlock : b.lock = a.lock) (hone : locks.references a.lock = 1) :
    b = a := by
  have ha' : a ∈ locks.claims.filter (·.lock = a.lock) := List.mem_filter.mpr ⟨ha, by simp⟩
  have hb' : b ∈ locks.claims.filter (·.lock = a.lock) :=
    List.mem_filter.mpr ⟨hb, by simpa using hlock⟩
  unfold references at hone
  generalize locks.claims.filter (·.lock = a.lock) = on at ha' hb' hone
  rcases on with _ | ⟨x, _ | ⟨y, rest⟩⟩
  · cases ha'
  · rw [List.mem_singleton.mp ha', List.mem_singleton.mp hb']
  · -- two claims would make two references at least
    have hx := phase_references_pos x.phase
    have hy := phase_references_pos y.phase
    rw [List.foldr_cons, List.foldr_cons] at hone
    omega

/-! ## Claims by task -/

section Claims

variable [DecidableEq ι]

theorem mem_of_claim?_eq_some {claim : Claim κ ι} (h : locks.claim? task = some claim) :
    claim ∈ locks.claims ∧ claim.task = task :=
  ⟨List.mem_of_find?_eq_some h, by simpa using List.find?_some h⟩

/-- With one claim for each task, every claim is found. -/
theorem claim?_eq_some_of_mem (htasks : (locks.claims.map (·.task)).Nodup) {claim : Claim κ ι}
    (h : claim ∈ locks.claims) : locks.claim? claim.task = some claim := by
  cases hc : locks.claim? claim.task with
  | none =>
    have hnone := List.find?_eq_none.mp hc claim h
    simp at hnone
  | some other =>
    obtain ⟨hmem, htask⟩ := mem_of_claim?_eq_some hc
    rw [List.inj_on_of_nodup_map htasks hmem h htask]

theorem claim?_eq_none_iff : locks.claim? task = none ↔ ∀ c ∈ locks.claims, c.task ≠ task := by
  simp [claim?, List.find?_eq_none]

theorem mem_setPhase {phase : Phase} {claim : Claim κ ι} :
    claim ∈ (locks.setPhase task phase).claims ↔
      ∃ c ∈ locks.claims, (if c.task = task then { c with phase } else c) = claim := by
  simp [setPhase]

theorem map_task_setPhase (phase : Phase) :
    (locks.setPhase task phase).claims.map (·.task) = locks.claims.map (·.task) := by
  rw [setPhase, List.map_map]
  refine List.map_congr_left fun claim _ => ?_
  by_cases h : claim.task = task <;> simp [h]

/-- With one claim for each task, a change of phase changes one claim. -/
theorem mem_setPhase_cases (htasks : (locks.claims.map (·.task)).Nodup) {claim c : Claim κ ι}
    (hmem : claim ∈ locks.claims) {phase : Phase}
    (hc : c ∈ (locks.setPhase claim.task phase).claims) :
    c ∈ locks.claims ∧ c.task ≠ claim.task ∨ c = { claim with phase } := by
  obtain ⟨d, hd, rfl⟩ := mem_setPhase.mp hc
  by_cases ht : d.task = claim.task
  · rw [if_pos ht, List.inj_on_of_nodup_map htasks hd hmem ht]
    exact Or.inr rfl
  · rw [if_neg ht]
    exact Or.inl ⟨hd, ht⟩

/-- The claim of a task in its new phase. -/
theorem claim?_setPhase (phase : Phase) :
    (locks.setPhase task phase).claim? task
      = (locks.claim? task).map fun claim => { claim with phase } := by
  unfold claim? setPhase
  induction locks.claims with
  | nil => rfl
  | cons c claims ih =>
    by_cases h : c.task = task
    · simp [h]
    · simpa [h] using ih

/-- The last phase is what counts. -/
theorem setPhase_setPhase (first second : Phase) :
    (locks.setPhase task first).setPhase task second = locks.setPhase task second := by
  unfold setPhase
  simp only [List.map_map]
  congr 2
  funext c
  by_cases h : c.task = task <;> simp [h]

/-- In whatever phase a claim is, it is gone afterwards. -/
theorem drop_setPhase (phase : Phase) :
    (locks.setPhase task phase).drop task = locks.drop task := by
  unfold drop setPhase
  congr 1
  induction locks.claims with
  | nil => rfl
  | cons c claims ih =>
    by_cases h : c.task = task
    · simpa [h] using ih
    · simpa [h] using ih

/-- Who takes a lock in turn has been waiting for it while nobody held it. -/
theorem acquireInTurn?_eq_some (h : locks.acquireInTurn? task = some next) :
    ∃ claim ∈ locks.claims, claim.task = task ∧ claim.phase = .waiting ∧
      locks.isHeld claim.lock = false ∧ next = locks.setPhase task .holding := by
  unfold acquireInTurn? acquire? at h
  cases hc : locks.claim? task with
  | none => simp [hc] at h
  | some claim =>
    obtain ⟨hmem, htask⟩ := mem_of_claim?_eq_some hc
    simp only [hc, Option.bind_eq_bind, Option.bind_some, Option.bind_eq_some_iff,
      Option.guard_eq_some', Option.pure_def, Bool.and_eq_true, decide_eq_true_eq,
      Bool.not_eq_true', Option.some.injEq] at h
    obtain ⟨-, -, -, ⟨hwait, hfree⟩, hnext⟩ := h
    exact ⟨claim, hmem, htask, hwait, hfree, hnext.symm⟩

end Claims

/-! ## What whole calls keep -/

section Sound

variable [DecidableEq κ]

/-- What whole calls keep. -/
structure Sound (locks : KeyedLock κ ι) : Prop where
  /-- A task has at most one claim. -/
  tasks : (locks.claims.map (·.task)).Nodup
  /-- The table leads to the lock of every claim. -/
  entry : ∀ claim ∈ locks.claims, locks.entries.lookup claim.key = some claim.lock
  /-- Between calls, a claim waits for its lock or holds it. -/
  phase : ∀ claim ∈ locks.claims, claim.phase = .waiting ∨ claim.phase = .holding
  /-- A lock is held by at most one claim. -/
  holder : ∀ a ∈ locks.claims, ∀ b ∈ locks.claims, a.phase = .holding → b.phase = .holding →
    a.lock = b.lock → a = b

/-- Locks are in order when nobody wants any. -/
theorem Sound.idle (h : locks.claims = []) : locks.Sound where
  tasks := by simp [h]
  entry := by simp [h]
  phase := by simp [h]
  holder := by simp [h]

/-- Two claims that hold their locks on one key are one claim. -/
theorem Sound.holder_unique (h : locks.Sound) {a b : Claim κ ι} (ha : a ∈ locks.claims)
    (hb : b ∈ locks.claims) (hha : a.phase = .holding) (hhb : b.phase = .holding)
    (hkey : a.key = b.key) : a = b := by
  have hea := h.entry a ha
  rw [hkey, h.entry b hb] at hea
  exact h.holder a ha b hb hha hhb (Option.some.inj hea).symm

/-- A new claim that waits keeps everything in order if the table leads to its lock. -/
theorem Sound.add (h : locks.Sound) (hnew : ∀ c ∈ locks.claims, c.task ≠ task) {lock made : Nat}
    {entries : List (κ × Nat)}
    (hold : ∀ c ∈ locks.claims, entries.lookup c.key = some c.lock)
    (hkey : entries.lookup key = some lock) :
    Sound ⟨entries, locks.claims ++ [⟨task, key, lock, .waiting⟩], made⟩ where
  tasks := by
    rw [List.map_append, List.nodup_append]
    refine ⟨h.tasks, by simp, ?_⟩
    intro a ha b hb
    obtain ⟨c, hc, rfl⟩ := List.mem_map.mp ha
    simp only [List.map_cons, List.map_nil, List.mem_singleton] at hb
    rw [hb]
    exact hnew c hc
  entry c hc := by
    rcases List.mem_append.mp hc with hc | hc
    · exact hold c hc
    · rw [List.mem_singleton.mp hc]
      exact hkey
  phase c hc := by
    rcases List.mem_append.mp hc with hc | hc
    · exact h.phase c hc
    · rw [List.mem_singleton.mp hc]
      exact Or.inl rfl
  holder a ha b hb hha hhb hlock := by
    -- the new claim waits, so both holders were there before
    rcases List.mem_append.mp ha with ha | ha <;> rcases List.mem_append.mp hb with hb | hb
    · exact h.holder a ha b hb hha hhb hlock
    · rw [List.mem_singleton.mp hb] at hhb
      exact nomatch hhb
    · rw [List.mem_singleton.mp ha] at hha
      exact nomatch hha
    · rw [List.mem_singleton.mp ha] at hha
      exact nomatch hha

/-- A look at a key without an entry makes a lock and claims it. -/
theorem Sound.access_new (h : locks.Sound) (hnew : ∀ c ∈ locks.claims, c.task ≠ task)
    (hkey : locks.entries.lookup key = none) :
    (locks.access task key).Sound ∧
      ∃ lock, (locks.access task key).claims = locks.claims ++ [⟨task, key, lock, .waiting⟩] := by
  rw [access, hkey]
  refine ⟨h.add hnew (fun c hc => ?_) ?_, _, rfl⟩
  · rw [List.lookup_append, h.entry c hc, Option.some_or]
  · rw [List.lookup_append, hkey, Option.none_or, List.lookup_cons_self]

end Sound

variable [DecidableEq κ] [DecidableEq ι]

/-! ## Entering -/

/-- Entering claims a lock and does nothing to the claims before it. -/
theorem Sound.enter (h : locks.Sound) (hc : locks.claim? task = none) :
    (locks.enter task key).Sound ∧
      ∃ lock, (locks.enter task key).claims = locks.claims ++ [⟨task, key, lock, .waiting⟩] := by
  have hnew := claim?_eq_none_iff.mp hc
  have claimed {looked : KeyedLock κ ι} {lock : Nat}
      (hl : looked.claims = locks.claims ++ [⟨task, key, lock, .waiting⟩]) :
      (looked.claim? task).isSome = true := by
    simp [claim?, hl]
  cases hkey : locks.entries.lookup key with
  | none =>
    -- no entry: the first look makes a lock and claims it
    obtain ⟨hs, lock, hl⟩ := h.access_new hnew hkey
    rw [KeyedLock.enter, if_pos (claimed hl)]
    exact ⟨hs, lock, hl⟩
  | some lock =>
    by_cases halive : 0 < locks.references lock
    · -- a living lock: the first look claims it
      have hl : locks.access task key
          = { locks with claims := locks.claims ++ [⟨task, key, lock, .waiting⟩] } := by
        rw [access, hkey]
        exact if_pos halive
      rw [KeyedLock.enter, hl, if_pos (claimed rfl)]
      exact ⟨h.add hnew h.entry hkey, lock, rfl⟩
    · -- a dead entry is cleared away, and the second look finds none
      have hl : locks.access task key
          = { locks with entries := locks.entries.filter (·.1 ≠ key) } := by
        rw [access, hkey]
        exact if_neg halive
      -- a claim on the key would keep its lock alive
      have hother : ∀ c ∈ locks.claims, c.key ≠ key := by
        intro c hmem heq
        have hentry := h.entry c hmem
        rw [heq, hkey] at hentry
        rw [Option.some.inj hentry] at halive
        exact halive (references_pos hmem)
      have hs : Sound { locks with entries := locks.entries.filter (·.1 ≠ key) } :=
        { tasks := h.tasks
          entry := fun c hmem => by
            rw [← h.entry c hmem]
            exact lookup_filter_of_keeps fun e _ he => by simpa [he] using hother c hmem
          phase := h.phase
          holder := h.holder }
      rw [KeyedLock.enter, hl, if_neg (by simpa [claim?] using hnew)]
      refine hs.access_new hnew (List.lookup_eq_none_iff.mpr fun e he => ?_)
      have hne : e.1 ≠ key := by simpa using (List.mem_filter.mp he).2
      simpa using Ne.symm hne

/-! ## Taking the lock -/

/-- A claim takes a lock that nobody holds. -/
theorem Sound.acquireInTurn (h : locks.Sound) (ha : locks.acquireInTurn? task = some next) :
    next.Sound := by
  obtain ⟨claim, hmem, rfl, -, hfree, rfl⟩ := acquireInTurn?_eq_some ha
  have hfree : ∀ c ∈ locks.claims, c.lock = claim.lock → c.phase ≠ .holding := by
    simpa [isHeld] using hfree
  -- of the claims that hold their locks after this, only the new holder did not do so before
  have before {c : Claim κ ι} (hc : c ∈ (locks.setPhase claim.task .holding).claims) :
      c ∈ locks.claims ∨ c = { claim with phase := .holding } :=
    (mem_setPhase_cases h.tasks hmem hc).imp_left And.left
  constructor
  · rw [map_task_setPhase]
    exact h.tasks
  · intro c hc
    obtain ⟨d, hd, rfl⟩ := mem_setPhase.mp hc
    have hentry := h.entry d hd
    split <;> exact hentry
  · intro c hc
    obtain ⟨d, hd, rfl⟩ := mem_setPhase.mp hc
    split
    · exact Or.inr rfl
    · exact h.phase d hd
  · intro a ha b hb hha hhb hlock
    -- an old holder and the new one would share the lock that was free
    rcases before ha with ha | rfl <;> rcases before hb with hb | rfl
    · exact h.holder a ha b hb hha hhb hlock
    · exact absurd hha (hfree a ha hlock)
    · exact absurd hhb (hfree b hb hlock.symm)
    · rfl

/-! ## Finishing -/

/-- Who does not hold a lock has nothing to finish. -/
theorem finish_of_not_holding
    (h : ∀ claim, locks.claim? task = some claim → claim.phase = .waiting) :
    locks.finish task = locks := by
  -- no step is due: each asks for a phase that a waiting claim is not in
  have hr : locks.release? task = none := by
    cases hc : locks.claim? task with
    | none => simp [release?, hc]
    | some claim => simp [release?, hc, h claim hc, guard]
  have hn : locks.countReferences? task = none := by
    cases hc : locks.claim? task with
    | none => simp [countReferences?, hc]
    | some claim => simp [countReferences?, hc, h claim hc, guard]
  have hf : locks.forget? task = none := by
    cases hc : locks.claim? task with
    | none => simp [forget?, hc]
    | some claim => simp [forget?, hc, h claim hc, guard]
  have hl : locks.leave? task = none := by
    cases hc : locks.claim? task with
    | none => simp [leave?, hc]
    | some claim => simp [leave?, hc, h claim hc, guard]
  simp only [finish, hr, hn, hf, hl, Option.getD_none]

/-- A holder that finishes takes its claim out, and the entry of its key if nobody else refers to
the lock. -/
theorem finish_of_holding {claim : Claim κ ι} (hc : locks.claim? task = some claim)
    (hp : claim.phase = .holding) :
    locks.finish task =
      if (locks.setPhase task .released).references claim.lock = 1 then
        { locks.drop task with
          entries := locks.entries.filter (· ≠ (claim.key, claim.lock)) }
      else locks.drop task := by
  have hr : locks.release? task = some (locks.setPhase task .released) := by
    simp [release?, hc, hp, guard]
  have hn : (locks.setPhase task .released).countReferences? task
      = some (locks.setPhase task
          (if (locks.setPhase task .released).references claim.lock = 1 then .last
            else .leaving)) := by
    simp [countReferences?, claim?_setPhase, hc, guard, setPhase_setPhase]
  by_cases hone : (locks.setPhase task .released).references claim.lock = 1
  · -- nobody else refers to the lock: the entry goes, then the claim
    rw [if_pos hone] at hn ⊢
    have hf : (locks.setPhase task .last).forget? task
        = some { locks.setPhase task .leaving with
            entries := locks.entries.filter (· ≠ (claim.key, claim.lock)) } := by
      simp only [forget?, claim?_setPhase, hc, setPhase_setPhase, guard, Option.map_some,
        Option.bind_eq_bind, Option.bind_some, if_true, Option.pure_def]
      rfl
    have hl : ({ locks.setPhase task .leaving with
          entries := locks.entries.filter (· ≠ (claim.key, claim.lock)) }
            : KeyedLock κ ι).leave? task
        = some { (locks.setPhase task .leaving).drop task with
            entries := locks.entries.filter (· ≠ (claim.key, claim.lock)) } := by
      have hleave : (locks.setPhase task .leaving).claim? task = _ := claim?_setPhase .leaving
      rw [hc] at hleave
      unfold leave?
      change (((locks.setPhase task .leaving).claim? task).bind _) = _
      simp only [hleave, guard, Option.map_some, Option.bind_eq_bind, Option.bind_some, if_true,
        Option.pure_def]
      rfl
    simp only [finish, hr, hn, hf, hl, Option.getD_some, drop_setPhase]
  · -- somebody else does: only the claim goes
    rw [if_neg hone] at hn ⊢
    have hf : (locks.setPhase task .leaving).forget? task = none := by
      simp [forget?, claim?_setPhase, hc, guard]
    have hl : (locks.setPhase task .leaving).leave? task
        = some ((locks.setPhase task .leaving).drop task) := by
      simp [leave?, claim?_setPhase, hc, guard]
    simp only [finish, hr, hn, hf, hl, Option.getD_some, Option.getD_none, drop_setPhase]

/-- Finishing takes the claim of a holder out and does nothing to the others. -/
theorem finish_claims {claim : Claim κ ι} (hc : locks.claim? task = some claim)
    (hp : claim.phase = .holding) :
    (locks.finish task).claims = locks.claims.filter (·.task ≠ task) := by
  rw [finish_of_holding hc hp]
  split <;> rfl

/-- Giving a lock back keeps the locks sound. -/
theorem Sound.finish (h : locks.Sound) {claim : Claim κ ι} (hc : locks.claim? task = some claim)
    (hp : claim.phase = .holding) : (locks.finish task).Sound := by
  obtain ⟨hmem, htask⟩ := mem_of_claim?_eq_some hc
  have hsub : ∀ c ∈ (locks.finish task).claims, c ∈ locks.claims ∧ c.task ≠ task := by
    intro c hmem
    rw [finish_claims hc hp] at hmem
    exact ⟨(List.mem_filter.mp hmem).1, by simpa using (List.mem_filter.mp hmem).2⟩
  constructor
  · rw [finish_claims hc hp]
    exact h.tasks.sublist (List.filter_sublist.map _)
  · intro c hrest
    obtain ⟨hrest, hne⟩ := hsub c hrest
    rw [finish_of_holding hc hp]
    split
    · -- a claim on the same key would be a second reference to the lock
      rename_i hone
      refine (lookup_filter_of_keeps fun e _ he => ?_).trans (h.entry c hrest)
      by_contra hkeep
      have he' : e = (claim.key, claim.lock) := by simpa using hkeep
      have hkey : c.key = claim.key := by rw [← he, he']
      have hlock : c.lock = claim.lock := by
        have hentry := h.entry c hrest
        rw [hkey, h.entry claim hmem] at hentry
        exact (Option.some.inj hentry).symm
      have hother : c ∈ (locks.setPhase task .released).claims :=
        mem_setPhase.mpr ⟨c, hrest, if_neg hne⟩
      have hself : { claim with phase := .released } ∈ (locks.setPhase task .released).claims :=
        mem_setPhase.mpr ⟨claim, hmem, if_pos htask⟩
      have heq := eq_of_references_eq_one hself hother hlock hone
      exact hne (heq ▸ htask)
    · exact h.entry c hrest
  · exact fun c hrest => h.phase c (hsub c hrest).1
  · exact fun a ha b hb => h.holder a (hsub a ha).1 b (hsub b hb).1

end VparFleet.KeyedLock
