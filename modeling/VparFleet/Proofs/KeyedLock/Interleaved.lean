import Mathlib.Logic.Function.Basic
import VparFleet.Proofs.KeyedLock.WholeCalls

/-!
# Locks by key, step by step

When the steps of other claims come in between those of a call, a claim that has given its lock back
counts the references in one step and takes the entry of its key away in another one. A claim that
is made between the two is on a lock to which the table does not lead any more. The next claim on
the key makes another lock, and then both can be held.

So a key has one holder as long as no entry is taken away from a claim that wants its lock, and as
soon as one is, a newcomer can become a second holder.

* `Move`, `step?`, `Reached`: interleavings of the steps of any claims.
* `Change`: what a step can do.
* `InOrder`: what every step keeps; a lock never has two holders.
* `Found`: the table leads to the lock of every claim that wants it; every timely step keeps this.
* `exclusive_until_late`: a key has one holder until an entry is taken away too late.
* `not_always_exclusive`: two holders of one key.
-/

namespace VparFleet.KeyedLock

variable {κ ι : Type}

/-! ## Interleavings -/

/-- A step of a claim. -/
inductive Move (κ ι : Type) where
  | access (task : ι) (key : κ)
  | acquire (task : ι)
  | release (task : ι)
  | countReferences (task : ι)
  | forget (task : ι)
  | leave (task : ι)
  | abandon (task : ι)

/-- No key has two holders. -/
def Exclusive (locks : KeyedLock κ ι) : Prop :=
  ∀ a ∈ locks.claims, ∀ b ∈ locks.claims, a.phase = .holding → b.phase = .holding →
    a.key = b.key → a.task = b.task

/-- Whether a claim waits for its lock or holds it. -/
def Claim.Wants (claim : Claim κ ι) : Prop :=
  claim.phase = .waiting ∨ claim.phase = .holding

section Steps

variable [DecidableEq κ] [DecidableEq ι]

/-- Makes a step, if it is due. -/
def step? (locks : KeyedLock κ ι) : Move κ ι → Option (KeyedLock κ ι)
  | .access task key => if (locks.claim? task).isSome then none else some (locks.access task key)
  | .acquire task => locks.acquire? task
  | .release task => locks.release? task
  | .countReferences task => locks.countReferences? task
  | .forget task => locks.forget? task
  | .leave task => locks.leave? task
  | .abandon task => locks.abandon? task

/-- What can become of locks by any number of allowed steps of any claims in any order. -/
inductive Reached (allowed : KeyedLock κ ι → Move κ ι → Prop) (start : KeyedLock κ ι) :
    KeyedLock κ ι → Prop where
  | start : Reached allowed start start
  | step {locks next : KeyedLock κ ι} {move : Move κ ι} (hr : Reached allowed start locks)
      (ha : allowed locks move) (hs : locks.step? move = some next) : Reached allowed start next

/-- Whether a step takes no entry away from a claim that wants its lock. -/
def Timely (locks : KeyedLock κ ι) : Move κ ι → Prop
  | .forget task => ∀ claim, locks.claim? task = some claim →
      ∀ other ∈ locks.claims, other.lock = claim.lock → ¬other.Wants
  | _ => True

end Steps

/-! ## What a step can do -/

section Change

variable [DecidableEq ι] {locks next : KeyedLock κ ι} {task : ι}

/-- A step that is due finds the claim of its task in the phase that it asks for. -/
theorem exists_of_due {p : Claim κ ι → Prop} [DecidablePred p] {k : Claim κ ι → KeyedLock κ ι}
    (h : (do let claim ← locks.claim? task; guard (p claim); return k claim) = some next) :
    ∃ claim ∈ locks.claims, claim.task = task ∧ locks.claim? task = some claim ∧ p claim ∧
      next = k claim := by
  simp only [Option.bind_eq_bind, Option.bind_eq_some_iff, Option.guard_eq_some',
    Option.pure_def, Option.some.injEq] at h
  obtain ⟨claim, hc, -, hp, rfl⟩ := h
  obtain ⟨hmem, htask⟩ := mem_of_claim?_eq_some hc
  exact ⟨claim, hmem, htask, hc, hp, rfl⟩

variable [DecidableEq κ] {move : Move κ ι}

/-- What a step can do. -/
inductive Change (locks : KeyedLock κ ι) : Move κ ι → KeyedLock κ ι → Prop where
  /-- The lock of an entry is claimed. -/
  | join {task : ι} {key : κ} {lock : Nat} (hc : locks.claim? task = none)
      (hl : locks.entries.lookup key = some lock) :
      Change locks (.access task key)
        { locks with claims := locks.claims ++ [⟨task, key, lock, .waiting⟩] }
  /-- A lock is made and claimed. -/
  | make {task : ι} {key : κ} (hc : locks.claim? task = none)
      (hl : locks.entries.lookup key = none) :
      Change locks (.access task key)
        ⟨locks.entries ++ [(key, locks.made)],
          locks.claims ++ [⟨task, key, locks.made, .waiting⟩], locks.made + 1⟩
  /-- A dead entry is cleared away. -/
  | clear {task : ι} {key : κ} {lock : Nat} (hl : locks.entries.lookup key = some lock)
      (hdead : ∀ claim ∈ locks.claims, claim.lock ≠ lock) :
      Change locks (.access task key)
        { locks with entries := locks.entries.filter (·.1 ≠ key) }
  /-- A claim takes its lock. -/
  | take {claim : Claim κ ι} (hmem : claim ∈ locks.claims) (hwait : claim.phase = .waiting)
      (hfree : ∀ other ∈ locks.claims, other.lock = claim.lock → other.phase ≠ .holding) :
      Change locks (.acquire claim.task) (locks.setPhase claim.task .holding)
  /-- A claim wants its lock no more, and comes one step further. -/
  | pass {claim : Claim κ ι} {move : Move κ ι} {phase : Phase} (hmem : claim ∈ locks.claims)
      (hp : phase ≠ .waiting ∧ phase ≠ .holding) :
      Change locks move (locks.setPhase claim.task phase)
  /-- A claim takes the entry of its key away. -/
  | forget {claim : Claim κ ι} (hc : locks.claim? claim.task = some claim)
      (hlast : claim.phase = .last) :
      Change locks (.forget claim.task)
        { locks.setPhase claim.task .leaving with
          entries := locks.entries.filter (· ≠ (claim.key, claim.lock)) }
  /-- A claim is gone. -/
  | drop {task : ι} {move : Move κ ι} : Change locks move (locks.drop task)

theorem step?_change (h : locks.step? move = some next) : Change locks move next := by
  cases move with
  | access task key =>
    unfold step? at h
    dsimp only at h
    split at h
    · exact nomatch h
    next hc =>
    have hc : locks.claim? task = none := by simpa using hc
    obtain rfl := Option.some.inj h
    unfold access
    split
    next lock hl =>
      split
      · exact .join hc hl
      next hdead =>
        -- a claim on the lock would keep it alive
        refine .clear hl fun claim hmem hlock => hdead ?_
        exact hlock ▸ references_pos hmem
    next hl => exact .make hc hl
  | acquire task =>
    obtain ⟨claim, hmem, rfl, -, hp, rfl⟩ := exists_of_due h
    obtain ⟨hwait, hfree⟩ := Bool.and_eq_true_iff.mp hp
    exact .take hmem (by simpa using hwait) (by simpa [isHeld] using hfree)
  | release task =>
    obtain ⟨claim, hmem, rfl, -, -, rfl⟩ := exists_of_due h
    exact .pass hmem (by decide)
  | countReferences task =>
    obtain ⟨claim, hmem, rfl, -, -, rfl⟩ := exists_of_due h
    refine .pass hmem ?_
    split <;> decide
  | forget task =>
    obtain ⟨claim, hmem, rfl, hc, hlast, rfl⟩ := exists_of_due h
    exact .forget hc hlast
  | leave task =>
    obtain ⟨claim, hmem, rfl, -, -, rfl⟩ := exists_of_due h
    exact .drop
  | abandon task =>
    obtain ⟨claim, hmem, rfl, -, -, rfl⟩ := exists_of_due h
    exact .drop

end Change

/-! ## What every step keeps -/

/-- What every step keeps, whatever the others do. -/
structure InOrder (locks : KeyedLock κ ι) : Prop where
  /-- A task has at most one claim. -/
  tasks : (locks.claims.map (·.task)).Nodup
  /-- A key has at most one entry. -/
  keys : (locks.entries.map (·.1)).Nodup
  /-- The next lock is a new one. -/
  made : (∀ claim ∈ locks.claims, claim.lock < locks.made) ∧
    ∀ entry ∈ locks.entries, entry.2 < locks.made
  /-- A lock is for one key. -/
  keyed : ∃ keyOf : Nat → Option κ, (∀ claim ∈ locks.claims, keyOf claim.lock = some claim.key) ∧
    ∀ entry ∈ locks.entries, keyOf entry.2 = some entry.1
  /-- A lock has at most one holder. -/
  holder : ∀ a ∈ locks.claims, ∀ b ∈ locks.claims, a.phase = .holding → b.phase = .holding →
    a.lock = b.lock → a.task = b.task

namespace InOrder

variable {locks next : KeyedLock κ ι} {task : ι} {key : κ}

/-- Without locks everything is in order. -/
theorem empty : (KeyedLock.empty : KeyedLock κ ι).InOrder where
  tasks := List.nodup_nil
  keys := List.nodup_nil
  made := by simp [KeyedLock.empty]
  keyed := ⟨fun _ => none, by simp [KeyedLock.empty]⟩
  holder := by simp [KeyedLock.empty]

/-- Claims on one lock are for one key. -/
theorem key_eq (h : locks.InOrder) {a b : Claim κ ι} (ha : a ∈ locks.claims)
    (hb : b ∈ locks.claims) (hlock : a.lock = b.lock) : a.key = b.key := by
  obtain ⟨keyOf, hclaims, -⟩ := h.keyed
  have hka := hclaims a ha
  rw [hlock, hclaims b hb] at hka
  exact (Option.some.inj hka).symm

/-- A step that makes neither claims nor entries keeps the order if it makes no second holder. -/
theorem of_old (h : locks.InOrder) (hmade : next.made = locks.made)
    (hentries : next.entries.Sublist locks.entries)
    (htasks : (next.claims.map (·.task)).Sublist (locks.claims.map (·.task)))
    (hclaims : ∀ claim ∈ next.claims, ∃ old ∈ locks.claims,
      old.key = claim.key ∧ old.lock = claim.lock)
    (hholder : ∀ a ∈ next.claims, ∀ b ∈ next.claims, a.phase = .holding → b.phase = .holding →
      a.lock = b.lock → a.task = b.task) : next.InOrder where
  tasks := h.tasks.sublist htasks
  keys := h.keys.sublist (hentries.map _)
  made := by
    rw [hmade]
    refine ⟨fun claim hmem => ?_, fun entry hmem => h.made.2 entry (hentries.subset hmem)⟩
    obtain ⟨old, hold, -, hlock⟩ := hclaims claim hmem
    exact hlock ▸ h.made.1 old hold
  keyed := by
    -- claims and entries are among the old ones, so the old assignment of locks to keys still does
    obtain ⟨keyOf, hk, he⟩ := h.keyed
    refine ⟨keyOf, fun claim hmem => ?_, fun entry hmem => he entry (hentries.subset hmem)⟩
    obtain ⟨old, hold, hkey, hlock⟩ := hclaims claim hmem
    rw [← hlock, ← hkey]
    exact hk old hold
  holder := hholder

/-- An entry for a new key and a new lock keeps the order. -/
theorem enroll [DecidableEq κ] (h : locks.InOrder) (hl : locks.entries.lookup key = none) :
    InOrder ⟨locks.entries ++ [(key, locks.made)], locks.claims, locks.made + 1⟩ where
  tasks := h.tasks
  keys := by
    rw [List.map_append, List.nodup_append]
    refine ⟨h.keys, by simp, fun a ha b hb => ?_⟩
    obtain ⟨entry, hmem, rfl⟩ := List.mem_map.mp ha
    have hne := List.lookup_eq_none_iff.mp hl entry hmem
    rw [show b = key by simpa using hb]
    exact fun heq => by simp [heq] at hne
  made := by
    refine ⟨fun claim hmem => Nat.lt_succ_of_lt (h.made.1 claim hmem), fun entry hmem => ?_⟩
    rcases List.mem_append.mp hmem with hmem | hmem
    · exact Nat.lt_succ_of_lt (h.made.2 entry hmem)
    · rw [List.mem_singleton.mp hmem]
      exact Nat.lt_succ_self _
  keyed := by
    -- locks that were there before have other numbers than the new one
    obtain ⟨keyOf, hk, he⟩ := h.keyed
    refine ⟨Function.update keyOf locks.made (some key), ?_, ?_⟩
    · intro claim hmem
      rw [Function.update_of_ne (Nat.ne_of_lt (h.made.1 claim hmem))]
      exact hk claim hmem
    · intro entry hmem
      rcases List.mem_append.mp hmem with hmem | hmem
      · rw [Function.update_of_ne (Nat.ne_of_lt (h.made.2 entry hmem))]
        exact he entry hmem
      · rw [List.mem_singleton.mp hmem]
        exact Function.update_self _ _ _
  holder := h.holder

variable [DecidableEq ι]

/-- A new claim that waits keeps the order if its lock is that of the entry for its key. -/
theorem add (h : locks.InOrder) (hc : locks.claim? task = none) {lock : Nat}
    (hentry : (key, lock) ∈ locks.entries) :
    InOrder { locks with claims := locks.claims ++ [⟨task, key, lock, .waiting⟩] } where
  tasks := by
    rw [List.map_append, List.nodup_append]
    refine ⟨h.tasks, by simp, fun a ha b hb => ?_⟩
    obtain ⟨claim, hmem, rfl⟩ := List.mem_map.mp ha
    rw [show b = task by simpa using hb]
    exact claim?_eq_none_iff.mp hc claim hmem
  keys := h.keys
  made := by
    refine ⟨fun claim hmem => ?_, h.made.2⟩
    rcases List.mem_append.mp hmem with hmem | hmem
    · exact h.made.1 claim hmem
    · rw [List.mem_singleton.mp hmem]
      exact h.made.2 _ hentry
  keyed := by
    obtain ⟨keyOf, hk, he⟩ := h.keyed
    refine ⟨keyOf, fun claim hmem => ?_, he⟩
    rcases List.mem_append.mp hmem with hmem | hmem
    · exact hk claim hmem
    · rw [List.mem_singleton.mp hmem]
      exact he _ hentry
  holder := by
    -- the new claim waits, so both holders are old
    have hold {claim : Claim κ ι}
        (hmem : claim ∈ locks.claims ++ [⟨task, key, lock, .waiting⟩])
        (hp : claim.phase = .holding) : claim ∈ locks.claims := by
      rcases List.mem_append.mp hmem with hmem | hmem
      · exact hmem
      · rw [List.mem_singleton.mp hmem] at hp
        exact nomatch hp
    intro a ha b hb hpa hpb
    exact h.holder a (hold ha hpa) b (hold hb hpb) hpa hpb

/-- A change of phase makes neither claims nor entries. -/
theorem setPhase (h : locks.InOrder) {phase : Phase} {entries : List (κ × Nat)}
    (hentries : entries.Sublist locks.entries)
    (hholder : ∀ a ∈ (locks.setPhase task phase).claims,
      ∀ b ∈ (locks.setPhase task phase).claims, a.phase = .holding → b.phase = .holding →
        a.lock = b.lock → a.task = b.task) :
    InOrder { locks.setPhase task phase with entries } := by
  refine h.of_old rfl hentries ?_ (fun claim hmem => ?_) hholder
  · show ((locks.setPhase task phase).claims.map (·.task)).Sublist _
    rw [map_task_setPhase]
  · obtain ⟨old, hold, rfl⟩ := mem_setPhase.mp hmem
    refine ⟨old, hold, ?_⟩
    split <;> exact ⟨rfl, rfl⟩

/-- A claim that moves to another phase than that of a holder makes no second holder. -/
theorem holder_setPhase (h : locks.InOrder) {claim : Claim κ ι}
    (hmem : claim ∈ locks.claims) {phase : Phase} (hp : phase ≠ .holding) :
    ∀ a ∈ (locks.setPhase claim.task phase).claims,
      ∀ b ∈ (locks.setPhase claim.task phase).claims, a.phase = .holding → b.phase = .holding →
        a.lock = b.lock → a.task = b.task := by
  have before {c : Claim κ ι} (hc : c ∈ (locks.setPhase claim.task phase).claims)
      (hpc : c.phase = .holding) : c ∈ locks.claims := by
    rcases mem_setPhase_cases h.tasks hmem hc with ⟨hc, -⟩ | rfl
    · exact hc
    · exact absurd hpc hp
  intro a ha b hb hpa hpb
  exact h.holder a (before ha hpa) b (before hb hpb) hpa hpb

variable [DecidableEq κ] {move : Move κ ι}

/-- Every move keeps the order. -/
theorem change (h : locks.InOrder) (hs : Change locks move next) : next.InOrder := by
  cases hs with
  | join hc hl =>
    obtain ⟨before, after, hsplit, -⟩ := List.lookup_eq_some_iff.mp hl
    exact h.add hc (by simp [hsplit])
  | make hc hl => exact (h.enroll hl).add hc (by simp)
  | clear hl hdead =>
    refine h.of_old rfl List.filter_sublist (List.Sublist.refl _) ?_ h.holder
    exact fun claim hmem => ⟨claim, hmem, rfl, rfl⟩
  | @take claim hmem hwait hfree =>
    refine h.setPhase (List.Sublist.refl _) ?_
    -- an old holder would have held the lock when it was free
    intro a ha b hb hpa hpb hlock
    rcases mem_setPhase_cases h.tasks hmem ha with ⟨ha, -⟩ | rfl <;>
      rcases mem_setPhase_cases h.tasks hmem hb with ⟨hb, -⟩ | rfl
    · exact h.holder a ha b hb hpa hpb hlock
    · exact absurd hpa (hfree a ha hlock)
    · exact absurd hpb (hfree b hb hlock.symm)
    · rfl
  | pass hmem hp => exact h.setPhase (List.Sublist.refl _) (h.holder_setPhase hmem hp.2)
  | forget hc hlast =>
    have hmem := (mem_of_claim?_eq_some hc).1
    exact h.setPhase List.filter_sublist (h.holder_setPhase hmem (by decide))
  | drop =>
    refine h.of_old rfl (List.Sublist.refl _) (List.filter_sublist.map _) ?_ ?_
    · exact fun claim hmem => ⟨claim, (List.mem_filter.mp hmem).1, rfl, rfl⟩
    · exact fun a ha b hb => h.holder a (List.mem_filter.mp ha).1 b (List.mem_filter.mp hb).1

end InOrder

/-! ## Timely steps -/

section Timely

variable [DecidableEq κ] {locks next : KeyedLock κ ι} {key : κ}

/-- The table leads to the lock of every claim that wants it. -/
def Found (locks : KeyedLock κ ι) : Prop :=
  ∀ claim ∈ locks.claims, claim.Wants → locks.entries.lookup claim.key = some claim.lock

/-- Who finds its lock and holds it is the only holder of the key. -/
theorem Found.exclusive (h : locks.Found) (ho : locks.InOrder) : locks.Exclusive := by
  intro a ha b hb hpa hpb hkey
  have hfa := h a ha (Or.inr hpa)
  rw [hkey, h b hb (Or.inr hpb)] at hfa
  exact ho.holder a ha b hb hpa hpb (Option.some.inj hfa).symm

/-- An entry that is kept is found as before. -/
theorem lookup_filter_eq_some {entries : List (κ × Nat)} {keep : κ × Nat → Bool} {lock : Nat}
    (hl : entries.lookup key = some lock) (hkeep : keep (key, lock) = true) :
    (entries.filter keep).lookup key = some lock := by
  obtain ⟨before, after, rfl, hbefore⟩ := List.lookup_eq_some_iff.mp hl
  rw [List.filter_append, List.filter_cons_of_pos hkeep]
  exact List.lookup_eq_some_iff.mpr
    ⟨_, _, rfl, fun entry hmem => hbefore entry (List.mem_filter.mp hmem).1⟩

variable [DecidableEq ι] {move : Move κ ι} {task fresh : ι}

/-- A claim that can be found still can after a timely move. -/
theorem Found.change (h : locks.Found) (ho : locks.InOrder) (hs : Change locks move next)
    (ht : Timely locks move) : next.Found := by
  cases hs with
  | @join task key lock hc hl =>
    intro claim hmem hw
    rcases List.mem_append.mp hmem with hmem | hmem
    · exact h claim hmem hw
    · rw [List.mem_singleton.mp hmem]
      exact hl
  | @make task key hc hl =>
    intro claim hmem hw
    rw [List.lookup_append]
    rcases List.mem_append.mp hmem with hmem | hmem
    · rw [h claim hmem hw, Option.some_or]
    · rw [List.mem_singleton.mp hmem, hl, Option.none_or, List.lookup_cons_self]
  | @clear task key lock hl hdead =>
    intro claim hmem hw
    have hfound := h claim hmem hw
    -- a claim on this key would be on the dead lock
    have hkey : claim.key ≠ key := by
      rintro rfl
      rw [hl] at hfound
      exact hdead claim hmem (Option.some.inj hfound).symm
    exact lookup_filter_eq_some hfound (by simpa using hkey)
  | @take claim hmem hwait hfree =>
    intro other hother hw
    rcases mem_setPhase_cases ho.tasks hmem hother with ⟨hother, -⟩ | rfl
    · exact h other hother hw
    · exact h claim hmem (Or.inl hwait)
  | @pass claim _ phase hmem hp =>
    intro other hother hw
    rcases mem_setPhase_cases ho.tasks hmem hother with ⟨hother, -⟩ | rfl
    · exact h other hother hw
    · exact absurd hw (not_or.mpr hp)
  | @forget claim hc hlast =>
    intro other hother hw
    have hmem := (mem_of_claim?_eq_some hc).1
    rcases mem_setPhase_cases ho.tasks hmem hother with ⟨hother, -⟩ | rfl
    · -- the entry that is taken away leads to a lock that nobody wants
      have hlock : other.lock ≠ claim.lock := fun hlock => ht claim hc other hother hlock hw
      refine lookup_filter_eq_some (h other hother hw) ?_
      simpa using Or.inr hlock
    · exact absurd hw (by simp [Claim.Wants])
  | drop => exact fun claim hmem => h claim (List.mem_filter.mp hmem).1

/-- Moves may be taken up where other moves stopped. -/
theorem Reached.trans {allowed : KeyedLock κ ι → Move κ ι → Prop} {first last : KeyedLock κ ι}
    (h : Reached allowed first locks) (h' : Reached allowed locks last) :
    Reached allowed first last := by
  induction h' with
  | start => exact h
  | step _ ha hs ih => exact .step ih ha hs

/-- Moves that are allowed in any case lead where they lead one after the other. -/
theorem Reached.of_moves {allowed : KeyedLock κ ι → Move κ ι → Prop} {first last : KeyedLock κ ι}
    (moves : List (Move κ ι)) (ha : ∀ move ∈ moves, ∀ locks, allowed locks move)
    (hm : moves.foldlM step? first = some last) : Reached allowed first last := by
  induction moves generalizing first with
  | nil => exact Option.some.inj hm ▸ .start
  | cons move moves ih =>
    rw [List.foldlM_cons, Option.bind_eq_bind, Option.bind_eq_some_iff] at hm
    obtain ⟨next, hs, hm⟩ := hm
    have hstep : Reached allowed first next := .step .start (ha move List.mem_cons_self first) hs
    exact hstep.trans (ih (fun move hmem => ha move (List.mem_cons_of_mem _ hmem)) hm)

/-- Timely moves keep every claim where it can be found. -/
theorem Reached.found (h : Reached Timely .empty locks) : locks.InOrder ∧ locks.Found := by
  induction h with
  | start => exact ⟨.empty, by simp [Found, KeyedLock.empty]⟩
  | step _ ht hs ih =>
    obtain ⟨ho, hf⟩ := ih
    exact ⟨ho.change (step?_change hs), hf.change ho (step?_change hs) ht⟩

end Timely

/-! ## Late steps -/

section Late

variable [DecidableEq κ] [DecidableEq ι] {locks next : KeyedLock κ ι} {key : κ} {fresh : ι}

/-- Any step of any claim is allowed. -/
abbrev Freely : KeyedLock κ ι → Move κ ι → Prop := fun _ _ => True

/-- A newcomer takes a key to which no entry leads, whoever holds another lock for it. -/
theorem InOrder.newcomer_takes (h : locks.InOrder) (hl : locks.entries.lookup key = none)
    (hfresh : locks.claim? fresh = none) :
    ∃ last, Reached Freely locks last ∧
      (∀ claim ∈ locks.claims, claim ∈ last.claims) ∧
      ⟨fresh, key, locks.made, .holding⟩ ∈ last.claims := by
  -- it makes a lock and claims it
  let looked : KeyedLock κ ι := ⟨locks.entries ++ [(key, locks.made)],
    locks.claims ++ [⟨fresh, key, locks.made, .waiting⟩], locks.made + 1⟩
  have hlook : locks.step? (.access fresh key) = some looked := by
    simp [step?, hfresh, access, hl, looked]
  have hin : looked.InOrder := h.change (step?_change hlook)
  have hmem : ⟨fresh, key, locks.made, .waiting⟩ ∈ looked.claims :=
    List.mem_append_right _ (List.mem_singleton_self _)
  -- nobody else can have claimed the new lock, so it takes it
  have hfree : looked.isHeld locks.made = false := by
    simp only [isHeld, List.any_eq_false, Bool.and_eq_true, decide_eq_true_eq, not_and]
    intro claim hclaim hlock
    rcases List.mem_append.mp hclaim with hold | hnew
    · exact absurd hlock (Nat.ne_of_lt (h.made.1 claim hold))
    · simp [List.mem_singleton.mp hnew]
  have htake : looked.step? (.acquire fresh) = some (looked.setPhase fresh .holding) := by
    have hclaim := claim?_eq_some_of_mem hin.tasks hmem
    dsimp only at hclaim
    simp [step?, acquire?, hclaim, hfree, guard]
  refine ⟨_, .step (.step .start trivial hlook) trivial htake, fun claim hold => ?_, ?_⟩
  · refine mem_setPhase.mpr ⟨claim, List.mem_append_left _ hold, if_neg ?_⟩
    exact claim?_eq_none_iff.mp hfresh claim hold
  · exact mem_setPhase.mpr ⟨_, hmem, if_pos rfl⟩

/-- Once the entry of a lock that is wanted is gone, its key has or can get a holder to which the
table does not lead. -/
theorem holder_of_lost (ho : locks.InOrder) {wanting : Claim κ ι} (hmem : wanting ∈ locks.claims)
    (hw : wanting.Wants) :
    ∃ next, Reached Freely locks next ∧ next.InOrder ∧ next.entries = locks.entries ∧
      next.claims.map (·.task) = locks.claims.map (·.task) ∧
      ∃ holder ∈ next.claims, holder.phase = .holding ∧ holder.key = wanting.key := by
  by_cases hheld : locks.isHeld wanting.lock = true
  · -- somebody holds it already
    simp only [isHeld, List.any_eq_true, Bool.and_eq_true, decide_eq_true_eq] at hheld
    obtain ⟨holder, hholder, hlock, hholding⟩ := hheld
    exact ⟨locks, .start, ho, rfl, rfl, holder, hholder, hholding, ho.key_eq hholder hmem hlock⟩
  · -- the claim itself can take it
    have hwait : wanting.phase = .waiting := by
      refine hw.resolve_right fun hholding => hheld ?_
      simp only [isHeld, List.any_eq_true, Bool.and_eq_true, decide_eq_true_eq]
      exact ⟨wanting, hmem, rfl, hholding⟩
    have htake : locks.step? (.acquire wanting.task)
        = some (locks.setPhase wanting.task .holding) := by
      have hclaim := claim?_eq_some_of_mem ho.tasks hmem
      simp [step?, acquire?, hclaim, hwait, hheld, guard]
    -- taking it leaves entries and tasks as they are
    exact ⟨_, .step .start trivial htake, ho.change (step?_change htake), rfl,
      map_task_setPhase _, _, mem_setPhase.mpr ⟨wanting, hmem, if_pos rfl⟩, rfl, rfl⟩

/-- A key has one holder until an entry is taken away from a claim that wants its lock, and from
then on a newcomer can become a second one. -/
theorem exclusive_until_late (h : Reached Timely .empty locks) :
    locks.Exclusive ∧
      ∀ (task : ι) (next : KeyedLock κ ι) (fresh : ι), locks.forget? task = some next →
        ¬Timely locks (.forget task) → locks.claim? fresh = none →
        ∃ last, Reached Freely next last ∧ ¬last.Exclusive := by
  obtain ⟨ho, hf⟩ := h.found
  refine ⟨hf.exclusive ho, fun task next fresh hs hlate hfresh => ?_⟩
  have hforget : locks.step? (.forget task) = some next := hs
  have hin : next.InOrder := ho.change (step?_change hforget)
  obtain ⟨claim, hmem, rfl, hc, hlast, rfl⟩ := exists_of_due hs
  simp only [Timely, hc, Option.some.injEq, forall_eq', not_forall, not_not] at hlate
  obtain ⟨wanting, hwanting, hlock, hw⟩ := hlate
  -- the entry that goes is the only one of the key
  have hgone : (locks.entries.filter (· ≠ (claim.key, claim.lock))).lookup wanting.key = none := by
    have hfound := hf wanting hwanting hw
    obtain ⟨before, after, hsplit, -⟩ := List.lookup_eq_some_iff.mp hfound
    refine List.lookup_eq_none_iff.mpr fun entry hentry => ?_
    obtain ⟨hentry, hne⟩ := List.mem_filter.mp hentry
    have hkey := ho.key_eq hwanting hmem hlock
    have hother : wanting.key ≠ entry.1 := by
      intro heq
      refine of_decide_eq_true hne ?_
      refine List.inj_on_of_nodup_map ho.keys hentry ?_ (heq.symm.trans hkey)
      rw [hsplit, ← hkey, ← hlock]
      exact List.mem_append_right _ List.mem_cons_self
    simpa using hother
  -- the claim that wants the lock is another one, so it is as it was
  have hstays : wanting ∈ (locks.setPhase claim.task .leaving).claims := by
    refine mem_setPhase.mpr ⟨wanting, hwanting, if_neg fun htask => ?_⟩
    obtain rfl := List.inj_on_of_nodup_map ho.tasks hwanting hmem htask
    simp [Claim.Wants, hlast] at hw
  obtain ⟨mid, hmid, hmidin, hentries, htasks, holder, hholder, hholding, hkey⟩ :=
    holder_of_lost hin hstays hw
  have hnew : mid.claim? fresh = none := by
    refine claim?_eq_none_iff.mpr fun c hc htask => ?_
    have hold : fresh ∈ locks.claims.map (·.task) := by
      rw [← map_task_setPhase, ← htasks, ← htask]
      exact List.mem_map_of_mem hc
    obtain ⟨c, hc, htask⟩ := List.mem_map.mp hold
    exact claim?_eq_none_iff.mp hfresh c hc htask
  have hgone : mid.entries.lookup wanting.key = none := hentries ▸ hgone
  obtain ⟨last, hlastReached, hkeep, hsecond⟩ := hmidin.newcomer_takes hgone hnew
  refine ⟨last, hmid.trans hlastReached, fun hexclusive => ?_⟩
  have hsame := hexclusive _ (hkeep holder hholder) _ hsecond hholding rfl hkey
  exact claim?_eq_none_iff.mp hnew holder hholder hsame

/-- The first of two claims on a key has counted the references, and the second one came after. -/
def Sample.counted : KeyedLock String Nat :=
  ⟨[("vpar1", 0)], [⟨0, "vpar1", 0, .last⟩, ⟨1, "vpar1", 0, .waiting⟩], 1⟩

/-- The first claim has taken the entry away. -/
def Sample.forgotten : KeyedLock String Nat :=
  ⟨[], [⟨0, "vpar1", 0, .leaving⟩, ⟨1, "vpar1", 0, .waiting⟩], 1⟩

theorem Sample.reached_counted : Reached Timely .empty Sample.counted := by
  refine .of_moves [.access 0 "vpar1", .acquire 0, .release 0, .countReferences 0,
    .access 1 "vpar1"] (fun move hmem locks => ?_) rfl
  simp only [List.mem_cons, List.not_mem_nil, or_false] at hmem
  rcases hmem with rfl | rfl | rfl | rfl | rfl <;> exact trivial

theorem exclusive_until_late_sample :
    Sample.counted.Exclusive ∧
      ∃ last, Reached Freely Sample.forgotten last ∧ ¬last.Exclusive := by
  obtain ⟨hexclusive, hlate⟩ := exclusive_until_late Sample.reached_counted
  refine ⟨hexclusive, hlate 0 _ 2 rfl (fun ht => ?_) rfl⟩
  exact ht _ rfl ⟨1, "vpar1", 0, .waiting⟩ (by simp [Sample.counted]) rfl (Or.inl rfl)

/-- A claim that comes between the count and the loss of the entry holds the old lock, and the one
after it a new one. -/
theorem not_always_exclusive :
    ¬∀ locks : KeyedLock String Nat, Reached Freely .empty locks → locks.Exclusive := by
  intro hall
  have hreached : Reached Freely .empty (⟨[("vpar1", 1)], [⟨0, "vpar1", 0, .leaving⟩,
      ⟨1, "vpar1", 0, .holding⟩, ⟨2, "vpar1", 1, .holding⟩], 2⟩ : KeyedLock String Nat) :=
    .of_moves [.access 0 "vpar1", .acquire 0, .release 0, .countReferences 0,
      .access 1 "vpar1", .forget 0, .acquire 1, .access 2 "vpar1", .acquire 2]
      (fun _ _ _ => trivial) rfl
  have hsame := hall _ hreached ⟨1, "vpar1", 0, .holding⟩ (by simp)
    ⟨2, "vpar1", 1, .holding⟩ (by simp) rfl rfl rfl
  exact absurd hsame (by decide)

end Late

end VparFleet.KeyedLock
