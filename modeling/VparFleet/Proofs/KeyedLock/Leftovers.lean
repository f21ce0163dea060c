import Mathlib.Data.List.Dedup
import Mathlib.Data.List.Induction
import VparFleet.Proofs.KeyedLock.Interleaved

/-!
# Entries that are left behind

A guard takes the entry of its key out of the table when it is dropped, unless somebody else still
refers to the lock. A lock call that is given up takes nothing out. So if the last guard is dropped
while a call waits, and that call is given up before its turn has come, nobody is left to take the
entry out: it stays, dead, until the key is locked again.

* `Call`, `call?`: whole calls, as tasks make them one after the other.
* `Effect`, `call?_effect`: what a call does.
* `Effect.keys_of_ne`, `Effect.mem_keys_iff`: which keys have an entry and a claim after a call.
* `entries_after_calls`: a key has an entry while it is in use or when its last claim was given up,
  and the living locks are as many as the keys in use.
* `not_only_keys_in_use`: an entry for a key that nobody uses.
-/

namespace VparFleet.KeyedLock

variable {κ ι : Type}

/-! ## Whole calls, one after the other -/

/-- A call of a task. A task makes one claim at a time, so who wants two keys at once counts as two
tasks. -/
inductive Call (κ ι : Type) where
  /-- Asks for the lock of a key, and takes it at once if its turn has come. -/
  | lock (task : ι) (key : κ)
  /-- Takes the lock after having waited for it. -/
  | wake (task : ι) (key : κ)
  /-- Drops the guard. -/
  | unlock (task : ι) (key : κ)
  /-- Drops a lock call that still waits. -/
  | abandon (task : ι) (key : κ)

/-- How a claim can end. -/
inductive Ending where
  | unlocked
  | abandoned
  deriving DecidableEq

/-- The key of a call. -/
def Call.key : Call κ ι → κ
  | lock _ key | wake _ key | unlock _ key | abandon _ key => key

/-- How a call ends a claim. -/
def Call.ending? : Call κ ι → Option Ending
  | lock _ _ | wake _ _ => none
  | unlock _ _ => some .unlocked
  | abandon _ _ => some .abandoned

/-- How the last claim on a key ended. -/
def lastEnding? [DecidableEq κ] (key : κ) (calls : List (Call κ ι)) : Option Ending :=
  ((calls.filter (·.key = key)).filterMap Call.ending?).getLast?

/-- The keys that have an entry. -/
def keys (locks : KeyedLock κ ι) : List κ :=
  locks.entries.map (·.1)

instance (claim : Claim κ ι) : Decidable claim.Wants :=
  inferInstanceAs (Decidable (_ ∨ _))

/-- The keys that somebody has a guard for or waits for. -/
def keysInUse [DecidableEq κ] (locks : KeyedLock κ ι) : List κ :=
  ((locks.claims.filter (·.Wants)).map (·.key)).dedup

/-- Makes a call, if it is due. -/
def call? [DecidableEq κ] [DecidableEq ι] (locks : KeyedLock κ ι) :
    Call κ ι → Option (KeyedLock κ ι)
  | .lock task key =>
    if (locks.claim? task).isSome then none
    else
      let entered := locks.enter task key
      some ((entered.acquireInTurn? task).getD entered)
  | .wake task key => do
    let claim ← locks.claim? task
    guard (claim.key = key)
    locks.acquireInTurn? task
  | .unlock task key => do
    let claim ← locks.claim? task
    guard (claim.key = key ∧ claim.phase = .holding)
    return locks.finish task
  | .abandon task key => do
    let claim ← locks.claim? task
    guard (claim.key = key)
    locks.abandon? task

variable {locks next : KeyedLock κ ι} {task : ι} {key other : κ}

/-! ## References, claims and entries -/

/-- A lock that is referred to has a claim. -/
theorem exists_claim_of_references_pos {lock : Nat} (h : 0 < locks.references lock) :
    ∃ claim ∈ locks.claims, claim.lock = lock := by
  by_contra hnone
  have hon : locks.claims.filter (·.lock = lock) = [] := by
    refine List.filter_eq_nil_iff.mpr fun claim hmem => ?_
    simpa using fun hlock => hnone ⟨claim, hmem, hlock⟩
  simp [references, hon] at h

/-- A lock with one claim has the references of that claim. -/
theorem references_of_only {claim : Claim κ ι} (htasks : (locks.claims.map (·.task)).Nodup)
    (hmem : claim ∈ locks.claims)
    (honly : ∀ c ∈ locks.claims, c.lock = claim.lock → c = claim) :
    locks.references claim.lock = claim.phase.references := by
  have hon : locks.claims.filter (·.lock = claim.lock) = [claim] := by
    have hnodup : (locks.claims.filter (·.lock = claim.lock)).Nodup := htasks.of_map.filter _
    have hall : ∀ c ∈ locks.claims.filter (·.lock = claim.lock), c = claim := by
      intro c hc
      obtain ⟨hc, hlock⟩ := List.mem_filter.mp hc
      exact honly c hc (of_decide_eq_true hlock)
    have hself : claim ∈ locks.claims.filter (·.lock = claim.lock) :=
      List.mem_filter.mpr ⟨hmem, by simp⟩
    -- a list of one element only, which is there once
    generalize locks.claims.filter (·.lock = claim.lock) = on at hnodup hall hself
    rcases on with _ | ⟨x, _ | ⟨y, rest⟩⟩
    · cases hself
    · rw [hall x List.mem_cons_self]
    · have hxy : x = y := by rw [hall x (by simp), hall y (by simp)]
      simp [hxy] at hnodup
  rw [references, hon]
  simp

/-- An entry leads to the lock of its own key. -/
theorem InOrder.entry_key_eq (h : locks.InOrder) {claim : Claim κ ι} (hmem : claim ∈ locks.claims)
    {entry : κ × Nat} (hentry : entry ∈ locks.entries) (hlock : claim.lock = entry.2) :
    claim.key = entry.1 := by
  obtain ⟨keyOf, hclaims, hentries⟩ := h.keyed
  have hkey := hclaims claim hmem
  rw [hlock, hentries entry hentry] at hkey
  exact (Option.some.inj hkey).symm

/-- Keys whose entries are all kept are there before and after. -/
theorem mem_keys_filter {entries : List (κ × Nat)} {keep : κ × Nat → Bool}
    (hkeep : ∀ entry ∈ entries, entry.1 = other → keep entry = true) :
    other ∈ (entries.filter keep).map (·.1) ↔ other ∈ entries.map (·.1) := by
  simp only [List.mem_map, List.mem_filter]
  refine exists_congr fun entry => ?_
  constructor
  · rintro ⟨⟨hmem, -⟩, hkey⟩
    exact ⟨hmem, hkey⟩
  · rintro ⟨hmem, hkey⟩
    exact ⟨⟨hmem, hkeep entry hmem hkey⟩, hkey⟩

/-- Phases do not matter for which keys are claimed. -/
theorem claimed_setPhase [DecidableEq ι] (locks : KeyedLock κ ι) (task : ι) (phase : Phase) :
    (∃ claim ∈ (locks.setPhase task phase).claims, claim.key = other) ↔
      ∃ claim ∈ locks.claims, claim.key = other := by
  constructor
  · rintro ⟨claim, hmem, rfl⟩
    obtain ⟨old, hold, rfl⟩ := mem_setPhase.mp hmem
    exact ⟨old, hold, by split <;> rfl⟩
  · rintro ⟨claim, hmem, rfl⟩
    exact ⟨_, mem_setPhase.mpr ⟨claim, hmem, rfl⟩, by split <;> rfl⟩

variable [DecidableEq κ]

/-- The last call decides, if it ends the use of the key. -/
theorem lastEnding?_concat (key : κ) (calls : List (Call κ ι)) (call : Call κ ι) :
    lastEnding? key (calls ++ [call])
      = (if call.key = key then call.ending? else none).or (lastEnding? key calls) := by
  unfold lastEnding?
  rw [List.filter_append, List.filterMap_append, List.getLast?_append]
  by_cases hkey : call.key = key
  · rw [if_pos hkey]
    cases hend : call.ending? <;> simp [hkey, hend]
  · simp [hkey]

/-- A look at a key does not matter to the entries of others. -/
theorem mem_keys_access (locks : KeyedLock κ ι) (task : ι) (hne : other ≠ key) :
    other ∈ (locks.access task key).keys ↔ other ∈ locks.keys := by
  unfold access
  split
  · split
    · rfl
    · exact mem_keys_filter fun entry _ hentry => by simpa [hentry] using hne
  · simp [keys, hne]

namespace Sound

/-- Between calls, the keys in use are those with a claim. -/
theorem mem_keysInUse (h : locks.Sound) :
    key ∈ locks.keysInUse ↔ ∃ claim ∈ locks.claims, claim.key = key := by
  have hwants : ∀ claim ∈ locks.claims, claim.Wants := h.phase
  simp only [keysInUse, List.mem_dedup, List.mem_map, List.mem_filter, decide_eq_true_eq]
  exact exists_congr fun claim => and_congr_left fun _ => and_iff_left_of_imp (hwants claim)

theorem mem_entries (h : locks.Sound) {claim : Claim κ ι} (hmem : claim ∈ locks.claims) :
    (claim.key, claim.lock) ∈ locks.entries := by
  obtain ⟨before, after, hsplit, -⟩ := List.lookup_eq_some_iff.mp (h.entry claim hmem)
  simp [hsplit]

theorem mem_keys_of_inUse (h : locks.Sound) (hkey : key ∈ locks.keysInUse) :
    key ∈ locks.keys := by
  obtain ⟨claim, hmem, rfl⟩ := h.mem_keysInUse.mp hkey
  exact List.mem_map_of_mem (h.mem_entries hmem)

/-- Between calls, the living locks are those of the keys in use. -/
theorem active_eq_length (h : locks.Sound) (ho : locks.InOrder) :
    locks.active = locks.keysInUse.length := by
  let living := locks.entries.filter fun entry => 0 < locks.references entry.2
  have hnodup : (living.map (·.1)).Nodup := ho.keys.sublist (List.filter_sublist.map _)
  have hmem (key : κ) : key ∈ living.map (·.1) ↔ key ∈ locks.keysInUse := by
    refine Iff.trans ?_ h.mem_keysInUse.symm
    simp only [living, List.mem_map, List.mem_filter, decide_eq_true_eq]
    constructor
    · rintro ⟨entry, ⟨hentry, halive⟩, rfl⟩
      obtain ⟨claim, hmem, hlock⟩ := exists_claim_of_references_pos halive
      exact ⟨claim, hmem, ho.entry_key_eq hmem hentry hlock⟩
    · rintro ⟨claim, hmem, rfl⟩
      exact ⟨_, ⟨h.mem_entries hmem, references_pos hmem⟩, rfl⟩
  -- the entries with references are the keys in use, each of them once
  have hperm := (List.perm_ext_iff_of_nodup hnodup (List.nodup_dedup _)).mpr hmem
  exact (List.length_map _).symm.trans hperm.length_eq

variable [DecidableEq ι]

/-- Giving up takes a claim out and nothing else. -/
theorem drop (h : locks.Sound) (task : ι) : (locks.drop task).Sound where
  tasks := h.tasks.sublist (List.filter_sublist.map _)
  entry claim hmem := h.entry claim (List.mem_filter.mp hmem).1
  phase claim hmem := h.phase claim (List.mem_filter.mp hmem).1
  holder a ha b hb := h.holder a (List.mem_filter.mp ha).1 b (List.mem_filter.mp hb).1

end Sound

variable [DecidableEq ι]

/-! ## What a call does -/

/-- What a call that is due does, when nobody else steps in. -/
inductive Effect (locks : KeyedLock κ ι) : Call κ ι → KeyedLock κ ι → Prop where
  /-- A claim is made, and waits. -/
  | join {task : ι} {key : κ} (hc : locks.claim? task = none) :
      Effect locks (.lock task key) (locks.enter task key)
  /-- A claim is made, and takes its lock. -/
  | hold {task : ι} {key : κ} {next : KeyedLock κ ι} (hc : locks.claim? task = none)
      (ha : (locks.enter task key).acquireInTurn? task = some next) :
      Effect locks (.lock task key) next
  /-- A claim takes its lock. -/
  | take {claim : Claim κ ι} {next : KeyedLock κ ι} (hmem : claim ∈ locks.claims)
      (ha : locks.acquireInTurn? claim.task = some next) :
      Effect locks (.wake claim.task claim.key) next
  /-- A holder finishes. -/
  | finish {claim : Claim κ ι} (hc : locks.claim? claim.task = some claim)
      (hp : claim.phase = .holding) :
      Effect locks (.unlock claim.task claim.key) (locks.finish claim.task)
  /-- A claim that waits is given up. -/
  | drop {claim : Claim κ ι} (hc : locks.claim? claim.task = some claim)
      (hp : claim.phase = .waiting) :
      Effect locks (.abandon claim.task claim.key) (locks.drop claim.task)

/-- A call that succeeds does one of five things. -/
theorem call?_effect {call : Call κ ι} (h : locks.call? call = some next) :
    Effect locks call next := by
  cases call with
  | lock task key =>
    unfold call? at h
    dsimp only at h
    split at h
    · exact nomatch h
    next hc =>
    have hc : locks.claim? task = none := by simpa using hc
    obtain rfl := Option.some.inj h
    -- who enters either has to wait or takes the lock at once
    cases ha : (locks.enter task key).acquireInTurn? task with
    | none => exact .join hc
    | some next => exact .hold hc ha
  | wake task key =>
    obtain ⟨claim, hc, h⟩ := Option.bind_eq_some_iff.mp h
    obtain ⟨u, hkey, ha⟩ := Option.bind_eq_some_iff.mp h
    obtain ⟨hmem, rfl⟩ := mem_of_claim?_eq_some hc
    obtain rfl : claim.key = key := (Option.guard_eq_some' u).mp hkey
    exact .take hmem ha
  | unlock task key =>
    obtain ⟨claim, hmem, rfl, hc, ⟨rfl, hp⟩, rfl⟩ := exists_of_due h
    exact .finish hc hp
  | abandon task key =>
    obtain ⟨claim, hc, h⟩ := Option.bind_eq_some_iff.mp h
    obtain ⟨u, hkey, ha⟩ := Option.bind_eq_some_iff.mp h
    obtain ⟨-, rfl⟩ := mem_of_claim?_eq_some hc
    obtain rfl : claim.key = key := (Option.guard_eq_some' u).mp hkey
    obtain ⟨claim', -, -, hc', hp, rfl⟩ := exists_of_due ha
    obtain rfl := Option.some.inj (hc.symm.trans hc')
    exact .drop hc hp

/-! ## Calls are made of steps -/

/-- Whatever moves are made, everything stays in order. -/
theorem Reached.inOrder {start : KeyedLock κ ι} (h : Reached Freely start locks)
    (ho : start.InOrder) : locks.InOrder := by
  induction h with
  | start => exact ho
  | step _ _ hs ih => exact ih.change (step?_change hs)

theorem reached_of_step {move : Move κ ι} (hs : locks.step? move = some next) :
    Reached Freely locks next :=
  .step .start trivial hs

/-- A step is made or not. -/
theorem reached_getD (locks : KeyedLock κ ι) (move : Move κ ι) :
    Reached Freely locks ((locks.step? move).getD locks) := by
  cases hs : locks.step? move with
  | none => exact .start
  | some next => exact reached_of_step hs

/-- Looking up the entry of a key is a move. -/
theorem access_reached (key : κ) (hc : locks.claim? task = none) :
    Reached Freely locks (locks.access task key) := by
  have hs : locks.step? (.access task key) = some (locks.access task key) := by
    simp [step?, hc]
  exact reached_of_step hs

/-- Entering is two moves: the entry is looked up, and then it is joined. -/
theorem enter_reached (key : κ) (hc : locks.claim? task = none) :
    Reached Freely locks (locks.enter task key) := by
  have hlook := access_reached key hc
  unfold enter
  dsimp only
  split
  · exact hlook
  · next hclaim => exact hlook.trans (access_reached key (by simpa using hclaim))

/-- Taking a lock in turn is a move. -/
theorem acquireInTurn?_reached (ha : locks.acquireInTurn? task = some next) :
    Reached Freely locks next := by
  obtain ⟨claim, hc, ha⟩ := Option.bind_eq_some_iff.mp ha
  obtain ⟨-, -, ha⟩ := Option.bind_eq_some_iff.mp ha
  have hs : locks.step? (.acquire task) = some next := ha
  exact reached_of_step hs

theorem finish_reached (locks : KeyedLock κ ι) (task : ι) :
    Reached Freely locks (locks.finish task) :=
  (((reached_getD _ (.release task)).trans (reached_getD _ (.countReferences task))).trans
    (reached_getD _ (.forget task))).trans (reached_getD _ (.leave task))

namespace Effect

variable {call : Call κ ι}

/-- Calls are moves in a row, so they keep the order. -/
theorem inOrder (h : Effect locks call next) (ho : locks.InOrder) : next.InOrder := by
  refine Reached.inOrder ?_ ho
  cases h with
  | join hc => exact enter_reached _ hc
  | hold hc ha => exact (enter_reached _ hc).trans (acquireInTurn?_reached ha)
  | take hmem ha => exact acquireInTurn?_reached ha
  | @finish claim hc hp => exact finish_reached locks claim.task
  | @drop claim hc hp =>
    have hs : locks.step? (.abandon claim.task) = some (locks.drop claim.task) := by
      simp [step?, abandon?, hc, hp, guard]
    exact reached_of_step hs

/-- Calls keep the locks sound. -/
theorem sound (h : Effect locks call next) (hs : locks.Sound) : next.Sound := by
  cases h with
  | join hc => exact (hs.enter hc).1
  | hold hc ha => exact (hs.enter hc).1.acquireInTurn ha
  | take hmem ha => exact hs.acquireInTurn ha
  | finish hc hp => exact hs.finish hc hp
  | drop => exact hs.drop _

end Effect

/-! ## Keys before and after a call -/

/-- Entering makes no entry but that of its own key. -/
theorem mem_keys_enter (locks : KeyedLock κ ι) (task : ι) (hne : other ≠ key) :
    other ∈ (locks.enter task key).keys ↔ other ∈ locks.keys := by
  unfold enter
  dsimp only
  split
  · exact mem_keys_access locks task hne
  · rw [mem_keys_access _ task hne, mem_keys_access locks task hne]

/-- Who enters has a claim, and nobody else gets or loses one. -/
theorem Sound.claimed_enter (hs : locks.Sound) (hc : locks.claim? task = none) :
    (∃ claim ∈ (locks.enter task key).claims, claim.key = other) ↔
      (∃ claim ∈ locks.claims, claim.key = other) ∨ key = other := by
  obtain ⟨lock, hclaims⟩ : ∃ lock, (locks.enter task key).claims
      = locks.claims ++ [⟨task, key, lock, .waiting⟩] := (hs.enter hc).2
  simp [hclaims, or_and_right, exists_or]

/-- A claim that goes away leaves the other keys claimed. -/
theorem claimed_of_ne {claim : Claim κ ι} (hs : locks.Sound) (hmem : claim ∈ locks.claims)
    (hne : other ≠ claim.key) :
    (∃ c ∈ locks.claims.filter (·.task ≠ claim.task), c.key = other) ↔
      ∃ c ∈ locks.claims, c.key = other := by
  refine exists_congr fun c => and_congr_left fun hkey => ?_
  rw [List.mem_filter]
  refine and_iff_left_of_imp fun hc => decide_eq_true fun htask => hne ?_
  rw [← hkey, List.inj_on_of_nodup_map hs.tasks hc hmem htask]

/-- Who finishes takes the entry of the key out, unless somebody else has a claim on it. -/
theorem not_mem_keys_finish {claim : Claim κ ι} (hs : locks.Sound) (ho : locks.InOrder)
    (hc : locks.claim? claim.task = some claim) (hp : claim.phase = .holding)
    (hunused : claim.key ∉ (locks.finish claim.task).keysInUse) :
    claim.key ∉ (locks.finish claim.task).keys := by
  obtain ⟨hmem, -⟩ := mem_of_claim?_eq_some hc
  -- nobody else has a claim on the key, so nobody else refers to its lock
  have halone : ∀ c ∈ locks.claims, c.lock = claim.lock → c = claim := by
    intro c hcmem hlock
    by_contra hne
    refine hunused ((hs.finish hc hp).mem_keysInUse.mpr ⟨c, ?_, ho.key_eq hcmem hmem hlock⟩)
    rw [finish_claims hc hp]
    exact List.mem_filter.mpr
      ⟨hcmem, decide_eq_true fun htask => hne (List.inj_on_of_nodup_map hs.tasks hcmem hmem htask)⟩
  have hone : (locks.setPhase claim.task .released).references claim.lock = 1 := by
    have hreleased : ({ claim with phase := .released } : Claim κ ι)
        ∈ (locks.setPhase claim.task .released).claims :=
      mem_setPhase.mpr ⟨claim, hmem, if_pos rfl⟩
    refine references_of_only ?_ hreleased ?_
    · rw [map_task_setPhase]
      exact hs.tasks
    · intro c hcmem hlock
      obtain ⟨d, hd, rfl⟩ := mem_setPhase.mp hcmem
      have hd : d = claim := halone d hd (by split at hlock <;> exact hlock)
      rw [hd, if_pos rfl]
  rw [finish_of_holding hc hp, if_pos hone]
  intro hkey
  obtain ⟨entry, hentry, hkey⟩ := List.mem_map.mp hkey
  obtain ⟨hentry, hne⟩ := List.mem_filter.mp hentry
  -- a key has one entry, and this one is taken out
  rw [List.inj_on_of_nodup_map ho.keys hentry (hs.mem_entries hmem) hkey] at hne
  simp at hne

namespace Effect

variable {call : Call κ ι}

/-- A call does not matter to the entries and claims of other keys. -/
theorem keys_of_ne (h : Effect locks call next) (hs : locks.Sound) (hne : other ≠ call.key) :
    (other ∈ next.keys ↔ other ∈ locks.keys) ∧
      (other ∈ next.keysInUse ↔ other ∈ locks.keysInUse) := by
  rw [(h.sound hs).mem_keysInUse, hs.mem_keysInUse]
  -- a new claim is one on its own key
  have hentered {task : ι} {key : κ} (hc : locks.claim? task = none) (hne : other ≠ key) :
      (∃ claim ∈ (locks.enter task key).claims, claim.key = other) ↔
        ∃ claim ∈ locks.claims, claim.key = other :=
    (hs.claimed_enter hc).trans (or_iff_left (Ne.symm hne))
  cases h with
  | @join task key hc => exact ⟨mem_keys_enter locks task hne, hentered hc hne⟩
  | @hold task key next hc ha =>
    obtain ⟨-, -, -, -, -, rfl⟩ := acquireInTurn?_eq_some ha
    exact ⟨mem_keys_enter locks task hne, (claimed_setPhase _ task _).trans (hentered hc hne)⟩
  | @take claim next hmem ha =>
    obtain ⟨-, -, -, -, -, rfl⟩ := acquireInTurn?_eq_some ha
    exact ⟨Iff.rfl, claimed_setPhase locks claim.task _⟩
  | @finish claim hc hp =>
    obtain ⟨hmem, -⟩ := mem_of_claim?_eq_some hc
    rw [finish_claims hc hp]
    refine ⟨?_, claimed_of_ne hs hmem hne⟩
    rw [finish_of_holding hc hp]
    split
    · -- the entry that goes is that of the key
      refine mem_keys_filter fun entry _ hentry => decide_eq_true fun heq => hne ?_
      exact hentry.symm.trans (congrArg Prod.fst heq)
    · rfl
  | @drop claim hc hp =>
    obtain ⟨hmem, -⟩ := mem_of_claim?_eq_some hc
    exact ⟨Iff.rfl, claimed_of_ne hs hmem hne⟩

/-- A call that ends no claim leaves its key in use. -/
theorem inUse_of_going_on (h : Effect locks call next) (hs : locks.Sound)
    (hend : call.ending? = none) : call.key ∈ next.keysInUse := by
  have hjoined {task : ι} {key : κ} (hc : locks.claim? task = none) :
      ∃ claim ∈ (locks.enter task key).claims, claim.key = key :=
    (hs.claimed_enter hc).mpr (Or.inr rfl)
  -- a call that ends no use leaves its claim behind
  refine (h.sound hs).mem_keysInUse.mpr ?_
  cases h with
  | join hc => exact hjoined hc
  | @hold task key next hc ha =>
    obtain ⟨-, -, -, -, -, rfl⟩ := acquireInTurn?_eq_some ha
    exact (claimed_setPhase _ task _).mpr (hjoined hc)
  | @take claim next hmem ha =>
    obtain ⟨-, -, -, -, -, rfl⟩ := acquireInTurn?_eq_some ha
    exact (claimed_setPhase locks claim.task _).mpr ⟨claim, hmem, rfl⟩
  | finish hc hp => exact nomatch hend
  | drop hc hp => exact nomatch hend

/-- When a claim has ended, its key has an entry if it is still in use, or if the claim was given
up. -/
theorem mem_keys_iff (h : Effect locks call next) (hs : locks.Sound) (ho : locks.InOrder)
    {ending : Ending} (hend : call.ending? = some ending) :
    call.key ∈ next.keys ↔ call.key ∈ next.keysInUse ∨ ending = .abandoned := by
  have hsound := h.sound hs
  cases h with
  | join hc => exact nomatch hend
  | hold hc ha => exact nomatch hend
  | take hmem ha => exact nomatch hend
  | @finish claim hc hp =>
    obtain rfl := Option.some.inj hend
    refine ⟨fun hkey => Or.inl ?_, fun h => h.elim hsound.mem_keys_of_inUse nofun⟩
    by_contra hunused
    exact not_mem_keys_finish hs ho hc hp hunused hkey
  | @drop claim hc hp =>
    obtain rfl := Option.some.inj hend
    -- the entry led to the lock of the claim, and it stays
    have hentry : claim.key ∈ locks.keys :=
      List.mem_map_of_mem (hs.mem_entries (mem_of_claim?_eq_some hc).1)
    exact iff_of_true hentry (Or.inr rfl)

end Effect

/-! ## Any number of calls -/

/-- What any number of calls keep. -/
structure Accounted (calls : List (Call κ ι)) (locks : KeyedLock κ ι) : Prop where
  sound : locks.Sound
  inOrder : locks.InOrder
  keys : ∀ key, key ∈ locks.keys ↔
    key ∈ locks.keysInUse ∨ lastEnding? key calls = some .abandoned

/-- One more call is accounted for. -/
theorem Accounted.concat {calls : List (Call κ ι)} {call : Call κ ι}
    (h : Accounted calls locks) (he : Effect locks call next) :
    Accounted (calls ++ [call]) next where
  sound := he.sound h.sound
  inOrder := he.inOrder h.inOrder
  keys key := by
    rw [lastEnding?_concat]
    by_cases hkey : call.key = key
    · subst hkey
      rw [if_pos rfl]
      cases hend : call.ending? with
      | none =>
        have huse := he.inUse_of_going_on h.sound hend
        exact iff_of_true ((he.sound h.sound).mem_keys_of_inUse huse) (Or.inl huse)
      | some ending => simpa using he.mem_keys_iff h.sound h.inOrder hend
    · -- for any other key nothing has changed
      obtain ⟨hentries, hclaims⟩ := he.keys_of_ne h.sound (Ne.symm hkey)
      rw [hentries, hclaims, if_neg hkey, Option.none_or]
      exact h.keys key

/-- All calls are accounted for, from the first one on. -/
theorem accounted_of_calls {calls : List (Call κ ι)}
    (h : calls.foldlM call? .empty = some locks) : Accounted calls locks := by
  induction calls using List.reverseRecOn generalizing locks with
  | nil =>
    obtain rfl := Option.some.inj h
    refine ⟨.idle rfl, .empty, fun key => ?_⟩
    simp [KeyedLock.keys, KeyedLock.empty, keysInUse, lastEnding?]
  | append_singleton calls call ih =>
    -- the last call follows all others
    rw [List.foldlM_append, Option.bind_eq_bind, Option.bind_eq_some_iff] at h
    obtain ⟨before, hbefore, hcall⟩ := h
    rw [List.foldlM_cons, Option.bind_eq_bind, Option.bind_eq_some_iff] at hcall
    obtain ⟨after, hcall, hafter⟩ := hcall
    obtain rfl := Option.some.inj hafter
    exact (ih hbefore).concat (call?_effect hcall)

/-- After any calls, as many locks are alive as keys are in use, and the keys that have an entry are
those and the ones whose last claim was given up. -/
theorem entries_after_calls {calls : List (Call κ ι)}
    (h : calls.foldlM call? .empty = some locks) :
    locks.active = locks.keysInUse.length ∧
      ∀ key, key ∈ locks.keys ↔
        key ∈ locks.keysInUse ∨ lastEnding? key calls = some .abandoned :=
  have haccounted := accounted_of_calls h
  ⟨haccounted.sound.active_eq_length haccounted.inOrder, haccounted.keys⟩

namespace Sample

/-- Two tasks want one key. The first one drops its guard, and the other one does not wait until its
turn has come. Then another key is locked. -/
def givenUp : List (Call String Nat) :=
  [.lock 0 "vpar1", .lock 1 "vpar1", .unlock 0 "vpar1", .abandon 1 "vpar1", .lock 2 "vpar2"]

/-- What has become of the locks. -/
def leftover : KeyedLock String Nat :=
  ⟨[("vpar1", 0), ("vpar2", 1)], [⟨2, "vpar2", 1, .holding⟩], 2⟩

end Sample

theorem entries_after_calls_sample :
    Sample.givenUp.foldlM call? .empty = some Sample.leftover ∧
      Sample.leftover.active = Sample.leftover.keysInUse.length ∧
      ("vpar1" ∈ Sample.leftover.keys ↔
        "vpar1" ∈ Sample.leftover.keysInUse ∨
          lastEnding? "vpar1" Sample.givenUp = some .abandoned) := by
  have hcalls : Sample.givenUp.foldlM call? .empty = some Sample.leftover := rfl
  obtain ⟨hactive, hkeys⟩ := entries_after_calls hcalls
  exact ⟨hcalls, hactive, hkeys "vpar1"⟩

/-- A key keeps its entry although nobody has a guard for it or waits for it. -/
theorem not_only_keys_in_use :
    ¬∀ (calls : List (Call String Nat)) (locks : KeyedLock String Nat),
      calls.foldlM call? .empty = some locks → ∀ key ∈ locks.keys, key ∈ locks.keysInUse := by
  intro hall
  have hkey := hall Sample.givenUp Sample.leftover rfl "vpar1" (by decide)
  exact absurd hkey (by decide)

end VparFleet.KeyedLock
