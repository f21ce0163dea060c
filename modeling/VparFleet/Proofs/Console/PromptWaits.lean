import Mathlib.Data.List.Infix
import VparFleet.Console.Conversation
import VparFleet.Proofs.Text.Utf8.Chunks

/-!
# Waits for a prompt

A wait receives chunks as they are delivered until the output holds a prompt, the channel ends or
fails, or its deadline comes, whichever is first. The deadline is fixed when the wait begins. What
a wait has received and not given out is kept, so one that reached its deadline can be taken up
again.

* `Heard`: what output comes to, chunk by chunk; `heard_iff`: the conversation keeps just that.
* `Ends`: how a wait ends, told from the deliveries.
* `ends_waitUntil`, `Ends.eq_waitUntil`: a wait ends in this way, and in no other.
* `Alike`, `alike_waitUntil`: waits that only name another limit in a fault.
* `waitFor_ends`: how a wait ends, and two waits in place of one.
-/

namespace VparFleet

/-- A chunk and when it can be received. -/
structure TimedChunk where
  time : Nat
  bytes : List UInt8

/-- The delivery of a chunk. -/
def TimedChunk.delivery (chunk : TimedChunk) : Delivery :=
  ⟨chunk.time, .chunk chunk.bytes⟩

namespace Conversation

variable {prompt : Pattern} {limit : Span} {deadline now time : Nat} {conversation : Conversation}
  {deliveries rest : List Delivery} {heard : List TimedChunk} {wait : Wait}

/-- What has been heard after some chunks. The bytes of a chunk follow those that wait. All of them
are read but the beginning of a character at the end, which waits now, and the text that was read
is added to the text before, from which escape sequences are then stripped. -/
inductive Heard (conversation : Conversation) : List TimedChunk → Conversation → Prop where
  | nothing : Heard conversation [] conversation
  | chunk {heard : List TimedChunk} {before : Conversation} (h : Heard conversation heard before)
    (chunk : TimedChunk) {text : List Char} {waiting : List UInt8}
    (hreads : Text.Utf8.Reads (before.pending ++ chunk.bytes) text waiting) :
    Heard conversation (heard ++ [chunk]) ⟨Text.Escape.strip (before.buffer ++ text), waiting⟩

/-- When the last of some chunks is received by who listens from the moment `now` on. -/
def momentAfter (now : Nat) (heard : List TimedChunk) : Nat :=
  heard.foldl (fun moment chunk => max moment chunk.time) now

theorem le_momentAfter (now : Nat) (heard : List TimedChunk) : now ≤ momentAfter now heard := by
  induction heard generalizing now with
  | nil => exact Nat.le_refl now
  | cons chunk heard ih => exact Nat.le_trans (Nat.le_max_left now chunk.time) (ih _)

/-- Whether a wait is still on when it has received some chunks: all came before the deadline, and
before the last of them there was no prompt. -/
structure Listening (prompt : Pattern) (deadline : Nat) (conversation : Conversation) (now : Nat)
    (heard : List TimedChunk) : Prop where
  inTime : momentAfter now heard < deadline
  silent : ∀ earlier before, earlier <+: heard → earlier ≠ heard →
    conversation.Heard earlier before → prompt.find? before.buffer = none

/-- How a wait can end, from the conversation and the moment in which it begins and from what is
delivered. -/
inductive Ends (prompt : Pattern) (limit : Span) (deadline : Nat) (conversation : Conversation)
    (now : Nat) (deliveries : List Delivery) : Wait → Prop where
  /-- With the text before the first prompt, as soon as there is one. What is after the prompt is
  kept. -/
  | prompt (heard : List TimedChunk) {after : Conversation} {rest : List Delivery}
    {found : Pattern.Match} (hdeliveries : deliveries = heard.map TimedChunk.delivery ++ rest)
    (hheard : conversation.Heard heard after)
    (hlistening : Listening prompt deadline conversation now heard)
    (hfound : prompt.find? after.buffer = some found) :
    Ends prompt limit deadline conversation now deliveries
      ⟨.ok found.before, ⟨found.after, after.pending⟩, rest, momentAfter now heard⟩
  /-- With the end of the channel. -/
  | ended (heard : List TimedChunk) {after : Conversation} {time : Nat} {rest : List Delivery}
    (hdeliveries : deliveries = heard.map TimedChunk.delivery ++ ⟨time, .ended⟩ :: rest)
    (hheard : conversation.Heard heard after)
    (hlistening : Listening prompt deadline conversation now heard)
    (hsilent : prompt.find? after.buffer = none) (htime : time < deadline) :
    Ends prompt limit deadline conversation now deliveries
      ⟨.error ⟨.connectivity, "console channel closed while waiting for prompt"⟩, after, rest,
        max (momentAfter now heard) time⟩
  /-- With a failure of the channel. -/
  | failed (heard : List TimedChunk) {after : Conversation} {time : Nat} {fault : Fault}
    {rest : List Delivery}
    (hdeliveries : deliveries = heard.map TimedChunk.delivery ++ ⟨time, .failed fault⟩ :: rest)
    (hheard : conversation.Heard heard after)
    (hlistening : Listening prompt deadline conversation now heard)
    (hsilent : prompt.find? after.buffer = none) (htime : time < deadline) :
    Ends prompt limit deadline conversation now deliveries
      ⟨.error fault, after, rest, max (momentAfter now heard) time⟩
  /-- At the deadline, with the end of the output in the fault. -/
  | expired (heard : List TimedChunk) {after : Conversation} {rest : List Delivery}
    (hdeliveries : deliveries = heard.map TimedChunk.delivery ++ rest)
    (hheard : conversation.Heard heard after)
    (hlistening : Listening prompt deadline conversation now heard)
    (hsilent : prompt.find? after.buffer = none)
    (hnext : ∀ next, rest.head? = some next → deadline < next.time) :
    Ends prompt limit deadline conversation now deliveries
      ⟨.error ⟨.timeout, "no prompt within " ++ limit.text ++ "; last output: "
        ++ Text.quoted (String.ofList (Text.trim (Text.lastChars 80 after.buffer)))⟩, after, rest,
        deadline⟩

/-! ## What is heard -/

/-- The conversation after some chunks. -/
def hear (conversation : Conversation) (heard : List TimedChunk) : Conversation :=
  heard.foldl (fun conversation chunk => conversation.feed chunk.bytes) conversation

theorem hear_concat (conversation : Conversation) (heard : List TimedChunk) (chunk : TimedChunk) :
    conversation.hear (heard ++ [chunk]) = (conversation.hear heard).feed chunk.bytes :=
  List.foldl_concat ..

/-- A conversation keeps what has been heard, and nothing else. -/
theorem heard_iff {after : Conversation} :
    conversation.Heard heard after ↔ after = conversation.hear heard := by
  constructor
  · intro h
    -- the code takes chunks off the front and `Heard` adds them at the end, so both ways go by the
    -- last chunk
    induction h with
    | nothing => rfl
    | chunk h chunk hreads ih =>
      subst ih
      rw [hear_concat, feed, Text.Utf8.reads_iff.mp hreads]
  · rintro rfl
    induction heard using List.reverseRecOn with
    | nil => exact .nothing
    | append_singleton heard chunk ih =>
      rw [hear_concat]
      exact .chunk ih chunk (Text.Utf8.reads_iff.mpr rfl)

/-! ## One chunk -/

theorem takePrompt?_of_none (h : prompt.find? conversation.buffer = none) :
    conversation.takePrompt? prompt = none := by
  rw [takePrompt?, h]
  rfl

/-- The prompt itself is dropped, and what is behind it is kept. -/
theorem takePrompt?_of_some {found : Pattern.Match}
    (h : prompt.find? conversation.buffer = some found) :
    conversation.takePrompt? prompt
      = some (found.before, { conversation with buffer := found.after }) := by
  rw [takePrompt?, h]
  rfl

theorem listening_nil (h : now < deadline) : Listening prompt deadline conversation now [] :=
  ⟨h, fun _ _ hearlier hne => absurd (List.prefix_nil.mp hearlier) hne⟩

theorem heard_cons_iff {chunk : TimedChunk} {after : Conversation} :
    conversation.Heard (chunk :: heard) after ↔
      (conversation.feed chunk.bytes).Heard heard after := by
  rw [heard_iff, heard_iff]
  rfl

/-- A wait that goes on after a chunk. -/
theorem listening_cons_iff {chunk : TimedChunk} :
    Listening prompt deadline conversation now (chunk :: heard) ↔
      prompt.find? conversation.buffer = none ∧
        Listening prompt deadline (conversation.feed chunk.bytes) (max now chunk.time) heard := by
  constructor
  · rintro ⟨hinTime, hsilent⟩
    -- before the chunk nothing was heard, which is the first of the moments without a prompt
    refine ⟨hsilent [] _ List.nil_prefix (List.cons_ne_nil _ _).symm .nothing, hinTime, ?_⟩
    intro earlier before hearlier hne hheard
    exact hsilent (chunk :: earlier) before (List.cons_prefix_cons.mpr ⟨rfl, hearlier⟩)
      (fun heq => hne (List.cons.inj heq).2) (heard_cons_iff.mpr hheard)
  · rintro ⟨hfirst, hinTime, hsilent⟩
    refine ⟨hinTime, fun earlier before hearlier hne hheard => ?_⟩
    cases earlier with
    | nil =>
      obtain rfl := heard_iff.mp hheard
      exact hfirst
    | cons other earlier =>
      obtain ⟨rfl, hrest⟩ := List.cons_prefix_cons.mp hearlier
      exact hsilent earlier before hrest (fun heq => hne (by rw [heq])) (heard_cons_iff.mp hheard)

/-- A wait that was silent before a chunk ends as the wait after that chunk does. -/
theorem Ends.cons (chunk : TimedChunk) (hfirst : prompt.find? conversation.buffer = none)
    (h : Ends prompt limit deadline (conversation.feed chunk.bytes) (max now chunk.time) deliveries
      wait) :
    Ends prompt limit deadline conversation now (chunk.delivery :: deliveries) wait := by
  -- all four ends are reached in the same way, with one more chunk in front
  cases h with
  | prompt heard hdeliveries hheard hlistening hfound =>
    exact .prompt (chunk :: heard) (by rw [hdeliveries]; rfl) (heard_cons_iff.mpr hheard)
      (listening_cons_iff.mpr ⟨hfirst, hlistening⟩) hfound
  | ended heard hdeliveries hheard hlistening hsilent htime =>
    exact .ended (chunk :: heard) (by rw [hdeliveries]; rfl) (heard_cons_iff.mpr hheard)
      (listening_cons_iff.mpr ⟨hfirst, hlistening⟩) hsilent htime
  | failed heard hdeliveries hheard hlistening hsilent htime =>
    exact .failed (chunk :: heard) (by rw [hdeliveries]; rfl) (heard_cons_iff.mpr hheard)
      (listening_cons_iff.mpr ⟨hfirst, hlistening⟩) hsilent htime
  | expired heard hdeliveries hheard hlistening hsilent hnext =>
    exact .expired (chunk :: heard) (by rw [hdeliveries]; rfl) (heard_cons_iff.mpr hheard)
      (listening_cons_iff.mpr ⟨hfirst, hlistening⟩) hsilent hnext

/-! ## The whole wait -/

/-- A wait ends in one of these ways, if nothing is delivered right at its deadline. -/
theorem ends_waitUntil (hnow : now < deadline) (hclear : ∀ d ∈ deliveries, d.time ≠ deadline) :
    Ends prompt limit deadline conversation now deliveries
      (waitUntil prompt limit deadline conversation now deliveries) := by
  have hstart : Listening prompt deadline conversation now [] := listening_nil hnow
  -- what the wait is when it has heard one more chunk is a wait that begins there
  induction deliveries generalizing conversation now with
  | nil =>
    cases hfound : prompt.find? conversation.buffer with
    | some found =>
      rw [waitUntil, takePrompt?_of_some hfound]
      exact .prompt [] rfl .nothing hstart hfound
    | none =>
      rw [waitUntil, takePrompt?_of_none hfound, Nat.max_eq_right hnow.le]
      exact .expired [] rfl .nothing hstart hfound fun _ hnext => by cases hnext
  | cons delivery deliveries ih =>
    obtain ⟨hdelivery, hlaterClear⟩ := List.forall_mem_cons.mp hclear
    cases hfound : prompt.find? conversation.buffer with
    | some found =>
      rw [waitUntil, takePrompt?_of_some hfound]
      exact .prompt [] rfl .nothing hstart hfound
    | none =>
      rw [waitUntil, takePrompt?_of_none hfound]
      by_cases hlate : deadline ≤ delivery.time
      · rw [if_pos (by simp [hlate]), Nat.max_eq_right hnow.le]
        refine .expired [] rfl .nothing hstart hfound fun next hnext => ?_
        obtain rfl := Option.some.inj hnext
        exact lt_of_le_of_ne hlate hdelivery.symm
      · have htime : delivery.time < deadline := Nat.not_le.mp hlate
        rw [if_neg (by simp [hnow, htime])]
        obtain ⟨time, signal⟩ := delivery
        cases signal with
        | chunk bytes =>
          have hlater : max now time < deadline := Nat.max_lt.mpr ⟨hnow, htime⟩
          exact .cons ⟨time, bytes⟩ hfound (ih hlater hlaterClear (listening_nil hlater))
        | ended => exact .ended [] rfl .nothing hstart hfound htime
        | failed fault => exact .failed [] rfl .nothing hstart hfound htime

/-- A wait that is still on has come as far as if it had begun later. -/
theorem waitUntil_hear (h : Listening prompt deadline conversation now heard)
    (rest : List Delivery) :
    waitUntil prompt limit deadline conversation now (heard.map TimedChunk.delivery ++ rest)
      = waitUntil prompt limit deadline (conversation.hear heard) (momentAfter now heard) rest := by
  induction heard generalizing conversation now with
  | nil => rfl
  | cons chunk heard ih =>
    obtain ⟨hfirst, hrest⟩ := listening_cons_iff.mp h
    -- the clock stands before the deadline after all chunks, so it does after the first
    have hlater : max now chunk.time < deadline :=
      lt_of_le_of_lt (le_momentAfter _ heard) hrest.inTime
    obtain ⟨hnow, htime⟩ := Nat.max_lt.mp hlater
    rw [List.map_cons, List.cons_append, waitUntil, takePrompt?_of_none hfirst]
    simp only [TimedChunk.delivery, Nat.not_le.mpr hnow, Nat.not_le.mpr htime, decide_false,
      Bool.or_self, Bool.false_eq_true, if_false]
    exact ih hrest

/-- A wait ends in no other way. -/
theorem Ends.eq_waitUntil
    (h : Ends prompt limit deadline conversation now deliveries wait) :
    wait = waitUntil prompt limit deadline conversation now deliveries := by
  -- what is heard before the end changes the conversation and the clock only; then one more step
  -- ends the wait
  cases h with
  | @prompt heard after rest found hdeliveries hheard hlistening hfound =>
    obtain rfl := heard_iff.mp hheard
    rw [hdeliveries, waitUntil_hear hlistening]
    cases rest with
    | nil => rw [waitUntil, takePrompt?_of_some hfound]
    | cons next rest => rw [waitUntil, takePrompt?_of_some hfound]
  | ended heard hdeliveries hheard hlistening hsilent htime =>
    obtain rfl := heard_iff.mp hheard
    rw [hdeliveries, waitUntil_hear hlistening, waitUntil, takePrompt?_of_none hsilent]
    simp only [Nat.not_le.mpr hlistening.inTime, Nat.not_le.mpr htime, decide_false, Bool.or_self,
      Bool.false_eq_true, if_false]
    rfl
  | failed heard hdeliveries hheard hlistening hsilent htime =>
    obtain rfl := heard_iff.mp hheard
    rw [hdeliveries, waitUntil_hear hlistening, waitUntil, takePrompt?_of_none hsilent]
    simp only [Nat.not_le.mpr hlistening.inTime, Nat.not_le.mpr htime, decide_false, Bool.or_self,
      Bool.false_eq_true, if_false]
  | @expired heard after rest hdeliveries hheard hlistening hsilent hnext =>
    obtain rfl := heard_iff.mp hheard
    have hmoment := hlistening.inTime
    rw [hdeliveries, waitUntil_hear hlistening]
    cases rest with
    | nil =>
      rw [waitUntil, takePrompt?_of_none hsilent, Nat.max_eq_right hmoment.le]
      rfl
    | cons next rest =>
      have hlate : deadline ≤ next.time := (hnext next rfl).le
      rw [waitUntil, takePrompt?_of_none hsilent, if_pos (by simp [hlate]),
        Nat.max_eq_right hmoment.le]
      rfl

/-! ## Two waits in place of one -/

/-- Whether two waits differ at most in the words of a fault. -/
structure Alike (wait other : Wait) : Prop where
  outcome : wait.outcome.mapError Fault.kind = other.outcome.mapError Fault.kind
  conversation : wait.conversation = other.conversation
  deliveries : wait.deliveries = other.deliveries
  time : wait.time = other.time

/-- The limit only matters for the deadline and for the words of a fault. -/
theorem alike_waitUntil (prompt : Pattern) (limit limit' : Span) (deadline : Nat)
    (conversation : Conversation) (now : Nat) (deliveries : List Delivery) :
    Alike (waitUntil prompt limit deadline conversation now deliveries)
      (waitUntil prompt limit' deadline conversation now deliveries) := by
  -- the limit is looked at in the words of a timeout only
  induction deliveries generalizing conversation now with
  | nil =>
    simp only [waitUntil]
    split <;> exact ⟨rfl, rfl, rfl, rfl⟩
  | cons delivery deliveries ih =>
    simp only [waitUntil]
    split
    · exact ⟨rfl, rfl, rfl, rfl⟩
    split
    · exact ⟨rfl, rfl, rfl, rfl⟩
    split
    · exact ih _ _
    · exact ⟨rfl, rfl, rfl, rfl⟩
    · exact ⟨rfl, rfl, rfl, rfl⟩

/-- A wait that has found no prompt can as well begin later, as long as nothing is delivered in
between. -/
theorem waitUntil_later {later : Nat} (hsilent : prompt.find? conversation.buffer = none)
    (hlater : now ≤ later) (hdeadline : later ≤ deadline)
    (hnext : ∀ next, rest.head? = some next → later < next.time) :
    waitUntil prompt limit deadline conversation later rest
      = waitUntil prompt limit deadline conversation now rest := by
  cases rest with
  | nil =>
    rw [waitUntil, waitUntil, takePrompt?_of_none hsilent, Nat.max_eq_right hdeadline,
      Nat.max_eq_right (hlater.trans hdeadline)]
  | cons next rest =>
    -- nothing arrives in between, so the next chunk is met at the same moment from both
    have htime : later < next.time := hnext next rfl
    rw [waitUntil, waitUntil, takePrompt?_of_none hsilent, Nat.max_eq_right hdeadline,
      Nat.max_eq_right (hlater.trans hdeadline), Nat.max_eq_right htime.le,
      Nat.max_eq_right (hlater.trans htime.le)]
    by_cases hlate : deadline ≤ next.time
    · simp only [hlate, decide_true, Bool.or_true, if_true]
    · have hbefore : later < deadline := htime.trans (Nat.not_le.mp hlate)
      simp only [hlate, Nat.not_le.mpr hbefore, Nat.not_le.mpr (hlater.trans_lt hbefore)]

/-- A wait ends no later than its limit says, and in the way that the deliveries say: with the text
before the first prompt at the first moment when there is one, with the end or the failure of the
channel, or right at its deadline. One that reached its deadline and another one right after it
come to the same as a single wait for the time of both. -/
theorem waitFor_ends (conversation : Conversation) (prompt : Pattern) (limit : Span) (now : Nat)
    (deliveries : List Delivery) (hlimit : 0 < limit.millis)
    (hclear : ∀ d ∈ deliveries, d.time ≠ now + limit.millis) :
    let wait := conversation.waitFor prompt limit now deliveries
    wait.time ≤ now + limit.millis ∧
      (∀ other, Ends prompt limit (now + limit.millis) conversation now deliveries other ↔
        other = wait) ∧
      ∀ more : Span, wait.time = now + limit.millis →
        Alike (wait.conversation.waitFor prompt more wait.time wait.deliveries)
          (conversation.waitFor prompt ⟨limit.millis + more.millis⟩ now deliveries) := by
  have hnow : now < now + limit.millis := Nat.lt_add_of_pos_right hlimit
  have hends : Ends prompt limit (now + limit.millis) conversation now deliveries
      (conversation.waitFor prompt limit now deliveries) := ends_waitUntil hnow hclear
  refine ⟨waitFor_time_le _ _ _ _ _, fun other => ⟨Ends.eq_waitUntil, fun h => h ▸ hends⟩,
    fun more htime => ?_⟩
  generalize conversation.waitFor prompt limit now deliveries = wait at hends htime ⊢
  -- the other ends come before the deadline
  cases hends with
  | prompt _ _ _ hlistening _ => exact absurd htime hlistening.inTime.ne
  | ended _ _ _ hlistening _ hbefore =>
    exact absurd htime (Nat.max_lt.mpr ⟨hlistening.inTime, hbefore⟩).ne
  | failed _ _ _ hlistening _ hbefore =>
    exact absurd htime (Nat.max_lt.mpr ⟨hlistening.inTime, hbefore⟩).ne
  | @expired heard after rest hdeliveries hheard hlistening hsilent hnext =>
    obtain rfl := heard_iff.mp hheard
    have hboth : now + limit.millis ≤ now + (limit.millis + more.millis) := by omega
    have hstillOn : Listening prompt (now + (limit.millis + more.millis)) conversation now heard :=
      ⟨hlistening.inTime.trans_le hboth, hlistening.silent⟩
    have hsingle : conversation.waitFor prompt ⟨limit.millis + more.millis⟩ now deliveries
        = waitUntil prompt ⟨limit.millis + more.millis⟩ (now + (limit.millis + more.millis))
            (conversation.hear heard) (now + limit.millis) rest := by
      rw [waitFor, hdeliveries, waitUntil_hear hstillOn,
        waitUntil_later hsilent hlistening.inTime.le hboth hnext]
    rw [hsingle, waitFor, Nat.add_assoc]
    exact alike_waitUntil _ _ _ _ _ _ _

/-- Output in two chunks, of which only the first comes within ten milliseconds. They cut the
character `é` in two, and the second has a prompt behind an escape sequence. -/
def sampleDeliveries : List Delivery :=
  [⟨5, .chunk [0x61, 0xC3]⟩, ⟨30, .chunk [0xA9, 0x1B, 0x5B, 0x30, 0x6D, 0x23, 0x63]⟩, ⟨40, .ended⟩]

/-- A prompt of one character. -/
def samplePrompt : Pattern :=
  .oneOf (.single '#')

/-- A wait of ten milliseconds finds no prompt, and one of forty right after it ends like one of
fifty would have: with the whole text before the prompt, and what is behind it still there. -/
theorem waitFor_ends_sample :
    let first := empty.waitFor samplePrompt ⟨10⟩ 0 sampleDeliveries
    let single := empty.waitFor samplePrompt ⟨50⟩ 0 sampleDeliveries
    first.time = 10 ∧
      Alike (first.conversation.waitFor samplePrompt ⟨40⟩ first.time first.deliveries) single ∧
      Ends samplePrompt ⟨50⟩ 50 empty 0 sampleDeliveries
        ⟨.ok ['a', 'é'], ⟨['c'], []⟩, [⟨40, .ended⟩], 30⟩ := by
  intro first single
  have htime : first.time = 10 := by decide +kernel
  have houtcome : single.outcome = .ok ['a', 'é'] := by decide +kernel
  have hkept : single.conversation = ⟨['c'], []⟩ := by decide +kernel
  have hleft : single.deliveries = [⟨40, .ended⟩] := by decide +kernel
  have hfound : single.time = 30 := by decide +kernel
  obtain ⟨-, -, htwo⟩ := waitFor_ends empty samplePrompt ⟨10⟩ 0 sampleDeliveries (by decide)
    (by decide)
  -- the prompt is in the second chunk, behind the rest of the character that the first one begins
  obtain ⟨-, hends, -⟩ := waitFor_ends empty samplePrompt ⟨50⟩ 0 sampleDeliveries (by decide)
    (by decide)
  refine ⟨htime, htwo ⟨40⟩ htime, (hends _).mpr ?_⟩
  rw [← houtcome, ← hkept, ← hleft, ← hfound]

end Conversation

end VparFleet
