import VparFleet.Proofs.Text.Utf8.Chunks
import VparFleet.Session.Output

/-!
# Complete output

The output of a command is all that came until the channel ended, in whatever order the exit status,
the end of the output and the output itself came. It is never a part of that: a channel that ends
without a word on the end of the command is a fault, and so is one that does not end in time.

* `EndsInTime`: the messages before the end of the channel, if that comes in time.
* `collectUntil_eq_some_iff`: what is collected of them.
* `collect_complete`: the result of a command.
-/

namespace VparFleet.Session.Output

open Text.Utf8 (Lossy lossy_iff)

variable {deadline : Nat} {arrival : Arrival} {arrivals rest heard : List Arrival}
  {output collected : Output}

/-! ## The end of the channel -/

/-- Whether the channel ends not after the deadline, and these messages come before its end. -/
def EndsInTime (deadline : Nat) (arrivals heard : List Arrival) : Prop :=
  ∃ last after, arrivals = heard ++ last :: after ∧
    last.message.isEnd = true ∧ (∀ a ∈ heard, a.message.isEnd = false) ∧
    ∀ a ∈ heard ++ [last], a.time ≤ deadline

/-- Without messages the channel does not end. -/
theorem not_endsInTime_nil : ¬EndsInTime deadline [] heard := by
  rintro ⟨last, after, hsplit, -⟩
  cases heard <;> cases hsplit

/-- The first message is the end, or it is heard and the others go on. -/
theorem endsInTime_cons_iff :
    EndsInTime deadline (arrival :: rest) heard ↔
      arrival.time ≤ deadline ∧
        ((arrival.message.isEnd = true ∧ heard = []) ∨
          arrival.message.isEnd = false ∧
            ∃ later, heard = arrival :: later ∧ EndsInTime deadline rest later) := by
  constructor
  · rintro ⟨last, after, hsplit, hend, hopen, htimes⟩
    -- nothing was heard, so the first message is the end; or it was heard first
    cases heard with
    | nil =>
      obtain ⟨rfl, -⟩ := List.cons.inj hsplit
      exact ⟨htimes _ List.mem_cons_self, .inl ⟨hend, rfl⟩⟩
    | cons first later =>
      obtain ⟨rfl, rfl⟩ := List.cons.inj hsplit
      obtain ⟨hfirst, hlater⟩ := List.forall_mem_cons.mp hopen
      obtain ⟨htime, htimes⟩ := List.forall_mem_cons.mp htimes
      exact ⟨htime, .inr ⟨hfirst, later, rfl, last, after, rfl, hend, hlater, htimes⟩⟩
  · rintro ⟨htime, ⟨hend, rfl⟩ | ⟨hopen, later, rfl, last, after, rfl, hend, hlater, htimes⟩⟩
    · exact ⟨arrival, rest, rfl, hend, List.forall_mem_nil _, List.forall_mem_singleton.mpr htime⟩
    · exact ⟨last, after, rfl, hend, List.forall_mem_cons.mpr ⟨hopen, hlater⟩,
        List.forall_mem_cons.mpr ⟨htime, htimes⟩⟩

/-! ## What is collected -/

/-- Takes in messages, one after the other. -/
def takeAll (output : Output) (heard : List Arrival) : Output :=
  heard.foldl (fun output arrival => output.take arrival.message) output

/-- The output grows by all payloads, and is finished once one message says so. -/
theorem takeAll_eq (output : Output) (heard : List Arrival) :
    output.takeAll heard = ⟨output.bytes ++ heard.flatMap (·.message.payload),
      output.finished || heard.any (·.message.isFinish)⟩ := by
  induction heard generalizing output with
  | nil => simp [takeAll]
  | cons arrival heard ih =>
    rw [takeAll, List.foldl_cons, ← takeAll, ih, take]
    simp [Bool.or_assoc]

/-- What is collected is what comes before the end of the channel. -/
theorem collectUntil_eq_some_iff :
    collectUntil deadline output arrivals = some collected ↔
      ∃ heard, EndsInTime deadline arrivals heard ∧ collected = output.takeAll heard := by
  induction arrivals generalizing output with
  | nil => simp [collectUntil, not_endsInTime_nil]
  | cons arrival rest ih =>
    rw [collectUntil]
    simp only [endsInTime_cons_iff]
    -- a late message ends the waiting, whatever it is
    by_cases hlate : deadline < arrival.time
    · simp [hlate, Nat.not_le.mpr hlate]
    · rw [if_neg hlate]
      have htime : arrival.time ≤ deadline := Nat.not_lt.mp hlate
      cases hend : arrival.message.isEnd with
      | true => simp [htime, takeAll, eq_comm]
      | false => simp [htime, ih, takeAll]

/-! ## The result of a command -/

variable {host : String} {limit : Span} {now : Nat}

/-- A channel that ends in time gives its output, if that was finished. -/
theorem collect_of_endsInTime (h : EndsInTime (now + limit.millis) arrivals heard) :
    collect host limit now arrivals =
      if heard.any (·.message.isFinish) then
        .ok (String.ofList (Text.Utf8.decodeAll (heard.flatMap (·.message.payload))))
      else .error (cutFault host) := by
  rw [collect, collectUntil_eq_some_iff.mpr ⟨heard, h, rfl⟩]
  simp only [takeAll_eq, empty, outcome, List.nil_append, Bool.false_or]

/-- A channel that does not end in time gives none. -/
theorem collect_of_not_endsInTime (h : ¬∃ heard, EndsInTime (now + limit.millis) arrivals heard) :
    collect host limit now arrivals = .error (timeoutFault host limit) := by
  have hnone : collectUntil (now + limit.millis) empty arrivals = none := by
    rw [Option.eq_none_iff_forall_ne_some]
    intro collected hcollected
    obtain ⟨heard, hends, -⟩ := collectUntil_eq_some_iff.mp hcollected
    exact h ⟨heard, hends⟩
  rw [collect, hnone]

/-- When a command has a result, and which one. -/
theorem collect_eq_ok_iff {text : String} :
    collect host limit now arrivals = .ok text ↔
      ∃ heard, EndsInTime (now + limit.millis) arrivals heard ∧
        (∃ a ∈ heard, a.message.isFinish = true) ∧
        Lossy (heard.flatMap (·.message.payload)) text.toList := by
  constructor
  · intro hresult
    -- without an end in time there would be no text
    by_cases hends : ∃ heard, EndsInTime (now + limit.millis) arrivals heard
    · obtain ⟨heard, hends⟩ := hends
      rw [collect_of_endsInTime hends] at hresult
      split_ifs at hresult with hfinished
      obtain rfl := Except.ok.inj hresult
      exact ⟨heard, hends, List.any_eq_true.mp hfinished,
        lossy_iff.mpr String.toList_ofList.symm⟩
    · rw [collect_of_not_endsInTime hends] at hresult
      cases hresult
  · rintro ⟨heard, hends, hfinished, hlossy⟩
    rw [collect_of_endsInTime hends, if_pos (List.any_eq_true.mpr hfinished),
      lossy_iff.mp hlossy, String.ofList_toList]

/-- When a command has none, and why. -/
theorem collect_eq_error_iff {fault : Fault} :
    collect host limit now arrivals = .error fault ↔
      (∃ heard, EndsInTime (now + limit.millis) arrivals heard ∧
        (∀ a ∈ heard, a.message.isFinish = false) ∧ fault = cutFault host) ∨
      (¬∃ heard, EndsInTime (now + limit.millis) arrivals heard) ∧
        fault = timeoutFault host limit := by
  constructor
  · intro hresult
    by_cases hends : ∃ heard, EndsInTime (now + limit.millis) arrivals heard
    · obtain ⟨heard, hends⟩ := hends
      rw [collect_of_endsInTime hends] at hresult
      split_ifs at hresult with hfinished
      exact .inl ⟨heard, hends, by simpa using hfinished, (Except.error.inj hresult).symm⟩
    · rw [collect_of_not_endsInTime hends] at hresult
      exact .inr ⟨hends, (Except.error.inj hresult).symm⟩
  · rintro (⟨heard, hends, hcut, rfl⟩ | ⟨hnone, rfl⟩)
    · rw [collect_of_endsInTime hends, if_neg (by simpa using hcut)]
    · exact collect_of_not_endsInTime hnone

/-- The result of a command is the lossy reading of all output that comes before the end of the
channel, if the exit status or the end of the output comes before it as well and the channel ends in
time. If neither comes, the command is cut off, and if the channel does not end in time, the command
takes too long. What comes after the end of the channel does not matter. -/
theorem collect_complete (host : String) (limit : Span) (now : Nat) (arrivals : List Arrival) :
    (∀ text, collect host limit now arrivals = .ok text ↔
      ∃ heard, EndsInTime (now + limit.millis) arrivals heard ∧
        (∃ a ∈ heard, a.message.isFinish = true) ∧
        Lossy (heard.flatMap (·.message.payload)) text.toList) ∧
    (∀ fault, collect host limit now arrivals = .error fault ↔
      (∃ heard, EndsInTime (now + limit.millis) arrivals heard ∧
        (∀ a ∈ heard, a.message.isFinish = false) ∧
        fault = ⟨.connectivity, s!"channel to {host} closed before the command finished"⟩) ∨
      (¬∃ heard, EndsInTime (now + limit.millis) arrivals heard) ∧
        fault = ⟨.timeout, s!"command on {host} did not finish within {limit.text}"⟩) ∧
    ∀ more, (∃ a ∈ arrivals, a.message.isEnd = true) →
      collect host limit now (arrivals ++ more) = collect host limit now arrivals := by
  refine ⟨fun text => collect_eq_ok_iff, fun fault => collect_eq_error_iff, fun more hend => ?_⟩
  rw [collect, collect, collectUntil_append_of_ends hend more]

/-- A character in two pieces, with the exit status in between and the rest of the output after the
end of the output. -/
def scattered : List Arrival :=
  [⟨3, .data [0xC3]⟩, ⟨4, .exitStatus 0⟩, ⟨5, .extended [0xA9]⟩, ⟨6, .eof⟩, ⟨6, .other⟩,
    ⟨7, .data [0x21]⟩, ⟨9, .close⟩]

/-- All pieces count, also those after the exit status and the end of the output. -/
theorem collect_complete_sample :
    collect "10.0.0.11" ⟨10⟩ 0 (scattered ++ [⟨9, .data [0x3F]⟩]) = .ok "é!" ∧
      collect "10.0.0.11" ⟨8⟩ 0 scattered =
        .error ⟨.timeout, "command on 10.0.0.11 did not finish within 8ms"⟩ := by
  obtain ⟨hok, -, hmore⟩ := collect_complete "10.0.0.11" ⟨10⟩ 0 scattered
  obtain ⟨-, herror, -⟩ := collect_complete "10.0.0.11" ⟨8⟩ 0 scattered
  have hends : EndsInTime 10 scattered (scattered.take 6) :=
    ⟨⟨9, .close⟩, [], rfl, rfl, by decide, by decide⟩
  have hlossy : Lossy ((scattered.take 6).flatMap (·.message.payload)) "é!".toList :=
    lossy_iff.mpr (by decide +kernel)
  -- the end comes after 9 ms, and the second command waits for 8 only
  have hlate : ¬∃ heard, EndsInTime 8 scattered heard := by
    rintro ⟨heard, hheard⟩
    have hcollected : collectUntil 8 empty scattered = _ :=
      collectUntil_eq_some_iff.mpr ⟨heard, hheard, rfl⟩
    exact nomatch (show collectUntil 8 empty scattered = none by decide).symm.trans hcollected
  exact ⟨(hmore _ (by decide)).trans ((hok _).mpr ⟨_, hends, by decide, hlossy⟩),
    (herror _).mpr (.inr ⟨hlate, by decide +kernel⟩)⟩

end VparFleet.Session.Output
