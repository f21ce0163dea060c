import VparFleet.Console.Conversation
import VparFleet.Proofs.Text.Stripping
import VparFleet.Proofs.Text.Utf8.Chunks

/-!
# Transcripts

A conversation decodes and strips its output chunk by chunk. The transcript is the same for all
ways to cut the output into chunks exactly if stripping all of it at once leaves no bare reset.
Where taking out a reset brings another one about, what is left depends on the chunks.

* `foldl_feed`: output that leaves no bare reset, in chunks.
* `transcript_iff`: for which output the chunks do not matter.
* `not_always_same_transcript`: output for which they do.
-/

namespace VparFleet

open Text Text.Escape Text.Utf8

namespace Conversation

/-- Bytes that wait for more of their character still wait when they are read again. -/
theorem decode_decode_snd (bytes : List UInt8) :
    decode (decode bytes).2 = ([], (decode bytes).2) := by
  have hagain := decode_append bytes []
  rw [List.append_nil, List.append_nil] at hagain
  have htext : (decode (decode bytes).2).1 = [] := by
    simpa using congrArg Prod.fst hagain
  exact Prod.ext htext (congrArg Prod.snd hagain).symm

/-- Chunks that arrive after some bytes, when some text has been stripped. -/
theorem foldl_feed (chunks : List (List UInt8)) (text : List Char) (bytes : List UInt8)
    (h : ¬bareReset <:+: strip (text ++ (decode ((decode bytes).2 ++ chunks.flatten)).1)) :
    chunks.foldl feed ⟨strip text, (decode bytes).2⟩
      = ⟨strip (text ++ (decode ((decode bytes).2 ++ chunks.flatten)).1),
          (decode (bytes ++ chunks.flatten)).2⟩ := by
  induction chunks generalizing text bytes with
  | nil =>
    rw [List.flatten_nil, List.append_nil, List.append_nil, decode_decode_snd, List.append_nil,
      List.foldl_nil]
  | cons chunk chunks ih =>
    -- the text of the first chunk, and that of the others
    have hfirst : decode ((decode bytes).2 ++ (chunk :: chunks).flatten)
        = ((decode ((decode bytes).2 ++ chunk)).1
            ++ (decode ((decode (bytes ++ chunk)).2 ++ chunks.flatten)).1,
          (decode ((decode (bytes ++ chunk)).2 ++ chunks.flatten)).2) := by
      rw [List.flatten_cons, ← List.append_assoc, decode_append, decode_append bytes chunk]
    have hfeed : feed ⟨strip text, (decode bytes).2⟩ chunk
        = ⟨strip (strip text ++ (decode ((decode bytes).2 ++ chunk)).1),
            (decode (bytes ++ chunk)).2⟩ := by
      rw [decode_append bytes chunk]
      rfl
    rw [hfirst] at h
    have hstrip := strip_strip_append h
    rw [← List.append_assoc] at hstrip
    rw [List.foldl_cons, hfeed, ih _ _ (by rwa [hstrip]), hfirst, hstrip, List.flatten_cons,
      List.append_assoc]

/-- What is left of output does not depend on where it was cut, and stripping it again changes
nothing, exactly if stripping it at once leaves no bare reset. -/
theorem transcript_iff (text : List Char) (bytes : List UInt8) :
    ((∀ front back, front ++ back = text → strip (strip front ++ back) = strip text) ↔
        ¬bareReset <:+: strip text) ∧
      (strip (strip text) = strip text ↔ ¬bareReset <:+: strip text) ∧
      ((∀ chunks : List (List UInt8), chunks.flatten = bytes →
          chunks.foldl feed empty = ⟨strip (decode bytes).1, (decode bytes).2⟩) ↔
        ¬bareReset <:+: strip (decode bytes).1) := by
  refine ⟨⟨fun h => ?_, ?_⟩, strip_strip_eq_iff, ⟨fun h => ?_, ?_⟩⟩
  · -- the cut at the end of the text strips the whole of it twice
    have hwhole := h text [] (List.append_nil text)
    rw [List.append_nil] at hwhole
    exact strip_strip_eq_iff.mp hwhole
  · rintro h front back rfl
    exact strip_strip_append h
  · -- and so does an empty chunk after everything
    have hbuffer := congrArg buffer (h [bytes, []] (by simp))
    have hagain : strip (strip (decode bytes).1) = strip (decode bytes).1 := by
      simpa [feed, empty, decode_decode_snd] using hbuffer
    exact strip_strip_eq_iff.mp hagain
  · rintro h chunks rfl
    -- the empty conversation is the one that has heard nothing
    have hstart : empty = ⟨strip [], (decode []).2⟩ := by
      simp [empty, strip, dropSequences, replaceAll, decode_nil]
    have hchunks := foldl_feed chunks [] [] (by simpa [decode_nil] using h)
    rw [← hstart] at hchunks
    simpa [decode_nil] using hchunks

/-- A bare reset around another one stays if both come at once, and does not if the output is cut
between the two ends. -/
theorem not_always_same_transcript :
    strip (strip "[0[0m".toList ++ "m".toList) = [] ∧
      strip ("[0[0m".toList ++ "m".toList) = "[0m".toList ∧
      strip (strip "[0[0mm".toList) ≠ strip "[0[0mm".toList := by
  decide +kernel

end Conversation

end VparFleet
