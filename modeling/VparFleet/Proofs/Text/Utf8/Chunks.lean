import VparFleet.Proofs.Text.Utf8.Front

/-!
# Decoding in chunks

What has been decoded and what waits does not depend on where the bytes were cut. The decoded text
is the lossy reading of the bytes that no longer wait, in which each maximal part of what is no
character stands for one replacement character.

* `Lossy`: the lossy reading, told from how characters are written; `lossy_iff`: what is read when
  nothing more arrives.
* `decode_append`: bytes that arrive later.
* `Reads`, `reads_iff`: what is read when more may arrive, and what waits for that.
* `passes`: decoding as a loop over the pending bytes; `passes_eq_decode`: it ends.
* `decode_chunks`: any chunks are decoded like the whole.
-/

namespace VparFleet.Text.Utf8

variable {bytes rest part left : List UInt8} {c : Char} {text : List Char}

/-! ## Decoding from the front -/

theorem decode_nil : decode [] = ([], []) := by
  rw [decode]

/-- A whole character at the front is decoded. -/
theorem decode_of_whole (h : front bytes = .whole c rest) :
    decode bytes = (c :: (decode rest).1, (decode rest).2) := by
  cases bytes with
  | nil => cases h
  | cons b bytes =>
    rw [decode]
    -- of the four kinds of fronts, this is the only one that fits
    split <;> simp_all

/-- A faulty part at the front becomes one replacement character. -/
theorem decode_of_faulty (h : front bytes = .faulty rest) :
    decode bytes = (replacement :: (decode rest).1, (decode rest).2) := by
  cases bytes with
  | nil => cases h
  | cons b bytes =>
    rw [decode]
    split <;> simp_all

/-- A character that is not complete waits. -/
theorem decode_of_unfinished (h : front bytes = .unfinished) : decode bytes = ([], bytes) := by
  cases bytes with
  | nil => cases h
  | cons b bytes =>
    rw [decode]
    split <;> simp_all

/-- A whole character takes bytes. -/
theorem length_lt_of_whole (h : front bytes = .whole c rest) : rest.length < bytes.length := by
  cases bytes with
  | nil => cases h
  | cons b bytes =>
    have hle := front_rest_lt b bytes
    rw [h] at hle
    exact Nat.lt_succ_of_le hle

/-- So does a faulty part. -/
theorem length_lt_of_faulty (h : front bytes = .faulty rest) : rest.length < bytes.length := by
  cases bytes with
  | nil => cases h
  | cons b bytes =>
    have hle := front_rest_lt b bytes
    rw [h] at hle
    exact Nat.lt_succ_of_le hle

/-- Bytes are decoded one front after the other. -/
theorem front_induction {P : List UInt8 → Prop} (nothing : P [])
    (unfinished : ∀ bytes, front bytes = .unfinished → P bytes)
    (whole : ∀ bytes c rest, front bytes = .whole c rest → P rest → P bytes)
    (faulty : ∀ bytes rest, front bytes = .faulty rest → P rest → P bytes) (bytes : List UInt8) :
    P bytes := by
  cases hfront : front bytes with
  | nothing => rw [front_eq_nothing_iff.mp hfront]; exact nothing
  | unfinished => exact unfinished bytes hfront
  | whole c rest =>
    have := length_lt_of_whole hfront
    exact whole bytes c rest hfront (front_induction nothing unfinished whole faulty rest)
  | faulty rest =>
    have := length_lt_of_faulty hfront
    exact faulty bytes rest hfront (front_induction nothing unfinished whole faulty rest)
termination_by bytes.length
decreasing_by all_goals assumption

/-! ## Bytes that arrive later -/

/-- What has been decoded stays as it is when more bytes arrive, and what waits is decoded with
them. -/
theorem decode_append (bytes more : List UInt8) :
    decode (bytes ++ more) = ((decode bytes).1 ++ (decode ((decode bytes).2 ++ more)).1,
      (decode ((decode bytes).2 ++ more)).2) := by
  induction bytes using front_induction with
  | nothing => rw [decode_nil]; rfl
  | unfinished bytes h => rw [decode_of_unfinished h]; rfl
  | whole bytes c rest h ih =>
    rw [decode_of_whole h, decode_of_whole (front_append_of_whole h more), ih]
    rfl
  | faulty bytes rest h ih =>
    rw [decode_of_faulty h, decode_of_faulty (front_append_of_faulty h more), ih]
    rfl

/-- What waits is the beginning of a character. -/
theorem decode_waiting (bytes : List UInt8) : (decode bytes).2 = [] ∨ Begun (decode bytes).2 := by
  induction bytes using front_induction with
  | nothing => exact .inl (by rw [decode_nil])
  | unfinished bytes h =>
    rw [decode_of_unfinished h]
    exact .inr (front_eq_unfinished_iff.mp h)
  | whole bytes c rest h ih => rwa [decode_of_whole h]
  | faulty bytes rest h ih => rwa [decode_of_faulty h]

/-- Takes in a chunk: what has been decoded, and what waits. -/
def takeIn (taken : List Char × List UInt8) (chunk : List UInt8) : List Char × List UInt8 :=
  (taken.1 ++ (decode (taken.2 ++ chunk)).1, (decode (taken.2 ++ chunk)).2)

/-- Chunks that arrive after some bytes have been decoded. -/
theorem foldl_takeIn (bytes : List UInt8) (chunks : List (List UInt8)) :
    chunks.foldl takeIn (decode bytes) = decode (bytes ++ chunks.flatten) := by
  induction chunks generalizing bytes with
  | nil => rw [List.foldl_nil, List.flatten_nil, List.append_nil]
  | cons chunk chunks ih =>
    rw [List.foldl_cons, takeIn, ← decode_append, ih, List.flatten_cons, List.append_assoc]

/-! ## The lossy reading -/

/-- The lossy reading of bytes to which nothing is added: characters are read, and each maximal
part of what is no character becomes one replacement character. -/
inductive Lossy : List UInt8 → List Char → Prop where
  | nil : Lossy [] []
  | char (c : Char) {bytes : List UInt8} {text : List Char} (h : Lossy bytes text) :
    Lossy (String.utf8EncodeChar c ++ bytes) (c :: text)
  | faulty {part bytes : List UInt8} {text : List Char} (hpart : MaximalSubpart part bytes)
    (h : Lossy bytes text) : Lossy (part ++ bytes) (replacement :: text)

/-- What has been decoded is the lossy reading of the bytes that do not wait. -/
theorem lossy_decode (bytes : List UInt8) :
    ∃ read, bytes = read ++ (decode bytes).2 ∧ Lossy read (decode bytes).1 := by
  induction bytes using front_induction with
  | nothing => exact ⟨[], by rw [decode_nil]; rfl, by rw [decode_nil]; exact .nil⟩
  | unfinished bytes h =>
    rw [decode_of_unfinished h]
    exact ⟨[], rfl, .nil⟩
  | whole bytes c rest h ih =>
    obtain ⟨read, hrest, hread⟩ := ih
    rw [decode_of_whole h]
    -- the character goes in front of what has been read of the rest
    refine ⟨String.utf8EncodeChar c ++ read, ?_, .char c hread⟩
    rw [List.append_assoc, ← hrest]
    exact front_eq_whole_iff_encode.mp h
  | faulty bytes rest h ih =>
    obtain ⟨read, hrest, hread⟩ := ih
    obtain ⟨part, hbytes, hpart⟩ := exists_maximalSubpart h
    rw [decode_of_faulty h]
    refine ⟨part ++ read, ?_, .faulty (hpart.of_prefix ?_) hread⟩
    · rw [List.append_assoc, ← hrest, hbytes]
    · exact ⟨_, hrest.symm⟩

/-- When nothing more arrives, what waits becomes one replacement character. -/
theorem decodeAll_eq (bytes : List UInt8) :
    decodeAll bytes
      = (decode bytes).1 ++ (if (decode bytes).2.isEmpty then [] else [replacement]) := by
  rw [decodeAll]
  rcases decode bytes with ⟨text, _ | ⟨b, left⟩⟩
  · exact (List.append_nil text).symm
  · rfl

/-- A whole character is read. -/
theorem decodeAll_of_whole (h : front bytes = .whole c rest) :
    decodeAll bytes = c :: decodeAll rest := by
  rw [decodeAll_eq, decode_of_whole h, decodeAll_eq, List.cons_append]

/-- A faulty part is replaced. -/
theorem decodeAll_of_faulty (h : front bytes = .faulty rest) :
    decodeAll bytes = replacement :: decodeAll rest := by
  rw [decodeAll_eq, decode_of_faulty h, decodeAll_eq, List.cons_append]

theorem decodeAll_of_unfinished (h : front bytes = .unfinished) :
    decodeAll bytes = [replacement] := by
  rw [decodeAll_eq, decode_of_unfinished h]
  simp [(front_eq_unfinished_iff.mp h).1]

/-- What is read when nothing more arrives is the lossy reading. -/
theorem lossy_iff : Lossy bytes text ↔ decodeAll bytes = text := by
  constructor
  · intro h
    induction h with
    | nil => rw [decodeAll, decode_nil]; rfl
    | char c h ih => rw [decodeAll_of_whole (front_eq_whole_iff_encode.mpr rfl), ih]
    | faulty hpart h ih =>
      -- a maximal part is taken for a faulty one, or is the last and waits in vain
      rcases hpart.front with hfront | ⟨rfl, hfront⟩
      · rw [decodeAll_of_faulty hfront, ih]
      · rw [List.append_nil, decodeAll_of_unfinished hfront, ← ih, decodeAll, decode_nil]
        rfl
  · rintro rfl
    induction bytes using front_induction with
    | nothing =>
      rw [decodeAll, decode_nil]
      exact .nil
    | unfinished bytes h =>
      have hlast := Lossy.faulty (maximalSubpart_of_begun (front_eq_unfinished_iff.mp h)) .nil
      rwa [List.append_nil, ← decodeAll_of_unfinished h] at hlast
    | whole bytes c rest h ih =>
      rw [decodeAll_of_whole h, front_eq_whole_iff_encode.mp h]
      exact .char c ih
    | faulty bytes rest h ih =>
      obtain ⟨part, rfl, hpart⟩ := exists_maximalSubpart h
      rw [decodeAll_of_faulty h]
      exact .faulty hpart ih

/-! ## What waits -/

/-- The reading of bytes to which more may be added. The beginning of a character at the end of them
waits; what is before it is read as if nothing were added. -/
inductive Reads : List UInt8 → List Char → List UInt8 → Prop where
  | waits {waiting : List UInt8} (h : waiting = [] ∨ Begun waiting) : Reads waiting [] waiting
  | char (c : Char) {bytes waiting : List UInt8} {text : List Char} (h : Reads bytes text waiting) :
    Reads (String.utf8EncodeChar c ++ bytes) (c :: text) waiting
  | faulty {part bytes waiting : List UInt8} {text : List Char} (hpart : MaximalSubpart part bytes)
    (hended : bytes = [] → ¬Begun part) (h : Reads bytes text waiting) :
    Reads (part ++ bytes) (replacement :: text) waiting

/-- Bytes are read in this way and in no other. -/
theorem reads_iff {waiting : List UInt8} :
    Reads bytes text waiting ↔ decode bytes = (text, waiting) := by
  constructor
  · intro h
    induction h with
    | waits h =>
      rcases h with rfl | hbegun
      · exact decode_nil
      · exact decode_of_unfinished (front_eq_unfinished_iff.mpr hbegun)
    | char c _ ih => rw [decode_of_whole (front_eq_whole_iff_encode.mpr rfl), ih]
    | faulty hpart hended _ ih =>
      rcases hpart.front with hfront | ⟨hlast, hfront⟩
      · rw [decode_of_faulty hfront, ih]
      · exact absurd (front_eq_unfinished_iff.mp hfront) (hended hlast)
  · intro h
    induction bytes using front_induction generalizing text with
    | nothing =>
      obtain ⟨rfl, rfl⟩ := Prod.mk.inj (decode_nil.symm.trans h)
      exact .waits (.inl rfl)
    -- all of it waits
    | unfinished bytes hfront =>
      obtain ⟨rfl, rfl⟩ := Prod.mk.inj ((decode_of_unfinished hfront).symm.trans h)
      exact .waits (.inr (front_eq_unfinished_iff.mp hfront))
    | whole bytes c rest hfront ih =>
      obtain ⟨rfl, rfl⟩ := Prod.mk.inj ((decode_of_whole hfront).symm.trans h)
      rw [front_eq_whole_iff_encode.mp hfront]
      exact .char c (ih rfl)
    | faulty bytes rest hfront ih =>
      obtain ⟨rfl, rfl⟩ := Prod.mk.inj ((decode_of_faulty hfront).symm.trans h)
      obtain ⟨part, rfl, hpart⟩ := exists_maximalSubpart hfront
      refine .faulty hpart (fun hlast hbegun => ?_) (ih rfl)
      -- a beginning of a character with nothing after it would wait
      rw [hlast, List.append_nil, front_eq_unfinished_iff.mpr hbegun] at hfront
      cases hfront

/-! ## Decoding as a loop -/

/-- What a pass over the pending bytes comes to. -/
inductive Pass where
  /-- No pass follows: the bytes are used up, or they wait. -/
  | last (text : List Char) (left : List UInt8)
  /-- A faulty part was met and replaced. A pass over the bytes after it follows. -/
  | again (text : List Char) (rest : List UInt8)

/-- Puts a character in front of what a pass has read. -/
def Pass.after (c : Char) : Pass → Pass
  | .last text left => .last (c :: text) left
  | .again text rest => .again (c :: text) rest

/-- A pass over the pending bytes: it reads characters up to the first place where there is
none. -/
def pass (bytes : List UInt8) : Pass :=
  match _h : front bytes with
  | .nothing => .last [] []
  | .unfinished => .last [] bytes
  | .faulty rest => .again [replacement] rest
  | .whole c rest => (pass rest).after c
termination_by bytes.length
decreasing_by exact length_lt_of_whole _h

/-- Passes over the pending bytes until one is the last; nothing if so many are not enough. -/
def passes : Nat → List UInt8 → Option (List Char × List UInt8)
  | 0, _ => none
  | n + 1, bytes =>
    match pass bytes with
    | .last text left => some (text, left)
    | .again text rest => (passes n rest).map fun taken => (text ++ taken.1, taken.2)

theorem pass_of_whole (h : front bytes = .whole c rest) : pass bytes = (pass rest).after c := by
  rw [pass]
  split <;> simp_all

theorem passes_of_whole (h : front bytes = .whole c rest) (n : Nat) :
    passes (n + 1) bytes = (passes (n + 1) rest).map fun taken => (c :: taken.1, taken.2) := by
  rw [passes, pass_of_whole h, passes]
  cases pass rest with
  | last text left => rfl
  | again text later =>
    rw [Pass.after]
    simp only [Option.map_map]
    rfl

/-- The loop ends with what has been decoded: each pass but the last takes some bytes away. -/
theorem passes_eq_decode (bytes : List UInt8) :
    ∀ n, bytes.length < n → passes n bytes = some (decode bytes) := by
  -- a character is read in the same pass as what follows it, a faulty part costs one pass
  induction bytes using front_induction with
  | nothing =>
    rintro (_ | n) hn
    · exact absurd hn (Nat.not_lt_zero _)
    · rw [passes, pass, decode_nil]
      rfl
  | unfinished bytes h =>
    rintro (_ | n) hn
    · exact absurd hn (Nat.not_lt_zero _)
    · have hpass : pass bytes = .last [] bytes := by
        rw [pass]
        split <;> simp_all
      rw [passes, hpass, decode_of_unfinished h]
  | whole bytes c rest h ih =>
    rintro (_ | n) hn
    · exact absurd hn (Nat.not_lt_zero _)
    · have hlength := length_lt_of_whole h
      rw [passes_of_whole h, ih (n + 1) (by omega), decode_of_whole h]
      rfl
  | faulty bytes rest h ih =>
    rintro (_ | n) hn
    · exact absurd hn (Nat.not_lt_zero _)
    · have hlength := length_lt_of_faulty h
      have hpass : pass bytes = .again [replacement] rest := by
        rw [pass]
        split <;> simp_all
      rw [passes, hpass, decode_of_faulty h]
      simp only
      rw [ih n (by omega)]
      rfl

/-! ## Chunks -/

/-- However bytes are cut into chunks, they are decoded as if they had come at once: into the lossy
reading of all but what waits, and that is empty or the beginning of a character. -/
theorem decode_chunks (chunks : List (List UInt8)) :
    let taken := chunks.foldl takeIn ([], [])
    taken = decode chunks.flatten ∧
      (∃ read, chunks.flatten = read ++ taken.2 ∧ ∀ text, Lossy read text ↔ text = taken.1) ∧
      (taken.2 = [] ∨ Begun taken.2) ∧ taken.2.length ≤ 3 ∧
      ∀ bytes, passes (bytes.length + 1) bytes = some (decode bytes) := by
  have hwhole : chunks.foldl takeIn ([], []) = decode chunks.flatten := by
    have hchunks := foldl_takeIn [] chunks
    rwa [decode_nil] at hchunks
  simp only [hwhole]
  have hwaiting := decode_waiting chunks.flatten
  obtain ⟨read, hread, hlossy⟩ := lossy_decode chunks.flatten
  refine ⟨trivial, ⟨read, hread, fun text => ?_⟩, hwaiting, ?_,
    fun bytes => passes_eq_decode bytes _ (Nat.lt_succ_self _)⟩
  · -- there is one lossy reading
    rw [lossy_iff, lossy_iff.mp hlossy, eq_comm]
  · rcases hwaiting with hnil | hbegun
    · rw [hnil]
      exact Nat.zero_le _
    · exact hbegun.length_le

end VparFleet.Text.Utf8
