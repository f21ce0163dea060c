import Mathlib.Data.List.Infix
import VparFleet.Text.Utf8

/-!
# The front of a byte string

Bytes begin with a whole character exactly if they begin as a character is written. They are taken
for unfinished exactly if they are the beginning of a character and not all of it. In all other
cases a faulty part comes first: one byte, or the beginning of a character, as long as can be. More
bytes only make a difference to what is unfinished.

* `front_eq_whole_iff_encode`: whole characters.
* `Begun`, `front_eq_unfinished_iff`: beginnings of characters.
* `MaximalSubpart`, `exists_maximalSubpart`, `MaximalSubpart.front`: faulty parts.
* `front_append_of_whole`, `front_append_of_faulty`: what more bytes leave as it is.
-/

namespace VparFleet.Text.Utf8

variable {b s low high : UInt8} {got bytes rest tail part more : List UInt8} {c : Char}
  {size need : Nat}

/-! ## First bytes -/

/-- What the first byte of a longer character says about its size and about the second byte. -/
theorem lead?_cases (h : lead? b = some (size, low, high)) :
    (size = 2 ∧ 0xC2 ≤ b.toNat ∧ b.toNat ≤ 0xDF ∧ low.toNat = 0x80 ∧ high.toNat = 0xBF) ∨
      (size = 3 ∧ 0xE0 ≤ b.toNat ∧ b.toNat ≤ 0xEF ∧
        (b.toNat = 0xE0 ∧ low.toNat = 0xA0 ∨ b.toNat ≠ 0xE0 ∧ low.toNat = 0x80) ∧
        (b.toNat = 0xED ∧ high.toNat = 0x9F ∨ b.toNat ≠ 0xED ∧ high.toNat = 0xBF)) ∨
      (size = 4 ∧ 0xF0 ≤ b.toNat ∧ b.toNat ≤ 0xF4 ∧
        (b.toNat = 0xF0 ∧ low.toNat = 0x90 ∨ b.toNat ≠ 0xF0 ∧ low.toNat = 0x80) ∧
        (b.toNat = 0xF4 ∧ high.toNat = 0x8F ∨ b.toNat ≠ 0xF4 ∧ high.toNat = 0xBF)) := by
  simp only [lead?, Bool.and_eq_true, decide_eq_true_eq, beq_iff_eq, UInt8.le_iff_toNat_le,
    ← UInt8.toNat_inj] at h
  split_ifs at h <;> obtain ⟨rfl, rfl, rfl⟩ := h <;> simp at * <;> omega

/-- Bytes of that range begin a longer character. -/
theorem exists_lead? (h : 0xC2 ≤ b.toNat) (h' : b.toNat ≤ 0xF4) :
    ∃ size low high, lead? b = some (size, low, high) := by
  simp only [lead?, Bool.and_eq_true, decide_eq_true_eq, beq_iff_eq, UInt8.le_iff_toNat_le,
    ← UInt8.toNat_inj]
  split_ifs <;> simp at *
  omega

/-- Which second bytes may follow a first byte, and the size that this makes. -/
theorem begins_iff :
    (∃ low high, lead? b = some (size, low, high) ∧ low ≤ s ∧ s ≤ high) ↔
      0x80 ≤ s.toNat ∧ s.toNat ≤ 0xBF ∧
        (size = 2 ∧ 0xC2 ≤ b.toNat ∧ b.toNat ≤ 0xDF ∨
          size = 3 ∧ 0xE0 ≤ b.toNat ∧ b.toNat ≤ 0xEF ∧
            (b.toNat = 0xE0 → 0xA0 ≤ s.toNat) ∧ (b.toNat = 0xED → s.toNat ≤ 0x9F) ∨
          size = 4 ∧ 0xF0 ≤ b.toNat ∧ b.toNat ≤ 0xF4 ∧
            (b.toNat = 0xF0 → 0x90 ≤ s.toNat) ∧ (b.toNat = 0xF4 → s.toNat ≤ 0x8F)) := by
  constructor
  · rintro ⟨low, high, hlead, hlow, hhigh⟩
    rw [UInt8.le_iff_toNat_le] at hlow hhigh
    have := lead?_cases hlead
    omega
  · rintro h
    obtain ⟨size', low, high, hlead⟩ := exists_lead? (b := b) (by omega) (by omega)
    have := lead?_cases hlead
    obtain rfl : size' = size := by omega
    refine ⟨low, high, hlead, ?_, ?_⟩
    · rw [UInt8.le_iff_toNat_le]
      omega
    · rw [UInt8.le_iff_toNat_le]
      omega

/-! ## Whole characters -/

theorem isTail_iff {t : UInt8} : isTail t = true ↔ 0x80 ≤ t.toNat ∧ t.toNat ≤ 0xBF := by
  simp [isTail, UInt8.le_iff_toNat_le]

/-- A character is completed exactly by as many bytes as it needs, all of the range of those that
continue one. -/
theorem finish_eq_whole_iff :
    finish b got need bytes = .whole c rest ↔
      ∃ tail, tail.length = need ∧ (∀ t ∈ tail, isTail t = true) ∧ bytes = tail ++ rest ∧
        c = Char.ofNat (codePoint b (got ++ tail)) := by
  -- on the number of bytes that are still needed
  induction need generalizing got bytes with
  | zero =>
    simp only [finish, Front.whole.injEq, List.length_eq_zero_iff]
    constructor
    · rintro ⟨rfl, rfl⟩
      exact ⟨[], rfl, by simp, rfl, by rw [List.append_nil]⟩
    · rintro ⟨tail, rfl, -, rfl, rfl⟩
      rw [List.append_nil]
      exact ⟨rfl, rfl⟩
  | succ need ih =>
    cases bytes with
    | nil =>
      simp only [finish, reduceCtorEq, false_iff]
      -- a byte is needed, and there is none
      rintro ⟨tail, hlength, -, hbytes, -⟩
      rw [(List.append_eq_nil_iff.mp hbytes.symm).1] at hlength
      cases hlength
    | cons t bytes =>
      simp only [finish]
      split
      · next ht =>
        -- this byte continues the character, and is the first of the tail
        rw [ih]
        constructor
        · rintro ⟨tail, rfl, htail, rfl, rfl⟩
          exact ⟨t :: tail, rfl, List.forall_mem_cons.mpr ⟨ht, htail⟩, rfl, by simp⟩
        · rintro ⟨tail, hlength, htail, hbytes, rfl⟩
          cases tail with
          | nil => cases hlength
          | cons u tail =>
            obtain ⟨rfl, rfl⟩ := List.cons_eq_cons.mp hbytes
            exact ⟨tail, Nat.succ.inj hlength, (List.forall_mem_cons.mp htail).2, rfl, by simp⟩
      · next ht =>
        simp only [reduceCtorEq, false_iff]
        rintro ⟨tail, hlength, htail, hbytes, -⟩
        cases tail with
        | nil => cases hlength
        | cons u tail =>
          obtain ⟨rfl, -⟩ := List.cons_eq_cons.mp hbytes
          exact ht (htail t List.mem_cons_self)

/-- What the bytes of a longer character are. -/
structure LongForm (b s : UInt8) (tail : List UInt8) : Prop where
  begins : ∃ low high, lead? b = some (tail.length + 2, low, high) ∧ low ≤ s ∧ s ≤ high
  continues : ∀ t ∈ tail, isTail t = true

/-- Whole characters are single bytes, or longer forms. -/
theorem front_eq_whole_iff :
    front bytes = .whole c rest ↔
      (∃ b, b < 0x80 ∧ bytes = b :: rest ∧ c = Char.ofNat b.toNat) ∨
        ∃ b s tail, LongForm b s tail ∧ bytes = b :: s :: (tail ++ rest) ∧
          c = Char.ofNat (codePoint b (s :: tail)) := by
  constructor
  · intro h
    unfold front at h
    split at h
    · cases h
    · rename_i b bytes
      split at h
      · next hb =>
        obtain ⟨rfl, rfl⟩ := Front.whole.inj h
        exact .inl ⟨b, hb, rfl, rfl⟩
      split at h
      · cases h
      · -- the first byte says how many follow, and which the second may be
        next size low high hlead =>
        split at h
        · cases h
        · rename_i s bytes
          split at h
          · next hs =>
            obtain ⟨tail, hlength, htail, rfl, rfl⟩ := finish_eq_whole_iff.mp h
            have hsize : size = tail.length + 2 := by
              rcases lead?_cases hlead with h | h | h <;> omega
            rw [Bool.and_eq_true, decide_eq_true_eq, decide_eq_true_eq] at hs
            exact .inr ⟨b, s, tail, ⟨⟨low, high, hsize ▸ hlead, hs⟩, htail⟩, rfl, rfl⟩
          · cases h
  · rintro (⟨b, hb, rfl, rfl⟩ | ⟨b, s, tail, ⟨⟨low, high, hlead, hlow, hhigh⟩, htail⟩, rfl, rfl⟩)
    · rw [front, if_pos hb]
    · -- the first byte of a longer form is none of a single one
      have hb : ¬b < 0x80 := by
        rw [UInt8.lt_iff_toNat_lt]
        have hge : 0x80 ≤ b.toNat := by rcases lead?_cases hlead with h | h | h <;> omega
        simpa using hge
      rw [front, if_neg hb, hlead]
      simp only [hlow, hhigh, decide_true, Bool.and_self, if_true, Nat.add_sub_cancel]
      exact finish_eq_whole_iff.mpr ⟨tail, rfl, htail, rfl, by simp⟩

theorem toNat_ofNat {n : Nat} (h : n < 0xD800 ∨ 0xDFFF < n ∧ n < 0x110000) :
    (Char.ofNat n).val.toNat = n := by
  rw [Char.ofNat, dif_pos h]
  rfl

theorem ofNat_eq {n : Nat} (h : n = b.toNat) : UInt8.ofNat n = b := by
  rw [h, UInt8.ofNat_toNat]

/-- The bytes of a longer character are those that it is written with. -/
theorem LongForm.encode (h : LongForm b s tail) :
    String.utf8EncodeChar (Char.ofNat (codePoint b (s :: tail))) = b :: s :: tail := by
  obtain ⟨hbegins, htail⟩ := h
  have hbounds := begins_iff.mp hbegins
  -- a case for each size: the bounds rule out all other branches of the encoder, and its quotients
  -- and remainders give the bytes back
  match tail with
  | [] =>
    rw [List.length_nil] at hbounds
    have hcode : codePoint b [s] = b.toNat % 0x20 * 0x40 + s.toNat % 0x40 := rfl
    rw [String.utf8EncodeChar, hcode, toNat_ofNat (by omega), if_neg (by omega),
      if_pos (by omega), ofNat_eq (b := b) (by omega), ofNat_eq (b := s) (by omega)]
  | [t] =>
    have ht := isTail_iff.mp (htail t List.mem_cons_self)
    rw [List.length_singleton] at hbounds
    have hcode : codePoint b [s, t]
        = (b.toNat % 0x10 * 0x40 + s.toNat % 0x40) * 0x40 + t.toNat % 0x40 := rfl
    rw [String.utf8EncodeChar, hcode, toNat_ofNat (by omega), if_neg (by omega),
      if_neg (by omega), if_pos (by omega), ofNat_eq (b := b) (by omega),
      ofNat_eq (b := s) (by omega), ofNat_eq (b := t) (by omega)]
  | [t, u] =>
    have ht := isTail_iff.mp (htail t List.mem_cons_self)
    have hu := isTail_iff.mp (htail u (List.mem_cons_of_mem t List.mem_cons_self))
    rw [List.length_cons, List.length_singleton] at hbounds
    have hcode : codePoint b [s, t, u]
        = ((b.toNat % 0x08 * 0x40 + s.toNat % 0x40) * 0x40 + t.toNat % 0x40) * 0x40
          + u.toNat % 0x40 := rfl
    rw [String.utf8EncodeChar, hcode, toNat_ofNat (by omega), if_neg (by omega),
      if_neg (by omega), if_neg (by omega), ofNat_eq (b := b) (by omega),
      ofNat_eq (b := s) (by omega), ofNat_eq (b := t) (by omega), ofNat_eq (b := u) (by omega)]
  | _ :: _ :: _ :: _ =>
    simp only [List.length_cons] at hbounds
    omega

/-- A character beyond the first 128 is written in a longer form. -/
theorem exists_longForm (hc : 0x80 ≤ c.val.toNat) :
    ∃ b s tail, LongForm b s tail ∧ String.utf8EncodeChar c = b :: s :: tail ∧
      codePoint b (s :: tail) = c.val.toNat := by
  have hvalid : c.val.toNat < 0xD800 ∨ 0xDFFF < c.val.toNat ∧ c.val.toNat < 0x110000 := c.valid
  have hbyte {n : Nat} (h : n < 0x100) : (UInt8.ofNat n).toNat = n := UInt8.toNat_ofNat_of_lt h
  have htail {n : Nat} (h : 0x80 ≤ n) (h' : n ≤ 0xBF) : isTail (UInt8.ofNat n) = true := by
    rw [isTail_iff, hbyte (by omega)]
    exact ⟨h, h'⟩
  rw [String.utf8EncodeChar]
  -- surrogates are left out by `hvalid`, longer forms than need be by the branch of the encoder
  generalize c.val.toNat = v at hc hvalid ⊢
  rw [if_neg (by omega)]
  -- two bytes
  split
  · have hb := hbyte (n := v / 64 % 32 + 192) (by omega)
    have hs := hbyte (n := v % 64 + 128) (by omega)
    refine ⟨_, _, [], ⟨begins_iff.mpr ?_, by simp⟩, rfl, ?_⟩
    · rw [hb, hs, List.length_nil]
      omega
    · rw [codePoint, List.length_singleton, List.foldl_cons, List.foldl_nil]
      simp only [hb, hs]
      omega
  -- three bytes, or four
  split
  · have hb := hbyte (n := v / 4096 % 16 + 224) (by omega)
    have hs := hbyte (n := v / 64 % 64 + 128) (by omega)
    have ht := hbyte (n := v % 64 + 128) (by omega)
    refine ⟨_, _, [_], ⟨begins_iff.mpr ?_, ?_⟩, rfl, ?_⟩
    · rw [hb, hs, List.length_singleton]
      omega
    · exact List.forall_mem_singleton.mpr (htail (by omega) (by omega))
    · rw [codePoint, List.length_cons, List.length_singleton, List.foldl_cons, List.foldl_cons,
        List.foldl_nil]
      simp only [hb, hs, ht]
      omega
  · have hb := hbyte (n := v / 262144 % 8 + 240) (by omega)
    have hs := hbyte (n := v / 4096 % 64 + 128) (by omega)
    have ht := hbyte (n := v / 64 % 64 + 128) (by omega)
    have hu := hbyte (n := v % 64 + 128) (by omega)
    refine ⟨_, _, [_, _], ⟨begins_iff.mpr ?_, ?_⟩, rfl, ?_⟩
    · rw [hb, hs, List.length_cons, List.length_singleton]
      omega
    · exact List.forall_mem_cons.mpr ⟨htail (by omega) (by omega),
        List.forall_mem_singleton.mpr (htail (by omega) (by omega))⟩
    · rw [codePoint, List.length_cons, List.length_cons, List.length_singleton, List.foldl_cons,
        List.foldl_cons, List.foldl_cons, List.foldl_nil]
      simp only [hb, hs, ht, hu]
      omega

/-- Exactly the characters as they are written are read as whole characters. -/
theorem front_eq_whole_iff_encode :
    front bytes = .whole c rest ↔ bytes = String.utf8EncodeChar c ++ rest := by
  rw [front_eq_whole_iff]
  constructor
  · rintro (⟨b, hb, rfl, rfl⟩ | ⟨b, s, tail, hlong, rfl, rfl⟩)
    · have hlt : b.toNat < 0x80 := by simpa [UInt8.lt_iff_toNat_lt] using hb
      rw [String.utf8EncodeChar, toNat_ofNat (by omega), if_pos (by omega), UInt8.ofNat_toNat]
      rfl
    · rw [hlong.encode]
      rfl
  · rintro rfl
    by_cases hc : 0x80 ≤ c.val.toNat
    · obtain ⟨b, s, tail, hlong, hencode, hcode⟩ := exists_longForm hc
      refine .inr ⟨b, s, tail, hlong, by rw [hencode]; rfl, ?_⟩
      rw [hcode]
      exact (Char.ofNat_toNat c).symm
    · have hbyte : (UInt8.ofNat c.val.toNat).toNat = c.val.toNat :=
        UInt8.toNat_ofNat_of_lt (by simp only [UInt8.size]; omega)
      refine .inl ⟨UInt8.ofNat c.val.toNat, ?_, ?_, ?_⟩
      · rw [UInt8.lt_iff_toNat_lt, hbyte]
        exact Nat.not_le.mp hc
      · rw [String.utf8EncodeChar, if_pos (by omega)]
        rfl
      · rw [hbyte]
        exact (Char.ofNat_toNat c).symm

theorem front_append_of_whole (h : front bytes = .whole c rest) (more : List UInt8) :
    front (bytes ++ more) = .whole c (rest ++ more) := by
  rw [front_eq_whole_iff_encode] at h ⊢
  rw [h, List.append_assoc]

/-! ## Faulty parts -/

/-- A character that goes wrong ends before the byte that cannot continue it. -/
theorem finish_eq_faulty (h : finish b got need bytes = .faulty rest) :
    ∃ part, bytes = part ++ rest ∧ finish b got need part = .unfinished ∧
      ∀ more, (∀ x, rest.head? = some x → more.head? = some x) →
        finish b got need (part ++ more) = .faulty more := by
  induction need generalizing got bytes with
  | zero => simp [finish] at h
  | succ need ih =>
    cases bytes with
    | nil => cases h
    | cons t bytes =>
      rw [finish] at h
      split at h
      · next ht =>
        -- the byte continues the character, so it is a part of the beginning
        obtain ⟨part, rfl, hpart, hmore⟩ := ih h
        refine ⟨t :: part, rfl, ?_, fun more hhead => ?_⟩
        · rw [finish, if_pos ht, hpart]
        · rw [List.cons_append, finish, if_pos ht, hmore more hhead]
      · next ht =>
        -- the byte does not, and is all that decides that the part ends here
        obtain rfl := Front.faulty.inj h
        refine ⟨[], rfl, rfl, fun more hhead => ?_⟩
        obtain ⟨more, rfl⟩ := List.head?_eq_some_iff.mp (hhead t rfl)
        rw [List.nil_append, finish, if_neg ht]

/-- A faulty part is one byte or the beginning of a character, and nothing but the byte after it
decides that it ends there. -/
theorem front_eq_faulty (h : front bytes = .faulty rest) :
    ∃ part, bytes = part ++ rest ∧ (part.length = 1 ∨ front part = .unfinished) ∧
      ∀ more, (∀ x, rest.head? = some x → more.head? = some x) →
        front (part ++ more) = .faulty more := by
  unfold front at h
  split at h
  · cases h
  · rename_i b bytes
    split at h
    · cases h
    next hb =>
    split at h
    · next hlead =>
      obtain rfl := Front.faulty.inj h
      refine ⟨[b], rfl, .inl rfl, fun more _ => ?_⟩
      rw [List.singleton_append, front, if_neg hb, hlead]
    next size low high hlead =>
    split at h
    · cases h
    rename_i s bytes
    split at h
    · next hs =>
      -- the second byte may follow, so the part goes on
      obtain ⟨part, rfl, hpart, hmore⟩ := finish_eq_faulty h
      refine ⟨b :: s :: part, rfl, .inr ?_, fun more hhead => ?_⟩
      · rw [front, if_neg hb, hlead]
        simp only [hs, if_true, hpart]
      · rw [List.cons_append, List.cons_append, front, if_neg hb, hlead]
        simp only [hs, if_true, hmore more hhead]
    · next hs =>
      obtain rfl := Front.faulty.inj h
      refine ⟨[b], rfl, .inl rfl, fun more hhead => ?_⟩
      obtain ⟨more, rfl⟩ := List.head?_eq_some_iff.mp (hhead s rfl)
      rw [List.singleton_append, front, if_neg hb, hlead]
      simp only [hs, Bool.false_eq_true, if_false]

/-- A faulty part stays one when more bytes follow. -/
theorem front_append_of_faulty (h : front bytes = .faulty rest) (more : List UInt8) :
    front (bytes ++ more) = .faulty (rest ++ more) := by
  obtain ⟨part, rfl, -, hmore⟩ := front_eq_faulty h
  rw [List.append_assoc]
  refine hmore _ fun x hx => ?_
  rw [List.head?_append, hx]
  rfl

/-! ## Unfinished characters -/

/-- The lowest bytes that continue a character complete it. -/
theorem finish_replicate (b : UInt8) (got : List UInt8) (need : Nat) :
    ∃ c, finish b got need (List.replicate need 0x80) = .whole c [] := by
  refine ⟨_, finish_eq_whole_iff.mpr
    ⟨_, List.length_replicate, fun t ht => ?_, (List.append_nil _).symm, rfl⟩⟩
  rw [List.eq_of_mem_replicate ht]
  rfl

/-- A character that is not complete can be completed. -/
theorem finish_eq_unfinished (h : finish b got need bytes = .unfinished) :
    ∃ c more, more ≠ [] ∧ finish b got need (bytes ++ more) = .whole c [] := by
  induction need generalizing got bytes with
  | zero => simp [finish] at h
  | succ need ih =>
    cases bytes with
    | nil =>
      obtain ⟨c, hwhole⟩ := finish_replicate b got (need + 1)
      exact ⟨c, _, by simp, hwhole⟩
    | cons t bytes =>
      rw [finish] at h
      split at h
      · next ht =>
        obtain ⟨c, more, hmore, hwhole⟩ := ih h
        exact ⟨c, more, hmore, by rw [List.cons_append, finish, if_pos ht, hwhole]⟩
      · cases h

/-- Bytes that are taken for unfinished can be completed to a character. -/
theorem exists_completion (h : front bytes = .unfinished) :
    ∃ c more, more ≠ [] ∧ front (bytes ++ more) = .whole c [] := by
  unfold front at h
  split at h
  · cases h
  rename_i b bytes
  split at h
  · cases h
  next hb =>
  split at h
  · cases h
  next size low high hlead =>
  split at h
  · -- the lowest second byte will do
    have hrange : (decide (low ≤ low) && decide (low ≤ high)) = true := by
      have hle : low ≤ high := by
        have := lead?_cases hlead
        rw [UInt8.le_iff_toNat_le]
        omega
      simp [hle]
    obtain ⟨c, hwhole⟩ := finish_replicate b [low] (size - 2)
    refine ⟨c, low :: List.replicate (size - 2) 0x80, List.cons_ne_nil low _, ?_⟩
    rw [List.singleton_append, front, if_neg hb, hlead]
    simp only [hrange, if_true, hwhole]
  · rename_i s bytes
    split at h
    · next hs =>
      obtain ⟨c, more, hmore, hwhole⟩ := finish_eq_unfinished h
      refine ⟨c, more, hmore, ?_⟩
      rw [List.cons_append, List.cons_append, front, if_neg hb, hlead]
      simp only [hs, if_true, hwhole]
    · cases h

/-- After a first byte there is something. -/
theorem finish_ne_nothing : finish b got need bytes ≠ .nothing := by
  induction need generalizing got bytes with
  | zero => simp [finish]
  | succ need ih =>
    cases bytes with
    | nil => simp [finish]
    | cons t bytes =>
      rw [finish]
      split
      · exact ih
      · intro hnothing
        cases hnothing

/-- Only without bytes there is nothing. -/
theorem front_eq_nothing_iff : front bytes = .nothing ↔ bytes = [] := by
  refine ⟨fun h => ?_, fun h => by rw [h, front]⟩
  unfold front at h
  split at h
  · rfl
  split at h
  · cases h
  split at h
  · cases h
  split at h
  · cases h
  split at h
  · exact absurd h finish_ne_nothing
  · cases h

/-- Whether bytes are the beginning of a character and not all of it. -/
def Begun (bytes : List UInt8) : Prop :=
  bytes ≠ [] ∧ ∃ c more, more ≠ [] ∧ String.utf8EncodeChar c = bytes ++ more

/-- Exactly the beginnings of characters are unfinished. -/
theorem front_eq_unfinished_iff : front bytes = .unfinished ↔ Begun bytes := by
  constructor
  · intro h
    obtain ⟨c, more, hmore, hwhole⟩ := exists_completion h
    rw [front_eq_whole_iff_encode, List.append_nil] at hwhole
    refine ⟨?_, c, more, hmore, hwhole.symm⟩
    rintro rfl
    cases h
  · rintro ⟨hne, c, more, hmore, hencode⟩
    have hwhole : front (bytes ++ more) = .whole c [] :=
      front_eq_whole_iff_encode.mpr (by rw [hencode, List.append_nil])
    -- the bytes are no whole character and not faulty, since more bytes would leave them so
    cases hfront : front bytes with
    | nothing => exact absurd (front_eq_nothing_iff.mp hfront) hne
    | whole d rest =>
      obtain ⟨-, hrest⟩ := Front.whole.inj ((front_append_of_whole hfront more).symm.trans hwhole)
      exact absurd (List.append_eq_nil_iff.mp hrest).2 hmore
    | faulty rest => cases (front_append_of_faulty hfront more).symm.trans hwhole
    | unfinished => rfl

/-- The beginning of a character is three bytes at most. -/
theorem Begun.length_le (h : Begun bytes) : bytes.length ≤ 3 := by
  obtain ⟨-, c, more, hmore, hencode⟩ := h
  have hlength := congrArg List.length hencode
  rw [String.length_utf8EncodeChar, List.length_append] at hlength
  have := Char.utf8Size_le_four c
  have := List.length_pos_of_ne_nil hmore
  omega

/-! ## Maximal faulty parts -/

/-- Whether a part with some bytes after it is a maximal subpart of what cannot be read: no
character begins with it, and it is one byte or the longest beginning of a character. -/
structure MaximalSubpart (part rest : List UInt8) : Prop where
  unreadable : ∀ c, ¬String.utf8EncodeChar c <+: part ++ rest
  begun : part.length = 1 ∨ Begun part
  longest : ∀ longer, longer <+: part ++ rest → Begun longer → longer.length ≤ part.length

namespace MaximalSubpart

/-- A faulty part is not empty. -/
theorem ne_nil (h : MaximalSubpart part rest) : part ≠ [] := by
  rintro rfl
  rcases h.begun with hlength | hbegun
  · cases hlength
  · exact hbegun.1 rfl

/-- A part is as long as can be also if fewer bytes follow it. -/
theorem of_prefix (h : MaximalSubpart part rest) {fewer : List UInt8} (hfewer : fewer <+: rest) :
    MaximalSubpart part fewer where
  unreadable c hc := h.unreadable c (hc.trans ((List.prefix_append_right_inj part).mpr hfewer))
  begun := h.begun
  longest longer hlonger :=
    h.longest longer (hlonger.trans ((List.prefix_append_right_inj part).mpr hfewer))

end MaximalSubpart

theorem unreadable_of_front (h : ∀ c rest, front bytes ≠ .whole c rest) (c : Char) :
    ¬String.utf8EncodeChar c <+: bytes := by
  rintro ⟨rest, hrest⟩
  exact h c rest (front_eq_whole_iff_encode.mpr hrest.symm)

/-- What is taken for a faulty part is a maximal one. -/
theorem exists_maximalSubpart (h : front bytes = .faulty rest) :
    ∃ part, bytes = part ++ rest ∧ MaximalSubpart part rest := by
  have hunreadable := unreadable_of_front fun c rest hwhole => by cases h.symm.trans hwhole
  obtain ⟨part, rfl, hbegun, hmore⟩ := front_eq_faulty h
  refine ⟨part, rfl, hunreadable, hbegun.imp_right front_eq_unfinished_iff.mp,
    fun longer hlonger hbegins => ?_⟩
  -- a longer beginning would have to go on with the byte that ended the part
  by_contra hlength
  rw [Nat.not_le] at hlength
  obtain ⟨more, rfl⟩ :=
    List.prefix_of_prefix_length_le (List.prefix_append part rest) hlonger hlength.le
  have hrest : more <+: rest := (List.prefix_append_right_inj part).mp hlonger
  -- the byte after the part ends it in the same way here
  have hfaulty : front (part ++ more) = .faulty more := by
    refine hmore more fun x hx => ?_
    cases more with
    | nil => simp at hlength
    | cons y more =>
      obtain ⟨after, rfl⟩ := hrest
      exact hx
  cases hfaulty.symm.trans (front_eq_unfinished_iff.mpr hbegins)

/-- The end of what has arrived is a maximal faulty part if nothing more arrives. -/
theorem maximalSubpart_of_begun (h : Begun part) : MaximalSubpart part [] where
  unreadable c := by
    have hfront := front_eq_unfinished_iff.mpr h
    rw [List.append_nil]
    exact unreadable_of_front (fun c rest hwhole => by cases hfront.symm.trans hwhole) c
  begun := .inr h
  longest longer hlonger _ := by simpa using hlonger.length_le

/-- There is only one maximal part in front of some bytes. -/
theorem MaximalSubpart.front (h : MaximalSubpart part rest) :
    Utf8.front (part ++ rest) = .faulty rest ∨ rest = [] ∧ Utf8.front part = .unfinished := by
  cases hfront : Utf8.front (part ++ rest) with
  | nothing => exact absurd (List.append_eq_nil_iff.mp (front_eq_nothing_iff.mp hfront)).1 h.ne_nil
  | whole c after =>
    refine absurd ?_ (h.unreadable c)
    exact (front_eq_whole_iff_encode.mp hfront) ▸ List.prefix_append _ after
  | faulty after =>
    obtain ⟨other, hother, hmaximal⟩ := exists_maximalSubpart hfront
    -- both parts are as long as can be
    have hbefore {p q : List UInt8} (hp : MaximalSubpart p q) {p' q' : List UInt8}
        (hp' : MaximalSubpart p' q') (heq : p ++ q = p' ++ q') : p.length ≤ p'.length := by
      rcases hp.begun with hone | hbegun
      · rw [hone]
        exact List.length_pos_of_ne_nil hp'.ne_nil
      · exact hp'.longest p (heq ▸ List.prefix_append p q) hbegun
    have hlength : part.length = other.length :=
      Nat.le_antisymm (hbefore h hmaximal hother) (hbefore hmaximal h hother.symm)
    exact .inl (by rw [(List.append_inj hother hlength).2])
  | unfinished =>
    have hlength := h.longest _ (List.prefix_refl _) (front_eq_unfinished_iff.mp hfront)
    rw [List.length_append] at hlength
    have hrest : rest = [] := List.eq_nil_of_length_eq_zero (by omega)
    rw [hrest, List.append_nil] at hfront
    exact .inr ⟨hrest, hfront⟩

end VparFleet.Text.Utf8
