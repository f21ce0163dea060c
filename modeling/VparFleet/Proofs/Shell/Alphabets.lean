import Mathlib.Data.List.Induction
import VparFleet.Proofs.Text.Printed
import VparFleet.Request

/-!
# What names, images and addresses are made of

The checks of a request, said in characters: which ones a name has, which ones the name of an image
does not have, and that an address is four numbers between points.

* `isShellSafe_iff`: a name has letters, digits, points, underscores and hyphens only.
* `isImageName_iff`: an image has no quotes, no expansions and no control characters.
* `Ipv4.isLiteral_iff`: an address is four numbers of 255 at most, as they are printed.
-/

namespace VparFleet

/-! ## Names -/

/-- A letter or digit of ASCII, a point, an underscore or a hyphen. -/
def IsPlain (c : Char) : Prop :=
  'A' ≤ c ∧ c ≤ 'Z' ∨ 'a' ≤ c ∧ c ≤ 'z' ∨ '0' ≤ c ∧ c ≤ '9' ∨ c = '.' ∨ c = '_' ∨ c = '-'

/-- The characters of names, by their ranges. -/
theorem isNameChar_iff {c : Char} : isNameChar c = true ↔ IsPlain c := by
  have hupper : c.isUpper = true ↔ 'A' ≤ c ∧ c ≤ 'Z' := decide_eq_true_iff
  have hlower : c.isLower = true ↔ 'a' ≤ c ∧ c ≤ 'z' :=
    Bool.and_eq_true_iff.trans (and_congr decide_eq_true_iff decide_eq_true_iff)
  have hdigit : c.isDigit = true ↔ '0' ≤ c ∧ c ≤ '9' :=
    Bool.and_eq_true_iff.trans (and_congr decide_eq_true_iff decide_eq_true_iff)
  have hletter : c.isAlpha = true ↔ 'A' ≤ c ∧ c ≤ 'Z' ∨ 'a' ≤ c ∧ c ≤ 'z' :=
    Bool.or_eq_true_iff.trans (or_congr hupper hlower)
  have halphanum : c.isAlphanum = true ↔
      ('A' ≤ c ∧ c ≤ 'Z' ∨ 'a' ≤ c ∧ c ≤ 'z') ∨ '0' ≤ c ∧ c ≤ '9' :=
    Bool.or_eq_true_iff.trans (or_congr hletter hdigit)
  simp only [isNameChar, Bool.or_eq_true, decide_eq_true_eq, halphanum, or_assoc, IsPlain]

/-- Plain characters lie between the hyphen and `z`, so none of them is blank. -/
theorem IsPlain.isBlank_eq_false {c : Char} (h : IsPlain c) : Text.isBlank c = false := by
  have hrange {first last : Char} (hlow : first ≤ c) (hhigh : c ≤ last)
      (hfirst : 45 ≤ first.toNat) (hlast : last.toNat ≤ 122) : 45 ≤ c.toNat ∧ c.toNat ≤ 122 :=
    ⟨hfirst.trans (UInt32.le_iff_toNat_le.mp hlow), (UInt32.le_iff_toNat_le.mp hhigh).trans hlast⟩
  have hcode : 45 ≤ c.toNat ∧ c.toNat ≤ 122 := by
    rcases h with ⟨hlow, hhigh⟩ | ⟨hlow, hhigh⟩ | ⟨hlow, hhigh⟩ | rfl | rfl | rfl
    · exact hrange hlow hhigh (by decide) (by decide)
    · exact hrange hlow hhigh (by decide) (by decide)
    · exact hrange hlow hhigh (by decide) (by decide)
    · decide
    · decide
    · decide
  -- all blanks have codes outside of that range
  simp only [Text.isBlank, Bool.or_eq_false_iff, Bool.and_eq_false_iff, decide_eq_false_iff_not,
    beq_eq_false_iff_ne]
  omega

/-- A name is not empty, and made of plain characters. -/
theorem isShellSafe_iff {s : String} :
    isShellSafe s = true ↔ s.toList ≠ [] ∧ ∀ c ∈ s.toList, IsPlain c := by
  simp only [isShellSafe, Bool.and_eq_true, Bool.not_eq_true', List.isEmpty_eq_false_iff,
    List.all_eq_true, isNameChar_iff]

/-! ## Images -/

/-- A character that may stand in the name of an image: no quote, no backtick, no dollar sign, no
backslash and no control character. -/
structure IsTame (c : Char) : Prop where
  double : c ≠ '"'
  single : c ≠ '\''
  backtick : c.toNat ≠ 0x60
  dollar : c ≠ '$'
  backslash : c ≠ '\\'
  printable : 0x20 ≤ c.toNat ∧ (c.toNat < 0x7F ∨ 0xA0 ≤ c.toNat)

/-- What is not unsafe is tame. -/
theorem isUnsafeInImage_eq_false_iff {c : Char} : isUnsafeInImage c = false ↔ IsTame c := by
  simp only [isUnsafeInImage, isControl, Bool.or_eq_false_iff, Bool.and_eq_false_iff,
    decide_eq_false_iff_not, and_assoc]
  constructor
  · rintro ⟨hdouble, hsingle, hbacktick, hdollar, hbackslash, hlow, hhigh⟩
    exact ⟨hdouble, hsingle, hbacktick, hdollar, hbackslash, by omega, by omega⟩
  · rintro ⟨hdouble, hsingle, hbacktick, hdollar, hbackslash, hprintable⟩
    exact ⟨hdouble, hsingle, hbacktick, hdollar, hbackslash, by omega, by omega⟩

/-- The name of an image is no blank, and made of tame characters. -/
theorem isImageName_iff {s : String} :
    isImageName s = true ↔
      (∃ c ∈ s.toList, Text.isBlank c = false) ∧ ∀ c ∈ s.toList, IsTame c := by
  simp only [isImageName, Text.isBlankText, Bool.and_eq_true, Bool.not_eq_true', List.all_eq_false,
    List.any_eq_false, Bool.not_eq_true, isUnsafeInImage_eq_false_iff]

/-! ## Addresses -/

/-- A digit is the one of its value. -/
theorem digitChar_of_isDigit {c : Char} (h : c.isDigit = true) :
    (c.toNat - '0'.toNat).digitChar = c := by
  have hcode := Instant.toNat_of_isDigit h
  -- ten digits, one by one
  have hall : ∀ d : Fin 10, Nat.digitChar d = Char.ofNat (48 + d) := by decide
  have hd := hall ⟨c.toNat - 48, by omega⟩
  rw [show 48 + (c.toNat - 48) = c.toNat by omega, Char.ofNat_toNat] at hd
  exact hd

/-- Digits without a zero in front are those of the number that they are read as. -/
theorem toDigits_ofDigitChars {cs : List Char} (hne : cs ≠ []) (hd : ∀ c ∈ cs, c.isDigit = true)
    (hzero : cs.length = 1 ∨ cs.head? ≠ some '0') :
    Nat.toDigits 10 (Nat.ofDigitChars 10 cs 0) = cs := by
  induction cs using List.reverseRecOn with
  | nil => exact absurd rfl hne
  | append_singleton cs c ih =>
    obtain ⟨hcs, hc⟩ := List.forall_mem_append.mp hd
    have hdigit := hc c List.mem_cons_self
    have hcode := Instant.toNat_of_isDigit hdigit
    have hlt : c.toNat - '0'.toNat < 10 := by
      have h0 : '0'.toNat = 48 := rfl
      omega
    rw [Nat.ofDigitChars_append, Nat.ofDigitChars_cons, Nat.ofDigitChars_nil]
    -- one digit is itself; of more, the front is not zero, so the last is written after it
    rcases List.eq_nil_or_concat cs with rfl | ⟨front, last, rfl⟩
    · rw [Nat.ofDigitChars_nil, Nat.mul_zero, Nat.zero_add, Nat.toDigits_of_lt_base hlt,
        digitChar_of_isDigit hdigit]
      rfl
    · have hhead : (front.concat last).head? ≠ some '0' := by
        have hhead := hzero.resolve_left (by simp)
        rwa [List.head?_append_of_ne_nil _ (by simp)] at hhead
      have hfront := ih (by simp) hcs (Or.inr hhead)
      -- a front that is read as zero would begin with a zero
      have hpos : 0 < Nat.ofDigitChars 10 (front.concat last) 0 := by
        refine Nat.pos_of_ne_zero fun hnone => hhead ?_
        rw [← hfront, hnone]
        rfl
      rw [← Nat.toDigits_append_toDigits (by decide) hpos hlt, hfront, Nat.toDigits_of_lt_base hlt,
        digitChar_of_isDigit hdigit]

namespace Ipv4

/-- An octet is a number of 255 at most, as it is printed. -/
theorem isOctet_iff {cs : List Char} :
    isOctet cs = true ↔ ∃ n ≤ 255, cs = Nat.toDigits 10 n := by
  constructor
  · intro h
    simp only [isOctet, Bool.and_eq_true, Bool.or_eq_true, decide_eq_true_eq, List.all_eq_true,
      Option.isSome_iff_exists, Text.Decimal.read?_eq_some_iff] at h
    obtain ⟨⟨⟨-, hzero⟩, hdigits⟩, n, ⟨digits, hcs, hne, -, hvalue⟩, hn⟩ := h
    obtain rfl : cs = digits := by
      refine hcs.resolve_right ?_
      -- a plus sign is no digit
      rintro rfl
      exact absurd (hdigits '+' List.mem_cons_self) (by decide)
    refine ⟨n, by omega, ?_⟩
    rw [← hvalue, toDigits_ofDigitChars hne hdigits hzero]
  · rintro ⟨n, hn, rfl⟩
    have hall : ∀ n : Fin 256, isOctet (Nat.toDigits 10 n) = true := by decide +kernel
    exact hall ⟨n, by omega⟩

/-- An address, one number after the other. -/
theorem toList_dotted (a b c d : Nat) :
    s!"{a}.{b}.{c}.{d}".toList = ['.'].intercalate
      [Nat.toDigits 10 a, Nat.toDigits 10 b, Nat.toDigits 10 c, Nat.toDigits 10 d] := by
  have hnumber (n : Nat) : (toString n).toList = Nat.toDigits 10 n := by
    rw [show toString n = n.repr from rfl, Nat.toList_repr]
  have hpoint : (toString ".").toList = ['.'] := rfl
  simp only [String.toList_append, hnumber, hpoint]
  simp [List.intercalate]

/-- An address is four numbers of 255 at most with points between them. -/
theorem isLiteral_iff {s : String} :
    isLiteral s = true ↔
      ∃ a b c d : Nat, a ≤ 255 ∧ b ≤ 255 ∧ c ≤ 255 ∧ d ≤ 255 ∧ s = s!"{a}.{b}.{c}.{d}" := by
  rw [isLiteral, Bool.and_eq_true, decide_eq_true_eq, List.all_eq_true]
  constructor
  · rintro ⟨hlength, hoctets⟩
    obtain ⟨w, x, y, z, hsplit⟩ := List.length_eq_four.mp hlength
    rw [hsplit] at hoctets
    simp only [List.forall_mem_cons, isOctet_iff] at hoctets
    obtain ⟨⟨a, ha, rfl⟩, ⟨b, hb, rfl⟩, ⟨c, hc, rfl⟩, ⟨d, hd, rfl⟩, -⟩ := hoctets
    refine ⟨a, b, c, d, ha, hb, hc, hd, String.toList_inj.mp ?_⟩
    -- the parts are put together again as they were split
    rw [toList_dotted, ← hsplit, List.intercalate_splitOn]
  · rintro ⟨a, b, c, d, ha, hb, hc, hd, rfl⟩
    have hpoint (n : Nat) : '.' ∉ Nat.toDigits 10 n := fun h =>
      absurd (Nat.isDigit_of_mem_toDigits (by decide) (by decide) h) (by decide)
    rw [toList_dotted, List.splitOn_intercalate _ (by simp [hpoint]) (by simp)]
    refine ⟨rfl, ?_⟩
    simp only [List.forall_mem_cons, isOctet_iff]
    exact ⟨⟨a, ha, rfl⟩, ⟨b, hb, rfl⟩, ⟨c, hc, rfl⟩, ⟨d, hd, rfl⟩, List.forall_mem_nil _⟩

end Ipv4

end VparFleet
