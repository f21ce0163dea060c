import Mathlib.Data.List.Basic
import Mathlib.Data.List.Forall2
import VparFleet.Command
import VparFleet.Proofs.Shell.Alphabets

/-!
# Line templates

A line for a host is a template whose slots are filled in. What a slot admits is harmless wherever a
shell reads it, but for the name of an image, which is harmless only between single quotes.

* `Slot.Admits`: what may be written into a slot.
* `Slot.isPlain_of_admits`: all slots but one admit nothing that means anything to a shell.
* `Template.Fills`: the lines of a template.
* `Template.Fills.quoted`: the lines of a template as one word.
* `Template.QuotesImages`: images stand in words that are quoted as a whole.
-/

namespace VparFleet

/-! ## Slots -/

/-- The kinds of texts that are written into lines. -/
inductive Slot where
  /-- The name of a partition. -/
  | name
  /-- The name of a workload. -/
  | workload
  /-- A hardware address. -/
  | mac
  /-- An IPv4 address or mask. -/
  | address
  | number
  /-- The name of an install image. -/
  | image
  deriving DecidableEq

/-- Whether a character is a hexadecimal digit, in upper case if it is a letter. -/
def isUpperHexDigit (c : Char) : Bool :=
  c.isDigit || ('A' ≤ c && c ≤ 'F')

/-- What may be written into a slot. -/
def Slot.Admits : Slot → String → Prop
  | name, value => value.toList ≠ [] ∧ ∀ c ∈ value.toList, IsPlain c
  | workload, value => value.toList ≠ [] ∧ ∀ c ∈ value.toList, IsPlain c
  | mac, value => ∃ digits : List Char, digits ≠ [] ∧ digits.all isUpperHexDigit = true ∧
      value = "0x" ++ String.ofList digits
  | address, value =>
    ∃ a b c d : Nat, a ≤ 255 ∧ b ≤ 255 ∧ c ≤ 255 ∧ d ≤ 255 ∧ value = s!"{a}.{b}.{c}.{d}"
  | number, value => ∃ n : Nat, value = toString n
  | image, value =>
    (∃ c ∈ value.toList, Text.isBlank c = false) ∧ ∀ c ∈ value.toList, IsTame c

theorem isPlain_of_isDigit {c : Char} (h : c.isDigit = true) : IsPlain c :=
  isNameChar_iff.mp (by simp [isNameChar, Char.isAlphanum, h])

/-- Hexadecimal digits in upper case are plain. -/
theorem isPlain_of_isUpperHexDigit {c : Char} (h : isUpperHexDigit c = true) : IsPlain c := by
  rcases Bool.or_eq_true_iff.mp h with hdigit | hletter
  · exact isPlain_of_isDigit hdigit
  · obtain ⟨hA, hF⟩ : 'A' ≤ c ∧ c ≤ 'F' := by simpa using hletter
    exact Or.inl ⟨hA, Char.le_trans hF (by decide)⟩

namespace Slot

variable {kind : Slot} {value : String}

/-- What is written into a slot is no quote, blank or anything else that a shell takes for more than
a character, unless it is the name of an image. -/
theorem isPlain_of_admits (h : kind.Admits value) (hkind : kind ≠ .image) :
    ∀ c ∈ value.toList, IsPlain c := by
  have hnumber (n : Nat) : ∀ c ∈ Nat.toDigits 10 n, IsPlain c := fun c hc =>
    isPlain_of_isDigit (Nat.isDigit_of_mem_toDigits (by decide) (by decide) hc)
  cases kind with
  | name => exact h.2
  | workload => exact h.2
  | mac =>
    obtain ⟨digits, -, hdigits, rfl⟩ := h
    -- the mark `0x` and the digits after it
    have hmark : ∀ c ∈ "0x".toList, IsPlain c := by simp [← isNameChar_iff, isNameChar]
    rw [String.toList_append, List.forall_mem_append]
    refine ⟨hmark, fun c hc => ?_⟩
    rw [String.toList_ofList] at hc
    exact isPlain_of_isUpperHexDigit (List.all_eq_true.mp hdigits c hc)
  | address =>
    obtain ⟨a, b, c, d, -, -, -, -, rfl⟩ := h
    -- four numbers, and the points between them
    have hpoint : IsPlain '.' := isNameChar_iff.mp rfl
    rw [Ipv4.toList_dotted]
    simp only [List.intercalate_cons_cons, List.intercalate_singleton, List.forall_mem_append,
      List.forall_mem_singleton]
    exact ⟨⟨hnumber a, hpoint⟩, ⟨hnumber b, hpoint⟩, ⟨hnumber c, hpoint⟩, hnumber d⟩
  | number =>
    obtain ⟨n, rfl⟩ := h
    rw [show toString n = n.repr from rfl, Nat.toList_repr]
    exact hnumber n
  | image => exact absurd rfl hkind

/-- No slot admits a single quote. -/
theorem ne_quote_of_admits (h : kind.Admits value) : ∀ c ∈ value.toList, c ≠ '\'' := by
  rintro _ hc rfl
  -- an image has no quote either, though it may have other characters
  by_cases hkind : kind = .image
  · subst hkind
    exact (h.2 '\'' hc).single rfl
  · exact absurd (isNameChar_iff.mpr (isPlain_of_admits h hkind '\'' hc)) (by decide)

end Slot

/-! ## Templates -/

/-- A part of a template. -/
inductive Piece where
  /-- A fixed text. -/
  | text (text : String)
  /-- A place for other texts. -/
  | slot (kind : Slot)
  deriving DecidableEq

/-- Fixed texts and slots, one after the other. -/
abbrev Template := List Piece

namespace Template

/-- The lines of a template: every slot holds something that it admits. -/
inductive Fills : Template → String → Prop where
  | nil : Fills [] ""
  | text {t : Template} {line : String} (text : String) (h : Fills t line) :
    Fills (.text text :: t) (text ++ line)
  | slot {t : Template} {line value : String} {kind : Slot} (hv : kind.Admits value)
      (h : Fills t line) : Fills (.slot kind :: t) (value ++ line)

variable {t t' : Template} {line line' value : String} {kind : Slot}

theorem fills_text (text : String) : Fills [.text text] text := by
  have h := Fills.nil.text text
  rwa [String.append_empty] at h

theorem fills_slot (h : kind.Admits value) : Fills [.slot kind] value := by
  have hfill := Fills.nil.slot h
  rwa [String.append_empty] at hfill

theorem fills_number (n : Nat) : Fills [.slot .number] (toString n) := by
  have h : Slot.number.Admits (toString n) := ⟨n, rfl⟩
  exact fills_slot h

theorem Fills.of_text {text : String} (h : Fills (.text text :: t) line) :
    ∃ rest, line = text ++ rest ∧ Fills t rest := by
  cases h with
  | text _ h => exact ⟨_, rfl, h⟩

/-- Lines of templates in a row are lines of the templates in a row. -/
theorem Fills.append (h : Fills t line) (h' : Fills t' line') :
    Fills (t ++ t') (line ++ line') := by
  induction h with
  | nil => simpa using h'
  | text text _ ih =>
    rw [String.append_assoc]
    exact ih.text text
  | slot hv _ ih =>
    rw [String.append_assoc]
    exact ih.slot hv

/-- One slot between fixed texts. -/
theorem fills_around (before after : String) (h : kind.Admits value) :
    Fills [.text before, .slot kind, .text after] (before ++ value ++ after) :=
  ((fills_text before).append (fills_slot h)).append (fills_text after)

/-- Lines with a separator. -/
theorem fills_intercalate (sep : String) {ts : List Template} {lines : List String}
    (h : List.Forall₂ Fills ts lines) :
    Fills (List.intercalate [.text sep] ts) (sep.intercalate lines) := by
  induction h with
  | nil => exact .nil
  | @cons t line ts lines ht hrest ih =>
    cases hrest with
    | nil => simpa [List.intercalate] using ht
    | cons hnext hrest =>
      rw [List.intercalate_cons_cons, String.intercalate_cons_cons]
      exact (ht.append (fills_text sep)).append ih

/-! ## Quoting -/

/-- A text as it stands between single quotes. -/
def quoteText (text : String) : String :=
  String.ofList (text.toList.flatMap Command.quoteChar)

theorem quoteText_append (text text' : String) :
    quoteText (text ++ text') = quoteText text ++ quoteText text' := by
  rw [quoteText, String.toList_append, List.flatMap_append, String.ofList_append]
  rfl

/-- A text without single quotes stays as it is. -/
theorem quoteText_eq_self {text : String} (h : ∀ c ∈ text.toList, c ≠ '\'') :
    quoteText text = text := by
  have hchars : text.toList.flatMap Command.quoteChar = text.toList.flatMap ([·]) :=
    List.flatMap_congr fun c hc => if_neg (h c hc)
  rw [quoteText, hchars, List.flatMap_singleton', String.ofList_toList]

/-- A piece of a template as it stands between single quotes. -/
def quotePiece : Piece → Piece
  | .text text => .text (quoteText text)
  | .slot kind => .slot kind

/-- A template as one word of the shell. -/
def quoted (t : Template) : Template :=
  .text "'" :: t.map quotePiece ++ [.text "'"]

/-- A line of a template fills the template of its quoted word. -/
theorem Fills.quoted (h : Fills t line) : Fills t.quoted (Command.singleQuote line) := by
  -- what fills a slot has no quote, so it is the same between quotes
  have hpieces : Fills (t.map quotePiece) (quoteText line) := by
    induction h with
    | nil => exact .nil
    | text text _ ih =>
      rw [quoteText_append]
      exact ih.text _
    | slot hv _ ih =>
      rw [quoteText_append, quoteText_eq_self (Slot.ne_quote_of_admits hv)]
      exact ih.slot hv
  have hword : Command.singleQuote line = "'" ++ quoteText line ++ "'" := by
    rw [Command.singleQuote, String.ofList_append, String.ofList_cons]
    rfl
  rw [hword]
  exact ((fills_text "'").append hpieces).append (fills_text "'")

/-! ## Images -/

/-- A text stands in one word of a line that is quoted as a whole: nothing before the word is quoted
or escaped, and there are no single quotes in the word but the first and the last character. -/
def InQuotedWord (before value after : String) : Prop :=
  ∃ head opening closing tail, before = head ++ " '" ++ opening ∧ after = closing ++ "' " ++ tail ∧
    (∀ c ∈ head.toList, c ≠ '\'' ∧ c ≠ '"' ∧ c ≠ '\\') ∧
    ∀ c ∈ (opening ++ value ++ closing).toList, c ≠ '\''

/-- In all lines of a template the names of images stand in words that are quoted as a whole. -/
def QuotesImages (t : Template) : Prop :=
  ∀ before after, t = before ++ .slot .image :: after → ∀ first image last, Fills before first →
    Slot.image.Admits image → Fills after last → InQuotedWord first image last

theorem quotesImages_of_notMem (h : .slot .image ∉ t) : QuotesImages t := by
  rintro before after rfl
  exact absurd (by simp) h

/-- A line that begins with an image in the first word that is printed, and has no other one. -/
theorem quotesImages_echo {opening closing : String} (ho : ∀ c ∈ opening.toList, c ≠ '\'')
    (hc : ∀ c ∈ closing.toList, c ≠ '\'') (ht : .slot .image ∉ t) :
    QuotesImages ([.text "echo ", .text "'", .text opening, .slot .image, .text closing, .text "'",
      .text " >> "] ++ t) := by
  intro before after hsplit first image last hfirst himage hlast
  have hpieces : [.text "echo ", .text "'", .text opening] ++ Piece.slot .image ::
      ([.text closing, .text "'", .text " >> "] ++ t) = before ++ .slot .image :: after := hsplit
  -- there is one image, so what is before it and after it is known
  obtain ⟨rfl, -, rfl⟩ := (List.append_cons_inj_of_notMem (by simp) (by simpa using ht)).mp hpieces
  -- what is before the image: the command, the quote, and the text that opens
  obtain ⟨word, rfl, hword⟩ := hfirst.of_text
  obtain ⟨inside, rfl, hinside⟩ := hword.of_text
  obtain ⟨none, rfl, hnone⟩ := hinside.of_text
  cases hnone
  -- what is after it: the text that closes, the quote, and the redirection
  obtain ⟨quote, rfl, hquote⟩ := hlast.of_text
  obtain ⟨redirection, rfl, hredirection⟩ := hquote.of_text
  obtain ⟨tail, rfl, -⟩ := hredirection.of_text
  refine ⟨"echo", opening, closing, ">> " ++ tail, ?_, ?_, by simp, ?_⟩
  · rw [String.append_empty, ← String.append_assoc]
    rfl
  · rw [show " >> " = " " ++ ">> " from rfl, show "' " = "'" ++ " " from rfl]
    simp only [String.append_assoc]
  · simp only [String.toList_append, List.forall_mem_append]
    exact ⟨⟨ho, Slot.ne_quote_of_admits himage⟩, hc⟩

end Template

end VparFleet
