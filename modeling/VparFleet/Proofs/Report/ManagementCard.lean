import VparFleet.Proofs.Report.PrintedDevices

/-!
# The card on the management network

The hardware address of a partition is looked up by the name of the management network, which is a
virtual switch. What is found is the first card whose token mentions that name anywhere: in its
switch, in a longer name of another switch, or in one of the other fields. So the answer is that of
a card on the network only if no card before it mentions the name.

* `ReportWord`: the words of a report, of which some are device tokens.
* `managementMac?_eq_findSome?`: only the words that mention the network matter.
* `mac_of_first_mention`: the card whose address is found.
* `not_always_attached`: a card on another network is taken for the one on the management network.
-/

namespace VparFleet.Report

open Text

/-- A word of a detailed status report. -/
inductive ReportWord where
  | device (device : Device)
  /-- A word that is no device token. -/
  | other (chars : List Char) (h : ¬DeviceLike chars)

namespace ReportWord

/-- The word as it is printed. -/
def chars : ReportWord → List Char
  | .device token => token.text
  | .other chars _ => chars

/-- The card that a word stands for. -/
def card? : ReportWord → Option Card
  | .device token => token.card?
  | .other _ _ => none

/-- Only the token of a card has a hardware address. -/
theorem tokenMac?_chars (word : ReportWord) : tokenMac? word.chars = word.card?.map Card.mac := by
  cases word with
  | device device => exact device.tokenMac?_text
  | other chars h =>
    refine Option.eq_none_iff_forall_ne_some.mpr fun mac hmac => ?_
    exact h (deviceLike_of_tokenMac? hmac)

theorem chars_of_card? {word : ReportWord} {card : Card} (h : word.card? = some card) :
    word.chars = card.text := by
  match word, h with
  | .device (.card nic), h => rw [← Option.some.inj h]; rfl

end ReportWord

/-- A word without commas is no device token. -/
theorem not_deviceLike_of_notMem {chars : List Char} (h : ',' ∉ chars) : ¬DeviceLike chars := by
  rintro ⟨kind, driver, bus, device, rest, -, -, -, -, rfl⟩
  simp at h

/-- Whether the token of a card mentions a name. -/
def Card.mentions (card : Card) (name : String) : Bool :=
  occurs name.toList card.text

/-- The cards of a report, in order. -/
def cards (report : List ReportWord) : List Card :=
  report.filterMap ReportWord.card?

variable {text : List Char} {report : List ReportWord} {network : String}

/-- A word that mentions the network is on a line that mentions it, so the choice of lines does not
matter. -/
theorem managementMac?_eq_findSome? (text : List Char) (network : String) :
    managementMac? text network
      = ((words text).filter (occurs network.toList)).findSome? tokenMac? := by
  rw [managementMac?, ← flatMap_words_lines]
  congr 1
  induction lines text with
  | nil => rfl
  | cons line rest ih =>
    rw [List.flatMap_cons, List.filter_append, ← ih]
    by_cases hline : occurs network.toList line = true
    · rw [List.filter_cons_of_pos hline, List.flatMap_cons, List.filter_append]
    · -- a word is a part of its line, so a line without the name has no word with it
      have hnone : (words line).filter (occurs network.toList) = [] := by
        refine List.filter_eq_nil_iff.mpr fun word hword hmentions => hline ?_
        rw [occurs_iff] at hmentions ⊢
        exact hmentions.trans (infix_of_mem_words hword)
      rw [List.filter_cons_of_neg hline, hnone, List.nil_append]

/-- The cards in the words of a report are found in order. -/
theorem findSome?_tokenMac? (report : List ReportWord) (network : String) :
    ((report.map ReportWord.chars).filter (occurs network.toList)).findSome? tokenMac?
      = ((cards report).find? (·.mentions network)).map Card.mac := by
  induction report with
  | nil => rfl
  | cons word report ih =>
    rw [List.map_cons, List.filter_cons]
    -- a word that is no card has no address, so it may mention what it likes
    cases hcard : word.card? with
    | none =>
      have hcards : cards (word :: report) = cards report := List.filterMap_cons_none hcard
      rw [apply_ite (List.findSome? tokenMac?), List.findSome?_cons, ReportWord.tokenMac?_chars,
        hcard, hcards]
      exact (ite_self _).trans ih
    | some card =>
      have hcards : cards (word :: report) = card :: cards report := List.filterMap_cons_some hcard
      have hchars : word.chars = card.text := ReportWord.chars_of_card? hcard
      have hword : occurs network.toList word.chars = card.mentions network := by
        rw [hchars, Card.mentions]
      rw [hcards, hword, List.find?_cons]
      by_cases hmentions : card.mentions network = true
      · rw [if_pos hmentions, List.findSome?_cons, ReportWord.tokenMac?_chars, hcard, hmentions]
        rfl
      · rw [if_neg hmentions, ih, Bool.eq_false_iff.mpr hmentions]

/-- A card on a network mentions it. -/
theorem Card.mentions_of_switch {card : Card} (h : card.switch = network) :
    card.mentions network = true := by
  have hpart : card.switch.toList <:+: card.text := by
    -- four fields come before the switch
    iterate 4 refine infix_of_infix_after ?_
    exact (List.prefix_append _ _).isInfix
  exact occurs_iff.mpr (h ▸ hpart)

/-- What is found is the hardware address of the first card that mentions the network. If that card
is attached to it, it is the first one that is. -/
theorem mac_of_first_mention (h : words text = report.map ReportWord.chars) (network : String) :
    managementMac? text network = ((cards report).find? (·.mentions network)).map Card.mac ∧
      ((∀ card, (cards report).find? (·.mentions network) = some card → card.switch = network) →
        managementMac? text network
          = ((cards report).find? (·.switch = network)).map Card.mac) := by
  have hfirst : managementMac? text network
      = ((cards report).find? (·.mentions network)).map Card.mac := by
    rw [managementMac?_eq_findSome?, h, findSome?_tokenMac?]
  refine ⟨hfirst, fun hattached => hfirst.trans (congrArg _ ?_)⟩
  cases hfind : (cards report).find? (·.mentions network) with
  | none =>
    refine (List.find?_eq_none.mpr fun card hcard hswitch => ?_).symm
    refine List.find?_eq_none.mp hfind card hcard (Card.mentions_of_switch ?_)
    exact of_decide_eq_true hswitch
  | some card =>
    -- none of the cards before it mentions the network, so none is attached to it
    obtain ⟨-, before, after, hsplit, hbefore⟩ := List.find?_eq_some_iff_append.mp hfind
    refine (List.find?_eq_some_iff_append.mpr ⟨?_, before, after, hsplit, ?_⟩).symm
    · exact decide_eq_true (hattached card hfind)
    · intro other hother
      have hsilent : other.mentions network = false := by simpa using hbefore other hother
      have hswitch : other.switch ≠ network := fun heq => by
        rw [Card.mentions_of_switch heq] at hsilent
        exact nomatch hsilent
      simpa using hswitch

/-- A partition with a disk and two cards, as it was set up. -/
def sampleReport : List ReportWord :=
  [.other "[IO".toList (not_deviceLike_of_notMem (by decide)),
    .other "Details]".toList (not_deviceLike_of_notMem (by decide)),
    .device <| .disk
      { bus := zeroField, device := zeroField, target := ['0']
        target_digits := isDigit_zero, path := "/dev/vg00/rlv-w1"
        path_solid := solid_of_all rfl },
    .device (.card (sampleCard "7e6b5a43e9e4" "localnet" (by decide))),
    .device (.card (sampleCard "ce83c51a1a12" "sitelan" (by decide)))]

/-- The report as a node prints it. -/
def sampleText : List Char :=
  ("[IO Details]\r\ndisk:avio_stor:0,0,0:lv:/dev/vg00/rlv-w1\r\n" ++
    "network:avio_lan:0,1,0x7e6b5a43e9e4:vswitch:localnet:portid:3\r\n" ++
    "network:avio_lan:0,1,0xce83c51a1a12:vswitch:sitelan:portid:3\r\n").toList

/-- No card before the one on the network mentions it. -/
theorem mac_of_first_mention_sample :
    managementMac? sampleText "sitelan" = some "0xCE83C51A1A12" := by
  have hwords : words sampleText = sampleReport.map ReportWord.chars := by decide +kernel
  have hattached := (mac_of_first_mention hwords "sitelan").2 (by decide +kernel)
  exact hattached.trans (by decide +kernel)

/-- The cards of a partition where the name of another switch holds that of the management
network. -/
def neighbourReport : List ReportWord :=
  [.device (.card (sampleCard "111111111111" "sitelan2" (by decide))),
    .device (.card (sampleCard "7e6b5a43e9e4" "sitelan" (by decide)))]

/-- The card on the other switch is taken for the one on the management network. -/
theorem not_always_attached :
    let text := ("network:avio_lan:0,1,0x111111111111:vswitch:sitelan2:portid:3\r\n" ++
      "network:avio_lan:0,1,0x7e6b5a43e9e4:vswitch:sitelan:portid:3\r\n").toList
    words text = neighbourReport.map ReportWord.chars ∧
      managementMac? text "sitelan" = some "0x111111111111" ∧
      ((cards neighbourReport).find? (·.switch = "sitelan")).map Card.mac
        = some "0x7E6B5A43E9E4" := by
  decide +kernel

end VparFleet.Report
