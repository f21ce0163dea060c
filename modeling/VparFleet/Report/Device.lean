import VparFleet.Text.Blank
import VparFleet.Text.Find

/-!
# Devices of a partition

A detailed status report lists one token per device. The token of a network card looks like
`network:avio_lan:0,1,0x7e6b5a43e9e4:vswitch:sitelan:portid:3`: the third colon field holds bus,
device and hardware address between commas.
-/

namespace VparFleet.Report

/-- Whether a character is a hexadecimal digit. -/
def isHexDigit (c : Char) : Bool :=
  c.isDigit || ('a' ≤ c && c ≤ 'f') || ('A' ≤ c && c ≤ 'F')

/-- Brings a hardware address into its normal form, `0x` and upper-case digits. -/
def normalMac? : List Char → Option String
  | '0' :: x :: digits =>
    if (x = 'x' || x = 'X') && !digits.isEmpty && digits.all isHexDigit then
      some ("0x" ++ String.ofList (digits.map Char.toUpper))
    else none
  | _ => none

/-- The hardware address in a device token. -/
def tokenMac? (token : List Char) : Option String := do
  let address ← (token.splitOn ':')[2]?
  let mac ← (address.splitOn ',')[2]?
  normalMac? mac

/-- The hardware address of the network card on the management network: that of the first device
token which mentions the network and has one. -/
def managementMac? (text : List Char) (network : String) : Option String :=
  let mentions := Text.occurs network.toList
  let tokens := ((Text.lines text).filter mentions).flatMap Text.words
  (tokens.filter mentions).findSome? tokenMac?

end VparFleet.Report
