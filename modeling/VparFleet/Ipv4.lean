import VparFleet.Text.Decimal

/-!
# IPv4 literals

An address is four decimal octets between points. An octet has one to three digits, no leading
zero and a value of 255 at most.
-/

namespace VparFleet.Ipv4

/-- Whether a text is one octet in canonical form. -/
def isOctet (cs : List Char) : Bool :=
  cs.length ≤ 3
    && (cs.length = 1 || cs.head? ≠ some '0')
    && cs.all Char.isDigit
    && (Text.Decimal.read? 256 cs).isSome

/-- Whether a text is a dotted-quad address. -/
def isLiteral (s : String) : Bool :=
  let octets := s.toList.splitOn '.'
  octets.length = 4 && octets.all isOctet

example : isLiteral "10.0.0.255" = true := by decide +kernel
example : isLiteral "10.0.0.256" = false ∧ isLiteral "10.0.00.1" = false := by decide +kernel

end VparFleet.Ipv4
