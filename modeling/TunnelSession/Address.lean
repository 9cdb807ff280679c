import TunnelSession.Text.Split
import TunnelSession.Text.Numeral

/-!
IPv4 addresses as dotted quads, and routes in CIDR notation. An address has one text: four
decimal octets with no sign, space or leading zero.
-/
namespace TunnelSession

structure Address where
  first : UInt8
  second : UInt8
  third : UInt8
  fourth : UInt8
  deriving DecidableEq, Repr, Inhabited

namespace Address

def text (a : Address) : String :=
  toString a.first.toNat ++ "." ++ toString a.second.toNat ++ "." ++
    toString a.third.toNat ++ "." ++ toString a.fourth.toNat

/-- The address as one number, its first octet the most significant. -/
def toNat (a : Address) : Nat :=
  ((a.first.toNat * 256 + a.second.toNat) * 256 + a.third.toNat) * 256 + a.fourth.toNat

/-- One octet: at most three digits, none of them a leading zero, and no more than 255. -/
def octet? (cs : List Char) : Option UInt8 :=
  if cs.length > 3 ∨ (cs.length > 1 ∧ cs.head? = some '0') then none
  else ((Text.digits? cs).filter (· < 256)).map UInt8.ofNat

def ofChars? (cs : List Char) : Option Address :=
  match Text.pieces '.' cs with
  | [a, b, c, d] => do
    return ⟨← octet? a, ← octet? b, ← octet? c, ← octet? d⟩
  | _ => none

def parse? (s : String) : Option Address :=
  ofChars? s.toList

def unspecified : Address := ⟨0, 0, 0, 0⟩

end Address

/-- A network: the address it starts from and the length of its common part in bits. -/
structure Route where
  address : Address
  length : Nat
  deriving DecidableEq, Repr

namespace Route

/-- The route that covers all traffic. -/
def default : Route := ⟨.unspecified, 0⟩

def text (r : Route) : String :=
  r.address.text ++ "/" ++ toString r.length

end Route

end TunnelSession
