/-!
Decimal numerals, as people type them: digits, with a plus sign or without, for numbers that fit
into 64 bits. Rows and entries of a list are counted from one.
-/
namespace TunnelSession.Text

def digit? (c : Char) : Option Nat :=
  if '0' ≤ c ∧ c ≤ '9' then some (c.toNat - '0'.toNat) else none

/-- The number that a row of digits writes; none when there is another character, or no digit. -/
def digits? : List Char → Option Nat
  | [] => none
  | cs => cs.foldlM (fun n c => (digit? c).map (10 * n + ·)) 0

/-- A number that fits into 64 bits, with or without a plus sign. -/
def numeral? (cs : List Char) : Option Nat :=
  let ds := match cs with
    | '+' :: rest => rest
    | _ => cs
  (digits? ds).filter (· < UInt64.size)

/-- The position that a numeral names in a list counted from one. -/
def position? (cs : List Char) : Option Nat :=
  match numeral? cs with
  | some (n + 1) => some n
  | _ => none

/-- Two digits at least, with a zero in front where needed. -/
def twoDigits (n : Nat) : String :=
  if n < 10 then "0" ++ toString n else toString n

end TunnelSession.Text
