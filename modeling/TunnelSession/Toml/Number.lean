import TunnelSession.Text.Numeral
import TunnelSession.Text.Quoted

/-!
TOML numbers. Integers are decimal, with a sign or without, or have a prefix for their base, and fit
into 64 bits. Underscores may stand between digits. A positive float must not be so large that it
rounds to infinity, unless it is written as infinity.
-/
namespace TunnelSession.Toml

/-- Digits without the single underscores that stand between them; one digit at least. -/
def plainDigits? (isDigit : Char → Bool) : List Char → Option (List Char)
  | [] => none
  | [c] => if isDigit c then some [c] else none
  | c :: '_' :: cs => if isDigit c then (plainDigits? isDigit cs).map (c :: ·) else none
  | c :: cs => if isDigit c then (plainDigits? isDigit cs).map (c :: ·) else none

/-- What digits of a base write; none where one of them is too large for it. -/
def inBase? (base : Nat) (cs : List Char) : Option Nat := do
  let isDigit (c : Char) : Bool := (Text.hexValue? c).any (· < base)
  let ds ← plainDigits? isDigit cs
  return ds.foldl (fun n c => base * n + (Text.hexValue? c).getD 0) 0

/-- A decimal numeral without a leading zero. -/
def whole? (cs : List Char) : Option Nat :=
  if cs.length > 1 ∧ cs.head? = some '0' then none else inBase? 10 cs

/-- Whether a minus stands in front, and what follows the sign. -/
def sign : List Char → Bool × List Char
  | '-' :: cs => (true, cs)
  | '+' :: cs => (false, cs)
  | cs => (false, cs)

def signed (negative : Bool) (n : Nat) : Int :=
  if negative then -n else n

def anyInteger? : List Char → Option Int
  | '0' :: 'x' :: cs => (inBase? 16 cs).map Int.ofNat
  | '0' :: 'o' :: cs => (inBase? 8 cs).map Int.ofNat
  | '0' :: 'b' :: cs => (inBase? 2 cs).map Int.ofNat
  | cs =>
    let (negative, cs) := sign cs
    (whole? cs).map (signed negative)

def integer? (cs : List Char) : Option Int :=
  (anyInteger? cs).filter fun n => Int64.minValue.toInt ≤ n ∧ n ≤ Int64.maxValue.toInt

/-- The least number that rounds to infinity in double precision. -/
def infinite : Nat := Nat.pow 2 1024 - Nat.pow 2 970

/-- Whether `m` times ten to the power of `e` is too large for a finite float. A number of fewer
places than its power takes away is less than one, and three hundred and ten places are too many. -/
def overflows (places m : Nat) : Int → Bool
  | .ofNat e => if m = 0 then false else if e > 310 then true else m * Nat.pow 10 e ≥ infinite
  | .negSucc e => if e ≥ places then false else m ≥ infinite * Nat.pow 10 (e + 1)

/-- What stands after the decimal point, if there is one. -/
def fraction? : List Char → Option (List Char)
  | [] => some []
  | _ :: cs => plainDigits? Char.isDigit cs

def exponent? : List Char → Option Int
  | [] => some 0
  | _ :: cs =>
    let (negative, cs) := sign cs
    (inBase? 10 cs).map (signed negative)

/-- Whether a numeral with a fraction, an exponent or both is one of a float. -/
def isFloat (cs : List Char) : Bool :=
  let (negative, cs) := sign cs
  if cs = ['i', 'n', 'f'] ∨ cs = ['n', 'a', 'n'] then true
  else
    let (mantissa, power) := cs.span fun c => c != 'e' && c != 'E'
    let (whole, part) := mantissa.span (· != '.')
    match whole? whole, fraction? part, exponent? power with
    | some n, some f, some e =>
      let m := f.foldl (fun n c => 10 * n + (Text.hexValue? c).getD 0) n
      (part ≠ [] ∨ power ≠ []) ∧ (negative ∨ !overflows cs.length m (e - f.length))
    | _, _, _ => false

end TunnelSession.Toml
