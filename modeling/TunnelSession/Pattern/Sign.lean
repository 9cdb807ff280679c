import TunnelSession.Pattern.Modes
import TunnelSession.Text.Quoted

/-!
The signs of a pattern that stand for one character, for one of a set, or for a place in a text.
Sets that depend on tables of characters are not to be had, nor is the case of characters: where
they are needed, only bytes will do, and of bytes only those that are characters of their own.
-/
namespace TunnelSession.Pattern

/-- `byte` is named by two digits, and is a byte where bytes are matched. `shorthand` is a set of
digits, blanks or letters, `edge` a place at an end, and `border` one at the end of a word. -/
inductive Sign where
  | char (c : Char)
  | byte (c : Char)
  | shorthand (negated : Bool)
  | edge
  | border
  deriving DecidableEq, Repr

def isAscii (c : Char) : Bool := c.toNat < 0x80

namespace Sign

/-- Whether a sign can stand on its own. -/
def isUsable (m : Modes) : Sign → Bool
  | .char _ => m.bytes || !m.caseless
  | .byte c => if m.bytes then isAscii c else !m.caseless
  | .shorthand negated => m.bytes && !negated
  | .edge => true
  | .border => m.bytes

def char? : Sign → Option Char
  | .char c | .byte c => some c
  | _ => none

/-- Whether a sign can stand in a set. -/
def isMember (m : Modes) : Sign → Bool
  | .char c | .byte c => if m.bytes then isAscii c else !m.caseless
  | .shorthand negated => m.bytes && !negated
  | _ => false

/-- Hexadecimal digits, as many as asked for, read on top of `value`. -/
def hex? (m : Modes) : (count value : Nat) → List Char → Option (Nat × List Char)
  | 0, value, cs => some (value, cs)
  | count + 1, value, cs =>
    match m.skip cs with
    | [] => none
    | c :: cs => (Text.hexValue? c).bind fun d => hex? m count (16 * value + d) cs

def character? (n : Nat) : Option Char :=
  if h : n.isValidChar then some (Char.ofNatAux n h) else none

/-- What follows a backslash. Any other sign of ASCII is itself, but a letter, a digit or an angle
has a meaning of its own or none. -/
def escape? (m : Modes) : List Char → Option (Sign × List Char)
  | 'x' :: cs => do
    let (n, cs) ← hex? m 2 0 cs
    return (.byte (← character? n), cs)
  | 'u' :: cs => do
    let (n, cs) ← hex? m 4 0 cs
    return (.char (← character? n), cs)
  | 'U' :: cs => do
    let (n, cs) ← hex? m 8 0 cs
    return (.char (← character? n), cs)
  | c :: cs => (named? c).map (·, cs)
  | [] => none
where
  named? (c : Char) : Option Sign :=
    if isAscii c && !c.isAlphanum && c != '<' && c != '>' then some (.char c)
    else
      match c with
      | 'a' => some (.char '\x07')
      | 't' => some (.char '\t')
      | 'n' => some (.char '\n')
      | 'v' => some (.char '\x0b')
      | 'f' => some (.char '\x0c')
      | 'r' => some (.char '\r')
      | 'd' | 's' | 'w' => some (.shorthand false)
      | 'D' | 'S' | 'W' => some (.shorthand true)
      | 'A' | 'z' => some .edge
      | 'b' | 'B' | '<' | '>' => some .border
      | _ => none

end Sign

end TunnelSession.Pattern
