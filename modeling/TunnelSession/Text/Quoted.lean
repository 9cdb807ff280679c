import TunnelSession.Text.Hidden

/-!
A text in double quotes, on one line whatever it holds: a quote and a backslash get a backslash in
front, and every hidden code point is written as an escape. `unquote` undoes `quote`.
-/
namespace TunnelSession.Text

def hexDigits (n : Nat) : List Char := Nat.toDigits 16 n

def escape (c : Char) : List Char :=
  if c = '"' then ['\\', '"']
  else if c = '\\' then ['\\', '\\']
  else if c = '\n' then ['\\', 'n']
  else if c = '\r' then ['\\', 'r']
  else if c = '\t' then ['\\', 't']
  else if c = '\x00' then ['\\', '0']
  else if isHidden c then ['\\', 'u', '\x7b'] ++ hexDigits c.toNat ++ ['\x7d']
  else [c]

def quote (s : String) : String :=
  String.ofList (['"'] ++ s.toList.flatMap escape ++ ['"'])

def hexValue? (c : Char) : Option Nat :=
  if '0' ≤ c ∧ c ≤ '9' then some (c.toNat - '0'.toNat)
  else if 'a' ≤ c ∧ c ≤ 'f' then some (c.toNat - 'a'.toNat + 10)
  else if 'A' ≤ c ∧ c ≤ 'F' then some (c.toNat - 'A'.toNat + 10)
  else none

/-- The number written by hexadecimal digits, read on top of `n`. -/
def hexOver? (n : Nat) (cs : List Char) : Option Nat :=
  cs.foldlM (fun n c => (hexValue? c).map (16 * n + ·)) n

/-- The characters between a pair of quotes, read up to the closing one. Inside a numbered escape
`number` holds the digits read so far. -/
def unescape : Option Nat → List Char → Option (List Char)
  | some n, '\x7d' :: cs => (unescape none cs).map (Char.ofNat n :: ·)
  | some n, c :: cs => (hexValue? c).bind fun d => unescape (some (16 * n + d)) cs
  | none, ['"'] => some []
  | none, '\\' :: 'u' :: '\x7b' :: cs => unescape (some 0) cs
  | none, '\\' :: '"' :: cs => (unescape none cs).map ('"' :: ·)
  | none, '\\' :: '\\' :: cs => (unescape none cs).map ('\\' :: ·)
  | none, '\\' :: 'n' :: cs => (unescape none cs).map ('\n' :: ·)
  | none, '\\' :: 'r' :: cs => (unescape none cs).map ('\r' :: ·)
  | none, '\\' :: 't' :: cs => (unescape none cs).map ('\t' :: ·)
  | none, '\\' :: '0' :: cs => (unescape none cs).map ('\x00' :: ·)
  | none, c :: cs => if c = '\\' ∨ c = '"' then none else (unescape none cs).map (c :: ·)
  | _, [] => none

def unquote? (s : String) : Option String :=
  match s.toList with
  | '"' :: cs => (unescape none cs).map String.ofList
  | _ => none

end TunnelSession.Text
