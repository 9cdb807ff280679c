import TunnelSession.Text.Blank
import TunnelSession.Text.Split

/-!
Modes of reading a pattern, which letters in the pattern switch on and, after a minus sign, off.
Further letters change what a pattern matches, but not whether it is one.
-/
namespace TunnelSession.Pattern

/-- `caseless` sets the case of letters aside, `bytes` matches bytes in place of characters, and
`verbose` passes over blanks and comments. -/
structure Modes where
  caseless : Bool := false
  bytes : Bool := false
  verbose : Bool := false
  deriving DecidableEq, Repr

namespace Modes

def letters : List Char := ['i', 'm', 's', 'U', 'u', 'R', 'x']

def turn (on : Bool) (m : Modes) : Char → Modes
  | 'i' => { m with caseless := on }
  | 'u' => { m with bytes := !on }
  | 'x' => { m with verbose := on }
  | _ => m

/-- The modes after a row of letters. No letter stands twice, and at most one minus sign, with a
letter after it. -/
def switch? (m : Modes) (signs : List Char) : Option Modes :=
  if signs.Nodup ∧ signs.all (fun c => letters.contains c || c == '-') ∧
      signs.getLast? ≠ some '-' then
    let (on, off) := Text.cut '-' signs
    some (off.foldl (turn false) (on.foldl (turn true) m))
  else none

/-- A text without the blanks and comments that it starts with. A comment runs to the end of its
line. -/
def dropComments : (inComment : Bool) → List Char → List Char
  | _, [] => []
  | true, c :: cs => dropComments (c != '\n') cs
  | false, c :: cs =>
    if Text.isBlank c then dropComments false cs
    else if c = '#' then dropComments true cs
    else c :: cs

def skip (m : Modes) (cs : List Char) : List Char :=
  if m.verbose then dropComments false cs else cs

/-- The character that comes next. A comment counts as its first character that is not blank. -/
def next? (m : Modes) (cs : List Char) : Option Char :=
  if m.verbose then
    match Text.dropBlanks cs with
    | '#' :: comment => (Text.dropBlanks comment).head?
    | rest => rest.head?
  else cs.head?

end Modes

end TunnelSession.Pattern
