import TunnelSession.Pattern.Basic
import TunnelSession.Text.Letter
import TunnelSession.Text.Numeral
import TunnelSession.Text.Offset

/-!
Filters for diagnostic messages, which say what is worth showing. A filter is a list of directives
between commas, and a directive is a target, a span in brackets or both, with or without a level
after an equals sign, or a level alone. A span may name a field in braces, and a value for it.

A directive is read without the blanks around it, but its parts are cut out of it with the blanks,
at the places where they stand without them. So a blank in front sets the parts off, and a cut may
come to fall inside a character, which breaks the reading off.
-/
namespace TunnelSession.Shell.LogFilter

inductive Fault where
  | malformed
  | torn
  deriving DecidableEq, Repr

def require (condition : Bool) : Except Fault Unit :=
  if condition then .ok () else .error .malformed

def whole {α : Type} : Option α → Except Fault α
  | some a => .ok a
  | none => .error .torn

def levels : List String := ["off", "error", "warn", "info", "debug", "trace"]

/-- A level goes by its name in letters of either case, or by its place in the list. -/
def isLevel (cs : List Char) : Bool :=
  (Text.numeral? cs).any (· < levels.length) ||
  levels.contains (String.ofList (cs.map Char.toLower))

def isDigits (cs : List Char) : Bool := cs.all Char.isDigit

/-- Digits with or without a point, one digit at least, and with or without an exponent. -/
def isDecimal (cs : List Char) : Bool :=
  let (number, power) := cs.span fun c => c != 'e' && c != 'E'
  let (before, after) := Text.cut '.' number
  isDigits (before ++ after) && before ++ after != [] &&
  match power with
  | [] => true
  | _ :: '+' :: ds | _ :: '-' :: ds | _ :: ds => isDigits ds && ds != []

/-- A number with or without a sign; infinity is one, and so is what is none. -/
def isNumber (cs : List Char) : Bool :=
  let unsigned := match cs with
    | '+' :: rest | '-' :: rest => rest
    | _ => cs
  isDecimal unsigned ||
  ["inf", "infinity", "nan"].contains (String.ofList (unsigned.map Char.toLower))

/-- A field has a name, and may have a value, which is a number or a pattern. What follows another
equals sign is passed over. -/
def isField (cs : List Char) : Bool :=
  match Text.pieces '=' cs with
  | _ :: value :: _ => isNumber value || Pattern.isValid value
  | _ => cs != []

/-- The level that starts at a place of a directive. -/
def readLevel (directive : List Char) (start : Nat) : Except Fault Unit := do
  let level ← whole (Text.after? start directive)
  require (level = [] || isLevel level)

/-- What may follow a span. -/
def readAfterSpan (directive : List Char) (start : Nat) : List Char → Except Fault Unit
  | [] => .ok ()
  | '=' :: _ => readLevel directive (start + 1)
  | _ => .error .malformed

/-- What may follow the brace that opens a span's field. -/
def readField (directive : List Char) (start : Nat) (cs : List Char) : Except Fault Unit := do
  let (inside, rest) := cs.span (· != '\x7d')
  let stop := start + Text.byteLength inside
  match rest with
  | [] => .error .malformed
  | _ :: rest =>
    require (isField (← whole (Text.between? start stop directive)))
    match rest with
    | ']' :: rest => readAfterSpan directive (stop + 2) rest
    | _ => .error .malformed

/-- What may follow the bracket that opens a span. -/
def readSpan (directive : List Char) (start : Nat) (cs : List Char) : Except Fault Unit := do
  let (name, rest) := cs.span fun c => c != ']' && c != '\x7b'
  let stop := start + Text.byteLength name
  match rest with
  | [] => .error .malformed
  | mark :: rest =>
    let _ ← whole (Text.between? start stop directive)
    if mark = ']' then readAfterSpan directive (stop + 1) rest
    else readField directive (stop + 1) rest

def startsTarget (c : Char) : Bool :=
  c == '-' || c == ':' || c == '_' || Text.isLetter c

def readDirective (directive : List Char) : Except Fault Unit := do
  match Text.strip directive with
  | [] => .error .malformed
  | '[' :: rest => readSpan directive 1 rest
  | c :: cs =>
    require (startsTarget c)
    let (target, rest) := (c :: cs).span fun c => c != '=' && c != '['
    let stop := Text.byteLength target
    match rest with
    | [] => .ok ()
    | mark :: rest =>
      let _ ← whole (Text.between? 0 stop directive)
      if mark = '=' then readLevel directive (stop + 1) else readSpan directive (stop + 1) rest

/-- Reads a filter up to the first fault. Empty parts say nothing, and a filter of nothing else is
one that shows nothing. -/
def read (filter : String) : Except Fault Unit :=
  ((Text.pieces ',' filter.toList).filter (· != [])).forM readDirective

/-- A filter from the environment goes before the configuration's, and is passed over when it is
malformed. -/
def choose (environment : Option String) (configured : String) : Except Fault Unit :=
  match environment.map read with
  | none | some (.error .malformed) => read configured
  | some outcome => outcome

end TunnelSession.Shell.LogFilter
