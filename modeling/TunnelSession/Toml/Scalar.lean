import TunnelSession.Toml.Date
import TunnelSession.Toml.Number
import TunnelSession.Toml.Quoted

/-!
TOML values that hold no others, and keys. A value without quotes is a word, and the word's form
tells what it is; only a date may have a space in it, before its time.
-/
namespace TunnelSession.Toml

def isBare (c : Char) : Bool :=
  c.isAlphanum || c == '_' || c == '-'

def isWord (c : Char) : Bool :=
  isBare c || c == '+' || c == '.' || c == ':'

/-- A word, or two of them with a space between when the first is a date. -/
def word (cs : List Char) : List Char × List Char :=
  let (first, rest) := cs.span isWord
  match rest with
  | ' ' :: c :: rest =>
    if isWord c ∧ afterDate? first = some [] then
      let (second, rest) := (c :: rest).span isWord
      (first ++ ' ' :: second, rest)
    else (first, ' ' :: c :: rest)
  | rest => (first, rest)

def ofWord? (w : List Char) : Option Toml :=
  if w = ['t', 'r', 'u', 'e'] then some (.boolean true)
  else if w = ['f', 'a', 'l', 's', 'e'] then some (.boolean false)
  else
    match integer? w with
    | some n => some (.integer n)
    | none =>
      if isFloat w then some (.float (String.ofList w))
      else if isDate w then some (.date (String.ofList w))
      else none

def scalar : Reader Toml
  | '"' :: cs => (string ('"' :: cs)).map fun (s, rest) => (.text (String.ofList s), rest)
  | '\'' :: cs => (string ('\'' :: cs)).map fun (s, rest) => (.text (String.ofList s), rest)
  | cs =>
    let (w, rest) := word cs
    (ofWord? w).map (·, rest)

def key (cs : List Char) : Option (String × List Char) :=
  match cs.span isBare with
  | ([], rest) => (line rest).map fun (s, rest) => (String.ofList s, rest)
  | (bare, rest) => some (String.ofList bare, rest)

/-- The parts of a dotted key with the blanks around them, at most as many as given. -/
def keyPath : Nat → Reader (List String)
  | 0, _ => none
  | most + 1, cs => do
    let (k, rest) ← key (skip cs)
    match skip rest with
    | '.' :: rest =>
      let (ks, rest) ← keyPath most rest
      return (k :: ks, rest)
    | rest => return ([k], rest)

end TunnelSession.Toml
