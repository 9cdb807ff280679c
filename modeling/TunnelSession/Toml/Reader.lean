import TunnelSession.Toml.Scalar
import TunnelSession.Toml.Tree

/-!
TOML documents. A document is lines of entries, the first ones for the document itself and the
others for the table of the last header before them. Values are nested, and keys dotted, to a fixed
depth.
-/
namespace TunnelSession.Toml

/-- How deep values may be nested, and how many parts a key may have. -/
def depth : Nat := 79

mutual

/-- A value. The first number bounds the calls nested in one another, the second the values. -/
def value : Nat → Nat → Reader Toml
  | fuel + 1, d + 1, '[' :: cs => do
    match ← skipLines false cs with
    | ']' :: rest => return (.array [], rest)
    | rest =>
      let (vs, rest) ← items fuel d rest
      return (.array vs, rest)
  | fuel + 1, d + 1, '\x7b' :: cs =>
    match skip cs with
    | '\x7d' :: rest => some (.table [], rest)
    | rest => do
      let (ms, rest) ← entries fuel d [] rest
      return (.table (membersToml ms), rest)
  | _, _, cs => scalar cs

/-- Items up to the closing bracket, one at least. A comma may stand behind the last one. -/
def items : Nat → Nat → Reader (List Toml)
  | 0, _, _ => none
  | fuel + 1, d, cs => do
    let (v, rest) ← value fuel d cs
    match ← skipLines false rest with
    | ',' :: rest =>
      match ← skipLines false rest with
      | ']' :: rest => return ([v], rest)
      | rest =>
        let (vs, rest) ← items fuel d rest
        return (v :: vs, rest)
    | ']' :: rest => return ([v], rest)
    | _ => none

/-- Entries up to the closing brace, one at least, added to those before them. -/
def entries : Nat → Nat → Members → Reader Members
  | 0, _, _, _ => none
  | fuel + 1, d, ms, cs => do
    let (path, rest) ← keyPath depth cs
    match rest with
    | '=' :: rest =>
      let (v, rest) ← value fuel d (skip rest)
      let ms ← ms.add v path
      match skip rest with
      | ',' :: rest => entries fuel d ms rest
      | '\x7d' :: rest => return (ms, rest)
      | _ => none
    | _ => none

end

/-- What has been read, and the path of the table that entries go to. -/
structure Reading where
  root : Members
  place : List String

namespace Reading

def header (r : Reading) (change : String → Members → Option Members) (path : List String) :
    Option Reading := do
  let root ← r.root.under path.dropLast (change (path.getLast?.getD ""))
  return ⟨root, path⟩

/-- Reads a line that is not empty. -/
def line (r : Reading) : Reader Reading
  | '[' :: '[' :: cs => do
    match ← keyPath depth cs with
    | (path, ']' :: ']' :: rest) => return (← r.header Members.extend path, ← lineEnd? rest)
    | _ => none
  | '[' :: cs => do
    match ← keyPath depth cs with
    | (path, ']' :: rest) => return (← r.header Members.state path, ← lineEnd? rest)
    | _ => none
  | cs => do
    match ← keyPath depth cs with
    | (path, '=' :: rest) =>
      let (v, rest) ← value (rest.length + 1) depth (skip rest)
      let root ← r.root.under r.place (Members.add v path)
      return ({ r with root }, ← lineEnd? rest)
    | _ => none

/-- Reads lines to the end of the text; there are fewer of them than the number given. -/
def lines : Nat → Reading → List Char → Option Reading
  | 0, _, _ => none
  | n + 1, r, cs =>
    match skip cs with
    | [] => some r
    | cs =>
      match lineEnd? cs with
      | some rest => lines n r rest
      | none => do
        let (r, rest) ← r.line cs
        lines n r rest

end Reading

/-- The members of a document. A byte order mark in front is passed over. -/
def document? (text : String) : Option (List (String × Toml)) := do
  let cs := match text.toList with
    | '\uFEFF' :: cs => cs
    | cs => cs
  let r ← Reading.lines (cs.length + 1) ⟨[], []⟩ cs
  return membersToml r.root

end TunnelSession.Toml
