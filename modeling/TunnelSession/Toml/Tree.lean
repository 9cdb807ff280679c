import TunnelSession.Toml.Value

/-!
Tables as a TOML document builds them. A table is stated by its own header, implied by the header of
a table inside it, or dotted, made by a dotted key; a table can be stated once, and dotted keys add
to dotted tables only. A value, once given, is never added to.
-/
namespace TunnelSession.Toml

inductive Mark where
  | stated
  | implied
  | dotted
  deriving DecidableEq, Repr

/-- An array of tables has the table that is written last in front, and entries go into that one. -/
inductive Node where
  | value (v : Toml)
  | table (mark : Mark) (members : List (String × Node))
  | tables (newest : List (String × Node)) (older : List (List (String × Node)))

abbrev Members := List (String × Node)

namespace Members

def put (k : String) (n : Node) : Members → Members
  | [] => [(k, n)]
  | m :: ms => if m.1 = k then (k, n) :: ms else m :: put k n ms

/-- Changes the table that a header's keys lead to, and makes the tables that are missing. -/
def under : List String → (Members → Option Members) → Members → Option Members
  | [], change, ms => change ms
  | k :: path, change, ms =>
    match ms.lookup k with
    | none => do return put k (.table .implied (← under path change [])) ms
    | some (.table mark inner) => do return put k (.table mark (← under path change inner)) ms
    | some (.tables newest older) => do
      return put k (.tables (← under path change newest) older) ms
    | some (.value _) => none

/-- States a table, which may be implied already. -/
def state (k : String) (ms : Members) : Option Members :=
  match ms.lookup k with
  | none => some (put k (.table .stated []) ms)
  | some (.table .implied inner) => some (put k (.table .stated inner) ms)
  | _ => none

/-- Adds an empty table to an array of tables. -/
def extend (k : String) (ms : Members) : Option Members :=
  match ms.lookup k with
  | none => some (put k (.tables [] []) ms)
  | some (.tables newest older) => some (put k (.tables [] (newest :: older)) ms)
  | _ => none

/-- Adds a value under a dotted key. -/
def add (v : Toml) : List String → Members → Option Members
  | [], _ => none
  | [k], ms => if (ms.lookup k).isSome then none else some (put k (.value v) ms)
  | k :: next :: path, ms =>
    match ms.lookup k with
    | none => do return put k (.table .dotted (← add v (next :: path) [])) ms
    | some (.table mark inner) =>
      if mark = .stated ∨ (path = [] ∧ mark ≠ .dotted) then none
      else do return put k (.table mark (← add v (next :: path) inner)) ms
    | some (.tables newest older) =>
      if path = [] then none
      else do return put k (.tables (← add v (next :: path) newest) older) ms
    | some (.value _) => none

end Members

mutual

def Node.toToml : Node → Toml
  | .value v => v
  | .table _ ms => .table (membersToml ms)
  | .tables newest older => .array (olderToml older ++ [.table (membersToml newest)])

def membersToml : List (String × Node) → List (String × Toml)
  | [] => []
  | (k, n) :: ms => (k, n.toToml) :: membersToml ms

/-- Tables, the last one in front, in the order they were written in. -/
def olderToml : List (List (String × Node)) → List Toml
  | [] => []
  | ms :: older => olderToml older ++ [.table (membersToml ms)]

end

end TunnelSession.Toml
