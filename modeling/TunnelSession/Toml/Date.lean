import TunnelSession.Text.Numeral

/-!
TOML dates and times: a date of the calendar, a time of day with seconds and perhaps a fraction of
them, or a date and a time with the offset from UTC or without.
-/
namespace TunnelSession.Toml

def daysIn (year month : Nat) : Nat :=
  if month = 2 then
    if year % 4 = 0 ∧ (year % 100 ≠ 0 ∨ year % 400 = 0) then 29 else 28
  else if month = 4 ∨ month = 6 ∨ month = 9 ∨ month = 11 then 30
  else 31

/-- What follows a date. -/
def afterDate? : List Char → Option (List Char)
  | a :: b :: c :: d :: '-' :: e :: f :: '-' :: g :: h :: rest => do
    let year ← Text.digits? [a, b, c, d]
    let month ← Text.digits? [e, f]
    let day ← Text.digits? [g, h]
    if 1 ≤ month ∧ month ≤ 12 ∧ 1 ≤ day ∧ day ≤ daysIn year month then some rest else none
  | _ => none

/-- What follows an hour and a minute. -/
def afterMinute? : List Char → Option (List Char)
  | a :: b :: ':' :: c :: d :: rest => do
    let hour ← Text.digits? [a, b]
    let minute ← Text.digits? [c, d]
    if hour ≤ 23 ∧ minute ≤ 59 then some rest else none
  | _ => none

/-- What follows a time of day. A leap second is one more than there are. -/
def afterTime? (cs : List Char) : Option (List Char) := do
  match ← afterMinute? cs with
  | ':' :: a :: b :: rest =>
    let second ← Text.digits? [a, b]
    if second ≤ 60 then
      match rest with
      | '.' :: rest =>
        if rest.head?.any Char.isDigit then some (rest.dropWhile Char.isDigit) else none
      | rest => some rest
    else none
  | _ => none

def isOffset : List Char → Bool
  | ['Z'] | ['z'] | [] => true
  | '+' :: cs | '-' :: cs => afterMinute? cs = some []
  | _ => false

def isTime (cs : List Char) : Bool :=
  afterTime? cs = some []

def isTimeWithOffset (cs : List Char) : Bool :=
  (afterTime? cs).any isOffset

/-- Whether a text is a date, or a time, or a date and a time with one character between them. -/
def isDate (cs : List Char) : Bool :=
  match afterDate? cs with
  | some [] => true
  | some (c :: rest) => (c = 'T' ∨ c = 't' ∨ c = ' ') ∧ isTimeWithOffset rest
  | none => isTime cs

end TunnelSession.Toml
