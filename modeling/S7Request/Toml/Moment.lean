/-!
# Dates and times

Dates, times of day and both together, with an offset if the date is there. A date or time is held
as its text in normal form: the parts are joined by `T`, a fraction of a second has at most nine
digits and no final zeros, and an offset is `Z` or a signed number of hours and minutes.
-/
namespace S7Request.Toml

def twoDigits? (a b : Char) : Option Nat :=
  if a.isDigit && b.isDigit then some ((a.toNat - 48) * 10 + (b.toNat - 48)) else none

def daysIn (year month : Nat) : Nat :=
  if month = 2 then
    if year % 4 = 0 ∧ (year % 100 ≠ 0 ∨ year % 400 = 0) then 29 else 28
  else if month = 4 ∨ month = 6 ∨ month = 9 ∨ month = 11 then 30
  else 31

/-- The date at the front of a text. -/
def scanDate : List Char → Option (List Char × List Char)
  | a :: b :: c :: d :: '-' :: e :: f :: '-' :: g :: h :: rest => do
      let century ← twoDigits? a b
      let year ← twoDigits? c d
      let month ← twoDigits? e f
      let day ← twoDigits? g h
      if 1 ≤ month ∧ month ≤ 12 ∧ 1 ≤ day ∧ day ≤ daysIn (century * 100 + year) month then
        some ([a, b, c, d, '-', e, f, '-', g, h], rest)
      else none
  | _ => none

/-- The fraction of a second in normal form. -/
def normalFraction (ds : List Char) : List Char :=
  let kept := ((ds.take 9).reverse.dropWhile (· = '0')).reverse
  if kept = [] then [] else '.' :: kept

/-- The time of day at the front of a text. -/
def scanTime : List Char → Option (List Char × List Char)
  | a :: b :: ':' :: c :: d :: ':' :: e :: f :: rest => do
      let hour ← twoDigits? a b
      let minute ← twoDigits? c d
      let second ← twoDigits? e f
      if hour ≤ 23 ∧ minute ≤ 59 ∧ second ≤ 60 then
        let time := [a, b, ':', c, d, ':', e, f]
        match rest with
        | '.' :: more =>
            let ds := more.takeWhile Char.isDigit
            if ds = [] then none
            else some (time ++ normalFraction ds, more.dropWhile Char.isDigit)
        | _ => some (time, rest)
      else none
  | _ => none

/-- The offset that is all of a text, if the text is not empty. -/
def offset? : List Char → Option (List Char)
  | [] => some []
  | ['Z'] => some ['Z']
  | ['z'] => some ['Z']
  | [sign, a, b, ':', c, d] => do
      let hour ← twoDigits? a b
      let minute ← twoDigits? c d
      if (sign = '+' ∨ sign = '-') ∧ hour ≤ 23 ∧ minute ≤ 59 then
        some [if hour = 0 ∧ minute = 0 then '+' else sign, a, b, ':', c, d]
      else none
  | _ => none

/-- The time of day, with an offset or without, that is all of a text. -/
def timeAndOffset? (cs : List Char) : Option (List Char) := do
  let (time, rest) ← scanTime cs
  let offset ← offset? rest
  pure (time ++ offset)

/-- The date, the time, or the date and time that is all of a text. -/
def moment? (cs : List Char) : Option (List Char) :=
  match scanDate cs with
  | some (date, []) => some date
  | some (date, mark :: rest) =>
      if mark = 'T' ∨ mark = 't' ∨ mark = ' ' then
        (timeAndOffset? rest).map fun time => date ++ 'T' :: time
      else none
  | none =>
      match scanTime cs with
      | some (time, []) => some time
      | _ => none

end S7Request.Toml
