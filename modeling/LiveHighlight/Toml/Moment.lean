import LiveHighlight.Toml.Number

/-!
Dates, times of day, and both together with or without an offset.
-/

namespace LiveHighlight.Toml

def fixed? (width : Nat) (text : List Char) : Option (Nat × List Char) :=
  let digits := text.take width
  if digits.length = width && digits.all Char.isDigit then
    (digits? 10 digits).map fun value => (value, text.drop width)
  else none

def behind? (expected : Char) : List Char → Option (List Char)
  | c :: rest => if c = expected then some rest else none
  | [] => none

def isLeapYear (year : Nat) : Bool :=
  year % 4 = 0 && (year % 100 ≠ 0 || year % 400 = 0)

def daysIn (year month : Nat) : Nat :=
  if month = 2 then if isLeapYear year then 29 else 28
  else if month = 4 || month = 6 || month = 9 || month = 11 then 30
  else 31

def date? (text : List Char) : Option (List Char) := do
  let (year, text) ← fixed? 4 text
  let (month, text) ← fixed? 2 (← behind? '-' text)
  let (day, text) ← fixed? 2 (← behind? '-' text)
  if 1 ≤ month && month ≤ 12 && 1 ≤ day && day ≤ daysIn year month then some text else none

def secondFraction? : List Char → Option (List Char)
  | '.' :: rest =>
    let digits := rest.takeWhile Char.isDigit
    if digits.isEmpty then none else some (rest.drop digits.length)
  | text => some text

def time? (text : List Char) : Option (List Char) := do
  let (hour, text) ← fixed? 2 text
  let (minute, text) ← fixed? 2 (← behind? ':' text)
  if hour < 24 && minute < 60 then
    match text with
    | ':' :: text =>
      let (second, text) ← fixed? 2 text
      if second ≤ 60 then secondFraction? text else none
    | _ => some text
  else none

def isOffset : List Char → Bool
  | [] => true
  | ['Z'] => true
  | ['z'] => true
  | sign :: text =>
    (sign = '+' || sign = '-') &&
      ((do
        let (hour, text) ← fixed? 2 text
        let (minute, text) ← fixed? 2 (← behind? ':' text)
        return hour < 24 && minute < 60 && text.isEmpty).getD false)

def isDateMark (c : Char) : Bool :=
  c = 'T' || c = 't' || c = ' '

def isDateTime (text : List Char) : Bool :=
  match date? text with
  | some [] => true
  | some (mark :: rest) => isDateMark mark && (time? rest).any isOffset
  | none => time? text == some []

/-- One way to write it: the date before a capital `T`, and a capital `Z`. -/
def spellMoment (text : List Char) : String :=
  String.ofList (text.map fun c => if c = ' ' || c = 't' then 'T' else if c = 'z' then 'Z' else c)

def moment? (text : List Char) : Option Value :=
  if isDateTime text then some (.moment (spellMoment text)) else none

end LiveHighlight.Toml
