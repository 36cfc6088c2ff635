import ComponentInliner.Number.Numeral

/-!
# Dates and times of YAML texts

A moment is a date, with a time of the day if one is written, and the time has an offset from
universal time if one is written. The file reads moments, says which of them exist, and shows
them in one form.
-/

namespace ComponentInliner.Yaml

structure TimeOfDay where
  hour : Nat
  minute : Nat
  second : Nat
  microsecond : Nat
  offset? : Option Int
  deriving DecidableEq, Repr

/-- A date with a time of the day or without. -/
structure Moment where
  year : Nat
  month : Nat
  day : Nat
  time? : Option TimeOfDay
  deriving DecidableEq, Repr

namespace Moment

/-- The number that at least `least` and at most `most` digits spell, and the rest. -/
def digits? (least most : Nat) (text : Text) : Option (Nat × Text) :=
  let digits := (text.take most).takeWhile CodePoint.isAsciiDigit
  if digits.length < least then none
  else some (Number.ofDigits 10 (digits.map fun point => point.val - 48), text.drop digits.length)

/-- The text after a character, if it begins with it. -/
def after? (character : Char) (text : Text) : Option Text :=
  Text.dropPrefix? [CodePoint.ofChar character] text

/-- The text after what stands between a date and a time. -/
def afterDate? (text : Text) : Option Text :=
  match text with
  | [] => none
  | point :: rest =>
      let isGap (point : CodePoint) : Bool := point = ' ' || point = '\t'
      if point = 'T' || point = 't' then some rest
      else if isGap point then some (rest.dropWhile isGap)
      else none

/-- The millionths that the digits after a point spell, and the rest; without a point none. -/
def microseconds (text : Text) : Nat × Text :=
  match after? '.' text with
  | none => (0, text)
  | some rest =>
      let digits := rest.takeWhile CodePoint.isAsciiDigit
      let six := (digits ++ List.replicate 6 (CodePoint.ofChar '0')).take 6
      (Number.ofDigits 10 (six.map fun point => point.val - 48), rest.drop digits.length)

/-- The minutes of an offset after its sign. -/
def offsetMinutes? (text : Text) : Option Nat := do
  let (hours, rest) ← digits? 1 2 text
  match after? ':' rest with
  | none => if rest.isEmpty then return hours * 60 else none
  | some rest =>
      let (minutes, rest) ← digits? 2 2 rest
      if rest.isEmpty then return hours * 60 + minutes else none

/-- The offset at the end of a moment; nothing if the text has none. -/
def offset? (text : Text) : Option (Option Int) :=
  if text.isEmpty then
    some none
  else
    match text.dropWhile fun point : CodePoint => point = ' ' || point = '\t' with
    | [] => none
    | sign :: rest =>
        if sign = 'Z' then if rest.isEmpty then some (some 0) else none
        else if sign = '+' then (offsetMinutes? rest).map fun minutes => some minutes
        else if sign = '-' then (offsetMinutes? rest).map fun minutes => some (-(minutes : Int))
        else none

def timeOf? (text : Text) : Option TimeOfDay := do
  let (hour, rest) ← digits? 1 2 text
  let (minute, rest) ← digits? 2 2 (← after? ':' rest)
  let (second, rest) ← digits? 2 2 (← after? ':' rest)
  let (microsecond, rest) := microseconds rest
  return ⟨hour, minute, second, microsecond, ← offset? rest⟩

/-- The moment that a text spells. It need not exist. -/
def ofText? (text : Text) : Option Moment := do
  let (year, rest) ← digits? 4 4 text
  let (month, rest) ← digits? 1 2 (← after? '-' rest)
  let (day, rest) ← digits? 1 2 (← after? '-' rest)
  if rest.isEmpty then
    return ⟨year, month, day, none⟩
  else
    return ⟨year, month, day, some (← timeOf? (← afterDate? rest))⟩

/-- Whether a text looks like a moment. A date that stands alone has ten characters. -/
def looksLikeMoment (text : Text) : Bool :=
  (ofText? text).any fun moment => moment.time?.isSome || text.length = 10

def isLeap (year : Nat) : Bool :=
  year % 4 = 0 && (year % 100 ≠ 0 || year % 400 = 0)

def daysIn (year month : Nat) : Nat :=
  if month = 2 then (if isLeap year then 29 else 28)
  else if month ∈ [4, 6, 9, 11] then 30
  else 31

def timeExists (time : TimeOfDay) : Bool :=
  time.hour < 24 && time.minute < 60 && time.second < 60 &&
    time.offset?.all fun offset => offset.natAbs < 24 * 60

def isReal (moment : Moment) : Bool :=
  0 < moment.year && 1 ≤ moment.month && moment.month ≤ 12 && 1 ≤ moment.day &&
    moment.day ≤ daysIn moment.year moment.month && moment.time?.all timeExists

/-- A number with zeros in front of it. -/
def padded (width number : Nat) : Text :=
  let digits := Text.ofNat number
  List.replicate (width - digits.length) (CodePoint.ofChar '0') ++ digits

def offsetText (offset : Int) : Text :=
  let sign : Text := if offset < 0 then "-" else "+"
  sign ++ padded 2 (offset.natAbs / 60) ++ ":" ++ padded 2 (offset.natAbs % 60)

def timeText (time : TimeOfDay) : Text :=
  let fraction : Text := if time.microsecond = 0 then "" else "." ++ padded 6 time.microsecond
  padded 2 time.hour ++ ":" ++ padded 2 time.minute ++ ":" ++ padded 2 time.second ++ fraction ++
    (time.offset?.map offsetText).getD []

def text (moment : Moment) : Text :=
  let date :=
    padded 4 moment.year ++ "-" ++ padded 2 moment.month ++ "-" ++ padded 2 moment.day
  match moment.time? with
  | none => date
  | some time => date ++ " " ++ timeText time

end Moment

end ComponentInliner.Yaml
