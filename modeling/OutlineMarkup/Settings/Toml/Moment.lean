import OutlineMarkup.Settings.Toml.Literal

/-! Dates and times of a TOML document: a date, a time of day, or both with the offset of the clock
that shows them. -/
namespace OutlineMarkup.Settings.Toml

structure Date where
  year : Nat
  month : Nat
  day : Nat
  deriving Repr, DecidableEq

structure Time where
  hour : Nat
  minute : Nat
  second : Nat
  nanosecond : Nat
  deriving Repr, DecidableEq

/-- What a clock shows: universal time, or so many minutes ahead of it. -/
inductive Offset where
  | universal
  | minutes (ahead : Int)
  deriving Repr, DecidableEq

/-- A date, a time of day, or both; a clock without an offset shows local time. -/
inductive Moment where
  | day (date : Date)
  | clock (time : Time)
  | both (date : Date) (time : Time) (offset : Option Offset)
  deriving Repr, DecidableEq

def daysOf (year month : Nat) : Nat :=
  if month = 2 then
    if year % 4 = 0 ∧ (year % 100 ≠ 0 ∨ year % 400 = 0) then 29 else 28
  else if month ∈ [4, 6, 9, 11] then 30
  else 31

/-- A number of exactly `count` digits, and what follows. -/
def number? (count : Nat) (t : Text) : Option (Nat × Text) :=
  let digits := t.take count
  if digits.length = count ∧ digits.all Char.isDigit then
    (digits? 10 0 false digits).map fun n => (n, t.drop count)
  else none

def Date.ofText? (t : Text) : Option (Date × Text) := do
  let (year, t) ← number? 4 t
  let (month, t) ← number? 2 (← Text.after? ['-'] t)
  let (day, t) ← number? 2 (← Text.after? ['-'] t)
  if 1 ≤ month ∧ month ≤ 12 ∧ 1 ≤ day ∧ day ≤ daysOf year month then
    some (⟨year, month, day⟩, t)
  else none

/-- The nanoseconds after a point, and what follows. Digits after the ninth do not count. -/
def fraction? : Text → Option (Nat × Text)
  | '.' :: t =>
    let digits := t.takeWhile Char.isDigit
    if digits.isEmpty then none
    else
      (digits? 10 0 false ((digits ++ List.replicate 9 '0').take 9)).map fun n =>
        (n, t.dropWhile Char.isDigit)
  | t => some (0, t)

/-- A time of day, and what follows. A leap second is second 60. -/
def Time.ofText? (t : Text) : Option (Time × Text) := do
  let (hour, t) ← number? 2 t
  let (minute, t) ← number? 2 (← Text.after? [':'] t)
  let (second, t) ← number? 2 (← Text.after? [':'] t)
  let (nanosecond, t) ← fraction? t
  if hour ≤ 23 ∧ minute ≤ 59 ∧ second ≤ 60 then some (⟨hour, minute, second, nanosecond⟩, t)
  else none

/-- The hours and minutes of an offset, in minutes. An offset is less than a day. -/
def offsetMinutes? (t : Text) : Option Nat := do
  let (hours, t) ← number? 2 t
  let (minutes, t) ← number? 2 (← Text.after? [':'] t)
  if t.isEmpty ∧ hours ≤ 23 ∧ minutes ≤ 59 then some (60 * hours + minutes) else none

def Offset.ofText? : Text → Option Offset
  | ['Z'] | ['z'] => some .universal
  | '+' :: t => (offsetMinutes? t).map fun n => .minutes n
  | '-' :: t => (offsetMinutes? t).map fun n => .minutes (-n)
  | _ => none

/-- What a whole text after a date stands for, with that date: nothing, or a time of day after a
mark and the offset of its clock. -/
def Moment.onDate? (date : Date) : Text → Option Moment
  | [] => some (.day date)
  | c :: t =>
    if c = 'T' ∨ c = 't' ∨ c = ' ' then
      match Time.ofText? t with
      | some (time, []) => some (.both date time none)
      | some (time, rest) => (Offset.ofText? rest).map fun offset => .both date time offset
      | none => none
    else none

/-- What a whole text stands for. A time of day is known by the colon after its hour. -/
def Moment.ofText? (t : Text) : Option Moment :=
  if t[2]? = some ':' then
    match Time.ofText? t with
    | some (time, []) => some (.clock time)
    | _ => none
  else
    match Date.ofText? t with
    | some (date, rest) => onDate? date rest
    | none => none

def padded (width n : Nat) : Text :=
  List.replicate (width - (Nat.toDigits 10 n).length) '0' ++ Nat.toDigits 10 n

def Date.toText (date : Date) : Text :=
  padded 4 date.year ++ '-' :: padded 2 date.month ++ '-' :: padded 2 date.day

/-- How the part of a second is written, without zeros at its end. -/
def fractionText (nanosecond : Nat) : Text :=
  if nanosecond = 0 then []
  else '.' :: ((padded 9 nanosecond).reverse.dropWhile (· == '0')).reverse

def Time.toText (time : Time) : Text :=
  padded 2 time.hour ++ ':' :: padded 2 time.minute ++ ':' :: padded 2 time.second ++
    fractionText time.nanosecond

def Offset.toText : Offset → Text
  | .universal => ['Z']
  | .minutes ahead =>
    (if ahead < 0 then '-' else '+') :: padded 2 (ahead.natAbs / 60) ++
      ':' :: padded 2 (ahead.natAbs % 60)

def Moment.toText : Moment → Text
  | .day date => date.toText
  | .clock time => time.toText
  | .both date time offset =>
    date.toText ++ 'T' :: time.toText ++ (offset.map Offset.toText).getD []

example : (Moment.ofText? "2000-02-29 23:59:60.0500-00:30".toList).map Moment.toText =
    some "2000-02-29T23:59:60.05-00:30".toList := by decide +kernel

example : Moment.ofText? "1900-02-29".toList = none := by decide +kernel

end OutlineMarkup.Settings.Toml
