import Knotwork.Text.Quoted

/-!
Moments: days of the calendar, and times on them.
-/

namespace Knotwork

structure Zone where
  name : Text
  minutes : Int
deriving DecidableEq

structure Clock where
  hour : Nat
  minute : Nat
  second : Nat
  micros : Nat := 0
  zone : Option Zone := none
deriving DecidableEq

structure Moment where
  year : Nat
  month : Nat
  day : Nat
  clock : Option Clock := none
deriving DecidableEq

inductive MomentError where
  | year (n : Nat)
  | month
  | day
  | hour
  | minute
  | second
  | zone (minutes : Int)
deriving DecidableEq

def spanLiteral (minutes : Int) : Text :=
  let days := Int.fdiv minutes 1440
  let seconds := Int.fmod minutes 1440 * 60
  let parts : List Text :=
    (if days = 0 then [] else ["days=" ++ Text.ofInt days]) ++
      (if seconds = 0 then [] else ["seconds=" ++ Text.ofInt seconds])
  "datetime.timedelta(" ++ (if parts = [] then ['0'] else Text.joinWith ", " parts) ++ [')']

def MomentError.message : MomentError → Text
  | .year n => "year " ++ Text.ofNat n ++ " is out of range"
  | .month => "month must be in 1..12"
  | .day => "day is out of range for month"
  | .hour => "hour must be in 0..23"
  | .minute => "minute must be in 0..59"
  | .second => "second must be in 0..59"
  | .zone minutes =>
      "offset must be a timedelta strictly between -timedelta(hours=24) and timedelta(hours=24), not " ++
        spanLiteral minutes ++ ['.']

namespace Moment

def isLeap (year : Nat) : Bool := year % 4 = 0 && (year % 100 ≠ 0 || year % 400 = 0)

def daysIn (year month : Nat) : Nat :=
  if month = 2 then (if isLeap year then 29 else 28)
  else if [4, 6, 9, 11].contains month then 30
  else 31

def check (moment : Moment) : Except MomentError Moment := do
  if let some { zone := some zone, .. } := moment.clock then
    unless zone.minutes.natAbs < 24 * 60 do throw (.zone zone.minutes)
  unless 1 ≤ moment.year do throw (.year moment.year)
  unless 1 ≤ moment.month && moment.month ≤ 12 do throw .month
  unless 1 ≤ moment.day && moment.day ≤ daysIn moment.year moment.month do throw .day
  if let some clock := moment.clock then
    unless clock.hour < 24 do throw .hour
    unless clock.minute < 60 do throw .minute
    unless clock.second < 60 do throw .second
  return moment

def padded (width n : Nat) : Text :=
  let digits := Text.ofNat n
  List.replicate (width - digits.length) '0' ++ digits

def zoneText (zone : Zone) : Text :=
  let size := zone.minutes.natAbs
  (if zone.minutes < 0 then '-' else '+') :: padded 2 (size / 60) ++ [':'] ++ padded 2 (size % 60)

def render (moment : Moment) : Text :=
  padded 4 moment.year ++ ['-'] ++ padded 2 moment.month ++ ['-'] ++ padded 2 moment.day ++
    match moment.clock with
    | none => []
    | some clock =>
        [' '] ++ padded 2 clock.hour ++ [':'] ++ padded 2 clock.minute ++ [':'] ++
          padded 2 clock.second ++
          (if clock.micros = 0 then [] else ['.'] ++ padded 6 clock.micros) ++
          match clock.zone with
          | none => []
          | some zone => zoneText zone

def zoneLiteral (zone : Zone) : Text :=
  "datetime.timezone(" ++ spanLiteral zone.minutes ++ ", " ++ Text.quoted zone.name ++ [')']

def literal (moment : Moment) : Text :=
  let date := [moment.year, moment.month, moment.day]
  let call (name : Text) (numbers : List Nat) (zone : List Text) : Text :=
    "datetime." ++ name ++ ['('] ++ Text.joinWith ", " (numbers.map Text.ofNat ++ zone) ++ [')']
  match moment.clock with
  | none => call "date" date []
  | some clock =>
      let fine := if clock.micros ≠ 0 then [clock.second, clock.micros]
        else if clock.second ≠ 0 then [clock.second] else []
      call "datetime" (date ++ [clock.hour, clock.minute] ++ fine)
        (clock.zone.toList.map fun zone => "tzinfo=" ++ zoneLiteral zone)

def digits? (least most : Nat) (t : Text) : Option (Nat × Text) :=
  let run := (t.take most).takeWhile Char.isDigit
  if run.length < least then none
  else some (run.foldl (fun n c => n * 10 + (c.toNat - 48)) 0, t.drop run.length)

def after? (c : Char) : Text → Option Text
  | d :: rest => if c = d then some rest else none
  | [] => none

def readZone? (t : Text) : Option (Option Zone) :=
  match t with
  | [] => some none
  | ['Z'] => some (some { name := ['Z'], minutes := 0 })
  | sign :: rest => do
      guard (sign = '+' || sign = '-')
      let (hours, rest) ← digits? 1 2 rest
      let (minutes, rest) ← match rest with
        | [] => some (0, [])
        | ':' :: more => digits? 2 2 more
        | _ => none
      guard rest.isEmpty
      let size := Int.ofNat (hours * 60 + minutes)
      return some { name := t, minutes := if sign = '-' then -size else size }

def micros (digits : Text) : Nat :=
  ((digits ++ List.replicate 6 '0').take 6).foldl (fun n c => n * 10 + (c.toNat - 48)) 0

def readClock? (t : Text) : Option Clock := do
  let (hour, rest) ← digits? 1 2 t
  let (minute, rest) ← digits? 2 2 (← after? ':' rest)
  let (second, rest) ← digits? 2 2 (← after? ':' rest)
  let (fraction, rest) := match rest with
    | '.' :: more => (more.takeWhile Char.isDigit, more.dropWhile Char.isDigit)
    | _ => ([], rest)
  let zone ← readZone? (rest.dropWhile fun c => c = ' ' || c = '\t')
  guard (zone.isSome || rest.isEmpty)
  return { hour, minute, second, micros := micros fraction, zone }

def read? (t : Text) : Option Moment := do
  let (year, rest) ← digits? 4 4 t
  let (month, rest) ← digits? 1 2 (← after? '-' rest)
  let (day, rest) ← digits? 1 2 (← after? '-' rest)
  let blank (c : Char) := c = ' ' || c = '\t'
  match rest with
  | [] => if t.length = 10 then return { year, month, day } else none
  | c :: more =>
      guard (c = 'T' || c = 't' || blank c)
      let clock ← readClock? (if blank c then more.dropWhile blank else more)
      return { year, month, day, clock := some clock }

end Moment

end Knotwork
