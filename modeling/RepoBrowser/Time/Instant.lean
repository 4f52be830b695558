import RepoBrowser.Time.Calendar

/-!
# Points in time, in UTC

* `Instant` — seconds since 1970 and the nanoseconds behind them; a leap second is the second 59
  with more than a second of nanoseconds;
* `Instant.ofRfc3339?` — reads an RFC 3339 text, turning its offset into UTC;
* `Instant.toRfc3339` — writes it, with the shortest of no, three, six or nine decimals;
* `Instant.shortDate`, `Instant.longDate` — the dates shown beside commits;
* `Instant.age` — how long ago it was, in the largest of days, hours and minutes.
-/

namespace RepoBrowser.Time

/-- A point in time: whole seconds since 1970 in UTC, and nanoseconds. -/
structure Instant where
  seconds : Int
  nanos : Nat
  deriving DecidableEq, Repr

/-- A number in decimal with at least `w` digits. -/
def digits (w n : Nat) : List Char :=
  let ds := Nat.toDigits 10 n
  List.replicate (w - ds.length) '0' ++ ds

/-- A year: four digits from 0 to 9999, else a sign and at least four digits. -/
def yearText (y : Int) : List Char :=
  if y < 0 then '-' :: digits 4 y.natAbs
  else if y ≤ 9999 then digits 4 y.toNat
  else '+' :: digits 4 y.toNat

namespace Instant

def dayNumber (t : Instant) : Int := t.seconds / 86400

/-- The seconds since midnight, a leap second counting as the one before it. -/
def secondOfDay (t : Instant) : Nat := (t.seconds % 86400).toNat

def date (t : Instant) : Date := Date.ofDayNumber t.dayNumber

/-- The second of the minute, 60 in a leap second. -/
def second (t : Instant) : Nat := t.secondOfDay % 60 + t.nanos / 1000000000

def clock (t : Instant) : List Char :=
  digits 2 (t.secondOfDay / 3600) ++ ':' :: digits 2 (t.secondOfDay / 60 % 60)
    ++ ':' :: digits 2 t.second

/-- The decimals of the seconds: none, or three, six or nine digits behind a point. -/
def fraction (t : Instant) : List Char :=
  let n := t.nanos % 1000000000
  if n = 0 then []
  else if n % 1000000 = 0 then '.' :: digits 3 (n / 1000000)
  else if n % 1000 = 0 then '.' :: digits 6 (n / 1000)
  else '.' :: digits 9 n

/-- The instant as RFC 3339 text in UTC. -/
def toRfc3339 (t : Instant) : String :=
  String.ofList (yearText t.date.year ++ '-' :: digits 2 t.date.month ++ '-' :: digits 2 t.date.day
    ++ 'T' :: t.clock ++ t.fraction ++ ['Z'])

def shortDate (t : Instant) : List Char :=
  digits 2 t.date.day ++ ' ' :: (monthName t.date.month).toList ++ ' ' :: yearText t.date.year

/-- Weekday, month, day padded with a blank, time, year and offset. -/
def longDate (t : Instant) : List Char :=
  let day := Nat.toDigits 10 t.date.day
  (weekdayName (weekday t.dayNumber)).toList ++ ' ' :: (monthName t.date.month).toList
    ++ ' ' :: (List.replicate (2 - day.length) ' ' ++ day) ++ ' ' :: t.clock
    ++ ' ' :: yearText t.date.year ++ " +0000".toList

/-- The nanoseconds from `t` to `now`.  A leap second lies between two others only when the two
instants differ in their second of the day. -/
def nanosUntil (t now : Instant) : Int :=
  let days := now.dayNumber - t.dayNumber
  let seconds : Int := (now.secondOfDay : Int) - t.secondOfDay
  let leap : Int :=
    if t.secondOfDay < now.secondOfDay then (if 1000000000 ≤ t.nanos then 1 else 0)
    else if now.secondOfDay < t.secondOfDay then (if 1000000000 ≤ now.nanos then -1 else 0)
    else 0
  (days * 86400 + seconds + leap) * 1000000000 + ((now.nanos : Int) - t.nanos)

/-- How long before `now` the instant was: whole days, or else hours, or else minutes, or `now`. -/
def age (now t : Instant) : List Char :=
  let seconds := ((t.nanosUntil now).tdiv 1000000000).toNat
  if 86400 ≤ seconds then Nat.toDigits 10 (seconds / 86400) ++ ['d']
  else if 3600 ≤ seconds then Nat.toDigits 10 (seconds / 3600) ++ ['h']
  else if 60 ≤ seconds then Nat.toDigits 10 (seconds / 60) ++ ['m']
  else ['n', 'o', 'w']

end Instant

/-! ### Reading RFC 3339 -/

def digitValue? (c : Char) : Option Nat :=
  if '0' ≤ c && c ≤ '9' then some (c.toNat - 0x30) else none

/-- Reads exactly `k` digits onto the number `n`. -/
def readDigits : Nat → Nat → List Char → Option (Nat × List Char)
  | 0, n, s => some (n, s)
  | _ + 1, _, [] => none
  | k + 1, n, c :: s => (digitValue? c).bind fun d => readDigits k (n * 10 + d) s

def readOneOf (cs : List Char) : List Char → Option (List Char)
  | [] => none
  | c :: s => if cs.contains c then some s else none

/-- Reads the decimals behind a point as nanoseconds; digits past the ninth are dropped. -/
def readFraction : List Char → Option (Nat × List Char)
  | '.' :: s =>
    let ds := s.takeWhile fun c => (digitValue? c).isSome
    let nine := ds.take 9
    if ds.isEmpty then none
    else
      let n := nine.foldl (fun n c => n * 10 + (c.toNat - 0x30)) 0
      some (n * Nat.pow 10 (9 - nine.length), s.drop ds.length)
  | s => some (0, s)

/-- Reads an offset from UTC in seconds: `Z`, or a sign, hours, a colon and minutes. -/
def readOffset : List Char → Option (Int × List Char)
  | [] => none
  | c :: s =>
    if c = 'Z' || c = 'z' then some (0, s)
    else if c = '+' || c = '-' || c = '\u2212' then do
      let (h, s) ← readDigits 2 0 s
      let s ← readOneOf [':'] s
      let (m, s) ← readDigits 2 0 s
      if h ≤ 23 && m ≤ 59 then
        let n : Int := (h * 60 + m) * 60
        some (if c = '+' then n else -n, s)
      else none
    else none

/-- Reads an RFC 3339 date and time, such as `2024-05-01T10:00:00.5+02:00`. -/
def Instant.ofRfc3339? (text : List Char) : Option Instant := do
  let (year, s) ← readDigits 4 0 text
  let s ← readOneOf ['-'] s
  let (month, s) ← readDigits 2 0 s
  let s ← readOneOf ['-'] s
  let (day, s) ← readDigits 2 0 s
  let s ← readOneOf ['T', 't', ' '] s
  let (hour, s) ← readDigits 2 0 s
  let s ← readOneOf [':'] s
  let (minute, s) ← readDigits 2 0 s
  let s ← readOneOf [':'] s
  let (second, s) ← readDigits 2 0 s
  let (nanos, s) ← readFraction s
  let (offset, s) ← readOffset s
  if s.isEmpty && 1 ≤ month && month ≤ 12 && 1 ≤ day && day ≤ daysInMonth year month
      && hour ≤ 23 && minute ≤ 59 && second ≤ 60 then
    let days := Time.dayNumber year month day
    let clock : Int := (hour * 60 + minute) * 60 + min second 59
    some { seconds := days * 86400 + clock - offset,
           nanos := if second = 60 then nanos + 1000000000 else nanos }
  else none

end RepoBrowser.Time
