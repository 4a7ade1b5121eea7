/-
`datetime.fromisoformat` of Python 3.11, and the order of the instants it reads.

The reader accepts most of ISO 8601: calendar and week dates with or without
dashes, times with or without colons, fractions of a second, and UTC offsets.
A value without an offset is naive; Python refuses to compare it with an aware
one. The reader works on the UTF-8 bytes of the text and is as lenient as the C
code of CPython: text before an offset need not be read to its end.
-/
import AppContracts.Lib.Json

set_option autoImplicit false

namespace AppContracts

/-- A `datetime`: its fields, and its UTC offset in microseconds if it is
aware. -/
structure Datetime : Type where
  year : ℕ
  month : ℕ
  day : ℕ
  hour : ℕ
  minute : ℕ
  second : ℕ
  microsecond : ℕ
  offset : Option Int
  deriving DecidableEq

namespace Datetime

/-! ## The calendar -/

/-- Leap years of the Gregorian calendar. -/
def is_leap (year : ℕ) : Bool := year % 4 = 0 && (year % 100 ≠ 0 || year % 400 = 0)

/-- `_days_before_year`. -/
def days_before_year (year : ℕ) : ℕ :=
  (year - 1) * 365 + (year - 1) / 4 - (year - 1) / 100 + (year - 1) / 400

/-- The lengths of the months. -/
def month_lengths (year : ℕ) : List ℕ :=
  [31, if is_leap year then 29 else 28, 31, 30, 31, 30, 31, 31, 30, 31, 30, 31]

/-- `_days_in_month`. -/
def days_in_month (year month : ℕ) : ℕ := (month_lengths year).getD (month - 1) 0

/-- `_ymd2ord`: the proleptic Gregorian ordinal. -/
def ordinal (year month day : ℕ) : ℕ :=
  days_before_year year + ((month_lengths year).take (month - 1)).sum + day

/-- The month and day of a day of the year, counted from zero. -/
def month_day : List ℕ → ℕ → ℕ → ℕ × ℕ
  | [], month, day => (month, day + 1)
  | n :: rest, month, day => if day < n then (month, day + 1) else month_day rest (month + 1) (day - n)

/-- `_isoweek_to_gregorian`: the date of a day of an ISO week. -/
def of_isoweek (year week day : ℕ) : Option (ℕ × ℕ × ℕ) :=
  let first := (days_before_year year + 1) % 7
  -- A year has a week 53 if it starts on a Thursday, or on a Wednesday and is leap.
  let last := if first = 4 ∨ (first = 3 ∧ is_leap year) then 53 else 52
  if year = 0 ∨ week = 0 ∨ last < week ∨ day = 0 ∨ 7 < day then none
  else
    let january_first := days_before_year year + 1
    let weekday := (january_first + 6) % 7
    let monday : Int := if 3 < weekday then january_first - weekday + 7 else january_first - weekday
    let target : Int := monday + ((week - 1) * 7 + (day - 1) : ℕ)
    let shift (y : ℕ) : ℕ × ℕ × ℕ :=
      let md := month_day (month_lengths y) 1 (target.toNat - days_before_year y - 1)
      (y, md.1, md.2)
    if target ≤ 0 then none
    else if target ≤ (days_before_year year : Int) then some (shift (year - 1))
    else if target ≤ (days_before_year (year + 1) : Int) then some (shift year)
    else some (shift (year + 1))

/-! ## Reading -/

/-- The value of ASCII digits, `none` if there is another character. -/
def digits? (cs : List ℕ) : Option ℕ :=
  cs.foldl (fun acc c => acc.bind fun n =>
    if 0x30 ≤ c ∧ c ≤ 0x39 then some (10 * n + (c - 0x30)) else none) (some 0)

/-- Exactly `n` digits at the start of a text. -/
def take_digits (n : ℕ) (cs : List ℕ) : Option (ℕ × List ℕ) :=
  if cs.length < n then none else (digits? (cs.take n)).map fun v => (v, cs.drop n)

/-- An ASCII digit. -/
def is_digit (c : ℕ) : Bool := 0x30 ≤ c && c ≤ 0x39

/-- `_find_isoformat_datetime_separator`: where the date ends. -/
def separator_location (cs : List ℕ) : Option ℕ :=
  let n := cs.length
  let at_ (i : ℕ) := cs.getD i 0
  if n = 7 then some 7
  else if at_ 4 = 0x2d then
    if at_ 5 = 0x57 then
      if 8 < n ∧ at_ 8 = 0x2d then
        if n = 9 then none
        else if 10 < n ∧ is_digit (at_ 10) then some 8
        else some 10
      else some 8
    else some 10
  else if at_ 4 = 0x57 then
    let idx := 7 + ((cs.drop 7).takeWhile is_digit).length
    if idx < 9 then some idx else if idx % 2 = 0 then some 7 else some 8
  else some 8

/-- `_parse_isoformat_date`. -/
def parse_date (cs : List ℕ) : Option (ℕ × ℕ × ℕ) := do
  let (year, rest) ← take_digits 4 cs
  let has_sep := rest.head? = some 0x2d
  let rest := if has_sep then rest.drop 1 else rest
  if rest.head? = some 0x57 then
    let (week, rest) ← take_digits 2 (rest.drop 1)
    if rest = [] then of_isoweek year week 1
    else if (rest.head? = some 0x2d) ≠ has_sep then none
    else
      let (day, rest) ← take_digits 1 (if has_sep then rest.drop 1 else rest)
      if rest = [] then of_isoweek year week day else none
  else
    let (month, rest) ← take_digits 2 rest
    if (rest.head? = some 0x2d) ≠ has_sep then none
    else
      let (day, rest) ← take_digits 2 (if has_sep then rest.drop 1 else rest)
      if rest = [] then some (year, month, day) else none

/-- The fraction of a second: up to six digits count, further digits are
skipped. Also whether text is left over. -/
def parse_fraction (text : List ℕ) (end_char : ℕ) : Option (ℕ × Bool) := do
  let n := min text.length 6
  let (v, rest) ← take_digits n text
  some (v * 10 ^ (6 - n), (rest.dropWhile is_digit).headD end_char ≠ 0)

/-- The fields of `_parse_hh_mm_ss_ff` from the `i`th of hour, minute and
second on, and the leftover flag of the text. `end_char` is the character after
the text, zero at the end of the string. -/
def parse_fields (end_char : ℕ) : ℕ → Bool → List ℕ → Option (List ℕ × ℕ × Bool)
  | 0, _, text => (parse_fraction text end_char).map fun p => ([], p.1, p.2)
  | fuel + 1, has_sep, text => do
    let (v, rest) ← take_digits 2 text
    let c := rest.headD end_char
    -- The first separator decides whether there are any.
    let has_sep := if fuel = 2 then c = 0x3a else has_sep
    if rest.length ≤ 1 then some ([v], 0, c ≠ 0)
    else
      let (more, microsecond, leftover) ←
        if has_sep ∧ c = 0x3a then parse_fields end_char fuel has_sep (rest.drop 1)
        else if c = 0x2e ∨ c = 0x2c then
          (parse_fraction (rest.drop 1) end_char).map fun p => ([], p.1, p.2)
        else if has_sep then none
        else parse_fields end_char fuel has_sep rest
      some (v :: more, microsecond, leftover)

/-- `_parse_hh_mm_ss_ff`: `HH[:?MM[:?SS[{.,}ffffff]]]`, and whether text is left
over. -/
def parse_hh_mm_ss_ff (text : List ℕ) (end_char : ℕ) : Option ((ℕ × ℕ × ℕ × ℕ) × Bool) :=
  (parse_fields end_char 3 true text).map fun p =>
    ((p.1.getD 0 0, p.1.getD 1 0, p.1.getD 2 0, p.2.1), p.2.2)

/-- `_parse_isoformat_time`: the time and the offset, if there is one. Only a
time without an offset must be read to its end. -/
def parse_time (cs : List ℕ) : Option ((ℕ × ℕ × ℕ × ℕ) × Option Int) := do
  let is_zone (c : ℕ) : Bool := c = 0x2b || c = 0x2d || c = 0x5a
  let zone := cs.dropWhile fun c => !is_zone c
  let (time, leftover) ← parse_hh_mm_ss_ff (cs.takeWhile fun c => !is_zone c) (zone.headD 0)
  match zone with
  | [] => if leftover then none else some (time, none)
  | sign :: zone =>
    if sign = 0x5a then if zone.headD 0 = 0 then some (time, some 0) else none
    else
      let ((h, m, s, us), leftover) ← parse_hh_mm_ss_ff zone 0
      let offset : Int := ((h * 3600 + m * 60 + s) * 1000000 + us : ℕ)
      if leftover ∨ 86400000000 ≤ offset then none
      else some (time, some (if sign = 0x2d then -offset else offset))

/-- The range checks of the `datetime` constructor. -/
def in_range (d : Datetime) : Bool :=
  1 ≤ d.year && d.year ≤ 9999 && 1 ≤ d.month && d.month ≤ 12 && 1 ≤ d.day &&
    d.day ≤ days_in_month d.year d.month && d.hour < 24 && d.minute < 60 && d.second < 60

/-- The UTF-8 encoding of a code point. -/
def utf8 (code : ℕ) : List ℕ :=
  if code < 0x80 then [code]
  else if code < 0x800 then [0xc0 + code / 0x40, 0x80 + code % 0x40]
  else if code < 0x10000 then
    [0xe0 + code / 0x1000, 0x80 + code / 0x40 % 0x40, 0x80 + code % 0x40]
  else
    [0xf0 + code / 0x40000, 0x80 + code / 0x1000 % 0x40, 0x80 + code / 0x40 % 0x40,
      0x80 + code % 0x40]

/-- `_sanitize_isoformat_str`: the separator may be a surrogate. -/
def sanitize (codes : List ℕ) : List ℕ :=
  match [7, 8, 10].find? fun i => is_surrogate (codes.getD i 0) with
  | none => codes
  | some i => codes.set i 0x54

/-- The length of the character a UTF-8 byte starts. -/
def char_length (byte : ℕ) : ℕ :=
  if byte < 0x80 then 1 else if byte < 0xe0 then 2 else if byte < 0xf0 then 3 else 4

/-- `datetime.fromisoformat(text)` on the code points of a text, `none` for its
`ValueError`. -/
def fromisoformat (codes : List ℕ) : Option Datetime := do
  if codes.length < 7 ∨ (sanitize codes).any is_surrogate then none
  else
    let cs := (sanitize codes).flatMap utf8
    let location ← separator_location cs
    let (year, month, day) ← parse_date (cs.take location)
    let ((hour, minute, second, microsecond), offset) ←
      if cs.length ≤ location then some ((0, 0, 0, 0), none)
      else parse_time (cs.drop (location + char_length (cs.getD location 0)))
    let d : Datetime := ⟨year, month, day, hour, minute, second, microsecond, offset⟩
    if d.in_range then some d else none

/-! ## Order -/

/-- The microseconds of the local time since the beginning of year one. -/
def local_microseconds (d : Datetime) : Int :=
  ((((ordinal d.year d.month d.day * 24 + d.hour) * 60 + d.minute) * 60 + d.second) * 1000000 +
    d.microsecond : ℕ)

/-- The instant of an aware value, in microseconds. -/
def instant (d : Datetime) : Option Int := d.offset.map fun o => d.local_microseconds - o

end Datetime

end AppContracts
