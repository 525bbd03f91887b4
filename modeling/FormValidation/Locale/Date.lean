import FormValidation.Calendar.Basic
import FormValidation.Locale.Basic
import FormValidation.Number.Integer
import FormValidation.Text.Numeral

/-!
# Reading dates

A date is read in three steps.  The international format is tried first and the format of the locale
next; the format that matches says which groups hold which components (`DateParts.ofCaptures`).  The
components are then checked in the order month, day, time, year (`DateParts.instant`), and the first
one that is out of range decides the error.  Text behind a match is ignored.

Components are integers of 64 bits, and so are the sums and differences of them.  What becomes of one that
does not fit is left open at first (`DateParts.instantBy`).
-/

namespace FormValidation

/-- Why a text is no date. -/
inductive DateError where
  | noMatch
  | invalidNumber
  | monthOutOfRange
  | dayOutOfRange
  | timeOutOfRange
  | yearOutOfRange
  deriving Repr, DecidableEq

def DateError.message : DateError → String
  | .noMatch => "input matches neither the international nor the locale date format"
  | .invalidNumber => "date component is not a valid number"
  | .monthOutOfRange => "month out of range"
  | .dayOutOfRange => "day out of range for month"
  | .timeOutOfRange => "time of day out of range"
  | .yearOutOfRange => "year out of range"

/-! ## Components -/

/-- The components of a date as numbers, not yet checked. -/
structure DateParts where
  year : Int
  month : Int
  day : Int
  hour : Int := 0
  minute : Int := 0
  second : Int := 0
  deriving Repr, DecidableEq

namespace DateParts

/-- The number in a group, `none` if there is no such group or it took no part in the match. -/
def optional (captures : Pattern.Captures) (group : Option Nat) : Except DateError (Option Int) :=
  match group.bind captures.text? with
  | none => .ok none
  | some digits =>
      match Text.signed64? digits with
      | none => .error .invalidNumber
      | some n => .ok (some n)

/-- The number in a group that must have taken part in the match. -/
def required (captures : Pattern.Captures) (group : Nat) : Except DateError Int := do
  match ← optional captures (some group) with
  | none => .error .invalidNumber
  | some n => .ok n

/-- The components that the groups hold.  Minutes and seconds count only together with an hour. -/
def ofCaptures (groups : DateGroups) (captures : Pattern.Captures) : Except DateError DateParts := do
  let year ← required captures groups.year
  let month ← required captures groups.month
  let day ← required captures groups.day
  match ← optional captures groups.hour with
  | none => return { year, month, day }
  | some hour =>
      -- Missing minutes and seconds are none.
      let minute ← optional captures groups.minute
      let second ← optional captures groups.second
      return { year, month, day, hour, minute := minute.getD 0, second := second.getD 0 }

variable {m : Type → Type} [Monad m]

/-- The instant that is a time of a day, if there is such a day. -/
def atTime (date : Option Date) (hour minute second : Int) : Except DateError Instant :=
  match date with
  | none => .error .yearOutOfRange
  | some d =>
      let time := do
        d.at? (← Integer.unsigned? 32 hour) (← Integer.unsigned? 32 minute)
          (← Integer.unsigned? 32 second)
      match time with
      | none => .error .timeOutOfRange
      | some i => .ok i

/-- The instant of components that were checked, all but the year, with the month counted from 0. -/
def assembleBy (fit : Int → m Int) (year month0 day hour minute second : Int) :
    m (Except DateError Instant) := do
  match Integer.signed? 32 year with
  | none => return .error .yearOutOfRange
  | some year =>
      match Integer.unsigned? 32 (← fit (month0 + 1)) with
      | none => return .error .monthOutOfRange
      | some month =>
          match Integer.unsigned? 64 (← fit (day - 1)) with
          | none => return .error .dayOutOfRange
          | some days =>
              return atTime ((Date.first? year month).bind fun d => d.later? days) hour minute second

/-- Checks the components and makes an instant of them.  A sum or difference of 64 bits comes to what `fit`
makes of it. -/
def instantBy (fit : Int → m Int) (p : DateParts) : m (Except DateError Instant) := do
  let month0 ← fit (p.month - 1)
  match Calendar.daysInMonth? p.year month0 with
  | none => return .error .monthOutOfRange
  | some days =>
      if p.day < 1 ∨ days < p.day then return .error .dayOutOfRange
      else if p.hour < 0 ∨ 23 < p.hour ∨ p.minute < 0 ∨ 59 < p.minute ∨ p.second < 0 ∨ 59 < p.second
      then return .error .timeOutOfRange
      else assembleBy fit p.year month0 p.day p.hour p.minute p.second

/-- Checks the components and makes an instant of them. -/
def instant (p : DateParts) : Except DateError Instant :=
  Id.run (p.instantBy fun i => pure (Integer.wrapped i))

end DateParts

/-! ## Dates -/

/-- What the groups of the format matched, and which groups hold which components. -/
def DateFormat.match? (f : DateFormat) (text : String) : Option (Pattern.Captures × DateGroups) :=
  (f.pattern.captures? text).map fun captures => (captures, f.groups)

/-- Reads a date in the international format or, if the text does not match it, in that of the
locale. -/
def Locale.readDate (l : Locale) (text : String) : Except DateError Instant := do
  -- A match decides the format, even if its components turn out to be out of range.
  match (DateFormat.international.match? text).or (l.dateFormat.match? text) with
  | none => .error .noMatch
  | some (captures, groups) =>
      let parts ← DateParts.ofCaptures groups captures
      parts.instant

def Locale.date? (l : Locale) (text : String) : Option Instant :=
  (l.readDate text).toOption

end FormValidation
