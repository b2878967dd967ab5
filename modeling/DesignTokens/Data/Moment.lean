import DesignTokens.Data.Fault

/-!
Days of the Gregorian calendar and points in time, with their text.
-/

namespace DesignTokens

def isLeapYear (year : Nat) : Bool :=
  year % 4 == 0 && (year % 100 != 0 || year % 400 == 0)

def daysOfMonth (year month : Nat) : Nat :=
  if month = 2 then if isLeapYear year then 29 else 28
  else if month = 4 ∨ month = 6 ∨ month = 9 ∨ month = 11 then 30
  else 31

structure Day where
  year : Nat
  month : Nat
  day : Nat
deriving DecidableEq, Repr

def Day.fault? (date : Day) : Option DataFault :=
  if date.year = 0 then some (.year date.year)
  else if date.month = 0 ∨ 12 < date.month then some .month
  else if date.day = 0 ∨ daysOfMonth date.year date.month < date.day then some .day
  else none

def paddedText (width number : Nat) : String :=
  let digits := decimalDigits number
  String.ofList (List.replicate (width - digits.length) '0' ++ digits)

namespace Day

def text (date : Day) : String :=
  "-".intercalate [paddedText 4 date.year, paddedText 2 date.month, paddedText 2 date.day]

def parts (date : Day) : List String :=
  [integerText date.year, integerText date.month, integerText date.day]

def shown (date : Day) : String :=
  "datetime.date(" ++ ", ".intercalate date.parts ++ ")"

end Day

def durationShown (minutes : Int) : String :=
  let days := minutes / 1440
  let seconds := minutes % 1440 * 60
  let parts :=
    (if days = 0 then [] else ["days=" ++ integerText days]) ++
      (if seconds = 0 then [] else ["seconds=" ++ integerText seconds])
  "datetime.timedelta(" ++ (if parts.isEmpty then "0" else ", ".intercalate parts) ++ ")"

structure Moment where
  date : Day
  hour : Nat
  minute : Nat
  second : Nat
  microsecond : Nat
  offset : Option Int
deriving DecidableEq, Repr

namespace Moment

def fault? (moment : Moment) : Option DataFault :=
  match moment.offset.filter fun minutes => 1440 ≤ minutes.natAbs with
  | some minutes => some (.offset (durationShown minutes))
  | none =>
      moment.date.fault?.or <|
        if 23 < moment.hour then some .hour
        else if 59 < moment.minute then some .minute
        else if 59 < moment.second then some .second
        else none

def offsetText (minutes : Int) : String :=
  (if minutes < 0 then "-" else "+") ++ paddedText 2 (minutes.natAbs / 60) ++ ":" ++
    paddedText 2 (minutes.natAbs % 60)

def text (moment : Moment) : String :=
  moment.date.text ++ " " ++
    ":".intercalate
      [paddedText 2 moment.hour, paddedText 2 moment.minute, paddedText 2 moment.second] ++
    (if moment.microsecond = 0 then "" else "." ++ paddedText 6 moment.microsecond) ++
    (moment.offset.map offsetText).getD ""

def zoneShown (minutes : Int) : String :=
  if minutes = 0 then "datetime.timezone.utc"
  else "datetime.timezone(" ++ durationShown minutes ++ ")"

def shown (moment : Moment) : String :=
  let fine := if moment.microsecond = 0 then [] else [moment.microsecond]
  let seconds := if moment.second = 0 ∧ fine.isEmpty then [] else moment.second :: fine
  let clock := (moment.hour :: moment.minute :: seconds).map fun number : Nat => integerText number
  let zone := (moment.offset.map fun minutes => "tzinfo=" ++ zoneShown minutes).toList
  "datetime.datetime(" ++ ", ".intercalate (moment.date.parts ++ clock ++ zone) ++ ")"

end Moment

end DesignTokens
