import DesignTokens.Data.Moment
import DesignTokens.Text.Ascii
import DesignTokens.Yaml.Tag

/-!
Days and points in time as YAML 1.1 writes them.
-/

namespace DesignTokens.Yaml

def leadingNumber? (least most : Nat) (text : List Char) : Option (Nat × List Char) :=
  let digits := (text.take most).takeWhile isAsciiDigit
  if digits.length < least then none
  else (numberIn? 10 digits).map fun number => (number, text.drop digits.length)

def separatedNumber? (separator : Char) (least most : Nat) (text : List Char) :
    Option (Nat × List Char) :=
  (dropLead [separator] text).bind (leadingNumber? least most)

def leadingDay? (text : List Char) : Option (Day × List Char) := do
  let (year, rest) ← leadingNumber? 4 4 text
  let (month, rest) ← separatedNumber? '-' 1 2 rest
  let (day, rest) ← separatedNumber? '-' 1 2 rest
  return (⟨year, month, day⟩, rest)

def afterDay? (text : List Char) : Option (List Char) :=
  match text with
  | 'T' :: rest => some rest
  | 't' :: rest => some rest
  | _ =>
      let rest := text.dropWhile fun c => c == ' ' || c == '\t'
      if rest.length = text.length then none else some rest

def microseconds (digits : List Char) : Nat :=
  let leading := digits.take 6
  ((numberIn? 10 leading).getD 0) * Nat.pow 10 (6 - leading.length)

def zone? (text : List Char) : Option (Option Int) :=
  match text with
  | [] => some none
  | _ =>
      match text.dropWhile fun c => c == ' ' || c == '\t' with
      | ['Z'] => some (some 0)
      | sign :: rest => do
          if sign ≠ '+' ∧ sign ≠ '-' then none
          else do
            let (hours, rest) ← leadingNumber? 1 2 rest
            let (minutes, rest) ←
              if rest.isEmpty then some (0, []) else separatedNumber? ':' 2 2 rest
            if !rest.isEmpty then none
            else
              let distance := Int.ofNat (60 * hours + minutes)
              return some (if sign = '-' then -distance else distance)
      | [] => none

def moment? (text : List Char) : Option Moment := do
  let (date, rest) ← leadingDay? text
  let (hour, rest) ← leadingNumber? 1 2 (← afterDay? rest)
  let (minute, rest) ← separatedNumber? ':' 2 2 rest
  let (second, rest) ← separatedNumber? ':' 2 2 rest
  let (fraction, rest) :=
    match rest with
    | '.' :: digits =>
        (digits.takeWhile isAsciiDigit, digits.dropWhile isAsciiDigit)
    | rest => ([], rest)
  let offset ← zone? rest
  return { date, hour, minute, second, microsecond := microseconds fraction, offset }

def day? (text : List Char) : Option Day :=
  match leadingDay? text with
  | some (date, []) => some date
  | _ => none

def isMoment (text : List Char) : Bool :=
  ((day? text).isSome && text.length = 10) || (moment? text).isSome

end DesignTokens.Yaml
