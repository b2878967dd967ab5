import DesignTokens.Text.Quoted
import DesignTokens.Text.DecimalDigit

/-!
Why something in a document has no value, or a value has no text.
-/

namespace DesignTokens

inductive DataFault where
  | notWhole (base : Nat) (text : String)
  | notNumber (text : String)
  /-- A whole number is too long to be read or written; only a text has a length yet. -/
  | tooManyDigits (length : Option Nat)
  | tooLarge
  | year (number : Nat)
  | month
  | day
  | hour
  | minute
  | second
  | offset (shown : String)
  | character
  | hugeCharacter
  | truthWord
  | noText
  | moment
  | endless
  | tooDeep
deriving DecidableEq, Repr

def digitLimit : Nat := 4300

def nestingLimit : Nat := 480

def DataFault.message : DataFault → String
  | .notWhole base text =>
      "invalid literal for int() with base " ++ integerText base ++ ": " ++ quoted text
  | .notNumber text => "could not convert string to float: " ++ quoted text
  | .tooManyDigits length =>
      "Exceeds the limit (" ++ integerText digitLimit ++ " digits) for integer string conversion" ++
        (length.map fun count => ": value has " ++ integerText count ++ " digits").getD "" ++
        "; use sys.set_int_max_str_digits() to increase the limit"
  | .tooLarge => "the number is too large"
  | .year number => "year " ++ integerText number ++ " is out of range"
  | .month => "month must be in 1..12"
  | .day => "day is out of range for month"
  | .hour => "hour must be in 0..23"
  | .minute => "minute must be in 0..59"
  | .second => "second must be in 0..59"
  | .offset shown =>
      "offset must be a timedelta strictly between -timedelta(hours=24) and " ++
        "timedelta(hours=24), not " ++ shown ++ "."
  | .character => "chr() arg not in range(0x110000)"
  | .hugeCharacter => "the code is too large"
  | .truthWord => "the word is no truth value"
  | .noText => "the number has no digits"
  | .moment => "the text is no point in time"
  | .endless => "the collection contains itself"
  | .tooDeep => "the collections nest too deeply"

inductive ReadingFault where
  | malformed
  | data (fault : DataFault)
deriving DecidableEq, Repr

def wellFormed {α : Type} : Option α → Except ReadingFault α
  | some value => .ok value
  | none => .error .malformed

end DesignTokens
