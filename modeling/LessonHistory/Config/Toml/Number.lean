-- Numbers and times in a settings file. Single underscores may stand between digits. Integers
-- fit into 64 bits with a sign, and a float is not so large that it would count as infinite.
import LessonHistory.Config.Toml.Text
import LessonHistory.Config.Toml.Value

namespace LessonHistory

namespace Toml

def isDigit (c : Char) : Bool := '0' ≤ c && c ≤ '9'

/-- The value of digits in a base, from the left. Characters that are no digits are left
out. -/
def digitsValue (base : Nat) (digits : List Char) : Nat :=
  (digits.filterMap hexValue?).foldl (fun n d => base * n + d) 0

/-- The least and the greatest integer. -/
def integerRange : Int × Int := (-9223372036854775808, 9223372036854775807)

/-- The integer, if it is in range. -/
def integer? (n : Int) : Option Int :=
  if integerRange.1 ≤ n ∧ n ≤ integerRange.2 then some n else none

/-- Whether `mantissa * 10 ^ exponent` lies past the greatest finite double, counting in what
would be rounded up. The first two cases only spare the work on long powers. -/
def overflowsDouble (mantissa : Nat) (exponent : Int) : Bool :=
  let bound := Nat.pow 2 1024 - Nat.pow 2 970
  let size : Int := (Nat.toDigits 10 mantissa).length + exponent
  if mantissa = 0 ∨ size < 300 then false
  else if 320 < size then true
  else if 0 ≤ exponent then bound ≤ mantissa * Nat.pow 10 exponent.toNat
  else bound * Nat.pow 10 (-exponent).toNat ≤ mantissa

namespace Scan

def sign : Scan Char := one fun c => c = '+' || c = '-'

/-- Digits with single underscores between them. -/
def digitRun (isDigit : Char → Bool) : Scan (List Char) := do
  let first ← one isDigit
  let rest ← many (one isDigit <|> do
    skip '_'
    one isDigit)
  pure (first :: rest)

/-- Decimal digits without a leading zero. -/
def plainDigits : Scan (List Char) := do
  match ← peek with
  | some '0' => do
    skip '0'
    pure ['0']
  | _ => digitRun isDigit

def decimalInteger : Scan Int := do
  let sign ← optional sign
  let digits ← plainDigits
  let n := digitsValue 10 digits
  pure (if sign = some '-' then -n else n)

/-- An integer in another base, behind a zero and the letter of the base. -/
def basedInteger (letter : Char) (base : Nat) : Scan Int := do
  skipAll ['0', letter]
  let digits ← digitRun fun c => (hexValue? c).any (· < base)
  pure (digitsValue base digits)

def integer : Scan Value := do
  let n ← basedInteger 'x' 16 <|> basedInteger 'o' 8 <|> basedInteger 'b' 2 <|> decimalInteger
  match integer? n with
  | some n => pure (.integer n)
  | none => failure

/-- The digits behind the point of a float. -/
def fraction : Scan (List Char) := do
  skip '.'
  digitRun isDigit

/-- The exponent of a float. -/
def exponent : Scan Int := do
  let _ ← one fun c => c = 'e' || c = 'E'
  let sign ← optional sign
  let digits ← digitRun isDigit
  let n := digitsValue 10 digits
  pure (if sign = some '-' then -n else n)

/-- A float with digits. -/
def digitFloat : Scan Unit := do
  let sign ← optional sign
  let whole ← plainDigits
  let (part, power) ←
    (do pure ([], ← exponent)) <|> (do pure (← fraction, (← optional exponent).getD 0))
  if sign ≠ some '-' ∧ overflowsDouble (digitsValue 10 (whole ++ part)) (power - part.length) then
    failure

/-- Infinity, or what is no number. -/
def specialFloat : Scan Unit := do
  let _ ← optional sign
  skipAll ['i', 'n', 'f'] <|> skipAll ['n', 'a', 'n']

/-- A float. -/
def float : Scan Value := do
  pure (.float (String.ofList (← taken (digitFloat <|> specialFloat))))

/-! ## Times -/

/-- A number of exactly as many digits as asked for, in a range. -/
def fixedDigits (count least greatest : Nat) : Scan Nat := fun cs =>
  let digits := cs.take count
  let n := digitsValue 10 digits
  if digits.length = count ∧ digits.all isDigit ∧ least ≤ n ∧ n ≤ greatest then
    some (n, cs.drop count)
  else none

/-- The number of days of a month. -/
def daysOfMonth (year month : Nat) : Nat :=
  if month = 2 then
    if year % 4 = 0 ∧ (year % 100 ≠ 0 ∨ year % 400 = 0) then 29 else 28
  else if month = 4 ∨ month = 6 ∨ month = 9 ∨ month = 11 then 30
  else 31

/-- A day of the calendar. -/
def date : Scan Unit := do
  let year ← fixedDigits 4 0 9999
  skip '-'
  let month ← fixedDigits 2 1 12
  skip '-'
  let _ ← fixedDigits 2 1 (daysOfMonth year month)

/-- A time of the day. -/
def time : Scan Unit := do
  let _ ← fixedDigits 2 0 23
  skip ':'
  let _ ← fixedDigits 2 0 59
  skip ':'
  let _ ← fixedDigits 2 0 60
  let _ ← optional do
    skip '.'
    let _ ← one isDigit
    takeWhile isDigit

/-- The distance from universal time. -/
def offset : Scan Unit :=
  (do let _ ← one fun c => c = 'Z' || c = 'z') <|> do
    let _ ← sign
    let _ ← fixedDigits 2 0 23
    skip ':'
    let _ ← fixedDigits 2 0 59

/-- A day, a time, or a day and a time. -/
def dateTime : Scan Value := do
  let dayAndTime : Scan Unit := do
    date
    let _ ← optional do
      let _ ← one fun c => c = 'T' || c = 't' || c = ' '
      time
      let _ ← optional offset
  pure (.dateTime (String.ofList (← taken (dayAndTime <|> time))))

/-- A number or a time. -/
def number : Scan Value := dateTime <|> float <|> integer

end Scan

end Toml

end LessonHistory
