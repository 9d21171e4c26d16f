import EnvAudit.Toml.Text

/-!
# Numbers and dates of a TOML text

Integers have 64 bits and may be written in four bases.  Floating-point numbers
are read to the nearest value.  Of dates and times only the form is checked.
-/

namespace EnvAudit

namespace Toml

def isOctalDigit (c : Char) : Bool :=
  '0' ≤ c && c ≤ '7'

def isBinaryDigit (c : Char) : Bool :=
  c == '0' || c == '1'

/-- The least and the greatest integer. -/
def integerBounds : Int × Int :=
  (-9223372036854775808, 9223372036854775807)

/-- An integer of 64 bits. -/
def boundedInteger (value : Int) : Except String Int :=
  if integerBounds.2 < value then .error "number too large to fit in target type"
  else if value < integerBounds.1 then .error "number too small to fit in target type"
  else .ok value

/-- The number nearest to a decimal fraction; exponents far out of range are not
computed with. -/
def nearestFloat (negative : Bool) (digits : Nat) (exponent : Int) : Float :=
  let width := (Nat.toDigits 10 digits).length
  let size :=
    if digits = 0 || exponent + width < -400 then 0.0
    else if 400 < exponent then 1.0 / 0.0
    else Float.ofScientific digits (exponent < 0) exponent.natAbs
  if negative then -size else size

namespace Reader

/-- Digits after the first, in groups that underscores part. -/
def moreDigits (isDigit : Char → Bool) : Reader (List Char) :=
  many <| (one isDigit).orElse do
    let _ ← char '_'
    (one isDigit).final.expecting "digit"

/-- Digits in groups that underscores part. -/
def digitGroups (isDigit : Char → Bool) : Reader (List Char) := do
  let first ← one isDigit
  let others ← moreDigits isDigit
  return first :: others

/-- A sign, if there is one: whether it is a minus. -/
def sign : Reader Bool := do
  return (← optional (one fun c => c == '+' || c == '-')) == some '-'

/-- The sign and the digits of a decimal integer. -/
def decimalDigits : Reader (Bool × List Char) :=
  labelled "integer" do
    let negative ← sign
    let nonzero := do
      let first ← one fun c => '1' ≤ c && c ≤ '9'
      let others ← moreDigits isDigit
      return first :: others
    let digits ← nonzero.orElse do return [← one isDigit]
    return (negative, digits)

/-- An integer in the base that its first characters name. -/
def basedInteger (start : List Char) (base : Nat) (isDigit : Char → Bool) (label : String) :
    Reader Int :=
  let digits := labelled label do
    literal start
    (digitGroups isDigit).final
  (digits.check fun digits => boundedInteger (digitsValue base digits)).final

def integer : Reader Int
  | '0' :: 'x' :: rest =>
      basedInteger ['0', 'x'] 16 isHexDigit "hexadecimal integer" ('0' :: 'x' :: rest)
  | '0' :: 'o' :: rest =>
      basedInteger ['0', 'o'] 8 isOctalDigit "octal integer" ('0' :: 'o' :: rest)
  | '0' :: 'b' :: rest =>
      basedInteger ['0', 'b'] 2 isBinaryDigit "binary integer" ('0' :: 'b' :: rest)
  | chars =>
      match decimalDigits chars with
      | .done (negative, digits) rest =>
          let size : Int := digitsValue 10 digits
          match boundedInteger (if negative then -size else size) with
          | .ok value => .done value rest
          | .error cause => .stop { left := chars.length, cause := some cause }
      | .retry fault => .retry fault
      | .stop fault => .stop fault

/-- The digits behind a point. -/
def fraction : Reader (List Char) := do
  let _ ← char '.'
  (digitGroups isDigit).final.expecting "digit"

/-- A power of ten. -/
def exponent : Reader Int := do
  let _ ← one fun c => c == 'e' || c == 'E'
  let negative ← sign
  let digits ← (digitGroups isDigit).final
  let size : Int := digitsValue 10 digits
  return if negative then -size else size

/-- A number with a fraction or an exponent. -/
def finiteFloat : Reader Float := do
  let (negative, whole) ← decimalDigits
  let (behind, power) ← (do return ([], ← exponent)).orElse do
    let behind ← fraction
    return (behind, (← optional exponent).getD 0)
  return nearestFloat negative (digitsValue 10 (whole ++ behind)) (power - behind.length)

/-- A number that is not too large. -/
def boundedFloat : Reader Float := fun chars =>
  match finiteFloat chars with
  | .done value rest =>
      if value == 1.0 / 0.0 then .stop { left := chars.length } else .done value rest
  | reply => reply

def infinity : Reader Float := do
  literal ['i', 'n', 'f']
  return 1.0 / 0.0

def notANumber : Reader Float := do
  literal ['n', 'a', 'n']
  return 0.0 / 0.0

/-- A value that is no finite number. -/
def specialFloat : Reader Float := do
  let negative ← sign
  let value ← infinity.orElse notANumber
  return if negative then -value else value

def float : Reader Float :=
  labelled "floating-point number" (boundedFloat.orElse specialFloat)

/-- Two digits that name a number within bounds. -/
def twoDigits (least greatest : Nat) : Reader Nat :=
  (exactly 2 isDigit).check fun digits =>
    let value := digitsValue 10 digits
    if least ≤ value && value ≤ greatest then .ok value else .error outOfRange

/-- The number of days of a month. -/
def daysOfMonth (year month : Nat) : Nat :=
  let isLeap := year % 4 = 0 && (year % 100 ≠ 0 || year % 400 = 0)
  if month = 2 then (if isLeap then 29 else 28)
  else if [4, 6, 9, 11].contains month then 30
  else 31

def date : Reader Unit := do
  let year ← exactly 4 isDigit
  let _ ← char '-'
  final do
    let month ← twoDigits 1 12
    let _ ← char '-'
    let _ ← (twoDigits 1 31).check fun day =>
      if day ≤ daysOfMonth (digitsValue 10 year) month then .ok day else .error outOfRange

def time : Reader Unit := do
  let _ ← twoDigits 0 23
  let _ ← char ':'
  final do
    let _ ← twoDigits 0 59
    let _ ← char ':'
    let _ ← twoDigits 0 60
    let _ ← optional do
      let _ ← char '.'
      someRun isDigit

/-- The distance from the time of the meridian of origin. -/
def timeOffset : Reader Unit :=
  labelled "time offset" <|
    (do let _ ← one fun c => c == 'Z' || c == 'z').orElse do
      let _ ← one fun c => c == '+' || c == '-'
      final do
        let _ ← twoDigits 0 23
        let _ ← char ':'
        let _ ← twoDigits 0 59

/-- A date, a time or both. -/
def dateTime : Reader Unit :=
  (labelled "date-time" do
    date
    let _ ← optional do
      let _ ← one fun c => c == 'T' || c == 't' || c == ' '
      time
      optional timeOffset).orElse (labelled "time" time)

end Reader

end Toml

end EnvAudit
