/-!
# Shortest decimals

Of the decimals that are nearer to a floating-point number than to any other,
or as near, the shortest ones are taken, and of those the nearest.
-/

namespace EnvAudit

namespace Decimal

/-- A positive fraction. -/
structure Ratio where
  numerator : Nat
  denominator : Nat

namespace Ratio

def le (first second : Ratio) : Bool :=
  first.numerator * second.denominator ≤ second.numerator * first.denominator

def lt (first second : Ratio) : Bool :=
  !second.le first

/-- A number times powers of two and ten. -/
def scaled (value : Nat) (two ten : Int) : Ratio where
  numerator := value * Nat.pow 2 two.toNat * Nat.pow 10 ten.toNat
  denominator := Nat.pow 2 (-two).toNat * Nat.pow 10 (-ten).toNat

def floor (ratio : Ratio) : Nat :=
  ratio.numerator / ratio.denominator

end Ratio

/-- A positive finite number: a whole number times a power of two. -/
structure Binary where
  significand : Nat
  exponent : Int

/-- The number that the bits of a floating-point number stand for, without its
sign. -/
def Binary.ofBits (bits : Nat) : Binary :=
  let fraction : Nat := bits % Nat.pow 2 52
  let biased : Nat := bits / Nat.pow 2 52 % Nat.pow 2 11
  if biased = 0 then ⟨fraction, -1074⟩ else ⟨fraction + Nat.pow 2 52, (biased : Int) - 1075⟩

/-- A decimal reads back as the number if it lies between these two, which count
where the significand is even. -/
def bounds (value : Binary) : Ratio × Ratio :=
  let below := if value.significand = Nat.pow 2 52 && -1074 < value.exponent then 1 else 2
  (Ratio.scaled (4 * value.significand - below) (value.exponent - 2) 0,
    Ratio.scaled (4 * value.significand + 2) (value.exponent - 2) 0)

/-- The decimal `digits` times a power of ten reads back as the number. -/
def readsBack (value : Binary) (digits : Nat) (power : Int) : Bool :=
  let decimal := Ratio.scaled digits 0 power
  let (low, high) := bounds value
  if value.significand % 2 = 0 then
    low.le decimal && decimal.le high
  else
    low.lt decimal && decimal.lt high

/-- The least power of ten that is greater than the number, among the powers
from `power` on. -/
def magnitudeFrom (value : Binary) : (fuel : Nat) → (power : Int) → Int
  | 0, power => power
  | fuel + 1, power =>
      if (Ratio.scaled value.significand value.exponent 0).lt (Ratio.scaled 1 0 power) then
        power
      else
        magnitudeFrom value fuel (power + 1)

/-- A decimal of the given number of digits that reads back, if there is one:
the digits and the power of ten. -/
def withDigits? (value : Binary) (magnitude : Int) (count : Nat) : Option (Nat × Int) :=
  let power := magnitude - count
  let scaled := Ratio.scaled value.significand value.exponent (-power)
  let down := scaled.floor
  let remainder := scaled.numerator % scaled.denominator
  let downIsNear := 2 * remainder < scaled.denominator ||
    (2 * remainder = scaled.denominator && down % 2 = 0)
  let (first, second) := if downIsNear then (down, down + 1) else (down + 1, down)
  if readsBack value first power then some (first, power)
  else if readsBack value second power then some (second, power)
  else none

/-- The shortest decimal that reads back.  Seventeen digits are always enough.
A single digit may have been rounded up to ten. -/
def shortest (value : Binary) : Nat × Int :=
  let magnitude := magnitudeFrom value 640 (-323)
  let (digits, power) :=
    ((List.range 17).findSome? fun count => withDigits? value magnitude (count + 1)).getD
      (value.significand, 0)
  if digits = 10 then (1, power + 1) else (digits, power)

/-- Digits times a power of ten, with a point and at least one digit on either
side of it. -/
def positional (digits : Nat) (power : Int) : List Char :=
  let shown := Nat.toDigits 10 digits
  if 0 ≤ power then
    shown ++ List.replicate power.toNat '0' ++ ['.', '0']
  else
    let places := (-power).toNat
    let padded := List.replicate (places + 1 - shown.length) '0' ++ shown
    padded.take (padded.length - places) ++ '.' :: padded.drop (padded.length - places)

/-- A floating-point number with all its digits before the point and the fewest
behind it. -/
def ofFloat (value : Float) : String :=
  let bits := value.toBits.toNat
  let sign := if bits / Nat.pow 2 63 = 1 then "-" else ""
  if value.isNaN then "NaN"
  else if value.isInf then sign ++ "inf"
  else if bits % Nat.pow 2 63 = 0 then sign ++ "0.0"
  else
    let (digits, power) := shortest (.ofBits (bits % Nat.pow 2 63))
    sign ++ String.ofList (positional digits power)

end Decimal

end EnvAudit
