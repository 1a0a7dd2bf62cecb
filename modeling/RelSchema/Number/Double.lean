import RelSchema.Number.Integer

/-!
Numbers in binary floating point of double precision, computed exactly.
-/
namespace RelSchema

/-- A number `±mantissa · 2 ^ exponent`, or one of the values beyond the numbers. -/
inductive Double
  | finite (negative : Bool) (mantissa : Nat) (exponent : Int)
  | infinite (negative : Bool)
  | nan
  deriving DecidableEq, Repr

namespace Double

/-- A power; one if the exponent is negative. -/
def power (base : Nat) (exponent : Int) : Nat :=
  base.pow exponent.toNat

/-- The integer nearest to a quotient; of two nearest ones the even one. -/
def roundedQuotient (num den : Nat) : Nat :=
  let whole := num / den
  let twice := 2 * (num % den)
  if twice < den || (twice == den && whole % 2 == 0) then whole else whole + 1

/-- The quotient `num / den / 2 ^ exponent`, rounded. -/
def scaled (num den : Nat) (exponent : Int) : Nat :=
  roundedQuotient (num * power 2 (-exponent)) (den * power 2 exponent)

/-- The power of two at which a positive quotient has 53 binary digits, or the least one that
occurs. -/
def exponentFor (num den : Nat) : Int :=
  let top : Int := (num.log2 : Int) - den.log2
  let reaches := den * power 2 top ≤ num * power 2 (-top)
  max (if reaches then top - 52 else top - 53) (-1074)

def ofQuotient (negative : Bool) (num den : Nat) : Double :=
  if num == 0 then finite negative 0 0
  else
    let exponent := exponentFor num den
    let mantissa := scaled num den exponent
    let (mantissa, exponent) :=
      if mantissa == power 2 53 then (power 2 52, exponent + 1) else (mantissa, exponent)
    if exponent > 971 then infinite negative else finite negative mantissa exponent

/-- The double nearest to `±digits · 10 ^ exponent`. -/
def ofDecimal (negative : Bool) (digits : Nat) (exponent : Int) : Double :=
  let size := (digits.log2 : Int) / 3 + 1 + exponent
  if digits == 0 || size < -700 then finite negative 0 0
  else if exponent > 400 then infinite negative
  else ofQuotient negative (digits * power 10 exponent) (power 10 (-exponent))

def isFinite : Double → Bool
  | finite .. => true
  | _ => false

def negate : Double → Double
  | finite negative mantissa exponent => finite (!negative) mantissa exponent
  | infinite negative => infinite !negative
  | nan => nan

/-- The integer that a finite double is when counted in units of `2 ^ least`, which is no greater
than its own unit. -/
def inUnits (least : Int) (negative : Bool) (mantissa : Nat) (exponent : Int) : Int :=
  let count := mantissa * power 2 (exponent - least)
  if negative then -(count : Int) else count

/-- The sum, rounded. -/
def add : Double → Double → Double
  | nan, _ | _, nan => nan
  | infinite a, infinite b => if a == b then infinite a else nan
  | infinite a, _ | _, infinite a => infinite a
  | finite a m x, finite b n y =>
    let least := min x y
    let sum := inUnits least a m x + inUnits least b n y
    ofQuotient (sum < 0) (sum.natAbs * power 2 least) (power 2 (-least))

/-- The product with a natural number, which is rounded itself. Nothing is answered if the number is
beyond all doubles. -/
def timesNat? (count : Nat) : Double → Option Double
  | nan => some nan
  | infinite negative => some (infinite negative)
  | finite negative m x =>
    match ofQuotient false count 1 with
    | finite _ n y =>
      some (ofQuotient negative (m * n * power 2 (x + y)) (power 2 (-(x + y))))
    | _ => none

/-- The integer that the double is, if it is one. -/
def toInt? : Double → Option Int
  | finite negative mantissa exponent =>
    let unit := power 2 (-exponent)
    if mantissa % unit == 0 then
      let magnitude := mantissa / unit * power 2 exponent
      some (if negative then -(magnitude : Int) else magnitude)
    else none
  | _ => none

/-- The exact quotient of a positive double. -/
def quotient (mantissa : Nat) (exponent : Int) : Nat × Nat :=
  (mantissa * power 2 exponent, power 2 (-exponent))

/-- The integers below and above `num / den / 10 ^ place`, the nearer one first. -/
def neighbours (num den : Nat) (place : Int) : List Nat :=
  let num := num * power 10 (-place)
  let den := den * power 10 place
  let below := num / den
  if roundedQuotient num den == below then [below, below + 1] else [below + 1, below]

/-- The fewest digits, at least `count`, and the power of ten behind them, that read back as the
positive double; `top` is the power of ten of its first digit. -/
def shortestFrom (target : Double) (num den : Nat) (top : Int) :
    (fuel count : Nat) → Nat × Int
  | 0, count => (((neighbours num den (top - count)).head?).getD 0, top - count)
  | fuel + 1, count =>
    let place := top - count + 1
    match (neighbours num den place).find? fun digits => ofDecimal false digits place == target with
    | some digits => (digits, place)
    | none => shortestFrom target num den top fuel (count + 1)

/-- The power of ten of the first digit of a positive quotient. -/
def topPlace (num den : Nat) : Int :=
  let digitCount (n : Nat) : Int := (Nat.toDigits 10 n).length
  let guess := digitCount num - digitCount den
  let reaches := den * power 10 guess ≤ num * power 10 (-guess)
  if reaches then guess else guess - 1

/-- Digits with the decimal point behind the first `whole` of them. -/
def positional (digits : List Char) (whole : Int) : List Char :=
  if whole ≤ 0 then '0' :: '.' :: List.replicate (-whole).toNat '0' ++ digits
  else
    let count := whole.toNat
    if digits.length ≤ count then digits ++ List.replicate (count - digits.length) '0' ++ ['.', '0']
    else digits.take count ++ '.' :: digits.drop count

/-- One digit before the point, and the power of ten with a sign and at least two digits. -/
def scientific (digits : List Char) (power : Int) : List Char :=
  let fraction := if digits.length ≤ 1 then [] else '.' :: digits.drop 1
  let powerDigits := Nat.toDigits 10 power.natAbs
  digits.take 1 ++ fraction ++ 'e' :: (if power < 0 then '-' else '+') ::
    (if powerDigits.length < 2 then '0' :: powerDigits else powerDigits)

/-- The shortest text that reads back as the double. From ten to the minus fourth to below ten to
the sixteenth it has no power of ten. -/
def toText : Double → String
  | nan => "nan"
  | infinite negative => if negative then "-inf" else "inf"
  | finite negative mantissa exponent =>
    let sign := if negative then "-" else ""
    if mantissa == 0 then sign ++ "0.0"
    else
      let (num, den) := quotient mantissa exponent
      let target := ofQuotient false num den
      let (digits, place) := shortestFrom target num den (topPlace num den) 17 1
      let text := (Nat.toDigits 10 digits)
      let trimmed := (text.reverse.dropWhile (· == '0')).reverse
      let power : Int := place + text.length - 1
      sign ++ .ofList
        (if -4 ≤ power && power < 16 then positional trimmed (power + 1)
          else scientific trimmed power)

end Double

end RelSchema

/-!
Texts of floating-point numbers: a sign, digits of any script with a point in or around them, and a
power of ten, or one of the words for the values beyond the numbers.
-/
namespace RelSchema.Number

/-- The power of ten that a text is, of which there may be none. -/
def power? (s : List Char) : Option Int :=
  match s with
  | [] => some 0
  | mark :: rest =>
    let (isNegative, digits) := cutSign rest
    if (mark == 'e' || mark == 'E') && !digits.isEmpty && digits.all Char.isDigit then
      some (withSign isNegative (natOfDigits 10 digits))
    else none

/-- The number without a sign that a text spells. -/
def magnitude? (isNegative : Bool) (s : List Char) : Option Double :=
  let whole := s.takeWhile Char.isDigit
  let rest := s.dropWhile Char.isDigit
  let (places, rest) := match rest with
    | '.' :: rest => (rest.takeWhile Char.isDigit, rest.dropWhile Char.isDigit)
    | _ => ([], rest)
  if whole.isEmpty && places.isEmpty then none
  else (power? rest).map fun power =>
    .ofDecimal isNegative (natOfDigits 10 (whole ++ places)) (power - places.length)

def readDouble? (s : List Char) : Option Double :=
  let (isNegative, unsigned) := cutSign (asciiNumeral s)
  let word := String.ofList (unsigned.map Char.toLower)
  if word == "inf" || word == "infinity" then some (.infinite isNegative)
  else if word == "nan" then some .nan
  else magnitude? isNegative unsigned

end RelSchema.Number
