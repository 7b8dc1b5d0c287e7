/-!
# The shortest decimal of a double

Among the decimals that read back as a given double, the one with the fewest digits is written, and
of several with that many digits the nearest one. They form an interval around the double, with its
ends included exactly if the mantissa is even. For each number of digits there are only two
candidates, the neighbours of the value on the decimal grid of that width: if the interval holds any
point of the grid, it holds one of the two. All comparisons are between integers, brought to one
denominator first.
-/

namespace TestMigration.Number

/-!
### Doubles as exact numbers

A finite double is an integer times a power of two. Everything that has to be exact (the shortest
decimal, rounding to an integer, reading a hexadecimal literal) is done on that pair in unbounded
arithmetic; the machine's own operations are used for products alone.
-/

def twoTo (n : Nat) : Nat := Nat.pow 2 n

def tenTo (n : Nat) : Nat := Nat.pow 10 n

/-- A double taken apart. -/
inductive Reading where
  /-- `mantissa * 2 ^ power`, negated if `negative`. -/
  | finite (negative : Bool) (mantissa : Nat) (power : Int)
  | infinite (negative : Bool)
  | undefined
  deriving DecidableEq, Repr

/-- The parts of a double: its sign bit, eleven exponent bits and fifty-two fraction bits. -/
def Reading.ofFloat (x : Float) : Reading :=
  let bits := x.toBits.toNat
  let negative := bits / twoTo 63 == 1
  let exponent := bits / twoTo 52 % 2048
  let fraction := bits % twoTo 52
  if exponent == 2047 then if fraction == 0 then .infinite negative else .undefined
  else if exponent == 0 then .finite negative fraction (-1074)
  else .finite negative (fraction + twoTo 52) (Int.ofNat exponent - 1075)

/-- The nearest integer to a quotient, a half going to the even one. -/
def divHalfEven (num den : Nat) : Nat :=
  let q := num / den
  let twice := 2 * (num % den)
  if twice < den then q else if den < twice then q + 1 else q + q % 2

/-- `mantissa * 2 ^ power` rounded to an integer, a half to the even one. -/
def roundScaled (mantissa : Nat) (power : Int) : Nat :=
  match power with
  | .ofNat p => mantissa * twoTo p
  | .negSucc p => divHalfEven mantissa (twoTo (p + 1))

inductive NoInteger where
  | infinite
  | undefined
  deriving DecidableEq, Repr

/-- The integer nearest to a double, a half going to the even one. -/
def roundHalfEven (x : Float) : Except NoInteger Int :=
  match Reading.ofFloat x with
  | .finite negative m p =>
    let n := Int.ofNat (roundScaled m p)
    .ok (if negative then -n else n)
  | .infinite _ => .error .infinite
  | .undefined => .error .undefined

/-- The integer a double is equal to, if it is one. -/
def exactInt? (x : Float) : Option Int :=
  match Reading.ofFloat x with
  | .finite negative m p =>
    let n? := match p with
      | .ofNat p => some (m * twoTo p)
      | .negSucc p => if m % twoTo (p + 1) == 0 then some (m / twoTo (p + 1)) else none
    n?.map fun n => if negative then -Int.ofNat n else Int.ofNat n
  | _ => none

def isFinite (x : Float) : Bool :=
  match Reading.ofFloat x with
  | .finite .. => true
  | _ => false

/-- The double nearest to `mantissa * 2 ^ power`, a half going to the even one; none beyond the
largest double. -/
def ofScaled? (mantissa : Nat) (power : Int) : Option Float :=
  if mantissa == 0 then some (Float.ofBits 0)
  else
    -- the exponent of the unit in the last place: fifty-three bits, but never below the subnormals
    let last : Int := max (Int.ofNat mantissa.log2 - 52 + power) (-1074)
    let m := roundScaled mantissa (power - last)
    -- rounding up may carry into a fifty-fourth bit
    let (m, last) := if m == twoTo 53 then (twoTo 52, last + 1) else (m, last)
    if m < twoTo 52 then some (Float.ofBits (UInt64.ofNat m))
    else if last > 971 then none
    else some (Float.ofBits (UInt64.ofNat ((last + 1075).toNat * twoTo 52 + (m - twoTo 52))))

/-- The double nearest to an integer, unless it is too large. -/
def ofInt? (n : Int) : Option Float :=
  (ofScaled? n.natAbs 0).map fun x => if n < 0 then -x else x

/-- A positive number and the interval of numbers that read back as it, over one denominator. -/
structure Rounding where
  value : Nat
  low : Nat
  high : Nat
  den : Nat
  closed : Bool
  deriving Repr

/-- The interval of `mantissa * 2 ^ power`. Doubles lie twice as close below a power of two. -/
def Rounding.of (mantissa : Nat) (power : Int) : Rounding :=
  let below := if mantissa == twoTo 52 && power > -1074 then 1 else 2
  let (num, den) := match power - 2 with
    | .ofNat p => (twoTo p, 1)
    | .negSucc p => (1, twoTo (p + 1))
  { value := 4 * mantissa * num
    low := (4 * mantissa - below) * num
    high := (4 * mantissa + 2) * num
    den := den
    closed := mantissa % 2 == 0 }

/-- Whether a number lies in the interval. -/
def Rounding.holds (r : Rounding) (n : Nat) : Bool :=
  if r.closed then r.low ≤ n && n ≤ r.high else r.low < n && n < r.high

/-- All four numbers times the same factor. -/
def Rounding.scale (r : Rounding) (k : Nat) : Rounding :=
  { r with value := r.value * k, low := r.low * k, high := r.high * k }

/-- The interval measured in units of `10 ^ exponent`. -/
def Rounding.inUnits (r : Rounding) (exponent : Int) : Rounding :=
  match exponent with
  | .ofNat e => { r with den := r.den * tenTo e }
  | .negSucc e => r.scale (tenTo (e + 1))

/-- The integer next to the value that reads back: of two the nearer, and of equally near ones the
even one. -/
def Rounding.candidate? (r : Rounding) : Option Nat :=
  let d := r.value / r.den
  let down := d * r.den
  let up := (d + 1) * r.den
  match r.holds down, r.holds up with
  | true, true =>
    let left := r.value - down
    let right := up - r.value
    some (if left < right then d else if right < left then d + 1 else d + d % 2)
  | true, false => some d
  | false, true => some (d + 1)
  | false, false => none

def digitCount (n : Nat) : Nat := (Nat.toDigits 10 n).length

/-- The `e` with `10 ^ e ≤ num / den < 10 ^ (e + 1)`, for a positive quotient. -/
def decimalExponent (num den : Nat) : Int :=
  if den ≤ num then Int.ofNat (digitCount (num / den)) - 1
  else
    -- the first power of ten that lifts the quotient to one
    let k := digitCount (den / num)
    if den ≤ num * tenTo (k - 1) then 1 - Int.ofNat k else -Int.ofNat k

/-- The first of `steps` widths from `width` on with a decimal that reads back: an integer and its
exponent. -/
def shortestFrom (r : Rounding) (exponent : Int) : Nat → Nat → Option (Nat × Int)
  | 0, _ => none
  | steps + 1, width =>
    let unit := exponent - Int.ofNat width + 1
    match (r.inUnits unit).candidate? with
    | some d => some (d, unit)
    | none => shortestFrom r exponent steps (width + 1)

/-- The shortest decimal that reads back as `mantissa * 2 ^ power`, as an integer and a power of
ten. Seventeen digits are enough. -/
def shortest (mantissa : Nat) (power : Int) : Nat × Int :=
  let r := Rounding.of mantissa power
  (shortestFrom r (decimalExponent r.value r.den) 17 1).getD (0, 0)

/-! ### Writing it -/

/-- The layout of decimals: `lowest` and `highest` bound the exponents that are written out, and
others have at least `exponentDigits` digits. -/
structure Layout where
  lowest : Int
  highest : Int
  exponentDigits : Nat
  deriving Repr

/-- Written out are decimals from a ten-thousandth up to sixteen digits before the point. -/
def Layout.standard : Layout := { lowest := -4, highest := 15, exponentDigits := 2 }

/-- Digits without the zeros at the end, keeping one digit. -/
def trimZeros (digits : List Char) : List Char :=
  match (digits.reverse.dropWhile (· == '0')).reverse with
  | [] => ['0']
  | kept => kept

/-- An exponent with its sign and at least `width` digits. -/
def exponentText (width : Nat) (e : Int) : List Char :=
  let digits := Nat.toDigits 10 e.natAbs
  (if e < 0 then '-' else '+') :: (List.replicate (width - digits.length) '0' ++ digits)

/-- `digits`, with the point after the first one, times `10 ^ exponent`. -/
def writeDecimal (layout : Layout) (digits : List Char) (exponent : Int) : List Char :=
  if exponent < layout.lowest ∨ layout.highest < exponent then
    let fraction := digits.drop 1
    digits.take 1 ++ (if fraction.isEmpty then [] else '.' :: fraction) ++
      'e' :: exponentText layout.exponentDigits exponent
  else
    match exponent with
    | .negSucc e => '0' :: '.' :: (List.replicate e '0' ++ digits)
    | .ofNat e =>
      let whole := digits.take (e + 1)
      let fraction := digits.drop (e + 1)
      whole ++ List.replicate (e + 1 - whole.length) '0' ++
        '.' :: (if fraction.isEmpty then ['0'] else fraction)

/-- The shortest decimal of a double, with a point or an exponent. -/
def decimalText (x : Float) : String :=
  match Reading.ofFloat x with
  | .undefined => "nan"
  | .infinite negative => if negative then "-inf" else "inf"
  | .finite negative m p =>
    let body :=
      if m == 0 then ['0', '.', '0']
      else
        let (d, unit) := shortest m p
        let digits := Nat.toDigits 10 d
        writeDecimal .standard (trimZeros digits) (unit + Int.ofNat digits.length - 1)
    .ofList (if negative then '-' :: body else body)

end TestMigration.Number
