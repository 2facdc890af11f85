/-!
# Shortest decimals

The shortest decimal that reads back as a binary floating-point number. A positive number
`m * 2 ^ e` is the nearest one to every real in an interval around it; `shortest` takes the fewest
digits with which a decimal lies in that interval, and the nearest of those. All arithmetic is
exact.
-/
namespace TabCompletion.Number

/-- A positive binary number `mantissa * 2 ^ exponent`; `narrow` says that the gap below it is half
    the gap above it. -/
structure Binary where
  mantissa : Nat
  exponent : Int
  narrow : Bool
  deriving Repr

/-- A decimal `digits * 10 ^ exponent`. -/
structure Decimal where
  digits : Nat
  exponent : Int
  deriving Repr, DecidableEq

/-- The bit above the 52 stored bits of the mantissa, and the bit of the sign. -/
def hiddenBit : Nat := 4503599627370496
def signBit : Nat := 9223372036854775808

def Binary.ofBits (bits : Nat) : Binary :=
  let stored := bits % hiddenBit
  let exponent : Nat := bits / hiddenBit % 2048
  if exponent = 0 then ⟨stored,-1074,false⟩
  else ⟨stored + hiddenBit,(exponent : Int) - 1075,stored = 0 ∧ exponent > 1⟩

def powerUp (base : Nat) (e : Int) : Nat := Nat.pow base e.toNat

/-- The interval that rounds to a number, as numerators over `denominator`: least, the number
    itself, greatest. -/
structure Interval where
  least : Nat
  value : Nat
  greatest : Nat
  denominator : Nat
  closed : Bool

/-- The reals that are nearest to the number; the ends belong to it if the mantissa is even. -/
def Binary.interval (b : Binary) : Interval :=
  let unit := powerUp 2 b.exponent
  let value := 4 * b.mantissa * unit
  ⟨value - (if b.narrow then 1 else 2) * unit,value,value + 2 * unit,
    4 * powerUp 2 (-b.exponent),b.mantissa % 2 = 0⟩

def Interval.contains (i : Interval) (d : Decimal) : Bool :=
  let scaled := d.digits * powerUp 10 d.exponent * i.denominator
  let shift := powerUp 10 (-d.exponent)
  if i.closed then i.least * shift ≤ scaled && scaled ≤ i.greatest * shift
  else i.least * shift < scaled && scaled < i.greatest * shift

/-- How far `digits * 10 ^ e` is from the number, in units that are the same for equal `e`. -/
def Interval.distance (i : Interval) (d : Decimal) : Nat :=
  let scaled := d.digits * powerUp 10 d.exponent * i.denominator
  let value := i.value * powerUp 10 (-d.exponent)
  (scaled - value) + (value - scaled)

def Interval.below (i : Interval) (e : Int) : Decimal :=
  ⟨i.value * powerUp 10 (-e) / (i.denominator * powerUp 10 e),e⟩

/-- The exponent of the first digit: the greatest `p ≤ limit` for which `10 ^ p` is not above the
    number. -/
def Interval.order (i : Interval) : Nat → Int → Int
  | 0, p => p
  | fuel + 1, p => if (i.below p).digits = 0 then i.order fuel (p - 1) else p

/-- The decimal with `count` digits, or with the least greater number of digits up to 17, that lies
    in the interval; of two such decimals the nearer, of two equally near the even one. -/
def Interval.shortestFrom (i : Interval) (order : Int) : Nat → Nat → Decimal
  | 0, count => i.below (order - count + 1)
  | fuel + 1, count =>
    let low := i.below (order - count + 1)
    let high : Decimal := ⟨low.digits + 1,low.exponent⟩
    match i.contains low, i.contains high with
    | true, true =>
      let a := i.distance low
      let b := i.distance high
      if a < b || (a == b && low.digits % 2 == 0) then low else high
    | true, false => low
    | false, true => high
    | false, false => i.shortestFrom order fuel (count + 1)

/-- Trailing zeros moved into the exponent. -/
def Decimal.reduce : Nat → Decimal → Decimal
  | 0, d => d
  | fuel + 1, d =>
    if d.digits ≠ 0 ∧ d.digits % 10 = 0 then Decimal.reduce fuel ⟨d.digits / 10,d.exponent + 1⟩ else d

/-- The shortest decimal that reads back as the number. -/
def Binary.shortest (b : Binary) : Decimal :=
  let i := b.interval
  (i.shortestFrom (i.order 640 309) 17 1).reduce 400

/-- How a decimal is written: digits with a point where the exponent of the first digit is from -5
    to 15, otherwise one digit before the point and an exponent. -/
def Decimal.render (d : Decimal) : String :=
  let digits := (Nat.toDigits 10 d.digits)
  let n : Int := digits.length
  let point := n + d.exponent
  if 0 ≤ d.exponent ∧ point ≤ 16 then
    String.ofList (digits ++ List.replicate d.exponent.toNat '0') ++ ".0"
  else if 0 < point ∧ point ≤ 16 then
    String.ofList (digits.take point.toNat ++ '.' :: digits.drop point.toNat)
  else if -5 < point ∧ point ≤ 0 then
    String.ofList ('0' :: '.' :: List.replicate (-point).toNat '0' ++ digits)
  else
    let mantissa := match digits with
      | [] => []
      | [c] => [c]
      | c :: rest => c :: '.' :: rest
    String.ofList mantissa ++ "e" ++ toString (point - 1)

def renderFloat (f : Float) : String :=
  let bits := f.toBits.toNat
  let sign := if bits / signBit = 1 then "-" else ""
  let magnitude := bits % signBit
  if magnitude = 0 then sign ++ "0.0" else sign ++ (Binary.ofBits magnitude).shortest.render

end TabCompletion.Number
