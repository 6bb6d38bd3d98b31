/-! The fewest decimal digits that read back as a given 64-bit binary floating-point number. -/

namespace Portrait

/-- A positive number `significand * 2 ^ exponent`.  Below a power of two the next number is half as
far away as above it. -/
structure Binary where
  significand : Nat
  exponent : Int
  narrowBelow : Bool

def Binary.ofBits (b : UInt64) : Binary :=
  let e := ((b >>> 52) &&& 0x7FF).toNat
  let f := (b &&& 0xFFFFFFFFFFFFF).toNat
  if e = 0 then ⟨f, -1074, false⟩ else ⟨0x10000000000000 + f, (e : Int) - 1075, f = 0 ∧ 1 < e⟩

structure Decimal where
  digits : Nat
  exponent : Int
  deriving DecidableEq

def wholePower (base : Nat) (k : Int) : Nat := Nat.pow base k.toNat

def Decimal.compareTo (d : Decimal) (n : Nat) (k : Int) : Ordering :=
  compare (d.digits * wholePower 10 d.exponent * wholePower 2 (-k))
    (n * wholePower 2 k * wholePower 10 (-d.exponent))

def Binary.isNearest (x : Binary) (d : Decimal) : Bool :=
  let low := d.compareTo (4 * x.significand - if x.narrowBelow then 1 else 2) (x.exponent - 2)
  let high := d.compareTo (4 * x.significand + 2) (x.exponent - 2)
  let closed := x.significand % 2 = 0
  (low = .gt || closed && low = .eq) && (high = .lt || closed && high = .eq)

def Binary.leadingExponent (x : Binary) : Int :=
  let num := x.significand * wholePower 2 x.exponent
  let den := wholePower 2 (-x.exponent)
  if den ≤ num then (Nat.toDigits 10 (num / den)).length - 1
  else -(((List.range 325).find? fun j => den ≤ num * Nat.pow 10 j).getD 325 : Int)

def Binary.floorAt (x : Binary) (k : Int) : Decimal :=
  ⟨x.significand * wholePower 2 x.exponent * wholePower 10 (-k) /
    (wholePower 2 (-x.exponent) * wholePower 10 k), k⟩

/-- Of the multiples of `10 ^ k` around the number, the nearest that reads back as it; of two
equally near, the even one. -/
def Binary.nearestAt (x : Binary) (k : Int) : Option Decimal :=
  let below := x.floorAt k
  let above := { below with digits := below.digits + 1 }
  let middle : Decimal := ⟨10 * below.digits + 5, k - 1⟩
  let upper := match middle.compareTo x.significand x.exponent with
    | .lt => true
    | .gt => false
    | .eq => below.digits % 2 = 1
  (if upper then [above, below] else [below, above]).find? x.isNearest

def Decimal.trim (d : Decimal) : Decimal :=
  if _h : d.digits % 10 = 0 ∧ d.digits ≠ 0 then trim ⟨d.digits / 10, d.exponent + 1⟩ else d
termination_by d.digits
decreasing_by omega

def Binary.shortest (x : Binary) : Decimal :=
  let e := x.leadingExponent
  (((List.range 17).findSome? fun (n : Nat) => x.nearestAt (e - n)).getD (x.floorAt (e - 16))).trim

/-- Numbers from `1e-5` below `1e16` are written out, with at least one digit after the point; others
have one digit before it and a signed exponent. -/
def Decimal.render (d : Decimal) : List Char :=
  let ds := Nat.toDigits 10 d.digits
  let lead : Int := d.exponent + ds.length - 1
  if -5 ≤ lead ∧ lead ≤ 15 then
    if 0 ≤ d.exponent then ds ++ List.replicate d.exponent.toNat '0' ++ ['.', '0']
    else if 0 ≤ lead then ds.take (lead.toNat + 1) ++ '.' :: ds.drop (lead.toNat + 1)
    else ['0', '.'] ++ List.replicate (-lead - 1).toNat '0' ++ ds
  else
    let mantissa := if ds.length = 1 then ds else ds.take 1 ++ '.' :: ds.drop 1
    mantissa ++ 'e' :: (if lead < 0 then '-' else '+') :: Nat.toDigits 10 lead.natAbs

def Decimal.renderBits (b : UInt64) : String :=
  let sign := if b >>> 63 = 1 then ['-'] else []
  let magnitude := b &&& 0x7FFFFFFFFFFFFFFF
  String.ofList (sign ++ if magnitude = 0 then ['0', '.', '0']
    else (Binary.ofBits magnitude).shortest.render)

end Portrait
