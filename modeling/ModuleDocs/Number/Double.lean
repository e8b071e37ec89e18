/-!
# Binary floating-point numbers

Numbers with a mantissa of 53 bits, as exact values `mantissa * 2 ^ exponent`: rounding of a fraction,
and two decimal forms, the shortest one that reads back and the one with six significant digits.
-/
set_option autoImplicit false

namespace ModuleDocs

/-- A binary floating-point number. A finite one is `mantissa * 2 ^ exponent`, where the mantissa has
53 bits unless the exponent is the least one, -1074. -/
inductive Double where
  | finite (negative : Bool) (mantissa : Nat) (exponent : Int)
  | infinite (negative : Bool)
  | notANumber
deriving Repr, DecidableEq

namespace Double

def zero (negative : Bool) : Double := .finite negative 0 (-1074)

/-! ## Rounding -/

/-- The quotient rounded to the nearest natural number, a tie to the even one. -/
def roundQuotient (num den : Nat) : Nat :=
  let q := num / den
  let r := num % den
  if 2 * r < den then q else if 2 * r > den then q + 1 else q + q % 2

/-- Numerator and denominator of `n * base ^ e`. -/
def scaled (n base : Nat) (e : Int) : Nat × Nat :=
  if 0 ≤ e then (n * Nat.pow base e.toNat, 1) else (n, Nat.pow base (-e).toNat)

def ofRatio (negative : Bool) (num den : Nat) : Double :=
  if num = 0 then zero negative
  else
    let guess : Int := (num.log2 : Int) - den.log2 - 53
    let floorAt := fun (e : Int) => if 0 ≤ e then num / (den * Nat.pow 2 e.toNat) else num * Nat.pow 2 (-e).toNat / den
    let e :=
      if floorAt guess < Nat.pow 2 53 then guess
      else if floorAt (guess + 1) < Nat.pow 2 53 then guess + 1
      else guess + 2
    let e := max e (-1074)
    let m :=
      if 0 ≤ e then roundQuotient num (den * Nat.pow 2 e.toNat)
      else roundQuotient (num * Nat.pow 2 (-e).toNat) den
    let (m, e) := if m = Nat.pow 2 53 then (Nat.pow 2 52, e + 1) else (m, e)
    if e > 971 then .infinite negative else .finite negative m e

def digitCount (n : Nat) : Nat := (Nat.toDigits 10 n).length

/-- The number nearest to `digits * 10 ^ e`. -/
def ofDecimal (negative : Bool) (digits : Nat) (e : Int) : Double :=
  let size : Int := digitCount digits + e
  if digits = 0 ∨ size < -330 then zero negative
  else if size > 310 then .infinite negative
  else
    let (num, den) := scaled digits 10 e
    ofRatio negative num den

/-! ## Decimal digits -/

/-- The decimal place of the first digit of a positive fraction: it is at least `10 ^ p` and less than
`10 ^ (p + 1)`. -/
def leadingPlace (num den : Nat) : Int :=
  let guess : Int := (digitCount num : Int) - digitCount den
  let atLeast := if 0 ≤ guess then den * Nat.pow 10 guess.toNat ≤ num else den ≤ num * Nat.pow 10 (-guess).toNat
  if atLeast then guess else guess - 1

/-- A fraction in units of `10 ^ place`, as a new fraction. -/
def inUnits (num den : Nat) (place : Int) : Nat × Nat :=
  if 0 ≤ place then (num, den * Nat.pow 10 place.toNat) else (num * Nat.pow 10 (-place).toNat, den)

/-- A positive fraction rounded to `count` significant digits: the digits as a number, and the place of
the first of them. -/
def significant (num den count : Nat) : Nat × Int :=
  let p := leadingPlace num den
  let (n, d) := inUnits num den (p - (count - 1))
  let m := roundQuotient n d
  if m = Nat.pow 10 count then (Nat.pow 10 (count - 1), p + 1) else (m, p)

/-- The shortest digits that read back as the number, searched from `count` digits on. -/
def shortestFrom (mantissa : Nat) (exponent : Int) : (tries count : Nat) → Nat × Int
  | 0, count =>
    let (num, den) := scaled mantissa 2 exponent
    significant num den count
  | tries + 1, count =>
    let (num, den) := scaled mantissa 2 exponent
    let p := leadingPlace num den
    let place := p - (count - 1)
    let (n, d) := inUnits num den place
    let low := n / d
    let readsBack := fun (m : Nat) => ofDecimal false m place == .finite false mantissa exponent
    let near := roundQuotient n d
    let far := if near = low then low + 1 else low
    let found := if readsBack near then some near else if readsBack far then some far else none
    match found with
    | some m => if m = Nat.pow 10 count then (Nat.pow 10 (count - 1), p + 1) else (m, p)
    | none => shortestFrom mantissa exponent tries (count + 1)

/-! ## Decimal text -/

/-- The digits of a number, left-padded with zeros. -/
def paddedDigits (count n : Nat) : List Char :=
  let ds := Nat.toDigits 10 n
  List.replicate (count - ds.length) '0' ++ ds

def dropTrailingZeros (ds : List Char) : List Char := (ds.reverse.dropWhile (· == '0')).reverse

/-- An exponent with its sign and at least two digits. -/
def exponentText (e : Int) : List Char :=
  'e' :: (if e < 0 then '-' else '+') :: paddedDigits 2 e.natAbs

/-- Significant digits (the last one not zero) with the first at a decimal place, in positional or
scientific form. -/
def layout (positional : Bool) (pointZero : Bool) (ds : List Char) (place : Int) : List Char :=
  if positional then
    if place < 0 then
      '0' :: '.' :: List.replicate ((-place).toNat - 1) '0' ++ ds
    else
      let whole := place.toNat + 1
      let front := ds.take whole ++ List.replicate (whole - ds.length) '0'
      let back := ds.drop whole
      if back.isEmpty then front ++ (if pointZero then ['.', '0'] else []) else front ++ '.' :: back
  else
    match ds with
    | [] => ['0']
    | d :: [] => d :: exponentText place
    | d :: more => d :: '.' :: more ++ exponentText place

def signed (negative : Bool) (cs : List Char) : List Char := if negative then '-' :: cs else cs

/-- The shortest decimal form that reads back: positional from 0.0001 up to 10^16, and with a point. -/
def shortest : Double → String
  | .notANumber => "nan"
  | .infinite negative => if negative then "-inf" else "inf"
  | .finite negative 0 _ => if negative then "-0.0" else "0.0"
  | .finite negative m e =>
    let (digits, place) := shortestFrom m e 16 1
    let ds := dropTrailingZeros (Nat.toDigits 10 digits)
    String.ofList (signed negative (layout (-5 < place && place < 16) true ds place))

/-- Six significant digits without trailing zeros: positional from 0.0001 up to 10^6. -/
def general : Double → String
  | .notANumber => "nan"
  | .infinite negative => if negative then "-inf" else "inf"
  | .finite negative 0 _ => if negative then "-0" else "0"
  | .finite negative m e =>
    let (num, den) := scaled m 2 e
    let (digits, place) := significant num den 6
    let ds := dropTrailingZeros (Nat.toDigits 10 digits)
    String.ofList (signed negative (layout (-5 < place && place < 6) false ds place))

end Double

end ModuleDocs
