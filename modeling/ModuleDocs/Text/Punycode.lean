import ModuleDocs.Text.Word

/-!
# Names written in ASCII

Punycode writes a name with the characters of ASCII. After the last dash stand numbers of variable length,
whose digits are letters and decimal digits. Each number says how far to go through the places and code
points of the name for the next character to insert.
-/
set_option autoImplicit false

namespace ModuleDocs.Text

/-- The value of a digit, where letters come first. -/
def punycodeDigit? (c : Char) : Option Nat :=
  if 'a' ≤ c ∧ c ≤ 'z' then some (c.toNat - 97)
  else if '0' ≤ c ∧ c ≤ '9' then some (c.toNat - 22)
  else none

def punycodeThreshold (position bias : Nat) : Nat :=
  let n := 36 * (position + 1) - bias
  if n < 1 then 1 else min n 26

/-- Reads a number: its value, and what follows it. -/
def punycodeNumber? (bias : Nat) : (position weight value : Nat) → List Char → Option (Nat × List Char)
  | _, _, _, [] => none
  | position, weight, value, c :: rest => do
    let digit ← punycodeDigit? c
    let threshold := punycodeThreshold position bias
    let value := value + digit * weight
    if digit < threshold then some (value, rest)
    else punycodeNumber? bias (position + 1) (weight * (36 - threshold)) value rest

/-- Divides by 35 until the number is at most 455, and counts the divisions by 36. -/
def punycodeScale : (fuel : Nat) → (delta divisions : Nat) → Nat × Nat
  | 0, delta, divisions => (delta, divisions)
  | fuel + 1, delta, divisions =>
    if delta > 455 then punycodeScale fuel (delta / 35) (divisions + 36) else (delta, divisions)

/-- The bias after a number, for a name that has grown to `count` characters. -/
def punycodeBias (delta : Nat) (first : Bool) (count : Nat) : Nat :=
  let delta := if first then delta / 700 else delta / 2
  let delta := delta + delta / count
  let (delta, divisions) := punycodeScale (delta + 1) delta 0
  divisions + 36 * delta / (delta + 38)

/-- Inserts the characters that numbers stand for. `next` is the place from which the following number
counts. -/
def punycodeInsert : (fuel : Nat) → (first : Bool) → (code next bias : Nat) → (name digits : List Char) →
    Option (List Char)
  | _, _, _, _, _, name, [] => some name
  | 0, _, _, _, _, _, _ => none
  | fuel + 1, first, code, next, bias, name, digits => do
    let (delta, rest) ← punycodeNumber? bias 0 1 0 digits
    let place := next + delta
    let code := code + place / (name.length + 1)
    let place := place % (name.length + 1)
    if code > 0x10ffff || (0xd800 ≤ code && code ≤ 0xdfff) then none
    else
      let name := name.take place ++ Char.ofNat code :: name.drop place
      punycodeInsert fuel false code (place + 1) (punycodeBias delta first name.length) name rest

def punycodeName? (cs : List Char) : Option (List Char) :=
  if cs.any fun c => c.toNat ≥ 128 then none
  else
    let digits := (cs.reverse.takeWhile (· != '-')).reverse
    let name := cs.take (cs.length - digits.length - 1)
    punycodeInsert (digits.length + 1) true 0x80 0 72 name digits

end ModuleDocs.Text
