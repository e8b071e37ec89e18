import ModuleDocs.Calendar
import ModuleDocs.Error
import ModuleDocs.Number.Reader
import ModuleDocs.Pattern.Match
import ModuleDocs.Pattern.Reader
import ModuleDocs.Text.Search
import ModuleDocs.Yaml.Datum

/-!
# Scalars of YAML

What the text of a scalar stands for, once it is known what it is meant to be. Underscores in numbers are left
out. In the first version of the language a number can be written to the base of sixty.
-/
set_option autoImplicit false

namespace ModuleDocs.Yaml

open ModuleDocs.Text

/-! ## Truth values -/

def truthValue (text : String) : Except Error Datum :=
  let word := String.ofList (text.toList.map Char.toLower)
  if ["yes", "y", "true", "on"].contains word then .ok (.bool true)
  else if ["no", "n", "false", "off"].contains word then .ok (.bool false)
  else .error .badTruthValue

/-! ## Whole numbers -/

def digitOf? (base : Nat) (c : Char) : Option Nat := do
  let n ← hexValue? c <|> digitValue? c
  if n < base then some n else none

/-- A whole number to a base, which may be told again by a letter after a zero. -/
def intOfBase? (base : Nat) (letter : Char) (cs : List Char) : Option Int := do
  let (negative, rest) := Number.takeSign (trim cs)
  let ds := match rest with
    | '0' :: c :: more => if c.toLower = letter then more else rest
    | _ => rest
  if ds.isEmpty then none
  let n ← ds.foldlM (fun n c => do return base * n + (← digitOf? base c)) 0
  return if negative then -(n : Int) else n

/-- Parts between colons, as digits to the base of sixty. -/
def sexagesimal? (cs : List Char) : Option Int := do
  let digits ← (splitOn [':'] cs).mapM Number.int?
  return digits.foldl (fun n d => 60 * n + d) 0

def wholeNumber (old : Bool) (text : String) : Except Error Datum := do
  let cs := text.toList.filter (· ≠ '_')
  if cs.isEmpty then .error .emptyNumber
  let (negative, rest) := Number.takeSign cs
  if old && rest.isEmpty then .error .emptyNumber
  let n? := match rest with
    | '0' :: 'b' :: ds => intOfBase? 2 'b' ds
    | '0' :: 'x' :: ds => intOfBase? 16 'x' ds
    | '0' :: 'o' :: ds => intOfBase? 8 'o' ds
    | _ =>
      if old && rest.head? == some '0' then intOfBase? 8 'o' rest
      else if old && rest.contains ':' then sexagesimal? rest
      else Number.int? rest
  match n? with
  | some n => return .int (if negative then -n else n)
  | none => .error .malformedNumber

/-! ## Numbers with a point -/

def negate : Double → Double
  | .finite negative m e => .finite (!negative) m e
  | .infinite negative => .infinite (!negative)
  | .notANumber => .notANumber

/-- The sum of a number and a multiple of another one, rounded after each step. -/
def addTimes (a b : Double) (factor : Nat) : Double :=
  match a, b with
  | .finite false m e, .finite false n f =>
    let (num, den) := Double.scaled n 2 f
    match Double.ofRatio false (num * factor) den with
    | .finite false n f =>
      let (num, den) := Double.scaled m 2 e
      let (num', den') := Double.scaled n 2 f
      Double.ofRatio false (num * den' + num' * den) (den * den')
    | other => other
  | _, _ => .notANumber

/-- Parts between colons, as digits to the base of sixty. -/
def sexagesimalDouble? (cs : List Char) : Option Double := do
  let digits ← (splitOn [':'] cs).mapM Number.double?
  let step := fun (found : Double × Nat) (d : Double) => (addTimes found.1 d found.2, 60 * found.2)
  return (digits.reverse.foldl step (Double.zero false, 1)).1

def pointNumber (old : Bool) (text : String) : Except Error Datum := do
  let cs := (text.toList.filter (· ≠ '_')).map Char.toLower
  if cs.isEmpty then .error .emptyNumber
  let (negative, rest) := Number.takeSign cs
  let d? :=
    if rest = ".inf".toList then some (.infinite false)
    else if rest = ".nan".toList then some .notANumber
    else if old && rest.contains ':' then sexagesimalDouble? rest
    else Number.double? rest
  match d? with
  | some d => return .float (if negative then negate d else d)
  | none => .error .malformedNumber

/-! ## Dates and times -/

/-- A date, and after it a time, a fraction of a second and a zone. -/
def timestampPattern : Option Pattern := Pattern.read?
  ("([0-9][0-9][0-9][0-9])-([0-9][0-9]?)-([0-9][0-9]?)(?:(?:[Tt]|[ \\t]+)([0-9][0-9]?):([0-9][0-9]):([0-9][0-9])" ++
    "(?:\\.([0-9]*))?(?:[ \\t]*(?:Z|([-+])([0-9][0-9]?)(?::([0-9][0-9]))?))?)?$")

/-- The microseconds of a fraction, rounded at the seventh digit. -/
def fractionMicros (ds : List Char) : Nat :=
  decimalNumber ((ds ++ List.replicate 6 '0').take 6) + if ds[6]?.any ('4' < ·) then 1 else 0

def timestamp (text : String) : Except Error Datum := do
  let some found := timestampPattern.bind fun p => p.matchAt? false (Pattern.Place.start text.toList)
    | .error .badYaml
  let digits := fun (index : Nat) => (found.capture? index).getD []
  let number := fun (index : Nat) => decimalNumber (digits index)
  match Calendar.day? (number 1) (number 2) (number 3) with
  | none => .error .noSuchDate
  | some day =>
    if (digits 4).isEmpty then return .day day
    match Calendar.time? (number 4) (number 5) (number 6) (fractionMicros (digits 7)) with
    | none => .error .noSuchDate
    | some time =>
      let zone : Int := ((number 9 * 60 + number 10) * 60 * 1000000 : Nat)
      let zone := if digits 8 = ['-'] then -zone else zone
      let moment := (day * Calendar.dayMicros + time : Nat) - zone
      if Calendar.isInRange moment then return .moment moment else .error .dateOutOfRange

/-! ## Bytes -/

def sixBits? (c : Char) : Option Nat :=
  if 'A' ≤ c && c ≤ 'Z' then some (c.toNat - 65)
  else if 'a' ≤ c && c ≤ 'z' then some (c.toNat - 71)
  else if isAsciiDigit c then some (c.toNat + 4)
  else if c = '+' then some 62
  else if c = '/' then some 63
  else none

/-- The bytes of letters with six bits each, four of which make three bytes. Other characters are skipped, and
an end is filled up with equals signs. -/
def decodeLetters (bits : List Nat) (pads : Nat) : List Char → Option (List Nat)
  | [] => if bits.isEmpty then some [] else none
  | c :: rest =>
    if c = '=' then
      if bits.length ≥ 2 && bits.length + pads + 1 ≥ 4 then
        match bits with
        | [a, b] => some [a * 4 + b / 16]
        | [a, b, d] => some [a * 4 + b / 16, b % 16 * 16 + d / 4]
        | _ => some []
      else decodeLetters bits (pads + 1) rest
    else
      match sixBits? c with
      | none => decodeLetters bits pads rest
      | some n =>
        match bits with
        | [a, b, d] =>
          (decodeLetters [] 0 rest).map ([a * 4 + b / 16, b % 16 * 16 + d / 4, d % 4 * 64 + n] ++ ·)
        | _ => decodeLetters (bits ++ [n]) 0 rest

def binary (text : String) : Except Error Datum :=
  if text.toList.any (·.toNat ≥ 128) then .error .badYaml
  else
    match decodeLetters [] 0 text.toList with
    | some bs => .ok (.bytes bs)
    | none => .error .badYaml

end ModuleDocs.Yaml
