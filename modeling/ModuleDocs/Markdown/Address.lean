import ModuleDocs.Markdown.Entity
import ModuleDocs.Text.Blank
import ModuleDocs.Text.Lines
import ModuleDocs.Text.Punycode
import ModuleDocs.Text.Search

/-!
# Addresses

How the address of a link is shown: without blanks around it, its host in its own script, and characters
that are written as bytes in hexadecimal as themselves, except those that part an address.
-/
set_option autoImplicit false

namespace ModuleDocs.Markdown

open ModuleDocs.Text

/-! ## Parts -/

structure Address where
  protocol : List Char := []
  slashes : Bool := false
  user : List Char := []
  host : List Char := []
  port : List Char := []
  rest : List Char := []
deriving Repr, DecidableEq

def slashedProtocols : List String := ["http:", "https:", "ftp:", "gopher:", "file:"]

/-- The protocols, besides none, whose hosts are names. -/
def namedHostProtocols : List String := ["", "http:", "https:", "mailto:"]

/-- The protocol at the start of an address, with its colon. -/
def protocolOf (cs : List Char) : List Char :=
  let name := cs.takeWhile fun c => isAsciiLetter c || isAsciiDigit c || ['.', '+', '-'].contains c
  if name.isEmpty || (cs.drop name.length).head? ≠ some ':' then [] else name ++ [':']

def isHostCharacter (c : Char) : Bool := isAsciiLetter c || isAsciiDigit c || ['+', '_', '-'].contains c

def endsHost (c : Char) : Bool :=
  ("%/?;#'\x7b\x7d|\\^<>\" \r\n\t".toList.contains c) || c == Char.ofNat 0x60

/-- What stands before the last `@` and after it. -/
def splitUser (cs : List Char) : List Char × List Char :=
  let reach := cs.takeWhile fun c => !(['/', '?', '#'].contains c)
  match findLast? ['@'] reach with
  | some n => (cs.take n, cs.drop (n + 1))
  | none => ([], cs)

def splitPort (cs : List Char) : List Char × List Char :=
  let digits := (cs.reverse.takeWhile isAsciiDigit).reverse
  let before := cs.take (cs.length - digits.length)
  if before.getLast? = some ':' then (before.dropLast, digits) else (cs, [])

/-- Whether a part of a host is a name; letters beyond ASCII may stand in one. -/
def isHostPart (part : List Char) : Bool :=
  part.length ≤ 63 && part.all fun c => isHostCharacter c || c.toNat > 127

/-- The parts of a host up to the first that is no name, and what has to stand after the host then. -/
def validParts : List (List Char) → List (List Char) × List (List Char)
  | [] => ([], [])
  | part :: more =>
    if isHostPart part then
      let (valid, other) := validParts more
      (part :: valid, other)
    else
      let start := (part.takeWhile isHostCharacter).take 63
      ([start], part.drop start.length :: more)

def Address.read (cs : List Char) : Address :=
  let cs := trim cs
  let protocol := protocolOf cs
  let rest := cs.drop protocol.length
  let slashes := ['/', '/'].isPrefixOf rest
  let rest := if slashes then rest.drop 2 else rest
  if !slashes && (protocol.isEmpty || slashedProtocols.contains (String.ofList protocol)) then
    { protocol, rest }
  else
    let (user, rest) := splitUser rest
    let whole := rest.takeWhile (!endsHost ·)
    let whole := if whole.getLast? = some ':' then whole.dropLast else whole
    let rest := rest.drop whole.length
    let (host, port) := splitPort whole
    let numeric := host.head? = some '[' && host.getLast? = some ']'
    let (valid, other) := if numeric then ([host], []) else validParts (splitOn ['.'] host)
    let rest := List.intercalate ['.'] other ++ rest
    let host := List.intercalate ['.'] valid
    let host := if host.length > 255 then [] else host
    let host := if numeric then host.tail.dropLast else host
    { protocol, slashes, user, host, port, rest }

def Address.text (a : Address) : List Char :=
  a.protocol ++ (if a.slashes then ['/', '/'] else []) ++
    (if a.user.isEmpty then [] else a.user ++ ['@']) ++
    (if a.host.contains ':' then '[' :: a.host ++ [']'] else a.host) ++
    (if a.port.isEmpty then [] else ':' :: a.port) ++ a.rest

/-! ## Hosts -/

/-- A host with its names in their own scripts, if all of them can be read. -/
def readableHost (host : List Char) : List Char :=
  let dots := host.map fun c => if [0x3002, 0xff0e, 0xff61].contains c.toNat then '.' else c
  let names := (splitOn ['.'] dots).mapM fun name =>
    match dropPrefix? "xn--".toList name with
    | some code => punycodeName? (code.map Char.toLower)
    | none => some name
  match names with
  | some names => List.intercalate ['.'] names
  | none => host

/-! ## Bytes -/

def percentByte? : List Char → Option (Nat × List Char)
  | '%' :: a :: b :: rest => do some (16 * (← hexValue? a) + (← hexValue? b), rest)
  | _ => none

/-- A character of ASCII, written as a byte if it parts an address. -/
def shownByte (n : Nat) : List Char :=
  let c := Char.ofNat n
  if ";/?:@&=+$,#%".toList.contains c then
    '%' :: [(n / 16).digitChar.toUpper, (n % 16).digitChar.toUpper]
  else [c]

def bytesOf (first : Nat) : Nat :=
  if first < 0x80 then 1
  else if first / 32 = 6 then 2
  else if first / 16 = 14 then 3
  else if first / 8 = 30 then 4
  else 0

def continuation? : Nat → List Char → Option (List Nat × List Char)
  | 0, cs => some ([], cs)
  | n + 1, cs => do
    let (byte, rest) ← percentByte? cs
    if byte / 64 ≠ 2 then none
    else
      let (bytes, rest) ← continuation? n rest
      some (byte :: bytes, rest)

/-- The code point that bytes write, if they are the shortest way to write it. -/
def codeOfBytes? (first : Nat) (more : List Nat) : Option Nat :=
  let count := more.length + 1
  let start := if count = 2 then first % 32 else if count = 3 then first % 16 else first % 8
  let code := more.foldl (fun n byte => 64 * n + byte % 64) start
  let least := if count = 2 then 0x80 else if count = 3 then 0x800 else 0x10000
  if code < least || code > 0x10ffff || (0xd800 ≤ code && code ≤ 0xdfff) then none else some code

def decodeBytes : (fuel : Nat) → List Char → List Char
  | 0, cs => cs
  | _ + 1, [] => []
  | fuel + 1, c :: rest =>
    match percentByte? (c :: rest) with
    | none => c :: decodeBytes fuel rest
    | some (first, after) =>
      if first < 0x80 then shownByte first ++ decodeBytes fuel after
      else
        match (if bytesOf first = 0 then none else continuation? (bytesOf first - 1) after) with
        | none => replacementCharacter :: decodeBytes fuel after
        | some (more, after) =>
          match codeOfBytes? first more with
          | some code => Char.ofNat code :: decodeBytes fuel after
          | none => List.replicate (bytesOf first) replacementCharacter ++ decodeBytes fuel after

def shownAddress (cs : List Char) : List Char :=
  let a := Address.read cs
  let named := !a.host.isEmpty && namedHostProtocols.contains (String.ofList a.protocol)
  let text := (if named then { a with host := readableHost a.host } else a).text
  decodeBytes text.length text

end ModuleDocs.Markdown
