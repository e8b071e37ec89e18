import ModuleDocs.Error
import ModuleDocs.Number.Reader
import ModuleDocs.Pattern.Syntax
import ModuleDocs.Text.CharacterName
import ModuleDocs.Text.Identifier

/-!
# Reading patterns

The text of a pattern is first cut into characters and escaped characters; a sequence of items, with
its alternatives, is then read from these. Reading fails on every text that is not a pattern. One error
stands for all ways of being malformed, but numbers that are too large and flags that exclude each other
have their own.
-/
set_option autoImplicit false

namespace ModuleDocs.Pattern

open ModuleDocs.Text

/-! ## Characters and escapes -/

inductive Token where
  | plain (c : Char)
  | escaped (c : Char)
deriving Repr, DecidableEq

/-- Cuts the text of a pattern; a backslash at the end escapes nothing and is refused. -/
def tokens : List Char → Option (List Token)
  | [] => some []
  | '\\' :: [] => none
  | '\\' :: c :: rest => (tokens rest).map (.escaped c :: ·)
  | c :: rest => (tokens rest).map (.plain c :: ·)

def Token.text : Token → List Char
  | .plain c => [c]
  | .escaped c => ['\\', c]

/-! ## The state of reading -/

/-- The settings that flags like `(?i)` turn on and off. -/
structure Flags where
  foldCase : Bool := false
  multiline : Bool := false
  newlineToo : Bool := false
  spaced : Bool := false
  ascii : Bool := false
deriving Repr, DecidableEq

/-- What is left to read, and what is known about the captures so far. -/
structure Reading where
  rest : List Token
  opened : Nat := 0
  closed : List (Nat × Width) := []
  names : List (String × Nat) := []
  conditions : List Nat := []
  behindFrom : Option Nat := none
  /-- The letters of the flags that hold for all of the pattern. -/
  letters : List Char := []
  repeats : Bool := false
  unfixed : Bool := false

abbrev Read := StateT Reading (Except Error)

def malformed {α : Type} : Read α := throw .badPattern

def peek : Read (Option Token) := do return (← get).rest.head?

def next : Read (Option Token) := do
  let s ← get
  match s.rest with
  | [] => return none
  | t :: rest =>
    set { s with rest }
    return some t

def accept (c : Char) : Read Bool := do
  if (← peek) = some (.plain c) then
    let _ ← next
    return true
  else return false

/-- The characters that come next, at most `limit` of them, while they pass a test. -/
def readWhile (limit : Nat) (test : Char → Bool) : Read (List Char) := do
  let s ← get
  let taken := s.rest.take limit |>.takeWhile fun
    | .plain c => test c
    | .escaped _ => false
  set { s with rest := s.rest.drop taken.length }
  return taken.flatMap Token.text

/-- The text up to a character, which is gone over too. Empty text is refused. -/
def readUntil (stop : Char) : Read (List Char) := do
  let s ← get
  let taken := s.rest.takeWhile (· ≠ .plain stop)
  if taken.isEmpty || s.rest.length == taken.length then malformed
  set { s with rest := s.rest.drop (taken.length + 1) }
  return taken.flatMap Token.text

/-! ## Characters of a pattern -/

def isOctal (c : Char) : Bool := '0' ≤ c && c ≤ '7'

def isHex (c : Char) : Bool := (hexValue? c).isSome

def octalNumber (cs : List Char) : Nat := cs.foldl (fun n c => 8 * n + (c.toNat - 48)) 0

def controlEscape? : Char → Option Nat
  | 'a' => some 7
  | 'b' => some 8
  | 'f' => some 12
  | 'n' => some 10
  | 'r' => some 13
  | 't' => some 9
  | 'v' => some 11
  | '\\' => some 92
  | _ => none

def categoryEscape? : Char → Option Member
  | 'd' => some (.category .digit false)
  | 'D' => some (.category .digit true)
  | 's' => some (.category .blank false)
  | 'S' => some (.category .blank true)
  | 'w' => some (.category .word false)
  | 'W' => some (.category .word true)
  | _ => none

def anchorEscape? (flags : Flags) : Char → Option Anchor
  | 'A' => some .textStart
  | 'Z' => some .textEnd
  | 'b' => some (.wordEdge flags.ascii)
  | 'B' => some (.wordInside flags.ascii)
  | _ => none

/-- Exactly `n` hexadecimal digits. -/
def readHex (n : Nat) : Read Nat := do
  let digits ← readWhile n isHex
  if digits.length ≠ n then malformed
  return hexNumber digits

/-- A character given by a number in hexadecimal digits or by its name. -/
def readCodeEscape? (c : Char) : Read (Option Nat) :=
  match c with
  | 'N' => do
    if !(← accept '\x7b') then malformed
    match characterNamed? (← readUntil '\x7d') with
    | some n => return some n
    | none => malformed
  | 'x' => some <$> readHex 2
  | 'u' => some <$> readHex 4
  | 'U' => do
    let n ← readHex 8
    if n > 0x7fffffff then throw .codeTooLarge
    if n > 0x10ffff then malformed
    return some n
  | _ => return none

def literal (flags : Flags) (n : Nat) : Node :=
  if flags.foldCase then
    .set { members := [.code n], foldCase := true, ascii := flags.ascii }
  else if (Char.ofNat n).toNat = n then .char (Char.ofNat n)
  else .set { members := [.code n] }

/-! ## Sets -/

def readSetEscape (c : Char) : Read Member := do
  match controlEscape? c, categoryEscape? c with
  | some n, _ => return .code n
  | none, some m => return m
  | none, none =>
    match ← readCodeEscape? c with
    | some n => return .code n
    | none =>
      if isOctal c then
        let more ← readWhile 2 isOctal
        let n := octalNumber (c :: more)
        if n > 0o377 then malformed
        return .code n
      else if isAsciiDigit c || isAsciiLetter c then malformed
      else return .code c.toNat

def readMember : Token → Read Member
  | .plain c => return .code c.toNat
  | .escaped c => readSetEscape c

/-- The members of a set up to its closing bracket, which does not close an empty set. -/
def readMembers : (fuel : Nat) → List Member → Read (List Member)
  | 0, _ => malformed
  | fuel + 1, found => do
    let some token ← next | malformed
    if token = .plain ']' && !found.isEmpty then return found.reverse
    let first ← readMember token
    if ← accept '-' then
      let some other ← next | malformed
      if other = .plain ']' then return (.code 45 :: first :: found).reverse
      match first, ← readMember other with
      | .code lo, .code hi =>
        if hi < lo then malformed
        readMembers fuel (.range lo hi :: found)
      | _, _ => malformed
    else readMembers fuel (first :: found)

def readSet (flags : Flags) : Read Node := do
  let negated ← accept '^'
  let members ← readMembers ((← get).rest.length + 1) []
  return .set { members, negated, foldCase := flags.foldCase, ascii := flags.ascii }

/-! ## Captures -/

/-- Checks that a reference is to a capture that has been closed, outside any look-behind that is
being read. -/
def checkReference (index : Nat) : Read Unit := do
  let s ← get
  if (s.closed.lookup index).isNone then malformed
  match s.behindFrom with
  | some bound => if index > bound then malformed
  | none => return

def openCapture (name : Option (List Char)) : Read Nat := do
  let s ← get
  let index := s.opened + 1
  match name with
  | none => set { s with opened := index }
  | some cs =>
    let name := String.ofList cs
    if (s.names.lookup name).isSome then malformed
    set { s with opened := index, names := s.names ++ [(name, index)] }
  return index

def closeCapture (index : Nat) (body : Node) : Read Unit :=
  modify fun s => { s with closed := (index, body.width s.closed) :: s.closed }

/-- The capture that a condition names; a number may be that of a later capture. -/
def readCondition : Read Nat := do
  let name ← readUntil ')'
  let s ← get
  let index ←
    if isIdentifier name then
      match s.names.lookup (String.ofList name) with
      | some index => pure index
      | none => malformed
    else
      match Number.int? name with
      | some (.ofNat (n + 1)) =>
        set { s with conditions := (n + 1) :: s.conditions }
        pure (n + 1)
      | _ => malformed
  if s.behindFrom.isSome then checkReference index
  return index

/-! ## Items -/

inductive ItemKind where
  | anchor
  | repetition
  | other
deriving Repr, DecidableEq

structure Item where
  node : Node
  kind : ItemKind := .other

/-- A number of digits: an octal code if there are three octal digits, else a reference. -/
def readNumberEscape (flags : Flags) (c : Char) : Read Node := do
  let second ← readWhile 1 isAsciiDigit
  let third ← if isOctal c && second.any isOctal then readWhile 1 isOctal else pure []
  if third.isEmpty then
    let index := decimalNumber (c :: second)
    checkReference index
    return .recall index flags.foldCase flags.ascii
  else
    let n := octalNumber (c :: second ++ third)
    if n > 0o377 then malformed
    return literal flags n

def readEscape (flags : Flags) (c : Char) : Read Item := do
  match anchorEscape? flags c, categoryEscape? c, controlEscape? c with
  | some a, _, _ => return ⟨.anchor a, .anchor⟩
  | none, some m, _ => return ⟨.set { members := [m], ascii := flags.ascii }, .other⟩
  | none, none, some n => return ⟨literal flags n, .other⟩
  | none, none, none =>
    match ← readCodeEscape? c with
    | some n => return ⟨literal flags n, .other⟩
    | none =>
      if c = '0' then
        let more ← readWhile 2 isOctal
        return ⟨literal flags (octalNumber more), .other⟩
      else if isAsciiDigit c then return ⟨← readNumberEscape flags c, .other⟩
      else if isAsciiLetter c then malformed
      else return ⟨literal flags c.toNat, .other⟩

/-- The bounds of a repetition, or `none` where a brace stands for itself. -/
def readBounds (sign : Char) : Read (Option (Nat × Option Nat)) := do
  match sign with
  | '?' => return some (0, some 1)
  | '*' => return some (0, none)
  | '+' => return some (1, none)
  | _ =>
    let before ← get
    if (← peek) = some (.plain '}') then return none
    let lo ← readWhile before.rest.length isAsciiDigit
    let hi ← if ← accept ',' then readWhile before.rest.length isAsciiDigit else pure lo
    if ← accept '}' then
      let least := decimalNumber lo
      let most := if hi.isEmpty then none else some (decimalNumber hi)
      if least ≥ 4294967295 || most.any (· ≥ 4294967295) then throw .tooManyRepetitions
      if most.any (· < least) then malformed
      return some (least, most)
    else
      set before
      return none

def repeatLatest (least : Nat) (most : Option Nat) (found : List Item) : Read (List Item) := do
  match found with
  | [] => malformed
  | item :: older =>
    if item.kind ≠ .other then malformed
    let greed ←
      if ← accept '?' then pure .reluctant
      else if ← accept '+' then pure .possessive
      else pure .greedy
    modify fun s => { s with repeats := true }
    return ⟨.repeated item.node least most greed, .repetition⟩ :: older

/-! ## Flags -/

/-- The letters of flags; with `t` there may be no repetitions. -/
def flagLetters : List Char := ['i', 'm', 's', 'x', 'a', 't', 'u']

def Flags.turn (flags : Flags) (on : Bool) : List Char → Flags
  | [] => flags
  | 'i' :: more => { flags with foldCase := on }.turn on more
  | 'm' :: more => { flags with multiline := on }.turn on more
  | 's' :: more => { flags with newlineToo := on }.turn on more
  | 'x' :: more => { flags with spaced := on }.turn on more
  | 'a' :: more => { flags with ascii := on }.turn on more
  | 'u' :: more => { flags with ascii := false }.turn on more
  | _ :: more => flags.turn on more

/-- What a group of flags asks for: a change for all of the pattern, or for one group. -/
inductive FlagScope where
  | whole (flags : Flags)
  | group (flags : Flags)

/-- Flags after `(?`, of which the first letter (or the minus sign) has been read. -/
def readFlags (flags : Flags) (first : Char) : Read FlagScope := do
  let isFlag := fun c => flagLetters.contains c
  let more ← if first = '-' then pure [] else readWhile (← get).rest.length isFlag
  let on := if first = '-' then [] else first :: more
  if on.contains 'a' && on.contains 'u' then malformed
  let stop ← if first = '-' then pure (some (.plain '-')) else next
  match stop with
  | some (.plain ')') =>
    modify fun s => { s with letters := s.letters ++ on }
    return .whole (flags.turn true on)
  | some (.plain ':') =>
    if on.contains 't' then malformed
    return .group (flags.turn true on)
  | some (.plain '-') =>
    if on.contains 't' then malformed
    let off ← readWhile (← get).rest.length isFlag
    if off.isEmpty || off.any (fun c => c = 'a' || c = 'u' || c = 't') then malformed
    if off.any on.contains then malformed
    if ← accept ':' then return .group ((flags.turn true on).turn false off)
    else malformed
  | _ => malformed

/-! ## Sequences and groups -/

def skipComment : Read Unit := do
  let s ← get
  let taken := s.rest.takeWhile (· ≠ .plain ')')
  if s.rest.length = taken.length then malformed
  set { s with rest := s.rest.drop (taken.length + 1) }

def skipLine : Read Unit :=
  modify fun s => { s with rest := (s.rest.dropWhile (· ≠ .plain '\n')).drop 1 }

def close : Read Unit := do
  if ← accept ')' then return else malformed

def isSpacing (c : Char) : Bool :=
  c == ' ' || (9 ≤ c.toNat && c.toNat ≤ 13)

mutual

/-- Alternatives up to a closing parenthesis or the end. At the top level the first of them may
start with flags, which then hold for all. -/
def readAlternatives : (fuel : Nat) → (top : Bool) → Flags → Read Node
  | 0, _, _ => malformed
  | fuel + 1, top, flags => do
    let (first, flags) ← readSequence fuel top flags []
    if ← accept '|' then
      let second ← readOtherAlternatives fuel flags
      return .alt first second
    else return first

def readOtherAlternatives : (fuel : Nat) → Flags → Read Node
  | 0, _ => malformed
  | fuel + 1, flags => do
    let (first, flags) ← readSequence fuel false flags []
    if ← accept '|' then
      let second ← readOtherAlternatives fuel flags
      return .alt first second
    else return first

/-- Items up to a bar, a closing parenthesis or the end, with the flags that hold afterwards. -/
def readSequence : (fuel : Nat) → (top : Bool) → Flags → List Item → Read (Node × Flags)
  | 0, _, _, _ => malformed
  | fuel + 1, top, flags, found => do
    let finished := (Node.ofList (found.reverse.map Item.node), flags)
    match ← peek with
    | none | some (.plain '|') | some (.plain ')') => return finished
    | some token =>
      let _ ← next
      match token with
      | .escaped c => readSequence fuel top flags ((← readEscape flags c) :: found)
      | .plain c =>
        if flags.spaced && isSpacing c then readSequence fuel top flags found
        else if flags.spaced && c == '#' then
          skipLine
          readSequence fuel top flags found
        else match c with
          | '[' => readSequence fuel top flags (⟨← readSet flags, .other⟩ :: found)
          | '.' => readSequence fuel top flags (⟨.anyChar flags.newlineToo, .other⟩ :: found)
          | '^' =>
            let anchor := if flags.multiline then Anchor.lineStart else Anchor.textStart
            readSequence fuel top flags (⟨.anchor anchor, .anchor⟩ :: found)
          | '$' =>
            let anchor := if flags.multiline then Anchor.lineEnd else Anchor.lastLineEnd
            readSequence fuel top flags (⟨.anchor anchor, .anchor⟩ :: found)
          | '(' => readGroup fuel top flags found
          | '*' | '+' | '?' | '\x7b' =>
            match ← readBounds c with
            | none => readSequence fuel top flags (⟨literal flags c.toNat, .other⟩ :: found)
            | some (least, most) =>
              readSequence fuel top flags (← repeatLatest least most found)
          | _ => readSequence fuel top flags (⟨literal flags c.toNat, .other⟩ :: found)

/-- What follows an opening parenthesis, and then the rest of the sequence. -/
def readGroup : (fuel : Nat) → (top : Bool) → Flags → List Item → Read (Node × Flags)
  | 0, _, _, _ => malformed
  | fuel + 1, top, flags, found => do
    let continueWith := fun node => readSequence fuel top flags (⟨node, .other⟩ :: found)
    let capture := fun name => do
      let index ← openCapture name
      let body ← readAlternatives fuel false flags
      close
      closeCapture index body
      pure (Node.capture index body)
    let look := fun (wanted : Bool) => do
      let body ← readAlternatives fuel false flags
      close
      pure (Node.ahead wanted body)
    if !(← accept '?') then continueWith (← capture none)
    else match ← next with
      | some (.plain 'P') =>
        if ← accept '<' then
          let name ← readUntil '>'
          if !isIdentifier name then malformed
          continueWith (← capture (some name))
        else if ← accept '=' then
          let name ← readUntil ')'
          match (← get).names.lookup (String.ofList name) with
          | none => malformed
          | some index =>
            checkReference index
            continueWith (.recall index flags.foldCase flags.ascii)
        else malformed
      | some (.plain ':') =>
        let body ← readAlternatives fuel false flags
        close
        continueWith body
      | some (.plain '>') =>
        let body ← readAlternatives fuel false flags
        close
        continueWith (.atomic body)
      | some (.plain '#') =>
        skipComment
        readSequence fuel top flags found
      | some (.plain '=') => continueWith (← look true)
      | some (.plain '!') => continueWith (← look false)
      | some (.plain '<') =>
        match ← next with
        | some (.plain sign) =>
          if sign ≠ '=' && sign ≠ '!' then malformed
          let outer := (← get).behindFrom
          modify fun s => { s with behindFrom := some (outer.getD s.opened) }
          let body ← readAlternatives fuel false flags
          modify fun s => { s with behindFrom := outer }
          close
          let width := body.width (← get).closed
          if width.most ≠ some width.least || width.least > 4294967295 then
            modify fun s => { s with unfixed := true }
          continueWith (.behind (sign = '=') width.least body)
        | _ => malformed
      | some (.plain '(') =>
        let index ← readCondition
        let (yes, _) ← readSequence fuel false flags []
        let no ←
          if ← accept '|' then
            let (no, _) ← readSequence fuel false flags []
            if (← peek) = some (.plain '|') then malformed
            pure no
          else pure .empty
        close
        continueWith (.ifCaptured index yes no)
      | some (.plain c) =>
        if !(c = '-' || flagLetters.contains c) then malformed
        match ← readFlags flags c with
        | .whole flags =>
          if !top || !found.isEmpty then malformed
          readSequence fuel top flags found
        | .group inner =>
          let body ← readAlternatives fuel false inner
          close
          continueWith body
      | _ => malformed

end

end ModuleDocs.Pattern

namespace ModuleDocs.Pattern

/-- What is wrong with a pattern that ends within an escape. A number before its last character may be too large
to be read at all. -/
def unfinishedError (flags : Flags) (source : List Char) : Error :=
  let before := ((tokens source.dropLast).getD []).dropLast
  match (readAlternatives (4 * before.length + 4) true flags).run { rest := before } with
  | .error .tooManyRepetitions => .tooManyRepetitions
  | .error .codeTooLarge => .codeTooLarge
  | _ => .badPattern

def readWith (flags : Flags) (source : String) : Except Error Pattern := do
  let some all := tokens source.toList | throw (unfinishedError flags source.toList)
  let (node, s) ← (readAlternatives (4 * all.length + 4) true flags).run { rest := all }
  if s.letters.contains 'a' && s.letters.contains 'u' then throw .conflictingFlags
  if !s.rest.isEmpty || s.conditions.any (· > s.opened) || s.unfixed ||
    (s.repeats && s.letters.contains 't') then throw .badPattern
  return { node, captures := s.opened, names := s.names }

def read (source : String) : Except Error Pattern := readWith {} source

/-- Reads a pattern in which `^` and `$` look at every line. -/
def readMultiline (source : String) : Except Error Pattern := readWith { multiline := true } source

/-- Reads a pattern, if it is one. -/
def read? (source : String) : Option Pattern := (read source).toOption

end ModuleDocs.Pattern
