import ModuleDocs.Error
import ModuleDocs.Text.Ranges
import ModuleDocs.Text.Word

/-!
# YAML tokens

The text of a YAML stream is cut into tokens. Indentation opens and closes block collections; a token
that turns out to be followed by a colon gets a key token in front of it, so that the tokens read so far
stay open to insertion while their line lasts.
-/
set_option autoImplicit false

namespace ModuleDocs.Yaml

open ModuleDocs.Text

inductive Directive where
  | version (major minor : Nat)
  | handle (name meaning : String)
  | other
deriving Repr, DecidableEq

inductive Token where
  | directive (d : Directive)
  | documentStart
  | documentEnd
  | sequenceStart
  | mappingStart
  | blockEnd
  | flowSequenceStart
  | flowSequenceEnd
  | flowMappingStart
  | flowMappingEnd
  | blockEntry
  | flowEntry
  | key
  | value
  | alias (name : String)
  | anchor (name : String)
  | tag (handle : Option String) (suffix : String)
  | scalar (text : String) (plain : Bool)
  | fault (e : Error)
deriving Repr, DecidableEq

/-! ## Characters -/

def isBreak (c : Char) : Bool :=
  c == '\n' || c == '\r' || c == Char.ofNat 0x85 || c == Char.ofNat 0x2028 || c == Char.ofNat 0x2029

def isGap (c : Char) : Bool := c == ' ' || c == '\t'

/-- The end of the text, a break or a gap. -/
def endsWord : Option Char → Bool
  | none => true
  | some c => isBreak c || isGap c

/-- The end of the text, a break or a space, but no tab. -/
def endsPart : Option Char → Bool
  | none => true
  | some c => isBreak c || c == ' '

def isBracket (c : Char) : Bool := ['[', ']', '\x7b', '\x7d'].contains c

def isAllowed (c : Char) : Bool :=
  let n := c.toNat
  n == 0x09 || n == 0x0a || n == 0x0d || (0x20 ≤ n && n ≤ 0x7e) || n == 0x85 ||
    (0xa0 ≤ n && n ≤ 0xd7ff) || (0xe000 ≤ n && n ≤ 0xfffd) || 0x10000 ≤ n

/-! ## State -/

/-- A token that would be a key if a colon followed. -/
structure Candidate where
  level : Nat
  position : Nat
  required : Bool
  line : Nat
  offset : Nat
  column : Nat

structure Scanner where
  rest : List Char
  offset : Nat := 0
  line : Nat := 0
  column : Nat := 0
  tokens : List Token := []
  candidates : List Candidate := []
  keyAllowed : Bool := true
  indent : Int := -1
  indents : List Int := []
  /-- The open flow collections, innermost first; `true` for a sequence. -/
  flow : List Bool := []
  version : Nat × Nat := (1, 2)

def Scanner.isOld (s : Scanner) : Bool := s.version == (1, 1)

abbrev Scan := StateT Scanner (Except Error)

def fail {α : Type} : Scan α := throw .badYaml

/-- Lines and columns count on over a character. Of the breaks only the two of plain text end a line here. -/
def Scanner.over (s : Scanner) (c : Char) (rest : List Char) : Scanner :=
  if c == '\n' || (c == '\r' && rest.head? ≠ some '\n') then
    { s with rest, offset := s.offset + 1, line := s.line + 1, column := 0 }
  else
    { s with rest, offset := s.offset + 1, column := if c == Char.ofNat 0xfeff then s.column else s.column + 1 }

def Scanner.forward (s : Scanner) : (n : Nat) → Scanner
  | 0 => s
  | n + 1 =>
    match s.rest with
    | [] => s
    | c :: rest => (s.over c rest).forward n

def forward (n : Nat) : Scan Unit := modify (·.forward n)

def peekAt (n : Nat) : Scan (Option Char) := do return (← get).rest[n]?

def peek : Scan (Option Char) := peekAt 0

def emit (t : Token) : Scan Unit := modify fun s => { s with tokens := s.tokens ++ [t] }

def insertToken (position : Nat) (t : Token) : Scan Unit :=
  modify fun s => { s with tokens := s.tokens.take position ++ [t] ++ s.tokens.drop position }

def allowKey (allowed : Bool) : Scan Unit := modify fun s => { s with keyAllowed := allowed }

def inFlow : Scan Bool := do return !(← get).flow.isEmpty

def takeWhile (test : Char → Bool) : Scan (List Char) := do
  let taken := (← get).rest.takeWhile test
  forward taken.length
  return taken

/-- Takes a line break, as the text it stands for. -/
def takeBreak : Scan (List Char) := do
  match (← get).rest with
  | '\r' :: '\n' :: _ =>
    forward 2
    return ['\n']
  | c :: _ =>
    if isBreak c then
      forward 1
      return [if c == Char.ofNat 0x2028 || c == Char.ofNat 0x2029 then c else '\n']
    else return []
  | [] => return []

/-! ## Candidates for keys -/

/-- Drops the candidates that no colon can follow any more; a required one must have been a key. -/
def dropStale : Scan Unit := do
  let s ← get
  let stale := fun (c : Candidate) => c.line ≠ s.line || s.offset - c.offset > 1024
  if s.candidates.any fun c => stale c && c.required then fail
  set { s with candidates := s.candidates.filter (!stale ·) }

def removeCandidate : Scan Unit := do
  let s ← get
  let level := s.flow.length
  if s.candidates.any fun c => c.level == level && c.required then fail
  set { s with candidates := s.candidates.filter (·.level ≠ level) }

def saveCandidate : Scan Unit := do
  let s ← get
  if s.keyAllowed then
    removeCandidate
    modify fun t => { t with candidates := {
      level := s.flow.length
      position := s.tokens.length
      -- What starts at the column of an open block collection can be nothing but a key.
      required := s.flow.isEmpty && s.indent == s.column
      line := s.line
      offset := s.offset
      column := s.column } :: t.candidates }

/-! ## Indentation -/

/-- Closes the block collections that are indented more than a column. -/
def unwindTo (column : Int) : (fuel : Nat) → Scan Unit
  | 0 => return
  | fuel + 1 => do
    let s ← get
    if s.flow.isEmpty && s.indent > column then
      set { s with indent := s.indents.headD (-1), indents := s.indents.tail, tokens := s.tokens ++ [Token.blockEnd] }
      unwindTo column fuel

def unwind (column : Int) : Scan Unit := do unwindTo column ((← get).indents.length + 1)

/-- Opens a block collection at a column, unless one is open there. -/
def addIndent (column : Nat) : Scan Bool := do
  let s ← get
  if s.indent < column then
    set { s with indent := (column : Int), indents := s.indent :: s.indents }
    return true
  else return false

/-! ## Spaces between tokens -/

def skipToToken : (fuel : Nat) → Scan Unit
  | 0 => return
  | fuel + 1 => do
    let _ ← takeWhile (· == ' ')
    if (← peek) == some '#' then
      let _ ← takeWhile (!isBreak ·)
    if (← takeBreak).isEmpty then return
    if !(← inFlow) then allowKey true
    skipToToken fuel

def atMarker (c : Char) : Scan Bool := do
  let s ← get
  return s.rest.take 3 == [c, c, c] && endsWord s.rest[3]?

def atAnyMarker : Scan Bool := do return (← atMarker '-') || (← atMarker '.')

/-! ## Scalars in quotes -/

/-- Blank lines inside quotes; a document marker is not allowed there. -/
def takeQuotedBreaks : (fuel : Nat) → Scan (List Char)
  | 0 => return []
  | fuel + 1 => do
    if ← atAnyMarker then fail
    let _ ← takeWhile isGap
    let br ← takeBreak
    if br.isEmpty then return []
    return br ++ (← takeQuotedBreaks fuel)

/-- Spaces inside quotes: a single break becomes a space. -/
def takeQuotedSpaces : Scan (List Char) := do
  let gaps ← takeWhile isGap
  if (← peek).isNone then fail
  let br ← takeBreak
  if br.isEmpty then return gaps
  let breaks ← takeQuotedBreaks ((← get).rest.length + 1)
  if br ≠ ['\n'] then return br ++ breaks
  else if breaks.isEmpty then return [' ']
  else return breaks

def escapeOf? : Char → Option Nat
  | '0' => some 0
  | 'a' => some 7
  | 'b' => some 8
  | 't' => some 9
  | '\t' => some 9
  | 'n' => some 10
  | 'v' => some 11
  | 'f' => some 12
  | 'r' => some 13
  | 'e' => some 27
  | ' ' => some 32
  | '"' => some 34
  | '/' => some 47
  | '\\' => some 92
  | 'N' => some 0x85
  | '_' => some 0xa0
  | 'L' => some 0x2028
  | 'P' => some 0x2029
  | _ => none

def codeLength? : Char → Option Nat
  | 'x' => some 2
  | 'u' => some 4
  | 'U' => some 8
  | _ => none

def takeCode (n : Nat) : Scan Nat := do
  let digits := (← get).rest.take n
  if digits.length ≠ n || digits.any (fun d => (hexValue? d).isNone) then fail
  forward n
  return hexNumber digits

/-- The character of a code. The two halves of a pair of codes make one character. -/
def takeCodePoint (n : Nat) : Scan Char := do
  let code ← takeCode n
  if code > 0x7fffffff then throw .codeTooLarge
  if code > 0x10ffff then throw .noSuchCharacter
  let rest := (← get).rest
  let second := (rest.drop 2).take 4
  let low := hexNumber second
  let paired := 0xd800 ≤ code && code < 0xdc00 && rest.take 2 == ['\\', 'u'] &&
    second.length == 4 && second.all (fun d => (hexValue? d).isSome) && 0xdc00 ≤ low && low < 0xe000
  if paired then
    forward 6
    return Char.ofNat (0x10000 + (code - 0xd800) * 0x400 + (low - 0xdc00))
  else return Char.ofNat code

/-- What a backslash stands for, after the backslash. -/
def takeEscape : Scan (List Char) := do
  let some c ← peek | fail
  match escapeOf? c, codeLength? c with
  | some n, _ =>
    forward 1
    return [Char.ofNat n]
  | none, some n =>
    forward 1
    return [← takeCodePoint n]
  | none, none =>
    if isBreak c then
      let _ ← takeBreak
      takeQuotedBreaks ((← get).rest.length + 1)
    else fail

def takeQuoted (quote : Char) : (fuel : Nat) → Scan (List Char)
  | 0 => fail
  | fuel + 1 => do
    let s ← get
    match s.rest with
    | [] => fail
    | c :: rest =>
      if c == quote then
        if quote == '\'' && rest.head? == some '\'' then
          forward 2
          return '\'' :: (← takeQuoted quote fuel)
        else
          forward 1
          return []
      else if c == '\\' && quote == '"' then
        forward 1
        let cs ← takeEscape
        return cs ++ (← takeQuoted quote fuel)
      else if isGap c || isBreak c then
        let cs ← takeQuotedSpaces
        return cs ++ (← takeQuoted quote fuel)
      else
        forward 1
        return c :: (← takeQuoted quote fuel)

/-! ## Plain scalars -/

/-- Spaces and breaks in a row. A document marker at the start of a line ends it all. -/
def takePlainBreaks : (fuel : Nat) → Scan (Option (List Char))
  | 0 => return some []
  | fuel + 1 => do
    let _ ← takeWhile (· == ' ')
    let br ← takeBreak
    if br.isEmpty then return some []
    if ← atAnyMarker then return none
    return (← takePlainBreaks fuel).map (br ++ ·)

/-- Spaces inside a plain scalar, or `none` where the scalar ends. -/
def takePlainSpaces : Scan (Option (List Char)) := do
  let gaps ← takeWhile (· == ' ')
  let br ← takeBreak
  if br.isEmpty then return if gaps.isEmpty then none else some gaps
  allowKey true
  if ← atAnyMarker then return none
  match ← takePlainBreaks ((← get).rest.length + 1) with
  | none => return none
  | some breaks =>
    if br ≠ ['\n'] then return some (br ++ breaks)
    else if breaks.isEmpty then return some [' ']
    else return some breaks

def plainRun (flow old : Bool) : List Char → List Char
  | [] => []
  | c :: rest =>
    let colonInside := c == ':' && !endsWord rest.head?
    let stops := isGap c || isBreak c || c == ':' || (flow && (c == ',' || isBracket c || (old && c == '?')))
    if stops && !colonInside then [] else c :: plainRun flow old rest

def takePlain (indent : Int) : (fuel : Nat) → (spaces : List Char) → Scan (List Char)
  | 0, _ => return []
  | fuel + 1, spaces => do
    let s ← get
    if s.rest.head? == some '#' then return []
    let run := plainRun (!s.flow.isEmpty) s.isOld s.rest
    if run.isEmpty then return []
    allowKey false
    forward run.length
    match ← takePlainSpaces with
    | none => return spaces ++ run
    | some gap =>
      let t ← get
      if t.rest.head? == some '#' || (t.flow.isEmpty && t.column < indent) then return spaces ++ run
      return spaces ++ run ++ (← takePlain indent fuel gap)

/-! ## Block scalars -/

/-- The signs after the indicator of a block scalar: whether trailing breaks are kept (`+`) or dropped
(`-`), and the indentation. -/
def takeBlockHeader : Scan (Option Bool × Option Nat) := do
  let sign? := fun (c : Option Char) => if c == some '+' then some true else if c == some '-' then some false else none
  let digit? := fun (c : Option Char) => c.bind fun d => if isAsciiDigit d then some (d.toNat - 48) else none
  let (chomp, size) ←
    match sign? (← peek), digit? (← peek) with
    | some keep, _ =>
      forward 1
      let size := digit? (← peek)
      if size.isSome then forward 1
      pure (some keep, size)
    | none, some n =>
      forward 1
      let keep := sign? (← peek)
      if keep.isSome then forward 1
      pure (keep, some n)
    | none, none => pure (none, none)
  if size == some 0 || !endsPart (← peek) then fail
  let _ ← takeWhile (· == ' ')
  if (← peek) == some '#' then
    let _ ← takeWhile (!isBreak ·)
  if (← peek).isSome && (← takeBreak).isEmpty then fail
  return (chomp, size)

/-- Blank lines before a block scalar, and the greatest indentation among them and the first line. -/
def takeBlockIndent : (fuel : Nat) → (greatest : Nat) → Scan (List (List Char) × Nat)
  | 0, greatest => return ([], greatest)
  | fuel + 1, greatest => do
    let spaces ← takeWhile (· == ' ')
    let column := (← get).column
    let greatest := if spaces.isEmpty then greatest else max greatest column
    let br ← takeBreak
    if br.isEmpty then return ([], greatest)
    let (more, greatest) ← takeBlockIndent fuel greatest
    return (br :: more, greatest)

/-- Blank lines inside a block scalar, up to its indentation on the next line. -/
def takeBlockBreaks (indent : Nat) : (fuel : Nat) → Scan (List (List Char))
  | 0 => return []
  | fuel + 1 => do
    let s ← get
    forward (min (s.rest.takeWhile (· == ' ')).length (indent - s.column))
    let br ← takeBreak
    if br.isEmpty then return []
    return br :: (← takeBlockBreaks indent fuel)

def takeBlockLines (folded : Bool) (indent : Nat) (atTop : Bool) (keep : Option Bool) :
    (fuel : Nat) → (breaks : List (List Char)) → Scan (List Char)
  | 0, _ => return []
  | fuel + 1, breaks => do
    let s ← get
    if s.column ≠ indent || s.rest.isEmpty then
      return if keep == some true then breaks.flatten else []
    let startsBlank := s.rest.head?.any isGap
    let text ← takeWhile (!isBreak ·)
    let br ← takeBreak
    let next ← takeBlockBreaks indent ((← get).rest.length + 1)
    let t ← get
    let marker ← if atTop && t.column == 0 then atAnyMarker else pure false
    if marker || t.column ≠ indent || t.rest.isEmpty then
      let tail := if keep == some false then [] else br
      let rest := if keep == some true then next.flatten else []
      return breaks.flatten ++ text ++ tail ++ rest
    else
      let join :=
        -- Folding joins two lines only if neither starts with a blank.
        if folded && br == ['\n'] && !startsBlank && !t.rest.head?.any isGap then
          if next.isEmpty then [' '] else []
        else br
      return breaks.flatten ++ text ++ join ++ (← takeBlockLines folded indent atTop keep fuel next)

def takeBlock (folded : Bool) : Scan (List Char) := do
  forward 1
  let (keep, size) ← takeBlockHeader
  let least := ((← get).indent + 1).toNat
  let fuel := (← get).rest.length + 1
  match size with
  | none =>
    let (breaks, greatest) ← takeBlockIndent fuel 0
    takeBlockLines folded (max least greatest) (least == 0) keep fuel breaks
  | some n =>
    let indent := max least 1 + n - 1
    let breaks ← takeBlockBreaks indent fuel
    takeBlockLines folded indent false keep fuel breaks

/-! ## Names -/

def isNameChar (c : Char) : Bool :=
  let n := c.toNat
  !(c == ',' || isBracket c) && ((0x21 ≤ n && n ≤ 0x7e) || (0xa0 ≤ n && n ≤ 0xfffd && n ≠ 0xfeff) || 0x10000 ≤ n)

/-- The name of an anchor or an alias, after its mark. -/
def takeName : Scan String := do
  forward 1
  let name ← takeWhile isNameChar
  if name.isEmpty || (← peek) == some (Char.ofNat 0xfeff) then fail
  return String.ofList name

/-! ## Tags -/

def isHandleChar (c : Char) : Bool := isAsciiLetter c || isAsciiDigit c || c == '-' || c == '_'

/-- A handle of tags: a mark alone before a space, or a word between two marks. -/
def takeHandle : Scan String := do
  match (← get).rest with
  | '!' :: rest =>
    let word := rest.takeWhile isHandleChar
    if rest.head? == some ' ' then
      forward 1
      return "!"
    else if rest[word.length]? == some '!' then
      forward (word.length + 2)
      return String.ofList ('!' :: word ++ ['!'])
    else fail
  | _ => fail

def isUriChar (old : Bool) (c : Char) : Bool :=
  isAsciiLetter c || isAsciiDigit c || "-;/?:@&=+$,_.!~*'()[]%".toList.contains c || (!old && c == '#')

/-- The bytes of an address, where a percent sign stands before the two digits of a byte. -/
def uriBytes? : List Char → Option (List UInt8)
  | [] => some []
  | '%' :: a :: b :: rest => do
    let high ← hexValue? a
    let low ← hexValue? b
    return UInt8.ofNat (16 * high + low) :: (← uriBytes? rest)
  | '%' :: _ => none
  | c :: rest => do return UInt8.ofNat c.toNat :: (← uriBytes? rest)

def takeUri : Scan String := do
  let (major, minor) := (← get).version
  let cs ← takeWhile (isUriChar (major < 1 || (major == 1 && minor ≤ 1)))
  if cs.isEmpty then fail
  match (uriBytes? cs).bind fun bytes => String.fromUTF8? (ByteArray.mk bytes.toArray) with
  | some uri => return uri
  | none => fail

/-- A tag: an address in angles, a mark alone, or a handle with what follows it. -/
def takeTag : Scan Token := do
  let rest := (← get).rest
  let tag ←
    match rest[1]? with
    | some '<' =>
      forward 2
      let uri ← takeUri
      if (← peek) ≠ some '>' then fail
      forward 1
      pure (Token.tag none uri)
    | second =>
      if endsWord second then
        forward 1
        pure (Token.tag none "!")
      else if ((rest.drop 1).takeWhile fun c => !endsPart (some c)).contains '!' then
        let handle ← takeHandle
        pure (Token.tag (some handle) (← takeUri))
      else
        forward 1
        pure (Token.tag (some "!") (← takeUri))
  if !endsPart (← peek) then fail
  return tag

/-! ## Directives -/

def isDirectiveChar (c : Char) : Bool := isHandleChar c || c == ':' || c == '.'

def takeVersionNumber : Scan Nat := do
  let ds ← takeWhile isAsciiDigit
  if ds.isEmpty then fail
  return decimalNumber ds

/-- A directive with the rest of its line, after its mark. -/
def takeDirective : Scan Directive := do
  forward 1
  let name ← takeWhile isDirectiveChar
  if name.isEmpty || !endsPart (← peek) then fail
  let directive ←
    if name = "YAML".toList then
      let _ ← takeWhile (· == ' ')
      let major ← takeVersionNumber
      if (← peek) ≠ some '.' then fail
      forward 1
      let minor ← takeVersionNumber
      if !endsPart (← peek) then fail
      modify fun s => { s with version := (major, minor) }
      pure (Directive.version major minor)
    else if name = "TAG".toList then
      let _ ← takeWhile (· == ' ')
      let handle ← takeHandle
      if (← peek) ≠ some ' ' then fail
      let _ ← takeWhile (· == ' ')
      let meaning ← takeUri
      if !endsPart (← peek) then fail
      pure (Directive.handle handle meaning)
    else
      let _ ← takeWhile (!isBreak ·)
      pure Directive.other
  let _ ← takeWhile (· == ' ')
  if (← peek) == some '#' then
    let _ ← takeWhile (!isBreak ·)
  if (← peek).isSome && (← takeBreak).isEmpty then fail
  return directive

/-! ## Tokens -/

def isIndicator (c : Char) : Bool :=
  ['-', '?', ':', ',', '[', ']', '\x7b', '\x7d', '#', '&', '*', '!', '|', '>', '\'', '"', '%', '@',
    Char.ofNat 0x60].contains c

def startsPlain (flow old : Bool) (c : Char) (second : Option Char) : Bool :=
  if !(isIndicator c || isGap c || isBreak c) then true
  else if c == ':' && flow && !old && !second.any isGap then true
  else !endsWord second && (c == '-' || (!flow && (c == '?' || c == ':')))

/-- Whether a colon here separates a key from its value. Right after such a colon in a flow mapping it need
not, if the tokens since some candidate for a key are still open to insertion. -/
def isValueMark (s : Scanner) (pending : Bool) : Bool :=
  let second := s.rest[1]?
  match s.flow with
  | [] => endsWord second
  | true :: _ => s.isOld || endsWord second
  | false :: _ => s.isOld || !(pending && s.tokens.getLast? == some .value) || endsWord second

def scanDocumentMark (t : Token) : Scan Unit := do
  unwind (-1)
  removeCandidate
  allowKey false
  forward 3
  emit t

def scanFlowStart (sequence : Bool) : Scan Unit := do
  saveCandidate
  modify fun s => { s with flow := sequence :: s.flow }
  allowKey true
  forward 1
  emit (if sequence then .flowSequenceStart else .flowMappingStart)

def scanFlowEnd (sequence : Bool) : Scan Unit := do
  removeCandidate
  modify fun s => { s with flow := s.flow.tail }
  allowKey false
  forward 1
  emit (if sequence then .flowSequenceEnd else .flowMappingEnd)

def openBlock (t : Token) : Scan Unit := do
  if !(← inFlow) then
    if !(← get).keyAllowed then fail
    if ← addIndent (← get).column then emit t

def scanValue : Scan Unit := do
  let s ← get
  let level := s.flow.length
  match s.candidates.find? (·.level == level) with
  | some candidate =>
    -- Only the colon shows that the token was a key: its marks go in front of it now.
    set { s with candidates := s.candidates.filter (·.level ≠ level) }
    insertToken candidate.position .key
    if s.flow.isEmpty then
      if ← addIndent candidate.column then insertToken candidate.position .mappingStart
    allowKey false
  | none =>
    openBlock .mappingStart
    allowKey s.flow.isEmpty
    removeCandidate
  forward 1
  emit .value

/-- Scans one token; `false` at the end of the text. -/
def scanToken : Scan Bool := do
  -- Before the spaces and after them: a line break on the way makes candidates stale.
  dropStale
  let pending := !(← get).candidates.isEmpty
  skipToToken ((← get).rest.length + 1)
  dropStale
  unwind (← get).column
  let s ← get
  let flow := !s.flow.isEmpty
  let second := s.rest[1]?
  match s.rest with
  | [] =>
    unwind (-1)
    removeCandidate
    return false
  | c :: _ =>
    if c == '%' && s.column == 0 then
      unwind (-1)
      removeCandidate
      allowKey false
      emit (.directive (← takeDirective))
    else if s.column == 0 && (← atMarker '-') then scanDocumentMark .documentStart
    else if s.column == 0 && (← atMarker '.') then scanDocumentMark .documentEnd
    else if c == '[' then scanFlowStart true
    else if c == '\x7b' then scanFlowStart false
    else if c == ']' then scanFlowEnd true
    else if c == '\x7d' then scanFlowEnd false
    else if c == ',' then
      allowKey true
      removeCandidate
      forward 1
      emit .flowEntry
    else if c == '-' && endsWord second then
      openBlock .sequenceStart
      allowKey true
      removeCandidate
      forward 1
      emit .blockEntry
    else if c == '?' && (flow || endsWord second) then
      openBlock .mappingStart
      allowKey (!flow)
      removeCandidate
      forward 1
      emit .key
    else if c == ':' && isValueMark s pending then scanValue
    else if c == '*' then
      saveCandidate
      allowKey false
      emit (.alias (← takeName))
    else if c == '&' then
      saveCandidate
      allowKey false
      emit (.anchor (← takeName))
    else if c == '!' then
      saveCandidate
      allowKey false
      emit (← takeTag)
    else if (c == '|' || c == '>') && !flow then
      allowKey true
      removeCandidate
      emit (.scalar (String.ofList (← takeBlock (c == '>'))) false)
    else if c == '\'' || c == '"' then
      saveCandidate
      allowKey false
      forward 1
      emit (.scalar (String.ofList (← takeQuoted c s.rest.length)) false)
    else if startsPlain flow s.isOld c second then
      saveCandidate
      allowKey false
      emit (.scalar (String.ofList (← takePlain (s.indent + 1) s.rest.length [])) true)
    else fail
    return true

/-- The tokens from a state on; where no token can be scanned, the fault comes last. -/
def Scanner.scanAll (s : Scanner) : (fuel : Nat) → Scanner
  | 0 => s
  | fuel + 1 =>
    match scanToken.run s with
    | .error e => { s with tokens := s.tokens ++ [.fault e] }
    | .ok (more, s) => if more then s.scanAll fuel else s

def tokensOf (text : List Char) : List Token :=
  let text := if text.head? == some (Char.ofNat 0xfeff) then text.tail else text
  if text.all isAllowed then (Scanner.scanAll { rest := text } (text.length + 1)).tokens
  else [.fault .badYaml]

end ModuleDocs.Yaml
