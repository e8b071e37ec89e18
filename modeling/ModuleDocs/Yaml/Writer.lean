import ModuleDocs.Text.Quoted
import ModuleDocs.Value.Basic
import ModuleDocs.Yaml.Token

/-!
# Writing YAML

Values are written in block style, with all texts in double quotes. A path is written as an entry of its
own in single quotes, broken at single spaces once a line has more than 80 columns, and in double quotes
where single ones cannot hold it.
-/
set_option autoImplicit false

namespace ModuleDocs.Yaml

open ModuleDocs.Text

/-! ## Double quotes -/

def upperHex (width n : Nat) : List Char := (hexDigits width n).map Char.toUpper

def escapeLetter? (c : Char) : Option Char :=
  match c.toNat with
  | 0 => some '0'
  | 7 => some 'a'
  | 8 => some 'b'
  | 9 => some 't'
  | 10 => some 'n'
  | 11 => some 'v'
  | 12 => some 'f'
  | 13 => some 'r'
  | 27 => some 'e'
  | 34 => some '"'
  | 92 => some '\\'
  | 0x85 => some 'N'
  | 0xa0 => some '_'
  | 0x2028 => some 'L'
  | 0x2029 => some 'P'
  | _ => none

def standsInQuotes (c : Char) : Bool :=
  let n := c.toNat
  c ≠ '"' && c ≠ '\\' && ((0x20 ≤ n && n ≤ 0x7e) ||
    (0xa0 ≤ n && n ≤ 0xfffd && n ≠ 0x2028 && n ≠ 0x2029 && n ≠ 0xfeff))

def escapeInQuotes (c : Char) : List Char :=
  match escapeLetter? c with
  | some letter => ['\\', letter]
  | none =>
    if c.toNat < 0x100 then '\\' :: 'x' :: upperHex 2 c.toNat
    else if c.toNat < 0x10000 then '\\' :: 'u' :: upperHex 4 c.toNat
    else '\\' :: 'U' :: upperHex 8 c.toNat

def doubleQuoted (s : String) : String :=
  "\"" ++ String.ofList (s.toList.flatMap fun c => if standsInQuotes c then [c] else escapeInQuotes c) ++ "\""

/-! ## Values -/

def scalarText : Value → String
  | .null => "null"
  | .bool b => if b then "true" else "false"
  | .int n => toString n
  | .float .notANumber => ".nan"
  | .float (.infinite negative) => if negative then "-.inf" else ".inf"
  | .float d => d.shortest
  | .str s => doubleQuoted s
  | .list _ => "[]"
  | .map _ => "\x7b\x7d"

def isBlock : Value → Bool
  | .list items => !items.isEmpty
  | .map entries => !entries.isEmpty
  | _ => false

mutual

def blockLines (indent : String) : Value → List String
  | .list items => itemLines indent items
  | .map entries => entryLines indent entries
  | v => [indent ++ scalarText v]

def itemLines (indent : String) : List Value → List String
  | [] => []
  | v :: more =>
    (if isBlock v then (indent ++ "-") :: blockLines (indent ++ "  ") v
      else [indent ++ "- " ++ scalarText v]) ++ itemLines indent more

def entryLines (indent : String) : List (String × Value) → List String
  | [] => []
  | (key, v) :: more =>
    let key := indent ++ doubleQuoted key ++ ":"
    (if isBlock v then key :: blockLines (indent ++ "  ") v else [key ++ " " ++ scalarText v]) ++
      entryLines indent more

end

/-! ## Paths -/

/-- Whether single quotes cannot hold a text: it has special characters, or a space beside a break. -/
def needsDoubleQuotes (cs : List Char) : Bool :=
  let special := fun (c : Char) =>
    let n := c.toNat
    !(c == '\n' || (0x20 ≤ n && n ≤ 0x7e) || n == 0x85 || (0xa0 ≤ n && n ≠ 0xfeff && n ≤ 0xfffd) ||
      0x10000 ≤ n)
  let broken := fun (c : Char) => isBreak c && c ≠ '\r'
  cs.any special ||
    (cs.zip cs.tail).any fun p => (p.1 == ' ' && broken p.2) || (broken p.1 && p.2 == ' ')

/-- The line break and the indentation that a broken scalar goes on with. -/
def newLine : List Char := ['\n', ' ', ' ']

/-- The runs of spaces, of breaks and of other characters in a text. -/
def runs : List Char → List (List Char)
  | [] => []
  | c :: rest =>
    let kind := fun (d : Char) => if d == ' ' then 0 else if isBreak d && d ≠ '\r' then 1 else 2
    match runs rest with
    | (d :: run) :: more => if kind c = kind d then (c :: d :: run) :: more else [c] :: (d :: run) :: more
    | more => [c] :: more

/-- The runs of a text in single quotes, from a column on. -/
def singleQuotedRuns (column : Nat) (first : Bool) : List (List Char) → List Char
  | [] => []
  | run :: more =>
    match run with
    | ' ' :: [] =>
      if column > 80 && !first && !more.isEmpty then newLine ++ singleQuotedRuns 2 false more
      else ' ' :: singleQuotedRuns (column + 1) false more
    | c :: _ =>
      if c == ' ' then run ++ singleQuotedRuns (column + run.length) false more
      else if isBreak c && c ≠ '\r' then
        (if c == '\n' then ['\n'] else []) ++ run ++ [' ', ' '] ++ singleQuotedRuns 2 false more
      else
        let text := run.flatMap fun d => if d == '\'' then ['\'', '\''] else [d]
        text ++ singleQuotedRuns (column + text.length) false more
    | [] => singleQuotedRuns column false more

/-- A text in double quotes from a column on, where `pending` is still to be written: a line that is too
long is broken at a space, or beside an escaped character. -/
def doubleQuotedFrom (column : Nat) (pending : List Char) (first : Bool) : List Char → List Char
  | [] => pending
  | c :: rest =>
    let mayBreak := !first && !rest.isEmpty
    if standsInQuotes c then
      if mayBreak && (c == ' ' || pending.isEmpty) && column + pending.length > 80 then
        let guard := if c == ' ' then ['\\'] else []
        pending ++ '\\' :: newLine ++ guard ++ doubleQuotedFrom (2 + guard.length) [c] false rest
      else doubleQuotedFrom column (pending ++ [c]) false rest
    else
      let written := pending ++ escapeInQuotes c
      let column := column + written.length
      if mayBreak && column > 81 then
        let guard := if rest.head? == some ' ' then ['\\'] else []
        written ++ '\\' :: newLine ++ guard ++ doubleQuotedFrom (2 + guard.length) [] false rest
      else written ++ doubleQuotedFrom column [] false rest

def pathEntry (path : String) : String :=
  let cs := path.toList
  let key := "path: "
  if needsDoubleQuotes cs then key ++ "\"" ++ String.ofList (doubleQuotedFrom 7 [] true cs) ++ "\"\n"
  else key ++ "'" ++ String.ofList (singleQuotedRuns 7 true (runs cs)) ++ "'\n"

end ModuleDocs.Yaml

namespace ModuleDocs

def Value.toYaml (v : Value) : String :=
  String.join ((Yaml.blockLines "" v).map (· ++ "\n"))

end ModuleDocs
