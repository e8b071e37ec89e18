import ModuleDocs.Text.Blank
import ModuleDocs.Text.Word
import ModuleDocs.Text.Case

/-!
# Search patterns

The syntax tree of a regular expression with captures, back references, look-around, atomic groups
and conditionals, and the range of lengths that a tree can match.
-/
set_option autoImplicit false

namespace ModuleDocs.Pattern

open ModuleDocs.Text

/-! ## Character sets -/

inductive Category where
  | digit
  | blank
  | word
deriving Repr, DecidableEq

/-- Whether a character is in a class; with `ascii` only ASCII characters are in any. -/
def Category.has (ascii : Bool) (c : Char) : Category → Bool
  | .digit => if ascii then isAsciiDigit c else isDigit c
  | .blank => isBlank c && (!ascii || (c.toNat < 128 && !(28 ≤ c.toNat && c.toNat ≤ 31)))
  | .word => if ascii then isAsciiWord c else isWord c

/-- One entry of a set: a code point, a range of them, or a class. -/
inductive Member where
  | code (n : Nat)
  | range (lo hi : Nat)
  | category (kind : Category) (negated : Bool)
deriving Repr, DecidableEq

def Member.has (ascii : Bool) (n : Nat) : Member → Bool
  | .code m => n == m
  | .range lo hi => lo ≤ n && n ≤ hi
  | .category kind negated => kind.has ascii (Char.ofNat n) != negated

/-- A set of characters, possibly complemented and possibly blind to letter case. -/
structure CharSet where
  members : List Member
  negated : Bool := false
  foldCase : Bool := false
  ascii : Bool := false
deriving Repr, DecidableEq

/-- Whether a character is in a set. Classes look at the character as it stands even in a set that is blind to
letter case. -/
def CharSet.has (set : CharSet) (c : Char) : Bool :=
  let codes :=
    if !set.foldCase then [c.toNat]
    else if set.ascii then asciiCaseVariants c.toNat else caseVariants c.toNat
  set.members.any (fun m =>
    match m with
    | .category _ _ => m.has set.ascii c.toNat
    | _ => codes.any fun n => m.has set.ascii n) != set.negated

/-! ## Trees -/

/-- A condition on a place in the text. -/
inductive Anchor where
  | textStart
  | textEnd
  | lineStart
  | lineEnd
  | lastLineEnd
  | wordEdge (ascii : Bool)
  | wordInside (ascii : Bool)
deriving Repr, DecidableEq

/-- Whether a repetition tries many rounds first, few rounds first, or keeps all it can get. -/
inductive Greed where
  | greedy
  | reluctant
  | possessive
deriving Repr, DecidableEq

inductive Node where
  | empty
  | char (c : Char)
  | set (s : CharSet)
  | anyChar (newlineToo : Bool)
  | anchor (a : Anchor)
  | seq (first second : Node)
  | alt (first second : Node)
  | repeated (body : Node) (least : Nat) (most : Option Nat) (greed : Greed)
  | capture (index : Nat) (body : Node)
  | recall (index : Nat) (foldCase ascii : Bool)
  | ahead (wanted : Bool) (body : Node)
  | behind (wanted : Bool) (width : Nat) (body : Node)
  | atomic (body : Node)
  | ifCaptured (index : Nat) (yes no : Node)
deriving Repr, DecidableEq

def Node.ofList : List Node → Node
  | [] => .empty
  | [node] => node
  | node :: more => .seq node (Node.ofList more)

/-! ## Lengths -/

/-- The least and the greatest length of a match; `none` is unbounded. -/
structure Width where
  least : Nat
  most : Option Nat
deriving Repr, DecidableEq

def Width.fixed (n : Nat) : Width := ⟨n, some n⟩

def Width.add (v w : Width) : Width :=
  ⟨v.least + w.least, do return (← v.most) + (← w.most)⟩

def Width.join (v w : Width) : Width :=
  ⟨min v.least w.least, do return max (← v.most) (← w.most)⟩

def Width.times (w : Width) (least : Nat) (most : Option Nat) : Width :=
  ⟨w.least * least,
    if w.most = some 0 ∨ most = some 0 then some 0 else do return (← w.most) * (← most)⟩

/-- The lengths that a node can match, given those of the captures it refers to. -/
def Node.width (captures : List (Nat × Width)) : Node → Width
  | .empty | .anchor _ | .ahead _ _ | .behind _ _ _ => .fixed 0
  | .char _ | .set _ | .anyChar _ => .fixed 1
  | .seq first second => (first.width captures).add (second.width captures)
  | .alt first second => (first.width captures).join (second.width captures)
  | .repeated body least most _ => (body.width captures).times least most
  | .capture _ body | .atomic body => body.width captures
  | .recall index _ _ => (captures.lookup index).getD (.fixed 0)
  | .ifCaptured _ yes no => (yes.width captures).join (no.width captures)

end ModuleDocs.Pattern

namespace ModuleDocs

/-- A pattern that has been read: its tree, how many captures it has, and the names of some. -/
structure Pattern where
  node : Pattern.Node
  captures : Nat := 0
  names : List (String × Nat) := []
deriving Repr, DecidableEq

end ModuleDocs
