import ModuleDocs.Markdown.Block
import ModuleDocs.Markdown.HtmlText
import ModuleDocs.Markdown.Inline

/-!
# Plain text

The text of a Markdown document without its markup. A paragraph stands on lines of its own, and so do
headings and code; a paragraph in a tight list only starts on a new line. An empty line is added after a
list, unless another one follows or the item around it ends.
-/
set_option autoImplicit false

namespace ModuleDocs.Markdown

open ModuleDocs.Text

def Block.isList : Block → Bool
  | .list _ _ => true
  | _ => false

mutual

/-- The text of a block. In a `tight` list nothing ends a paragraph, and a list that is `followed` by something
that ends it is set apart. -/
def Block.plain (defined : List (List Nat)) (tight followed : Bool) : Block → Except Error (List Char)
  | .paragraph text => .ok ('\n' :: inlineText defined text ++ (if tight then [] else ['\n']))
  | .heading text => .ok ('\n' :: inlineText defined text ++ ['\n'])
  | .break => .ok []
  | .code text => .ok ('\n' :: text ++ ['\n'])
  | .html text => htmlText text
  | .quote blocks => plainBlocks defined false true blocks
  | .list tight items => do
    return (← plainItems defined tight items) ++ (if followed then ['\n'] else [])

def plainBlocks (defined : List (List Nat)) (tight followed : Bool) : List Block → Except Error (List Char)
  | [] => .ok []
  | block :: more => do
    let apart := match more with
      | [] => followed
      | next :: _ => !next.isList
    return (← block.plain defined tight apart) ++ (← plainBlocks defined tight followed more)

def plainItems (defined : List (List Nat)) (tight : Bool) : List (List Block) → Except Error (List Char)
  | [] => .ok []
  | item :: more => do
    return (← plainBlocks defined tight false item) ++ (← plainItems defined tight more)

end

/-- A document with its line ends unified and without null characters. -/
def normalText (cs : List Char) : List Char :=
  (unifyNewlines cs).map fun c => if c.toNat = 0 then replacementCharacter else c

end ModuleDocs.Markdown

namespace ModuleDocs

open ModuleDocs.Text ModuleDocs.Markdown

def plainText (document : String) : Except Error String := do
  let (blocks, defined) := readBlocks (normalText document.toList)
  return String.ofList (trim (← plainBlocks defined false true blocks))

end ModuleDocs
