import ModuleDocs.Yaml.Tag
import ModuleDocs.Yaml.Token

/-!
# YAML nodes

The tree of a YAML document: scalars, sequences and mappings with their tags. An alias is replaced by
the node that has its anchor; where it stands inside that node, the node is repeated there once.
-/
set_option autoImplicit false

namespace ModuleDocs.Yaml

inductive Node where
  | scalar (tag : Tag) (text : String)
  | sequence (tag : Tag) (items : List Node)
  | mapping (tag : Tag) (entries : List (Node × Node))
  /-- A collection that this node is a part of, by its number. -/
  | enclosing (number : Nat)
deriving Repr

/-! ## Repeated nodes -/

mutual

def Node.fill (number : Nat) (whole : Node) : Node → Node
  | .scalar tag text => .scalar tag text
  | .sequence tag items => .sequence tag (fillItems number whole items)
  | .mapping tag entries => .mapping tag (fillEntries number whole entries)
  | .enclosing n => if n = number then whole else .enclosing n

def fillItems (number : Nat) (whole : Node) : List Node → List Node
  | [] => []
  | item :: more => Node.fill number whole item :: fillItems number whole more

def fillEntries (number : Nat) (whole : Node) : List (Node × Node) → List (Node × Node)
  | [] => []
  | (key, value) :: more =>
    (Node.fill number whole key, Node.fill number whole value) :: fillEntries number whole more

end

/-! ## State -/

structure Parsing where
  rest : List Token
  version : Nat × Nat := (1, 2)
  handles : List (String × String) := [("!", "!"), ("!!", standardTag "")]
  anchors : List (String × Node) := []
  opened : Nat := 0

abbrev Parse := StateT Parsing (Except Error)

def refuse {α : Type} : Parse α := do
  match (← get).rest with
  | .fault e :: _ => throw e
  | _ => throw .badYaml

def ahead : Parse (Option Token) := do return (← get).rest.head?

def skip : Parse Unit := modify fun s => { s with rest := s.rest.tail }

def accept (t : Token) : Parse Bool := do
  if (← ahead) == some t then
    skip
    return true
  else return false

def expect (t : Token) : Parse Unit := do
  if ← accept t then return else refuse

/-- Whether one of some tokens, or the end, comes next. -/
def stopsAt (ts : List Token) : Parse Bool := do
  match ← ahead with
  | none => return true
  | some t => return ts.contains t

/-! ## Properties of nodes -/

def takeTagName (handle : Option String) (suffix : String) : Parse String := do
  match handle with
  | none => return suffix
  | some handle =>
    match (← get).handles.lookup handle with
    | some meaning => return meaning ++ suffix
    | none => throw .badYaml

/-- The anchor and the tag of a node, in either order. -/
def takeProperties : Parse (Option String × Option String) := do
  match ← ahead with
  | some (.anchor a) =>
    skip
    match ← ahead with
    | some (.tag handle suffix) =>
      skip
      return (some a, some (← takeTagName handle suffix))
    | _ => return (some a, none)
  | some (.tag handle suffix) =>
    skip
    let anchor ← match ← ahead with
      | some (.anchor a) =>
        skip
        pure (some a)
      | _ => pure none
    return (anchor, some (← takeTagName handle suffix))
  | _ => return (none, none)

/-- The tag of a scalar by the way it is written, in a version that is known. -/
def plainTag (text : String) : Parse Tag := do
  match (← get).version with
  | (1, 2) => return .ofPlain false text.toList
  | (1, 1) => return .ofPlain true text.toList
  | _ => throw .unknownVersion

/-- A scalar with the tag that is given or, for want of one, the tag it is written for. -/
def makeScalar (text : String) (plain : Bool) (tag : Option String) : Parse Node := do
  match tag with
  | none => if plain then return .scalar (← plainTag text) text else return .scalar .str text
  | some "!" => return .scalar (← plainTag text) text
  | some name => return .scalar (.ofName name) text

def missing : Parse Node := makeScalar "" true none

def mayOmitKey : Parse Bool := do
  let (major, minor) := (← get).version
  return major > 1 || (major == 1 && minor > 1)

def collectionTag (usual : Tag) (tag : Option String) : Tag :=
  match tag with
  | none | some "!" => usual
  | some name => .ofName name

/-- A collection under its anchor, which can be used inside it already. -/
def anchored (anchor : Option String) (body : Parse Node) : Parse Node := do
  match anchor with
  | none => body
  | some name =>
    let number := (← get).opened
    modify fun s => { s with opened := number + 1, anchors := (name, .enclosing number) :: s.anchors }
    let node ← body
    let whole := Node.fill number node node
    modify fun s => { s with anchors := s.anchors.map fun e => (e.1, Node.fill number whole e.2) }
    return whole

def anchoredScalar (anchor : Option String) (node : Node) : Parse Node := do
  match anchor with
  | none => return node
  | some name =>
    modify fun s => { s with anchors := (name, node) :: s.anchors }
    return node

/-! ## Nodes -/

mutual

/-- A node. In a block it may be a block collection; as the value of a key also a sequence that is not
indented. -/
def parseNode : (fuel : Nat) → (block indentless : Bool) → Parse Node
  | 0, _, _ => refuse
  | fuel + 1, block, indentless => do
    match ← ahead with
    | some (.alias name) =>
      skip
      match (← get).anchors.lookup name with
      | some node => return node
      | none => refuse
    | _ =>
      let (anchor, tag) ← takeProperties
      let empty := do
        if anchor.isNone && tag.isNone then refuse
        anchoredScalar anchor (← makeScalar "" true tag)
      match ← ahead with
      | some (.scalar text plain) =>
        skip
        anchoredScalar anchor (← makeScalar text plain tag)
      | some .flowSequenceStart =>
        skip
        anchored anchor do return .sequence (collectionTag .seq tag) (← parseFlowItems fuel true)
      | some .flowMappingStart =>
        skip
        anchored anchor do return .mapping (collectionTag .map tag) (← parseFlowEntries fuel true)
      | some .sequenceStart =>
        if !block then empty
        else
          skip
          anchored anchor do return .sequence (collectionTag .seq tag) (← parseItems fuel)
      | some .mappingStart =>
        if !block then empty
        else
          skip
          anchored anchor do return .mapping (collectionTag .map tag) (← parseEntries fuel)
      | some .blockEntry =>
        if !indentless then empty
        else anchored anchor do return .sequence (collectionTag .seq tag) (← parseIndentless fuel)
      | _ => empty

def parseItems : (fuel : Nat) → Parse (List Node)
  | 0 => refuse
  | fuel + 1 => do
    if ← accept .blockEntry then
      let item ← if ← stopsAt [.blockEntry, .blockEnd] then missing else parseNode fuel true false
      return item :: (← parseItems fuel)
    else
      expect .blockEnd
      return []

/-- The items of a sequence that stands at the indentation of its key. -/
def parseIndentless : (fuel : Nat) → Parse (List Node)
  | 0 => refuse
  | fuel + 1 => do
    if ← accept .blockEntry then
      let item ←
        if ← stopsAt [.blockEntry, .key, .value, .blockEnd] then missing
        else parseNode fuel true false
      return item :: (← parseIndentless fuel)
    else return []

def parseEntries : (fuel : Nat) → Parse (List (Node × Node))
  | 0 => refuse
  | fuel + 1 => do
    let part := do
      if ← stopsAt [.key, .value, .blockEnd] then missing else parseNode fuel true true
    if ← accept .key then
      let key ← part
      let value ← if ← accept .value then part else missing
      return (key, value) :: (← parseEntries fuel)
    else if (← mayOmitKey) && (← ahead) == some .value then
      skip
      let key ← missing
      return (key, ← part) :: (← parseEntries fuel)
    else
      expect .blockEnd
      return []

/-- The items of a flow sequence, where a key makes a mapping of one entry. -/
def parseFlowItems : (fuel : Nat) → (first : Bool) → Parse (List Node)
  | 0, _ => refuse
  | fuel + 1, first => do
    if ← accept .flowSequenceEnd then return []
    if !first then expect .flowEntry
    if ← accept .flowSequenceEnd then return []
    let item ←
      if ← accept .key then
        let key ←
          if ← stopsAt [.value, .flowEntry, .flowSequenceEnd] then missing
          else parseNode fuel false false
        let value ←
          if ← accept .value then
            if ← stopsAt [.flowEntry, .flowSequenceEnd] then missing
            else parseNode fuel false false
          else missing
        pure (Node.mapping .map [(key, value)])
      else parseNode fuel false false
    return item :: (← parseFlowItems fuel false)

def parseFlowEntries : (fuel : Nat) → (first : Bool) → Parse (List (Node × Node))
  | 0, _ => refuse
  | fuel + 1, first => do
    if ← accept .flowMappingEnd then return []
    if !first then expect .flowEntry
    if ← accept .flowMappingEnd then return []
    let value := do
      if ← accept .value then
        if ← stopsAt [.flowEntry, .flowMappingEnd] then missing
        else parseNode fuel false false
      else missing
    let entry ←
      if ← accept .key then
        let key ←
          if ← stopsAt [.value, .flowEntry, .flowMappingEnd] then missing
          else parseNode fuel false false
        pure (key, ← value)
      else if (← mayOmitKey) && (← ahead) == some .value then pure (← missing, ← value)
      else pure (← parseNode fuel false false, ← missing)
    return entry :: (← parseFlowEntries fuel false)

end

/-! ## Documents -/

/-- Takes the directives of a document. A handle has one meaning, and the version is of the first edition. -/
def takeDirectives : (fuel : Nat) → (versions : Nat) → (named : List String) → Parse Unit
  | 0, _, _ => return
  | fuel + 1, versions, named => do
    match ← ahead with
    | some (.directive (.version major minor)) =>
      if versions ≠ 0 || major ≠ 1 then throw .badYaml
      skip
      modify fun s => { s with version := (major, minor) }
      takeDirectives fuel (versions + 1) named
    | some (.directive (.handle name meaning)) =>
      if named.contains name then throw .badYaml
      skip
      modify fun s => { s with handles := (name, meaning) :: s.handles }
      takeDirectives fuel versions (name :: named)
    | some (.directive .other) =>
      skip
      takeDirectives fuel versions named
    | _ => return

def atDocumentEdge : Parse Bool := do
  match ← ahead with
  | none | some (.directive _) | some .documentStart | some .documentEnd => return true
  | _ => return false

/-- The one document of a stream; `none` for a stream without documents. -/
def parseStream (fuel : Nat) : Parse (Option Node) := do
  let s ← get
  if s.rest.isEmpty then return none
  let explicit := match s.rest.head? with
    | some (.directive _) | some .documentStart => true
    | _ => false
  let node ←
    if explicit then
      takeDirectives s.rest.length 0 []
      expect .documentStart
      if ← atDocumentEdge then missing else parseNode fuel true false
    else parseNode fuel true false
  let _ ← accept .documentEnd
  if (← get).version = (1, 1) then
    modify fun s => { s with rest := s.rest.dropWhile (· == .documentEnd) }
  if (← get).rest.isEmpty then return some node else refuse

/-- The document of a YAML text, and whether it is in the first version of the language. -/
def document (text : List Char) : Except Error (Option Node × Bool) := do
  let tokens := tokensOf text
  let (node, s) ← (parseStream (2 * tokens.length + 2)).run { rest := tokens }
  return (node, s.version == (1, 1))

end ModuleDocs.Yaml
