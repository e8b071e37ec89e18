import ModuleDocs.Yaml.Node
import ModuleDocs.Yaml.Scalar

/-!
# Reading YAML

The data of a tree of nodes. A mapping has no key twice, unless entries are merged into it: those give way to
its own, and of its own the later ones count. Collections are filled round by round, an outer one before the
ones in it, and the first fault on that way is the one that is reported.
-/
set_option autoImplicit false

namespace ModuleDocs.Yaml

/-! ## Faults by rounds -/

/-- A datum with the first fault of each round: that of making it, that of filling it, and those of filling
the collections in it. -/
structure Built where
  datum : Datum := .null
  faults : List (Option Error) := []

namespace Built

def ofResult : Except Error Datum → Built
  | .ok datum => { datum }
  | .error e => { faults := [some e] }

def atOnce (b : Built) : Option Error := b.faults.head?.join

/-- The first fault, if a datum is filled at once. -/
def first (b : Built) : Option Error := b.faults.findSome? id

def mergeFaults : List (Option Error) → List (Option Error) → List (Option Error)
  | [], faults => faults
  | faults, [] => faults
  | a :: as, b :: bs => (a <|> b) :: mergeFaults as bs

/-- A collection, with the faults of filling it in order, and the data that are filled in later rounds. -/
def filled (datum : Datum) (steps : List (Option Error)) (parts : List Built) : Built :=
  let later := (parts.map (·.faults.tail)).foldl mergeFaults []
  { datum, faults := none :: steps.findSome? id :: later }

def unfillable : Built := { faults := [none, some .badYaml] }

def malformed : Built := { faults := [some .badYaml] }

/-! ## Keys -/

def wrongKey (b : Built) : Option Error :=
  match b.datum with
  | .map _ | .set _ | .enclosing => some .badYaml
  | _ => none

def nestedKey (b : Built) : Option Error :=
  match b.datum with
  | .list items => if items.all Datum.isSingle then none else some .badKey
  | _ => none

/-! ## Collections -/

def list (items : List Built) : Built := filled (.list (items.map datum)) (items.map atOnce) items

/-- The faults of filling a map in order, and its entries. -/
def mapSteps (unique : Bool) : List (Built × Built) → List (Datum × Datum) →
    List (Option Error) × List (Datum × Datum)
  | [], found => ([], found)
  | (key, value) :: more, found =>
    let repeated := unique && found.any fun e => e.1.isSame key.datum
    let (steps, all) := mapSteps unique more (Datum.setEntry key.datum value.datum found)
    ([key.first, key.wrongKey, value.atOnce, key.nestedKey, if repeated then some .badYaml else none] ++ steps,
      all)

/-- A map, of which no key comes twice if nothing is merged into it. -/
def map (merged own : List (Built × Built)) : Built :=
  let (steps, entries) := mapSteps merged.isEmpty (merged ++ own) []
  filled (.map entries) steps ((merged ++ own).map (·.2))

def set (merged own : List (Built × Built)) : Built :=
  let all := map merged own
  match all.datum with
  | .map entries => { all with datum := .set (entries.map (·.1)) }
  | _ => all

/-- The faults of filling an ordered map from maps of one entry each, and its entries. -/
def orderedSteps : List (Option (Built × Built)) → List (Datum × Datum) →
    List (Option Error) × List (Datum × Datum)
  | [], found => ([], found)
  | none :: _, found => ([some .badYaml], found)
  | some (key, value) :: more, found =>
    let nested := if key.datum.isSingle then none else some .badKey
    let repeated := if found.any fun e => e.1.isSame key.datum then some .repeatedKey else none
    let (steps, all) := orderedSteps more (Datum.setEntry key.datum value.datum found)
    ([key.atOnce, nested, repeated, value.atOnce] ++ steps, all)

def entryParts (entries : List (Option (Built × Built))) : List Built :=
  entries.flatMap fun
    | some (key, value) => [key, value]
    | none => []

def orderedMap (entries : List (Option (Built × Built))) : Built :=
  let (steps, all) := orderedSteps entries []
  filled (.map all) steps (entryParts entries)

def pairs (entries : List (Option (Built × Built))) : Built :=
  let steps := entries.flatMap fun
    | some (key, value) => [key.atOnce, value.atOnce]
    | none => [some .badYaml]
  let items := entries.filterMap fun e => e.map fun (key, value) => Datum.list [key.datum, value.datum]
  filled (.list items) steps (entryParts entries)

end Built

/-! ## Nodes -/

structure Made where
  tag : Tag
  built : Built
  /-- The text that it stands for where a scalar is asked for. -/
  text : Option String := none
  isMapping : Bool := false
  entries : List (Built × Built) := []
  /-- The entries that it brings where it is merged into a mapping. -/
  brings : Except Error (List (Built × Built)) := .error .badYaml

def Made.entry? (m : Made) : Option (Built × Built) :=
  match m.isMapping, m.entries with
  | true, [entry] => some entry
  | _, _ => none

/-- A datum that is read from a text, by its tag. -/
def textDatum? (old : Bool) (tag : Tag) (text : String) : Option (Except Error Datum) :=
  match tag with
  | .null => some (.ok .null)
  | .bool => some (truthValue text)
  | .int => some (wholeNumber old text)
  | .float => some (pointNumber old text)
  | .str => some (.ok (.str text))
  | .binary => some (binary text)
  | _ => none

def scalarBuilt (old : Bool) (tag : Tag) (text : String) : Built :=
  match tag with
  | .timestamp => .ofResult (timestamp text)
  | .seq | .map | .omap | .pairs | .set => .unfillable
  | _ => ((textDatum? old tag text).map .ofResult).getD .malformed

def sequenceBuilt (tag : Tag) (items : List Made) : Built :=
  match tag with
  | .seq => .list (items.map (·.built))
  | .omap => .orderedMap (items.map Made.entry?)
  | .pairs => .pairs (items.map Made.entry?)
  | .map | .set => .unfillable
  | _ => .malformed

/-- The entries that are merged into a mapping, and its own. They are merged by one key; a key that only stands
for the value of a mapping is a text. -/
def splitEntries : List (Made × Made) → (merged : List (Built × Built)) →
    Except Error (List (Built × Built) × List (Built × Built))
  | [], merged => .ok (merged, [])
  | (key, value) :: more, merged => do
    match key.tag with
    | .merge =>
      if !merged.isEmpty then .error .badYaml
      splitEntries more (← value.brings)
    | .value =>
      let built := (key.text.map fun s => { datum := .str s }).getD .malformed
      let (merged, own) ← splitEntries more merged
      return (merged, (built, value.built) :: own)
    | _ =>
      let (merged, own) ← splitEntries more merged
      return (merged, (key.built, value.built) :: own)

def mappingBuilt (old : Bool) (tag : Tag) (text : Option String) (entries : List (Made × Made)) : Built :=
  let whole := fun (make : List (Built × Built) → List (Built × Built) → Built) =>
    match splitEntries entries [] with
    | .ok (merged, own) => make merged own
    | .error e => { faults := [none, some e] }
  match tag with
  | .map => whole Built.map
  | .set => whole Built.set
  | .seq | .omap | .pairs => .unfillable
  | _ => ((text.bind (textDatum? old tag)).map .ofResult).getD .malformed

/-- What a list of mappings brings where it is merged: the first of them counts most. -/
def itemsBring (items : List Made) : Except Error (List (Built × Built)) :=
  if items.all (·.isMapping) then do return (← items.reverse.mapM (·.brings)).flatten
  else .error .badYaml

mutual

def Node.make (old : Bool) : Node → Made
  | .enclosing _ => { tag := .map, built := { datum := .enclosing }, isMapping := true, brings := .ok [] }
  | .scalar tag text => { tag, text := some text, built := scalarBuilt old tag text }
  | .sequence tag items =>
    let items := makeItems old items
    { tag, built := sequenceBuilt tag items, brings := itemsBring items }
  | .mapping tag entries =>
    let entries := makeEntries old entries
    let text := (entries.find? fun e => e.1.tag = .value).bind (·.2.text)
    { tag, text, built := mappingBuilt old tag text entries, isMapping := true,
      entries := entries.map fun e => (e.1.built, e.2.built)
      brings := (splitEntries entries []).map fun e => e.1 ++ e.2 }

def makeItems (old : Bool) : List Node → List Made
  | [] => []
  | item :: more => item.make old :: makeItems old more

def makeEntries (old : Bool) : List (Node × Node) → List (Made × Made)
  | [] => []
  | (key, value) :: more => (key.make old, value.make old) :: makeEntries old more

end

/-- The datum of a YAML text; an empty text is null. -/
def Datum.ofYaml (text : String) : Except Error Datum := do
  let (node, old) ← document text.toList
  match node with
  | none => return .null
  | some node =>
    let built := (node.make old).built
    match built.first with
    | some e => .error e
    | none => return built.datum

end ModuleDocs.Yaml

namespace ModuleDocs

def Value.ofYaml (text : String) : Except Error Value := do return (← Yaml.Datum.ofYaml text).toValue

end ModuleDocs
