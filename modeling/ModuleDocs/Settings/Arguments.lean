import ModuleDocs.Number.Reader
import ModuleDocs.Settings.Config
import ModuleDocs.Value.Json

/-!
# Arguments

Settings given as arguments `--name value` or `--name=value`, where the name of a setting in a group follows
that of the group after a point. A value is read as its setting's default is: as a truth value, a number, a
text, or else as JSON.
-/
set_option autoImplicit false

namespace ModuleDocs

def Value.below? (names : List String) (v : Value) : Option Value :=
  names.foldl (fun v name => v.bind (·.get? name)) (some v)

def Value.ofArgument (kind : Option Value) (text : String) : Value :=
  match kind with
  | some (.bool _) =>
    if text = "true" then .bool true else if text = "false" then .bool false else .str text
  | some (.int _) =>
    match Number.int? text.toList with
    | some n => .int n
    | none => .str text
  | some (.list _) | some (.map _) => (Value.ofJson? text).getD (.str text)
  | _ => .str text

def setBelow (value : Value) : List String → List (String × Value) → List (String × Value)
  | [], entries => entries
  | [name], entries => Value.setEntry name value entries
  | name :: more, entries =>
    let inner := match entries.lookup name with
      | some (.map inner) => inner
      | _ => []
    Value.setEntry name (.map (setBelow value more inner)) entries

def addArgument (found : List (String × Value)) (name text : String) : List (String × Value) :=
  let names := name.splitOn "."
  setBelow (Value.ofArgument ((Value.map ({} : Settings).toEntries).below? names) text) names found

/-- The settings that arguments give beyond those found already, or the argument that is not understood. -/
def readArgumentsAfter (found : List (String × Value)) : List String → Except String (List (String × Value))
  | [] => .ok found
  | argument :: rest =>
    if !beginsWith argument "--" then .error argument
    else
      let body := String.ofList (argument.toList.drop 2)
      match body.splitOn "=" with
      | name :: piece :: more =>
        readArgumentsAfter (addArgument found name ("=".intercalate (piece :: more))) rest
      | _ =>
        match rest with
        | [] => .error argument
        | text :: rest => readArgumentsAfter (addArgument found body text) rest

def readArguments (arguments : List String) : Except String (List (String × Value)) :=
  readArgumentsAfter [] arguments

end ModuleDocs
