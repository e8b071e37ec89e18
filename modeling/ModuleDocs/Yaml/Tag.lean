import ModuleDocs.Pattern.Match
import ModuleDocs.Pattern.Reader
import ModuleDocs.Text.Search

/-!
# YAML tags

What a node is meant to be. A scalar without quotes and without a tag is known by the way it is written, which
differs a little between the two versions of the language.
-/
set_option autoImplicit false

namespace ModuleDocs.Yaml

open ModuleDocs.Text

inductive Tag where
  | null
  | bool
  | int
  | float
  | str
  | timestamp
  | binary
  | merge
  | value
  | seq
  | map
  | omap
  | pairs
  | set
  | other (name : String)
deriving Repr, DecidableEq

def standardTag (name : String) : String := "tag:yaml.org,2002:" ++ name

def Tag.standard : List (String × Tag) :=
  [("null", .null), ("bool", .bool), ("int", .int), ("float", .float), ("str", .str),
    ("timestamp", .timestamp), ("binary", .binary), ("merge", .merge), ("value", .value), ("seq", .seq),
    ("map", .map), ("omap", .omap), ("pairs", .pairs), ("set", .set)]

def Tag.ofName (name : String) : Tag :=
  match Tag.standard.find? fun e => standardTag e.1 = name with
  | some e => e.2
  | none => .other name

/-! ## Scalars without quotes -/

/-- A way to write scalars: the characters they start with, and a pattern for the whole of them. -/
structure Writing where
  tag : Tag
  starts : List Char
  pattern : Option Pattern

def Writing.ofSources (tag : Tag) (starts : String) (alternatives : List String) : Writing :=
  { tag, starts := starts.toList, pattern := Pattern.read? ("(?:" ++ "|".intercalate alternatives ++ ")$") }

def Writing.fits (w : Writing) (cs : List Char) : Bool :=
  cs.head?.any w.starts.contains && w.pattern.any (·.leads cs)

def sharedWritings : List Writing :=
  [.ofSources .merge "<" ["<<"],
    .ofSources .null "~nN" ["~", "null", "Null", "NULL"],
    .ofSources .timestamp "0123456789"
      ["[0-9][0-9][0-9][0-9]-[0-9][0-9]-[0-9][0-9]",
        "[0-9][0-9][0-9][0-9]-[0-9][0-9]?-[0-9][0-9]?(?:[Tt]|[ \\t]+)[0-9][0-9]?:[0-9][0-9]:[0-9][0-9]" ++
          "(?:\\.[0-9]*)?(?:[ \\t]*(?:Z|[-+][0-9][0-9]?(?::[0-9][0-9])?))?"],
    .ofSources .value "=" ["="],
    .ofSources (.other (standardTag "yaml")) "!&*" ["!", "&", "\\*"]]

def writings : List Writing :=
  [.ofSources .bool "tTfF" ["true", "True", "TRUE", "false", "False", "FALSE"],
    .ofSources .float "-+0123456789."
      ["[-+]?[0-9][0-9_]*\\.[0-9_]*(?:[eE][-+]?[0-9]+)?", "[-+]?[0-9][0-9_]*[eE][-+]?[0-9]+",
        "[-+]?\\.[0-9_]+(?:[eE][-+][0-9]+)?", "[-+]?\\.(?:inf|Inf|INF)", "\\.(?:nan|NaN|NAN)"],
    .ofSources .int "-+0123456789"
      ["[-+]?0b[0-1_]+", "[-+]?0o?[0-7_]+", "[-+]?[0-9_]+", "[-+]?0x[0-9a-fA-F_]+"]] ++ sharedWritings

/-- The ways of the first version: more words for truth values, and numbers to the base of sixty. -/
def oldWritings : List Writing :=
  [.ofSources .bool "yYnNtTfFoO"
      ["y", "Y", "yes", "Yes", "YES", "n", "N", "no", "No", "NO", "true", "True", "TRUE", "false", "False",
        "FALSE", "on", "On", "ON", "off", "Off", "OFF"],
    .ofSources .float "-+0123456789."
      ["[-+]?[0-9][0-9_]*\\.[0-9_]*(?:[eE][-+]?[0-9]+)?", "[-+]?[0-9][0-9_]*[eE][-+]?[0-9]+",
        "\\.[0-9_]+(?:[eE][-+][0-9]+)?", "[-+]?[0-9][0-9_]*(?::[0-5]?[0-9])+\\.[0-9_]*",
        "[-+]?\\.(?:inf|Inf|INF)", "\\.(?:nan|NaN|NAN)"],
    .ofSources .int "-+0123456789"
      ["[-+]?0b[0-1_]+", "[-+]?0?[0-7_]+", "[-+]?(?:0|[1-9][0-9_]*)", "[-+]?0x[0-9a-fA-F_]+",
        "[-+]?[1-9][0-9_]*(?::[0-5]?[0-9])+"]] ++ sharedWritings

def Tag.ofPlain (old : Bool) (cs : List Char) : Tag :=
  if cs.isEmpty then .null
  else
    match (if old then oldWritings else writings).find? (·.fits cs) with
    | some w => w.tag
    | none => .str

end ModuleDocs.Yaml
