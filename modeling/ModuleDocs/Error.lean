import ModuleDocs.Text.Quoted

/-!
# Errors

All causes for which a step of the program can fail, and the text of those that are reported with one.
-/
set_option autoImplicit false

namespace ModuleDocs

inductive Error where
  | badPattern
  /-- A search pattern has a number of repetitions that is too large. -/
  | tooManyRepetitions
  /-- A search pattern has flags that exclude each other. -/
  | conflictingFlags
  /-- A replacement refers to a named capture that the pattern does not have. -/
  | unknownCapture
  /-- A template has an unmatched brace or an unknown format. -/
  | badTemplate
  | unknownField
  | positionalField
  /-- A template asks for an attribute that a value does not have. -/
  | unknownAttribute
  /-- A template asks for a part of a value that has no such parts. -/
  | badIndex
  /-- A template has a format for a value that is no text. -/
  | badFormat
  /-- A template asks for a text that is too wide to be made. -/
  | tooWide
  /-- A marked section of HTML has no name that is known. -/
  | unknownSection
  /-- A reference to a character has more digits than a number may have. -/
  | longReference
  | badYaml
  /-- A YAML text is written in a version of the language that is not known. -/
  | unknownVersion
  | noSuchCharacter
  | codeTooLarge
  | badTruthValue
  /-- A scalar is marked as a number and has no characters. -/
  | emptyNumber
  | malformedNumber
  | noSuchDate
  | dateOutOfRange
  | badKey
  | repeatedKey
  | notEntries
  /-- A config file has an entry that is not made of a key and a value. -/
  | notAPair
  | keyNotText
  /-- Data do not have the declared shape. -/
  | invalid
  /-- A setting has a value of a kind that cannot be used as it is. -/
  | unusableSetting
  /-- A setting has a value that lacks a part that is asked of it. -/
  | incompleteSetting
  /-- A text has no known parse result. -/
  | unparsed
  | invalidLine (loc : Int) (lines : List String)
  | lineOutOfRange
  | startMismatch (pattern line : String) (loc : Int)
  | endMismatch (pattern line : String)
  | noBlocks (pattern text : String)
  | declarationMissing (pattern : String)
  | localMissing (name : String)
  | propertyMissing
  /-- A closing bracket comes before any opening one. -/
  | strayBracket
  | unmatchedBrackets (property : String)
  | noIdentifier
  | lifecycleEmpty
  /-- The lifecycle of a resource, or its conditions, cannot be gone through. -/
  | lifecycleShape
  | lifecycleEntry
  | alreadyDefined (kind name : String)
  | matchCount (count : Nat) (name : String)
  | noRowModel (label : String)
  | outsideModule
  | noProvider
  | noItems
  | missingCell
  | badNumber
  | invalidFormat (format : String)
  | invalidInsertPosition
  | invalidMarkers
  | targetIsStdout
  | targetIsStderr
  /-- No earlier text is known to compare with. -/
  | nothingToCompare
  | noRepository
  | bareRepository
  | noSuchTarget
  | stagingFailed
  | fileNotFound
  | isDirectory
  | notDirectory
  | fileExists
  /-- The system does not make, open or store what it is asked to. -/
  | diskFailure
  | configMissing (path : String)
  | configIsDirectory (value : String)
  | configParentMissing (value : String)
  | configExists (path : String)
  | gitMissing (value : String)
  | gitNotFile (value : String)
  | gitNotExecutable (value : String)
deriving Repr, DecidableEq

namespace Error

/-- The text of an error that the program itself reports. -/
def message? : Error → Option String
  | .invalidLine loc lines => some s!"Invalid LOC: {loc}, found {quotedList lines}"
  | .startMismatch pattern line loc =>
    some s!"Invalid start regex: {pattern}, found {line} on LOC {loc}"
  | .endMismatch pattern line => some s!"Invalid end regex: {pattern}, found {line}"
  | .noBlocks pattern text => some s!"No blocks found for {pattern} in {text}"
  | .declarationMissing pattern => some s!"{pattern} not found in file"
  | .localMissing name => some s!"{name} not found in file"
  | .unmatchedBrackets property => some s!"Unmatched brackets in {property} block"
  | .alreadyDefined kind name => some s!"Already defined: {kind} {name}"
  | .matchCount count name => some s!"Found {count} matches for {name}"
  | .noRowModel label => some s!"No output model found for {label}"
  | .invalidFormat format => some s!"Invalid format: {format}"
  | .invalidInsertPosition => some "Invalid insert position"
  | .invalidMarkers => some "Invalid marker positions in target"
  | .targetIsStdout => some "Target is stdout"
  | .targetIsStderr => some "Target is stderr"
  | .bareRepository => some "Could not locate git repository"
  | .configMissing path => some s!"Config file {path} does not exist"
  | .configIsDirectory value => some s!"Config file {value} is a directory"
  | .configParentMissing value => some s!"Config file {value} parent directory does not exist"
  | .configExists path => some s!"Config file {path} already exists"
  | .gitMissing value => some s!"Git executable {value} does not exist"
  | .gitNotFile value => some s!"Git executable {value} is not a file"
  | .gitNotExecutable value => some s!"Git executable {value} is not executable"
  | _ => none

end Error

end ModuleDocs
