import ModuleDocs.Error
import ModuleDocs.Settings.Basic
import ModuleDocs.Text.Lines

/-!
# The marked region

The generated text stands between two marker lines. In a target without markers the region goes to the
end; otherwise the first start marker must come before the first end marker, and the lines between them
are replaced.
-/
set_option autoImplicit false

namespace ModuleDocs

def TargetSettings.markerLine (t : TargetSettings) (kind : String) : String :=
  "<!-- " ++ t.marker ++ " " ++ kind ++ " -->"

def TargetSettings.startMarker (t : TargetSettings) : String := t.markerLine "START"

def TargetSettings.endMarker (t : TargetSettings) : String := t.markerLine "END"

def position? (ls : List String) (line : String) : Option Nat := ls.findIdx? (· == line)

def insertRegion (t : TargetSettings) (content docs : List String) : Except Error (List String) :=
  match position? content t.startMarker, position? content t.endMarker with
  | none, none =>
    match t.insertPosition with
    | .bottom => .ok (content ++ t.startMarker :: docs ++ [t.endMarker])
    | .other _ => .error .invalidInsertPosition
  | some start, some stop =>
    if start ≤ stop then .ok (content.take (start + 1) ++ docs ++ content.drop stop)
    else .error .invalidMarkers
  | _, _ => .error .invalidMarkers

def Settings.markerLine (s : Settings) (kind : String) : Except Error String := do
  s.ensure .marker
  return s.targetConfig.markerLine kind

/-- Lines with the generated lines put between the markers, by the settings. -/
def Settings.insertRegion (s : Settings) (content docs : List String) : Except Error (List String) := do
  s.ensure .marker
  ModuleDocs.insertRegion s.targetConfig content docs

end ModuleDocs
