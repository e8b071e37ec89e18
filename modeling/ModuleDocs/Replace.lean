import ModuleDocs.Pattern.Replace
import ModuleDocs.Settings.Basic
import ModuleDocs.Template

/-!
# Replacing texts in columns

The replacement rules of the settings, filled in with their variables and applied one after the other.
-/
set_option autoImplicit false

namespace ModuleDocs

def ReplaceRule.filled (r : ReplaceRule) : Except Error ReplaceRule := do
  let pattern ← fillTemplate r.vars r.pattern
  let replace ← fillTemplate r.vars r.replace
  return { pattern, replace, column := r.column }

def Settings.filledRules (s : Settings) : Except Error (List ReplaceRule) := do
  s.ensure .rules
  s.replace.mapM ReplaceRule.filled

/-- Applies the rules of a column to a text. All rules are filled in first, also those of other
columns. -/
def Settings.replaceIn (s : Settings) (column : TextColumn) (text : String) : Except Error String := do
  let rules := (← s.filledRules).filter (·.column = column)
  rules.foldlM (fun text r => substitute r.pattern r.replace text) text

end ModuleDocs
