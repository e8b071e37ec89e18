import ModuleDocs.Main
import ModuleDocs.Settings.Force
import ModuleDocs.Proofs.Rewriting
import ModuleDocs.Proofs.Failure
import ModuleDocs.Proofs.Rerun
import ModuleDocs.Proofs.Place
import ModuleDocs.Proofs.Alignment
import ModuleDocs.Proofs.VisitingOrder
import ModuleDocs.Proofs.PropertyValue
import ModuleDocs.Proofs.Removal
import ModuleDocs.Proofs.ConfigFile
import ModuleDocs.Proofs.Reload
import ModuleDocs.Proofs.Numbering
import ModuleDocs.Proofs.WrittenRegion
import ModuleDocs.Proofs.HereDocument
import ModuleDocs.Proofs.WholeLine
import ModuleDocs.Proofs.Literal
import ModuleDocs.Proofs.RowOrder
import ModuleDocs.Proofs.Classification
import ModuleDocs.Proofs.Skipping
import ModuleDocs.Proofs.TableRows
import ModuleDocs.Proofs.TableText
import ModuleDocs.Proofs.CollapsedCell
import ModuleDocs.Proofs.DescriptionLists
import ModuleDocs.Proofs.LocalPlace
import ModuleDocs.Proofs.StrayBracket
import ModuleDocs.Proofs.SurroundingBlanks
import ModuleDocs.Proofs.UsablePath
import ModuleDocs.Proofs.References
import ModuleDocs.Proofs.Session
