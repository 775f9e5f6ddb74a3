import LuauLayout.Binary64
import LuauLayout.Command.Arguments
import LuauLayout.Command.Export
import LuauLayout.Command.Help
import LuauLayout.Command.Outcome
import LuauLayout.Command.Program
import LuauLayout.Export
import LuauLayout.Export.OfValue
import LuauLayout.FilePath
import LuauLayout.FileSystem
import LuauLayout.FileSystem.Changes
import LuauLayout.FileSystem.Node
import LuauLayout.Json
import LuauLayout.Json.Fault
import LuauLayout.Json.Scan
import LuauLayout.Layout
import LuauLayout.Layout.Checked
import LuauLayout.Layout.Reading
import LuauLayout.Log
import LuauLayout.Main
import LuauLayout.Number
import LuauLayout.Number.Decimal
import LuauLayout.Number.Notation
import LuauLayout.Number.Numeral
import LuauLayout.Script.Block
import LuauLayout.Script.Identifier
import LuauLayout.Script.LongString
import LuauLayout.Script.Statement
import LuauLayout.Search
import LuauLayout.Settings
import LuauLayout.Text.Blank
import LuauLayout.Text.Codec
import LuauLayout.Text.DecimalDigit
import LuauLayout.Text.LineBreak
import LuauLayout.Text.Printable
import LuauLayout.Text.Quoted
import LuauLayout.Text.Utf8
import LuauLayout.Value
import LuauLayout.Proofs.Identifier
import LuauLayout.Proofs.LongString
import LuauLayout.Proofs.Placed
import LuauLayout.Proofs.UniqueNames
import LuauLayout.Proofs.Lines
import LuauLayout.Proofs.NumberText
import LuauLayout.Proofs.ScriptLines
import LuauLayout.Proofs.ObjectStore
import LuauLayout.Proofs.ObjectTree
import LuauLayout.Proofs.BlockRun
import LuauLayout.Proofs.ScriptRun
import LuauLayout.Proofs.Scope
import LuauLayout.Proofs.Renaming
import LuauLayout.Proofs.NumeralText
import LuauLayout.Proofs.FieldReading
import LuauLayout.Proofs.LayoutReading
import LuauLayout.Proofs.WrittenNumbers
import LuauLayout.Proofs.ExportEnding
import LuauLayout.Proofs.ScriptText
import LuauLayout.Proofs.ExportEffects
import LuauLayout.Proofs.RepeatedLocals
import LuauLayout.Proofs.UnterminatedTexts
import LuauLayout.Proofs.Appending
import LuauLayout.Proofs.ReadItems
import LuauLayout.Proofs.WriteBack
import LuauLayout.Proofs.BracketLevel
import LuauLayout.Proofs.FileChanges
import LuauLayout.Proofs.SafeTexts
import LuauLayout.Proofs.DeliveredScript
import LuauLayout.Proofs.LeastSuffix
import LuauLayout.Proofs.DerivedNames
import LuauLayout.Proofs.ReportedFields
import LuauLayout.Proofs.FixedNames
import LuauLayout.Proofs.WarningAccount
import LuauLayout.Proofs.SilentItems
import LuauLayout.Proofs.NumeralGrammar
import LuauLayout.Proofs.GridRounding
import LuauLayout.Proofs.NearestDouble
import LuauLayout.Proofs.NumberReading
import LuauLayout.Proofs.LiteralForm
import LuauLayout.Proofs.LiteralReading
import LuauLayout.Proofs.ItemInvariant
import LuauLayout.Proofs.RepeatedRun
import LuauLayout.Proofs.UnusableSettings
import LuauLayout.Proofs.OutputDirectory
