import TemplateHover.Context
import TemplateHover.Decimal.Shortest
import TemplateHover.Document
import TemplateHover.Folder
import TemplateHover.Hover.Provider
import TemplateHover.Hover.Resolution
import TemplateHover.Hover.Tooltip
import TemplateHover.Json.Basic
import TemplateHover.Json.Number
import TemplateHover.Json.Parser
import TemplateHover.Json.Printer
import TemplateHover.Main
import TemplateHover.Position
import TemplateHover.Proofs.ActionContexts
import TemplateHover.Proofs.ColumnRounding
import TemplateHover.Proofs.Columns
import TemplateHover.Proofs.CoveredColumns
import TemplateHover.Proofs.CursorWord
import TemplateHover.Proofs.Dispatch
import TemplateHover.Proofs.DocumentHistory
import TemplateHover.Proofs.Documents
import TemplateHover.Proofs.FlatKeys
import TemplateHover.Proofs.FlatScan
import TemplateHover.Proofs.FolderFiles
import TemplateHover.Proofs.KeyPosition
import TemplateHover.Proofs.LayeredTables
import TemplateHover.Proofs.LineEnds
import TemplateHover.Proofs.LineLocality
import TemplateHover.Proofs.OutsideActions
import TemplateHover.Proofs.OutsideContext
import TemplateHover.Proofs.Patterns
import TemplateHover.Proofs.ServiceLifecycle
import TemplateHover.Proofs.ServiceTransition
import TemplateHover.Proofs.SessionHover
import TemplateHover.Proofs.SetUp
import TemplateHover.Proofs.SetUpOnce
import TemplateHover.Proofs.SettingsShape
import TemplateHover.Proofs.SymbolFile
import TemplateHover.Proofs.SymbolSource
import TemplateHover.Proofs.TomlText
import TemplateHover.Proofs.TooltipCompleteness
import TemplateHover.Proofs.UserSymbols
import TemplateHover.Proofs.WordCuts
import TemplateHover.Proofs.WordPlace
import TemplateHover.Proofs.WordRanges
import TemplateHover.Proofs.WordSegments
import TemplateHover.Rpc.Method
import TemplateHover.Rpc.Params
import TemplateHover.Rpc.Service
import TemplateHover.Rpc.Shape
import TemplateHover.Rpc.Wire
import TemplateHover.Session.Answer
import TemplateHover.Session.Basic
import TemplateHover.Session.Documents
import TemplateHover.Settings
import TemplateHover.Symbol.Builtin
import TemplateHover.Symbol.File
import TemplateHover.Symbol.Source
import TemplateHover.Symbol.Table
import TemplateHover.Text.Blank
import TemplateHover.Text.CharSet
import TemplateHover.Text.Digit
import TemplateHover.Text.Hex
import TemplateHover.Text.Hidden
import TemplateHover.Text.Line
import TemplateHover.Text.Pattern
import TemplateHover.Text.Quoted
import TemplateHover.Text.Utf16
import TemplateHover.Text.Word
import TemplateHover.Text.WordChar
import TemplateHover.Toml.Draft
import TemplateHover.Toml.Key
import TemplateHover.Toml.Literal
import TemplateHover.Toml.Number
import TemplateHover.Toml.Parser
import TemplateHover.Toml.Space
import TemplateHover.Toml.String
import TemplateHover.Toml.Time
import TemplateHover.Toml.Value
import TemplateHover.Uri.Address
import TemplateHover.Uri.Host
import TemplateHover.Uri.Parser
import TemplateHover.Uri.Path
import TemplateHover.Uri.Percent
import TemplateHover.Uri.Punycode
import TemplateHover.Yaml.Cursor
import TemplateHover.Yaml.Directive
import TemplateHover.Yaml.Event
import TemplateHover.Yaml.Fault
import TemplateHover.Yaml.KeySearch
import TemplateHover.Yaml.Scalar.Block
import TemplateHover.Yaml.Scalar.Fold
import TemplateHover.Yaml.Scalar.Plain
import TemplateHover.Yaml.Scalar.Quoted
import TemplateHover.Yaml.Scanner
import TemplateHover.Yaml.Space
import TemplateHover.Yaml.Tag
import TemplateHover.Yaml.Token
