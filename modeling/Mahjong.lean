import Mahjong.CommandLine.Invocation
import Mahjong.CommandLine.Log
import Mahjong.CommandLine.Option
import Mahjong.CommandLine.Outcome
import Mahjong.Decimal.Basic
import Mahjong.Decimal.Binary
import Mahjong.Decimal.Format
import Mahjong.Decimal.Shortest
import Mahjong.Digest.Sha256
import Mahjong.Event
import Mahjong.File.Directory
import Mahjong.File.Error
import Mahjong.File.Path
import Mahjong.File.Tree
import Mahjong.Hand.Events
import Mahjong.Hand.Mark
import Mahjong.Hand.Scan
import Mahjong.Instruction
import Mahjong.Instruction.Json
import Mahjong.Json.Canonical
import Mahjong.Json.Data
import Mahjong.Json.Numeral
import Mahjong.Json.Printer
import Mahjong.Json.Record
import Mahjong.Json.Token
import Mahjong.Json.Tree
import Mahjong.Json.Value
import Mahjong.Layout.Drawing
import Mahjong.Layout.Json
import Mahjong.Layout.Length
import Mahjong.Layout.Markup
import Mahjong.Layout.Style
import Mahjong.Main
import Mahjong.Proofs.CommandLine.Batch
import Mahjong.Proofs.CommandLine.Designs
import Mahjong.Proofs.CommandLine.Input
import Mahjong.Proofs.Decimal.Bits
import Mahjong.Proofs.Decimal.Digits
import Mahjong.Proofs.Decimal.Rounding
import Mahjong.Proofs.Hand.Alphabet
import Mahjong.Proofs.Hand.Composition
import Mahjong.Proofs.Hand.Gaps
import Mahjong.Proofs.Hand.Groups
import Mahjong.Proofs.Hand.Length
import Mahjong.Proofs.Hand.Quotes
import Mahjong.Proofs.Hand.Reopening
import Mahjong.Proofs.Hand.Simulation
import Mahjong.Proofs.Hand.Stray
import Mahjong.Proofs.Hand.Writing
import Mahjong.Proofs.Json.Canonical
import Mahjong.Proofs.Json.Data
import Mahjong.Proofs.Json.Line
import Mahjong.Proofs.Json.NormalForm
import Mahjong.Proofs.Json.Numeral
import Mahjong.Proofs.Json.Outline
import Mahjong.Proofs.Json.Record
import Mahjong.Proofs.Json.Spelling
import Mahjong.Proofs.Json.Text
import Mahjong.Proofs.Json.Token
import Mahjong.Proofs.Json.Tree
import Mahjong.Proofs.Layout.Canvas
import Mahjong.Proofs.Layout.Cursor
import Mahjong.Proofs.Layout.Drawing
import Mahjong.Proofs.Layout.Markup
import Mahjong.Proofs.Render.Agreement
import Mahjong.Proofs.Render.Designs
import Mahjong.Proofs.Render.Fingerprint
import Mahjong.Proofs.Render.Json
import Mahjong.Proofs.Render.Registration
import Mahjong.Proofs.Render.Rendering
import Mahjong.Proofs.Render.Request
import Mahjong.Proofs.Render.Requirement
import Mahjong.Proofs.Render.Spelling
import Mahjong.Proofs.Run
import Mahjong.Proofs.Text.Attribute
import Mahjong.Proofs.Text.Blank
import Mahjong.Proofs.Text.Split
import Mahjong.Proofs.Text.Tags
import Mahjong.Proofs.Text.Utf8
import Mahjong.Proofs.Theme.File
import Mahjong.Proofs.Theme.Json
import Mahjong.Proofs.Theme.Loading
import Mahjong.Proofs.Theme.Overrides
import Mahjong.Proofs.Version.Writing
import Mahjong.Render.Events
import Mahjong.Render.Fingerprint
import Mahjong.Render.Rendering
import Mahjong.Render.Request
import Mahjong.SortedMap
import Mahjong.SortedMap.Lemmas
import Mahjong.Text.Attribute
import Mahjong.Text.Blank
import Mahjong.Text.Element
import Mahjong.Text.Hex
import Mahjong.Text.Invisible
import Mahjong.Text.Quoted
import Mahjong.Text.Split
import Mahjong.Theme.Basic
import Mahjong.Theme.Catalog
import Mahjong.Theme.Events
import Mahjong.Theme.Fault
import Mahjong.Theme.File
import Mahjong.Theme.Json
import Mahjong.Theme.Overrides
import Mahjong.Version.Basic
import Mahjong.Version.Parser
