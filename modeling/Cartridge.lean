import Cartridge.Assembly.Line
import Cartridge.Bytes
import Cartridge.Command.Export
import Cartridge.Command.Failure
import Cartridge.Command.Link
import Cartridge.Command.Options
import Cartridge.Command.Scan
import Cartridge.Entity.Basic
import Cartridge.Entity.Document
import Cartridge.Entity.Param
import Cartridge.Entity.Role
import Cartridge.Export.Archetype
import Cartridge.Export.Build
import Cartridge.Export.Override
import Cartridge.Export.Prefab
import Cartridge.Export.Record
import Cartridge.Export.Registry
import Cartridge.Export.Resolve
import Cartridge.Export.Scene
import Cartridge.Export.Settings
import Cartridge.Files.Error
import Cartridge.Files.Host
import Cartridge.Files.Path
import Cartridge.Files.Session
import Cartridge.Files.Tree
import Cartridge.Json.Reader
import Cartridge.Json.Record
import Cartridge.Json.Token
import Cartridge.Json.Value
import Cartridge.Json.Writer
import Cartridge.Main
import Cartridge.Project.Actor
import Cartridge.Project.Basic
import Cartridge.Project.Document
import Cartridge.Project.Variable
import Cartridge.Proofs.Addresses.History
import Cartridge.Proofs.Addresses.Map
import Cartridge.Proofs.Addresses.References
import Cartridge.Proofs.Assembly.Address
import Cartridge.Proofs.Assembly.Source
import Cartridge.Proofs.BigEndian
import Cartridge.Proofs.Build.Grouping
import Cartridge.Proofs.Build.Override
import Cartridge.Proofs.Build.Parts
import Cartridge.Proofs.Build.Placement
import Cartridge.Proofs.Command.Run
import Cartridge.Proofs.Command.Scenes
import Cartridge.Proofs.Command.Scripts
import Cartridge.Proofs.Cutting
import Cartridge.Proofs.Dump.Columns
import Cartridge.Proofs.Dump.Lines
import Cartridge.Proofs.Dump.Reading
import Cartridge.Proofs.Dump.Relocations
import Cartridge.Proofs.Dump.Routine
import Cartridge.Proofs.Dump.Search
import Cartridge.Proofs.Dump.Symbol
import Cartridge.Proofs.Files.Apart
import Cartridge.Proofs.Files.Frame
import Cartridge.Proofs.Files.Join
import Cartridge.Proofs.Files.Replace
import Cartridge.Proofs.Files.Session
import Cartridge.Proofs.Files.Sound
import Cartridge.Proofs.Json.Records
import Cartridge.Proofs.Json.RoundTrip
import Cartridge.Proofs.Json.Scanning
import Cartridge.Proofs.Layout.Handles
import Cartridge.Proofs.Layout.Header
import Cartridge.Proofs.Layout.Members
import Cartridge.Proofs.Layout.Packed
import Cartridge.Proofs.Layout.Record
import Cartridge.Proofs.Layout.Size
import Cartridge.Proofs.Layout.Sources
import Cartridge.Proofs.Layout.Structure
import Cartridge.Proofs.LetterCase
import Cartridge.Proofs.Linking.Bound
import Cartridge.Proofs.Linking.Declared
import Cartridge.Proofs.Linking.Drivers
import Cartridge.Proofs.Linking.Dump
import Cartridge.Proofs.Linking.History
import Cartridge.Proofs.Linking.Outcome
import Cartridge.Proofs.Linking.Patch
import Cartridge.Proofs.Linking.Programs
import Cartridge.Proofs.Linking.Reach
import Cartridge.Proofs.Linking.Reorder
import Cartridge.Proofs.Linking.Slots
import Cartridge.Proofs.Linking.Table
import Cartridge.Proofs.Linking.Unit
import Cartridge.Proofs.Numeral
import Cartridge.Proofs.Prefab.Lines
import Cartridge.Proofs.Prefab.ReadBack
import Cartridge.Proofs.Prefab.Symbols
import Cartridge.Proofs.Project.Document
import Cartridge.Proofs.Registry.FreeLabel
import Cartridge.Proofs.Registry.Order
import Cartridge.Proofs.Registry.Run
import Cartridge.Proofs.Registry.Sharing
import Cartridge.Proofs.Resolve.Actor
import Cartridge.Proofs.Resolve.Lookup
import Cartridge.Proofs.Resolve.Sheet
import Cartridge.Proofs.Resolve.Spelling
import Cartridge.Proofs.Resolve.Stack
import Cartridge.Proofs.Resolve.Symbols
import Cartridge.Proofs.Resolve.Unset
import Cartridge.Proofs.Scene.Lines
import Cartridge.Proofs.Scene.ReadBack
import Cartridge.Proofs.Scene.Record
import Cartridge.Proofs.Scene.Sharing
import Cartridge.Proofs.Scene.Symbols
import Cartridge.Proofs.Source.Code
import Cartridge.Proofs.Source.Cut
import Cartridge.Proofs.Source.Declaration
import Cartridge.Proofs.Source.History
import Cartridge.Proofs.Source.Layout
import Cartridge.Proofs.Source.Plain
import Cartridge.Proofs.Source.ReadBack
import Cartridge.Report
import Cartridge.Script.AddressMap
import Cartridge.Script.Dump
import Cartridge.Script.Ending
import Cartridge.Script.Error
import Cartridge.Script.Header
import Cartridge.Script.Linker
import Cartridge.Script.OffsetTable
import Cartridge.Script.Patch
import Cartridge.Script.Relocation
import Cartridge.Script.Routine
import Cartridge.Script.Sources
import Cartridge.Script.Symbol
import Cartridge.Script.Toolchain
import Cartridge.Shell.Arithmetic
import Cartridge.Shell.Binary64
import Cartridge.Shell.Builtin
import Cartridge.Shell.Builtin.Control
import Cartridge.Shell.Builtin.Directory
import Cartridge.Shell.Builtin.Getopts
import Cartridge.Shell.Builtin.Job
import Cartridge.Shell.Builtin.Limit
import Cartridge.Shell.Builtin.Line
import Cartridge.Shell.Builtin.Lookup
import Cartridge.Shell.Builtin.Option
import Cartridge.Shell.Builtin.Text
import Cartridge.Shell.Builtin.Trap
import Cartridge.Shell.Builtin.Variable
import Cartridge.Shell.Call
import Cartridge.Shell.Cat
import Cartridge.Shell.Condition
import Cartridge.Shell.Echo
import Cartridge.Shell.Environment
import Cartridge.Shell.Expand
import Cartridge.Shell.Field
import Cartridge.Shell.Glob
import Cartridge.Shell.Grammar
import Cartridge.Shell.Lexer
import Cartridge.Shell.Lines
import Cartridge.Shell.Lookup
import Cartridge.Shell.Machine
import Cartridge.Shell.Number
import Cartridge.Shell.Octets
import Cartridge.Shell.Pattern
import Cartridge.Shell.Pipeline
import Cartridge.Shell.Printf
import Cartridge.Shell.Process
import Cartridge.Shell.Program
import Cartridge.Shell.Redirection
import Cartridge.Shell.Run
import Cartridge.Shell.Signal
import Cartridge.Shell.Source
import Cartridge.Shell.State
import Cartridge.Shell.Stream
import Cartridge.Shell.Syntax
import Cartridge.Shell.Trim
import Cartridge.Source.Block
import Cartridge.Source.Definition
import Cartridge.Source.Document
import Cartridge.Source.Load
import Cartridge.Source.Scan
import Cartridge.Text.Alphanumeric
import Cartridge.Text.Blank
import Cartridge.Text.Case
import Cartridge.Text.Decimal
import Cartridge.Text.Fresh
import Cartridge.Text.Hexadecimal
import Cartridge.Text.Lines
import Cartridge.Text.Search
