import Flattener.Bundle
import Flattener.Command.Arguments
import Flattener.Command.Console
import Flattener.Command.Run
import Flattener.Command.Scope
import Flattener.Config.Basic
import Flattener.Config.Load
import Flattener.Config.Substitute
import Flattener.Config.Yaml.Basic
import Flattener.Config.Yaml.Cursor
import Flattener.Config.Yaml.Fault
import Flattener.Config.Yaml.Node
import Flattener.Config.Yaml.Plain
import Flattener.Config.Yaml.Property
import Flattener.Config.Yaml.Scalar
import Flattener.Config.Yaml.Token
import Flattener.Encoding.Basic
import Flattener.Encoding.Codec
import Flattener.Encoding.Utf8
import Flattener.Failure
import Flattener.Fault
import Flattener.FileTree.Basic
import Flattener.Graph.Basic
import Flattener.Graph.Order
import Flattener.Graph.Walk
import Flattener.Log.Format
import Flattener.Log.Record
import Flattener.Main
import Flattener.Marker.Escape
import Flattener.Marker.Template
import Flattener.Marker.Token
import Flattener.Output
import Flattener.Path.Basic
import Flattener.Path.Entry
import Flattener.Path.Specifier
import Flattener.Project.Flatten
import Flattener.Project.Lookup
import Flattener.Project.Root
import Flattener.Proofs.Automaton
import Flattener.Proofs.CaretRange
import Flattener.Proofs.Commands
import Flattener.Proofs.Containment
import Flattener.Proofs.Delivery
import Flattener.Proofs.EntryLabels
import Flattener.Proofs.FailedOutput
import Flattener.Proofs.FinishOrder
import Flattener.Proofs.ImportForms
import Flattener.Proofs.ImportGrammar
import Flattener.Proofs.ImportPaths
import Flattener.Proofs.ImportRoundTrip
import Flattener.Proofs.JoinedPaths
import Flattener.Proofs.JsonReader
import Flattener.Proofs.JsonText
import Flattener.Proofs.Keywords
import Flattener.Proofs.Labels
import Flattener.Proofs.LogLines
import Flattener.Proofs.Masked
import Flattener.Proofs.Memory
import Flattener.Proofs.Neighbours
import Flattener.Proofs.Newlines
import Flattener.Proofs.Order
import Flattener.Proofs.OutputPlace
import Flattener.Proofs.Paths
import Flattener.Proofs.Placeholders
import Flattener.Proofs.RankOrder
import Flattener.Proofs.Reconciliation
import Flattener.Proofs.Removal
import Flattener.Proofs.Reread
import Flattener.Proofs.Rescan
import Flattener.Proofs.Residue
import Flattener.Proofs.Scan
import Flattener.Proofs.Selection
import Flattener.Proofs.Statements
import Flattener.Proofs.Stepwise
import Flattener.Proofs.Traversal
import Flattener.Setting
import Flattener.Source.Body
import Flattener.Source.Directive
import Flattener.Source.Lexeme
import Flattener.Source.Statement
import Flattener.Text.Basic
import Flattener.Text.Blank
import Flattener.Text.Case
import Flattener.Text.Cased
import Flattener.Text.CharName
import Flattener.Text.Digit
import Flattener.Text.Hidden
import Flattener.Text.Identifier
import Flattener.Text.NameTable
import Flattener.Text.Quoted
import Flattener.Text.Ranges
import Flattener.Text.Word
import Flattener.Value
import Flattener.Version.Constraint
import Flattener.Version.Reconcile
