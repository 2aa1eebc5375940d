import KeyLayers.OrderedMap
import KeyLayers.Text.Blank
import KeyLayers.Text.Lowercase
import KeyLayers.Text.Quoted
import KeyLayers.Text.Lines
import KeyLayers.Text.Utf8
import KeyLayers.Text.DigitTable
import KeyLayers.Numeral.Shortest
import KeyLayers.Json.Printer
import KeyLayers.Json.Reader
import KeyLayers.Schema.Scalar
import KeyLayers.Chord
import KeyLayers.Layers.Basic
import KeyLayers.Host.Schema
import KeyLayers.Host.Written
import KeyLayers.Target
import KeyLayers.MediaRow
import KeyLayers.Config.Written
import KeyLayers.Output
import KeyLayers.Assembly
import KeyLayers.Toml.Document
import KeyLayers.Session
import KeyLayers.CommandLine.Run
import KeyLayers.Main
import KeyLayers.Proofs.Registry
import KeyLayers.Proofs.Rules
import KeyLayers.Proofs.Text.SmallLetters
import KeyLayers.Proofs.Text.Spelling
import KeyLayers.Proofs.Chord
import KeyLayers.Proofs.Config.Meaning
import KeyLayers.Proofs.Config.Reading
import KeyLayers.Proofs.Config.ChordForms
import KeyLayers.Proofs.Config.Canonical
import KeyLayers.Proofs.Config.Respelling
import KeyLayers.Proofs.Config.Actions
import KeyLayers.Proofs.MutualExclusion
import KeyLayers.Proofs.Selection
import KeyLayers.Proofs.Relabelling
import KeyLayers.Proofs.Locality
import KeyLayers.Proofs.Text.Utf8
import KeyLayers.Proofs.CommandLine.Directory
import KeyLayers.Proofs.CommandLine.Script
import KeyLayers.Proofs.Layers.RoundTrip
import KeyLayers.Proofs.Host.RoundTrip
import KeyLayers.Proofs.Assembly
import KeyLayers.Proofs.Json.Reading
import KeyLayers.Proofs.Json.Printing
import KeyLayers.Output.Reading
import KeyLayers.Proofs.Output.RoundTrip
import KeyLayers.Proofs.KeyCodes
import KeyLayers.Proofs.MediaRow
import KeyLayers.Proofs.Translation
import KeyLayers.Proofs.Recovery
import KeyLayers.Proofs.Chord.Grammar
import KeyLayers.Proofs.CommandLine.AllOrNothing
import KeyLayers.Proofs.ApplicationNames
import KeyLayers.Proofs.Config.Grammar
import KeyLayers.Proofs.Collisions
import KeyLayers.Proofs.Events
