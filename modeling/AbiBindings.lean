import AbiBindings.Abi.Enumeration
import AbiBindings.Abi.NumberClass
import AbiBindings.Abi.Representation
import AbiBindings.Abi.Scalar
import AbiBindings.Abi.Violation
import AbiBindings.Bindings.Sections
import AbiBindings.Bindings.WidthCheck
import AbiBindings.CommandLine
import AbiBindings.Diagnostic
import AbiBindings.Fingerprint
import AbiBindings.Generation
import AbiBindings.Julia.Declaration
import AbiBindings.Julia.Token
import AbiBindings.Julia.TypeName
import AbiBindings.Log.Event
import AbiBindings.Log.Filter
import AbiBindings.Log.Level
import AbiBindings.Main
import AbiBindings.Platform
import AbiBindings.Proofs.Appending
import AbiBindings.Proofs.Arrangement
import AbiBindings.Proofs.Codes
import AbiBindings.Proofs.ColouredDiagnostics
import AbiBindings.Proofs.CommandLine
import AbiBindings.Proofs.Constants
import AbiBindings.Proofs.Constructs
import AbiBindings.Proofs.Containment
import AbiBindings.Proofs.Contents
import AbiBindings.Proofs.DefinedNames
import AbiBindings.Proofs.ElementSections
import AbiBindings.Proofs.ElementTypes
import AbiBindings.Proofs.Emission
import AbiBindings.Proofs.EnumerationSigns
import AbiBindings.Proofs.ExactTypes
import AbiBindings.Proofs.Generation
import AbiBindings.Proofs.Identifiers
import AbiBindings.Proofs.ListLayout
import AbiBindings.Proofs.Literals
import AbiBindings.Proofs.LogFilter
import AbiBindings.Proofs.LoggedEvents
import AbiBindings.Proofs.NameColumns
import AbiBindings.Proofs.NamesByWidth
import AbiBindings.Proofs.Numerals
import AbiBindings.Proofs.PlainDiagnostics
import AbiBindings.Proofs.PlatformDependence
import AbiBindings.Proofs.Program
import AbiBindings.Proofs.SettingsDocuments
import AbiBindings.Proofs.TypeNames
import AbiBindings.Proofs.WrittenDocuments
import AbiBindings.Proofs.WrittenNumbers
import AbiBindings.Proofs.WrittenValues
import AbiBindings.Settings.Basic
import AbiBindings.Settings.Reader
import AbiBindings.Sink
import AbiBindings.Tao.ElementTypes
import AbiBindings.Tao.Tables
import AbiBindings.Text.Beginning
import AbiBindings.Text.CharacterClasses
import AbiBindings.Text.Digits
import AbiBindings.Text.Line
import AbiBindings.Text.Split
import AbiBindings.Text.Terminal
import AbiBindings.Text.Utf8
import AbiBindings.Toml.Blank
import AbiBindings.Toml.Document
import AbiBindings.Toml.Moment
import AbiBindings.Toml.Number
import AbiBindings.Toml.Table
import AbiBindings.Toml.Text
import AbiBindings.Toml.Value
