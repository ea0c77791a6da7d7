import HostBridge.Binding.Assoc
import HostBridge.Binding.Handler
import HostBridge.Binding.Ids
import HostBridge.Binding.Key
import HostBridge.Binding.NameHash
import HostBridge.Binding.Registry
import HostBridge.Bridge.Basic
import HostBridge.Bridge.Builtins
import HostBridge.Bridge.Call
import HostBridge.Bridge.Lifecycle
import HostBridge.Bridge.Registration
import HostBridge.Codec.Field
import HostBridge.Codec.Packing
import HostBridge.Codec.Record
import HostBridge.Codec.Table
import HostBridge.CommandLine
import HostBridge.Decimal.Binary
import HostBridge.Decimal.Layout
import HostBridge.Decimal.Numeral
import HostBridge.Decimal.Rounding
import HostBridge.Decimal.Shortest
import HostBridge.Environment.Basic
import HostBridge.Environment.Clock
import HostBridge.Environment.Random
import HostBridge.Environment.Screen
import HostBridge.Error
import HostBridge.Handle.Basic
import HostBridge.Handle.Table
import HostBridge.Host.Basic
import HostBridge.Host.Conversion
import HostBridge.Host.Objects
import HostBridge.Host.Types
import HostBridge.Host.ValueType
import HostBridge.Json.Document
import HostBridge.Json.Source
import HostBridge.Json.Token
import HostBridge.Json.Tree
import HostBridge.Json.Value
import HostBridge.Log
import HostBridge.Main
import HostBridge.Playground.Basic
import HostBridge.Playground.Codecs
import HostBridge.Playground.Functions
import HostBridge.Playground.Members
import HostBridge.Proofs.ArgumentPassing
import HostBridge.Proofs.Arity
import HostBridge.Proofs.Budget
import HostBridge.Proofs.CallbackRuns
import HostBridge.Proofs.Change
import HostBridge.Proofs.Chronicle
import HostBridge.Proofs.CodecOverride
import HostBridge.Proofs.CodecRuns
import HostBridge.Proofs.CodecTable
import HostBridge.Proofs.Computation
import HostBridge.Proofs.Cutting
import HostBridge.Proofs.Draining
import HostBridge.Proofs.Draws
import HostBridge.Proofs.Earliest
import HostBridge.Proofs.Entry
import HostBridge.Proofs.ExceptionText
import HostBridge.Proofs.Exhaustion
import HostBridge.Proofs.FieldNames
import HostBridge.Proofs.HandleGrowth
import HostBridge.Proofs.HandleRuns
import HostBridge.Proofs.History
import HostBridge.Proofs.Install
import HostBridge.Proofs.IntegerText
import HostBridge.Proofs.Journal
import HostBridge.Proofs.JsonLexing
import HostBridge.Proofs.JsonWriting
import HostBridge.Proofs.Keeping
import HostBridge.Proofs.KeyBits
import HostBridge.Proofs.Lanes
import HostBridge.Proofs.Latest
import HostBridge.Proofs.Lending
import HostBridge.Proofs.Life
import HostBridge.Proofs.Meaning
import HostBridge.Proofs.Merging
import HostBridge.Proofs.Miss
import HostBridge.Proofs.NameBuffers
import HostBridge.Proofs.NameHash
import HostBridge.Proofs.Naming
import HostBridge.Proofs.NativeCalls
import HostBridge.Proofs.NotationCalls
import HostBridge.Proofs.NotationReading
import HostBridge.Proofs.Numbering
import HostBridge.Proofs.Orderly
import HostBridge.Proofs.Override
import HostBridge.Proofs.PackedNotation
import HostBridge.Proofs.PendingJobs
import HostBridge.Proofs.Period
import HostBridge.Proofs.Placement
import HostBridge.Proofs.Precompiled
import HostBridge.Proofs.RecordNotation
import HostBridge.Proofs.Reentry
import HostBridge.Proofs.Registry
import HostBridge.Proofs.Reloading
import HostBridge.Proofs.Requests
import HostBridge.Proofs.ReturnTrip
import HostBridge.Proofs.Revocation
import HostBridge.Proofs.Rounding
import HostBridge.Proofs.ScriptCalls
import HostBridge.Proofs.ScriptComputation
import HostBridge.Proofs.ScriptEngine
import HostBridge.Proofs.ScriptLanguage
import HostBridge.Proofs.ScriptLiterals
import HostBridge.Proofs.ScriptText
import HostBridge.Proofs.Separation
import HostBridge.Proofs.Service
import HostBridge.Proofs.StaticCall
import HostBridge.Proofs.Sustaining
import HostBridge.Proofs.TreeValues
import HostBridge.Proofs.WholeNumerals
import HostBridge.Script.Arithmetic
import HostBridge.Script.Basic
import HostBridge.Script.Callbacks
import HostBridge.Script.Coercion
import HostBridge.Script.Conversion
import HostBridge.Script.Error
import HostBridge.Script.Evaluation
import HostBridge.Script.Function
import HostBridge.Script.Intrinsic
import HostBridge.Script.JobQueue
import HostBridge.Script.Language
import HostBridge.Script.Literal
import HostBridge.Script.Native
import HostBridge.Script.Notation
import HostBridge.Script.Number
import HostBridge.Script.Program
import HostBridge.Script.Property
import HostBridge.Script.Reflection
import HostBridge.Script.Session
import HostBridge.Script.Text
import HostBridge.Script.Value
import HostBridge.Settings
import HostBridge.Slot.Basic
import HostBridge.Slot.Lossy
import HostBridge.Slot.Members
import HostBridge.Slot.Text
import HostBridge.Spatial.Color
import HostBridge.Spatial.Number
import HostBridge.Spatial.Transform
import HostBridge.Spatial.Vector
import HostBridge.Text.Blank
import HostBridge.Text.CamelCase
import HostBridge.Text.CodePoint
import HostBridge.Text.Hex
import HostBridge.Text.Percent
import HostBridge.Text.Quoted
import HostBridge.Text.Unprintable
import HostBridge.Text.Utf8
