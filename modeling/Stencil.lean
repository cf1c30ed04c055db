import Stencil.Charset.Basic
import Stencil.Charset.CodePage
import Stencil.Charset.Coding
import Stencil.Charset.Gb18030
import Stencil.Charset.Index
import Stencil.Charset.Index.Japanese
import Stencil.Charset.Index.Korean
import Stencil.Charset.Index.Simplified
import Stencil.Charset.Index.Traditional
import Stencil.Charset.Japanese
import Stencil.Charset.Paired
import Stencil.CommandLine
import Stencil.Decimal.Literal
import Stencil.Decimal.Shortest
import Stencil.Engine.Basic
import Stencil.Engine.Bootstrap
import Stencil.Engine.Bundled
import Stencil.Engine.Host
import Stencil.Engine.Provider
import Stencil.Engine.Recorder
import Stencil.Engine.Registry
import Stencil.Error.Basic
import Stencil.Error.Context
import Stencil.Files.Path
import Stencil.Files.System
import Stencil.Files.Url
import Stencil.Files.Url.Host
import Stencil.Files.Url.Percent
import Stencil.Files.Url.Punycode
import Stencil.Files.Url.Reader
import Stencil.Journal
import Stencil.Json.Fault
import Stencil.Json.Reader
import Stencil.Json.Record
import Stencil.Json.Value
import Stencil.Main
import Stencil.Proofs.Charset.Ascii
import Stencil.Proofs.Charset.Coding
import Stencil.Proofs.Charset.Index
import Stencil.Proofs.Charset.Marks
import Stencil.Proofs.Charset.Paired
import Stencil.Proofs.Engine.Bootstrap
import Stencil.Proofs.Engine.Failure
import Stencil.Proofs.Engine.History
import Stencil.Proofs.Engine.Host
import Stencil.Proofs.Engine.Making
import Stencil.Proofs.Engine.Ownership
import Stencil.Proofs.Engine.Prefix
import Stencil.Proofs.Engine.Provider
import Stencil.Proofs.Engine.Reclamation
import Stencil.Proofs.Engine.Registry
import Stencil.Proofs.Engine.Serving
import Stencil.Proofs.Engine.Session
import Stencil.Proofs.Engine.Supply
import Stencil.Proofs.Engine.Tenancy
import Stencil.Proofs.Entries
import Stencil.Proofs.Error.Document
import Stencil.Proofs.Error.Nesting
import Stencil.Proofs.Error.Wrapping
import Stencil.Proofs.Files.Address
import Stencil.Proofs.Files.Walk
import Stencil.Proofs.Json.Records
import Stencil.Proofs.Json.Written
import Stencil.Proofs.Machine
import Stencil.Proofs.Resource.Assembled
import Stencil.Proofs.Resource.Confined
import Stencil.Proofs.Resource.Interchange
import Stencil.Proofs.Resource.Lookup
import Stencil.Proofs.Resource.Memory
import Stencil.Proofs.Resource.Nesting
import Stencil.Proofs.Script.GlobalCall
import Stencil.Proofs.Script.Resolve
import Stencil.Proofs.Settings.Document
import Stencil.Proofs.Settings.Layers
import Stencil.Proofs.Text.Order
import Stencil.Proofs.Text.Units
import Stencil.Proofs.View.Addresses
import Stencil.Proofs.View.Boots
import Stencil.Proofs.View.Bootstrapped
import Stencil.Proofs.View.Build
import Stencil.Proofs.View.Calls
import Stencil.Proofs.View.Declared
import Stencil.Proofs.View.Deed
import Stencil.Proofs.View.DefaultPath
import Stencil.Proofs.View.Faults
import Stencil.Proofs.View.Hiring
import Stencil.Proofs.View.Isolation
import Stencil.Proofs.View.Keeping
import Stencil.Proofs.View.Marked
import Stencil.Proofs.View.Modes
import Stencil.Proofs.View.Naming
import Stencil.Proofs.View.Origin
import Stencil.Proofs.View.Provision
import Stencil.Proofs.View.Render
import Stencil.Proofs.View.RenderHistory
import Stencil.Proofs.View.Resolutions
import Stencil.Proofs.View.Response
import Stencil.Proofs.View.Session
import Stencil.Proofs.View.SharedEngines
import Stencil.Proofs.View.Sinks
import Stencil.Proofs.View.TemplateFirst
import Stencil.Proofs.View.Works
import Stencil.Resource.Basic
import Stencil.Resource.Loader
import Stencil.Resource.SearchPath
import Stencil.Script.Assign
import Stencil.Script.Builtin.Error
import Stencil.Script.Builtin.Function
import Stencil.Script.Builtin.Json
import Stencil.Script.Builtin.List
import Stencil.Script.Builtin.Names
import Stencil.Script.Builtin.Number
import Stencil.Script.Builtin.Object
import Stencil.Script.Builtin.Pattern
import Stencil.Script.Builtin.Run
import Stencil.Script.Builtin.Text
import Stencil.Script.Builtin.Uri
import Stencil.Script.Call
import Stencil.Script.Convert
import Stencil.Script.Evaluate
import Stencil.Script.Execute
import Stencil.Script.Function
import Stencil.Script.Grammar
import Stencil.Script.Grammar.Basic
import Stencil.Script.Grammar.Code
import Stencil.Script.Grammar.Expression
import Stencil.Script.Grammar.Statement
import Stencil.Script.Interpreter
import Stencil.Script.Machine
import Stencil.Script.Number
import Stencil.Script.Object
import Stencil.Script.Operator
import Stencil.Script.Pattern
import Stencil.Script.Program
import Stencil.Script.Property
import Stencil.Script.Realm
import Stencil.Script.Scope
import Stencil.Script.Syntax
import Stencil.Script.Token
import Stencil.Settings.Basic
import Stencil.Settings.File
import Stencil.Settings.Json
import Stencil.Settings.Resolved
import Stencil.Settings.Slot
import Stencil.Settings.Toml
import Stencil.Settings.Yaml
import Stencil.Text.Blank
import Stencil.Text.Case
import Stencil.Text.Hex
import Stencil.Text.Identifier
import Stencil.Text.Printable
import Stencil.Text.Quoted
import Stencil.Text.Ranges
import Stencil.Text.Units
import Stencil.Text.Utf8
import Stencil.Toml.Document
import Stencil.Toml.Number
import Stencil.Toml.Reader
import Stencil.Toml.Value
import Stencil.View.Basic
import Stencil.View.Environment
import Stencil.View.Render
import Stencil.View.Resolver
import Stencil.View.Response
import Stencil.Yaml.Cursor
import Stencil.Yaml.Document
import Stencil.Yaml.Scalar
import Stencil.Yaml.Schema
import Stencil.Yaml.Tag
import Stencil.Yaml.Token
import Stencil.Yaml.Tokens
