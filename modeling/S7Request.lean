import S7Request.Address.Policy
import S7Request.Address.Render
import S7Request.Address.Resolve
import S7Request.Area
import S7Request.Budget
import S7Request.Decimal.Binary64
import S7Request.Decimal.Literal
import S7Request.Decimal.Shortest
import S7Request.Entries
import S7Request.Error
import S7Request.Event
import S7Request.Interchange
import S7Request.Item
import S7Request.Json.Basic
import S7Request.Json.Library
import S7Request.Json.Magnitude
import S7Request.Json.Parser
import S7Request.Json.Plain
import S7Request.Json.Printer
import S7Request.Json.Record
import S7Request.Json.Standard
import S7Request.Json.Token
import S7Request.Packing.Group
import S7Request.Packing.Pack
import S7Request.Plan.Basic
import S7Request.Plan.Merge
import S7Request.Plan.Split
import S7Request.Proofs.Address.Grammar
import S7Request.Proofs.Address.Place
import S7Request.Proofs.Address.Reading
import S7Request.Proofs.Address.Refusal
import S7Request.Proofs.Address.Resolve
import S7Request.Proofs.Address.RoundTrip
import S7Request.Proofs.Address.Spelling
import S7Request.Proofs.Address.Variables
import S7Request.Proofs.Interchange
import S7Request.Proofs.Item.Nested
import S7Request.Proofs.Item.Obtainable
import S7Request.Proofs.Item.Refusal
import S7Request.Proofs.Item.Slice
import S7Request.Proofs.Item.Valid
import S7Request.Proofs.Json.Library
import S7Request.Proofs.Json.Magnitude
import S7Request.Proofs.Json.Record
import S7Request.Proofs.Json.RoundTrip
import S7Request.Proofs.Json.Standard
import S7Request.Proofs.Json.Token
import S7Request.Proofs.Lists
import S7Request.Proofs.Memory.Basic
import S7Request.Proofs.Packing.Alike
import S7Request.Proofs.Packing.Capacity
import S7Request.Proofs.Packing.Closing
import S7Request.Proofs.Packing.CutRequests
import S7Request.Proofs.Packing.CutWhenFull
import S7Request.Proofs.Packing.EmptyRequests
import S7Request.Proofs.Packing.Fewest
import S7Request.Proofs.Packing.LaterRequests
import S7Request.Proofs.Packing.Log
import S7Request.Proofs.Packing.Monotone
import S7Request.Proofs.Packing.Overflow
import S7Request.Proofs.Packing.Partition
import S7Request.Proofs.Packing.Reach
import S7Request.Proofs.Packing.Repack
import S7Request.Proofs.Packing.Round
import S7Request.Proofs.Packing.SmallMargin
import S7Request.Proofs.Packing.Tiling
import S7Request.Proofs.Packing.Unbounded
import S7Request.Proofs.Plan.Addressing
import S7Request.Proofs.Plan.Assembly
import S7Request.Proofs.Plan.Bounds
import S7Request.Proofs.Plan.Budget
import S7Request.Proofs.Plan.DataTelegram
import S7Request.Proofs.Plan.Exchange
import S7Request.Proofs.Plan.Make
import S7Request.Proofs.Plan.Merge
import S7Request.Proofs.Plan.Monotone
import S7Request.Proofs.Plan.Payload
import S7Request.Proofs.Plan.ReadRequest
import S7Request.Proofs.Plan.Replan
import S7Request.Proofs.Plan.Requests
import S7Request.Proofs.Plan.Split
import S7Request.Proofs.Plan.Unsplit
import S7Request.Proofs.Session
import S7Request.Proofs.Settings.Decode
import S7Request.Proofs.Settings.Environment
import S7Request.Proofs.Settings.Library
import S7Request.Proofs.Settings.Override
import S7Request.Proofs.Settings.Section
import S7Request.Proofs.Settings.Standard
import S7Request.Proofs.Text.Basic
import S7Request.Proofs.Text.Surroundings
import S7Request.Proofs.Text.Uppercase
import S7Request.Session
import S7Request.Settings.Decode
import S7Request.Settings.Environment
import S7Request.Settings.Fault
import S7Request.Settings.File
import S7Request.Settings.Layer
import S7Request.Settings.Library
import S7Request.Settings.Load
import S7Request.Settings.Path
import S7Request.Settings.Record
import S7Request.Settings.Standard
import S7Request.Settings.Tree
import S7Request.Telegram
import S7Request.Text.CaseRun
import S7Request.Text.Cased
import S7Request.Text.Lowercase
import S7Request.Text.Numeral
import S7Request.Text.Printable
import S7Request.Text.Quoted
import S7Request.Text.Ranges
import S7Request.Text.Segments
import S7Request.Text.Trim
import S7Request.Text.Uppercase
import S7Request.Toml.Assemble
import S7Request.Toml.Basic
import S7Request.Toml.Moment
import S7Request.Toml.Number
import S7Request.Toml.Parser
import S7Request.Toml.Tagged
import S7Request.Toml.Text
import S7Request.TransportSize
import S7Request.Word
