import EvmProbe.Abi.Decoding
import EvmProbe.Abi.Encoding
import EvmProbe.AddressMap
import EvmProbe.Block
import EvmProbe.Bytes
import EvmProbe.Cache.Chain
import EvmProbe.Cache.Layout
import EvmProbe.Cache.Store
import EvmProbe.Checksum
import EvmProbe.CommandLine.Argument
import EvmProbe.CommandLine.Command
import EvmProbe.CommandLine.Execution
import EvmProbe.CommandLine.KnownChains
import EvmProbe.CommandLine.Parsing
import EvmProbe.Disassembly
import EvmProbe.Domain.Characters
import EvmProbe.Domain.Composition
import EvmProbe.Domain.Direction
import EvmProbe.Domain.Joining
import EvmProbe.Domain.Marks
import EvmProbe.Domain.Name
import EvmProbe.Domain.Punycode
import EvmProbe.Domain.Spelling
import EvmProbe.Environment
import EvmProbe.Failure
import EvmProbe.Files.Operations
import EvmProbe.Files.Path
import EvmProbe.Files.Tree
import EvmProbe.Fragment.Assembled
import EvmProbe.Fragment.Hooks
import EvmProbe.Fragment.Name
import EvmProbe.Fragment.Sites
import EvmProbe.Fragment.Template
import EvmProbe.Hex
import EvmProbe.Image.AccountRouters
import EvmProbe.Image.JumpRouter
import EvmProbe.Image.Patch
import EvmProbe.Image.Runtime
import EvmProbe.Instruction
import EvmProbe.Json.Diagnosis
import EvmProbe.Json.Fault
import EvmProbe.Json.Reader
import EvmProbe.Json.Reading
import EvmProbe.Json.Scanning
import EvmProbe.Json.Value
import EvmProbe.Keccak
import EvmProbe.Label
import EvmProbe.Listing.Assembly
import EvmProbe.Listing.Line
import EvmProbe.Main
import EvmProbe.Opcode
import EvmProbe.Program.Encoding
import EvmProbe.Program.Layout
import EvmProbe.Program.Linking
import EvmProbe.Proofs.Abi.Reading
import EvmProbe.Proofs.Bytecode.Coverage
import EvmProbe.Proofs.Bytecode.Scopes
import EvmProbe.Proofs.Bytes
import EvmProbe.Proofs.Cache.Expiry
import EvmProbe.Proofs.Cache.Names
import EvmProbe.Proofs.Cache.Root
import EvmProbe.Proofs.Files.Tree
import EvmProbe.Proofs.Fragment.Code
import EvmProbe.Proofs.Image.Accounts
import EvmProbe.Proofs.Image.CallCalldata
import EvmProbe.Proofs.Image.CallHook
import EvmProbe.Proofs.Image.CallOverlap
import EvmProbe.Proofs.Image.Calldata
import EvmProbe.Proofs.Image.Calling
import EvmProbe.Proofs.Image.CodeCopy
import EvmProbe.Proofs.Image.CopyBounds
import EvmProbe.Proofs.Image.Coverage
import EvmProbe.Proofs.Image.EffectReports
import EvmProbe.Proofs.Image.Existence
import EvmProbe.Proofs.Image.Guards
import EvmProbe.Proofs.Image.Hooks
import EvmProbe.Proofs.Image.Layout
import EvmProbe.Proofs.Image.OriginalCode
import EvmProbe.Proofs.Image.Queries
import EvmProbe.Proofs.Image.Reporting
import EvmProbe.Proofs.Image.ReturnData
import EvmProbe.Proofs.Image.Reuse
import EvmProbe.Proofs.Image.Routing
import EvmProbe.Proofs.Image.Saved
import EvmProbe.Proofs.Image.Segment
import EvmProbe.Proofs.Image.Simulation
import EvmProbe.Proofs.Image.Sites
import EvmProbe.Proofs.Json.RoundTrip
import EvmProbe.Proofs.Listing.Acceptance
import EvmProbe.Proofs.Listing.Assembling
import EvmProbe.Proofs.Listing.Reading
import EvmProbe.Proofs.Listing.Rendering
import EvmProbe.Proofs.Listing.RoundTrip
import EvmProbe.Proofs.Listing.Words
import EvmProbe.Proofs.Machine.Memory
import EvmProbe.Proofs.Machine.Outside
import EvmProbe.Proofs.Machine.Run
import EvmProbe.Proofs.Program.Concatenation
import EvmProbe.Proofs.Program.Copies
import EvmProbe.Proofs.Program.Decoding
import EvmProbe.Proofs.Program.Repetition
import EvmProbe.Proofs.Program.Resolution
import EvmProbe.Proofs.Program.Scoped
import EvmProbe.Proofs.Rpc.Items
import EvmProbe.Proofs.Rpc.Network
import EvmProbe.Proofs.Rpc.Readback
import EvmProbe.Proofs.Rpc.Receipts
import EvmProbe.Proofs.Rpc.Sessions
import EvmProbe.Proofs.Rpc.Transparency
import EvmProbe.Proofs.Text.Digits
import EvmProbe.Proofs.Text.Fields
import EvmProbe.Proofs.Trace.Closure
import EvmProbe.Proofs.Trace.Consistency
import EvmProbe.Proofs.Trace.Exchanges
import EvmProbe.Proofs.Trace.Hints
import EvmProbe.Proofs.Trace.Safety
import EvmProbe.Rpc.Authorization
import EvmProbe.Rpc.Host
import EvmProbe.Rpc.Mined
import EvmProbe.Rpc.Provider
import EvmProbe.Rpc.Url
import EvmProbe.Text.Fields
import EvmProbe.Text.Numeral
import EvmProbe.Text.Quoted
import EvmProbe.Text.Ranges
import EvmProbe.Trace.Artifacts
import EvmProbe.Trace.Model
import EvmProbe.Trace.Node
import EvmProbe.Trace.Record
import EvmProbe.Trace.Simulation
import EvmProbe.Trace.Tracer
