import AerospikePhp.Admin.Asked
import AerospikePhp.Admin.Basic
import AerospikePhp.Admin.Privileges
import AerospikePhp.Admin.Runs
import AerospikePhp.Admin.Server
import AerospikePhp.Batch.Basic
import AerospikePhp.Batch.Positions
import AerospikePhp.Batch.Server
import AerospikePhp.Cdt.Basic
import AerospikePhp.Cdt.BitFaithful
import AerospikePhp.Cdt.BitOp
import AerospikePhp.Cdt.Documented
import AerospikePhp.Cdt.HllFaithful
import AerospikePhp.Cdt.HllOp
import AerospikePhp.Cdt.ListFaithful
import AerospikePhp.Cdt.ListOp
import AerospikePhp.Cdt.MapFaithful
import AerospikePhp.Cdt.MapOp
import AerospikePhp.Cdt.Operation
import AerospikePhp.Cdt.ReturnType
import AerospikePhp.Cdt.Settings
import AerospikePhp.Cdt.Total
import AerospikePhp.Client
import AerospikePhp.Command.Basic
import AerospikePhp.Command.Index
import AerospikePhp.Command.KeyAccepted
import AerospikePhp.Command.Outcome
import AerospikePhp.Command.Server
import AerospikePhp.Command.Udf
import AerospikePhp.Config.Client
import AerospikePhp.Config.Host
import AerospikePhp.Config.HostGrammar
import AerospikePhp.Config.HostMatch
import AerospikePhp.Config.HostPort
import AerospikePhp.Config.HostPrint
import AerospikePhp.Config.HostSeeds
import AerospikePhp.Config.Launch
import AerospikePhp.Config.Read
import AerospikePhp.Config.ReadPanics
import AerospikePhp.Config.Secrets
import AerospikePhp.Config.SeedHosts
import AerospikePhp.Config.Sources
import AerospikePhp.Config.Tls
import AerospikePhp.Config.TlsProtocols
import AerospikePhp.Config.TlsVersions
import AerospikePhp.Connect
import AerospikePhp.Daemon.Basic
import AerospikePhp.Daemon.CleanUp
import AerospikePhp.Daemon.Main
import AerospikePhp.Daemon.Sockets
import AerospikePhp.Errors
import AerospikePhp.Exp.Basic
import AerospikePhp.Exp.Binding
import AerospikePhp.Exp.Call
import AerospikePhp.Exp.Meaning
import AerospikePhp.Exp.ToExpression
import AerospikePhp.Exp.Translation
import AerospikePhp.Key.Basic
import AerospikePhp.Key.HashInput
import AerospikePhp.Key.Identity
import AerospikePhp.Key.Partition
import AerospikePhp.Key.Program
import AerospikePhp.Key.Received
import AerospikePhp.Lib.AssocTable
import AerospikePhp.Lib.Fallible
import AerospikePhp.Lib.Flags
import AerospikePhp.Lib.Handler
import AerospikePhp.Lib.Linearize
import AerospikePhp.Lib.Numeral
import AerospikePhp.Lib.Properties
import AerospikePhp.Lib.Records
import AerospikePhp.Lib.Registers
import AerospikePhp.Lib.Resumption
import AerospikePhp.Lib.Run
import AerospikePhp.Lib.Split
import AerospikePhp.Lib.Transition
import AerospikePhp.Policy.Accessors
import AerospikePhp.Policy.Basic
import AerospikePhp.Policy.Enums
import AerospikePhp.Policy.Expiration
import AerospikePhp.Policy.Limits
import AerospikePhp.Policy.Registers
import AerospikePhp.Query.Runs
import AerospikePhp.Query.Statement
import AerospikePhp.Record
import AerospikePhp.Store.Basic
import AerospikePhp.Store.Bins
import AerospikePhp.Store.Concurrent
import AerospikePhp.Store.Memory
import AerospikePhp.Store.Program
import AerospikePhp.Stream.Cursor
import AerospikePhp.Stream.Delivery
import AerospikePhp.Stream.Lifecycle
import AerospikePhp.Stream.Recordset
import AerospikePhp.Stream.Resume
import AerospikePhp.Stream.Runs
import AerospikePhp.Stream.Server
import AerospikePhp.Value.Abort
import AerospikePhp.Value.Arrival
import AerospikePhp.Value.Basic
import AerospikePhp.Value.Cycle
import AerospikePhp.Value.Entries
import AerospikePhp.Value.Exceptions
import AerospikePhp.Value.Keys
import AerospikePhp.Value.MapEntries
import AerospikePhp.Value.Native
import AerospikePhp.Value.RoundTrip
import AerospikePhp.Value.SetZval
import AerospikePhp.Value.ToValue
import AerospikePhp.Value.Zval
