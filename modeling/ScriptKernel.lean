import ScriptKernel.Error.Advice
import ScriptKernel.File.Record
import ScriptKernel.Main
import ScriptKernel.Queue.Interleaving
import ScriptKernel.Syscall.Standin.Record
import ScriptKernel.Watch
import ScriptKernel.Proofs.Process.Reports
import ScriptKernel.Proofs.Process.Exit
import ScriptKernel.Proofs.Process.LateCall
import ScriptKernel.Proofs.Queue.Stranded
import ScriptKernel.Proofs.Manager.Session
import ScriptKernel.Manager.Interleaving
import ScriptKernel.Proofs.Manager.Stepped
import ScriptKernel.Proofs.Manager.Lock
import ScriptKernel.Proofs.Manager.Removal
import ScriptKernel.Proofs.Manager.Number
import ScriptKernel.ScriptProcess.Interleaving
import ScriptKernel.Proofs.Queue.Closing
import ScriptKernel.Proofs.Process.Stepped
import ScriptKernel.Proofs.Process.Guarded
import ScriptKernel.Proofs.Process.Served
import ScriptKernel.Proofs.Process.Answered
import ScriptKernel.Proofs.Process.Aftermath
import ScriptKernel.Proofs.Process.Alone
import ScriptKernel.Proofs.Manager.Alone
import ScriptKernel.Proofs.Script.RoundTrip
import ScriptKernel.Proofs.Process.Relay
import ScriptKernel.Proofs.Manager.Isolation
import ScriptKernel.ScriptProcess.Throng
import ScriptKernel.Proofs.Process.Course
import ScriptKernel.Proofs.Process.Silence
import ScriptKernel.Proofs.Process.Final
import ScriptKernel.Proofs.CommandLine
import ScriptKernel.Proofs.Process.Order
import ScriptKernel.Proofs.Entries
import ScriptKernel.Proofs.Process.Signalled
import ScriptKernel.Proofs.Config.Record
import ScriptKernel.Proofs.Config.Layer
import ScriptKernel.Proofs.Installation
import ScriptKernel.Proofs.Syscall.Number
import ScriptKernel.Proofs.Syscall.Confined
import ScriptKernel.Proofs.Syscall.Stream
import ScriptKernel.Proofs.Lifecycle
import ScriptKernel.Proofs.Interrupt.History
import ScriptKernel.Proofs.Interrupt.Deadline
import ScriptKernel.Proofs.Config.Layered
import ScriptKernel.Proofs.Json.Reordered
import ScriptKernel.Proofs.Json.Restoring
import ScriptKernel.Proofs.Error.Record
import ScriptKernel.Proofs.Status.Record
import ScriptKernel.Proofs.Invocation
import ScriptKernel.Proofs.FdTable
import ScriptKernel.Proofs.Terminal.Routing
import ScriptKernel.Proofs.Environment
import ScriptKernel.Proofs.Process.Variables
import ScriptKernel.Proofs.Process.Company
