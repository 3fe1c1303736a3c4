import WinIo.Foundation.Transition
import WinIo.Foundation.Segment
import WinIo.Foundation.Bytes
import WinIo.Foundation.Pipe
import WinIo.Foundation.OutParameter
import WinIo.Foundation.Places
import WinIo.Foundation.Cadence
import WinIo.Foundation.Allocation
import WinIo.Foundation.Owners
import WinIo.Foundation.Heap
import WinIo.Foundation.Loop
import WinIo.Queue.IntrusiveQueue
import WinIo.Queue.Moves
import WinIo.Queue.Ownership
import WinIo.Queue.History
import WinIo.Queue.Conservation
import WinIo.Queue.Order
import WinIo.Queue.Emptiness
import WinIo.Queue.Sequential
import WinIo.Queue.Refinement
import WinIo.Queue.Custody
import WinIo.Queue.Progress
import WinIo.Directory.Iterator
import WinIo.Directory.Layout
import WinIo.Directory.Bounds
import WinIo.Directory.Termination
import WinIo.Directory.Watch
import WinIo.Directory.Ownership
import WinIo.Directory.Handles
import WinIo.Directory.Recognition
import WinIo.Directory.CommandLine
import WinIo.Directory.WatchForever
import WinIo.Directory.Printing
import WinIo.File.Read
import WinIo.File.Paths
import WinIo.File.Handover
import WinIo.File.Range
import WinIo.File.ReadBuffers
import WinIo.File.PageOwners
import WinIo.Socket.Buffers
import WinIo.Socket.Transfer
import WinIo.Socket.Operations
import WinIo.Socket.Closing
import WinIo.Socket.Machine
import WinIo.Socket.Moves
import WinIo.Socket.Completion
import WinIo.Socket.Cancellation
import WinIo.Socket.DeferredFailure
import WinIo.Socket.ResolveThreads
import WinIo.Socket.ResolveQuiet
import WinIo.Socket.ResolvedLists
import WinIo.Socket.ListCustody
import WinIo.Socket.ResolveNames
import WinIo.Socket.RangeConnect
import WinIo.Socket.RangeAttempts
import WinIo.Socket.SelectOnceInN
import WinIo.Socket.Stream
import WinIo.Socket.AsyncReadWrite
import WinIo.Echo.SimpleEcho
import WinIo.Echo.Completion
import WinIo.Echo.EchoServer
import WinIo.Echo.Deadlock
import WinIo.Echo.Datagrams
import WinIo.Echo.Connections
import WinIo.Coro.CompletionPort
import WinIo.Coro.Scheduler
import WinIo.Coro.Poll
import WinIo.Coro.Concurrent
import WinIo.Coro.Moves
import WinIo.Coro.Entries
import WinIo.Coro.Custody
import WinIo.Coro.Tasks
import WinIo.Coro.Frames
import WinIo.Coro.Delivery
import WinIo.Coro.OnePoller
import WinIo.Errors.Calls
import WinIo.Errors.Truth
import WinIo.Errors.TimeOuts
import WinIo.Errors.Handles
