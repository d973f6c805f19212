import NamedPipeDemo.Segment
import NamedPipeDemo.LittleEndian
import NamedPipeDemo.LabelledRuns
import NamedPipeDemo.DataSerializer
import NamedPipeDemo.DataDeserializer
import NamedPipeDemo.CustomClass
import NamedPipeDemo.CustomClassParser
import NamedPipeDemo.RequestAction
import NamedPipeDemo.RequestGrammar
import NamedPipeDemo.ResponseParser
import NamedPipeDemo.ExplicitHandle
import NamedPipeDemo.MessageSafety
import NamedPipeDemo.ResponseMatching
import NamedPipeDemo.ServerRuns
import NamedPipeDemo.DemoSimulator
import NamedPipeDemo.ObjectStore
import NamedPipeDemo.DemoRequests
import NamedPipeDemo.Client
import NamedPipeDemo.PendingTable
import NamedPipeDemo.Lockstep
import NamedPipeDemo.AsyncPipe
import NamedPipeDemo.ValueCodec
import NamedPipeDemo.Backtracking
import NamedPipeDemo.ResponseSize
import NamedPipeDemo.Independence
import NamedPipeDemo.ServerThreads
import NamedPipeDemo.PipeHandles
import NamedPipeDemo.PipeRelease
import NamedPipeDemo.DemoAccounting
import NamedPipeDemo.DemoLoop
import NamedPipeDemo.Reconnect
import NamedPipeDemo.RegistryThreads
import NamedPipeDemo.RepositoryThreads
import NamedPipeDemo.TrailingBytes
import NamedPipeDemo.Linearizability
import NamedPipeDemo.RequestThreads
import NamedPipeDemo.ServerShutdown
import NamedPipeDemo.ParserThreads
import NamedPipeDemo.AsyncLoss
import NamedPipeDemo.Pipe
import NamedPipeDemo.PipeCalls
import NamedPipeDemo.ResourceLedger
import NamedPipeDemo.Overlapped
import NamedPipeDemo.SyncStore
import NamedPipeDemo.AsyncHistory
import NamedPipeDemo.ThreadedSystem
import NamedPipeDemo.DemoCompletion
