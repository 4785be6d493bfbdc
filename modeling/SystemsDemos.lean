import SystemsDemos.Transition.System
import SystemsDemos.Transition.Tally
import SystemsDemos.Transition.CondVar
import SystemsDemos.Transition.Fifo
import SystemsDemos.Transition.Party
import SystemsDemos.Transition.History
import SystemsDemos.Transition.Mealy
import SystemsDemos.Keyed.Table
import SystemsDemos.BlockingQueue.Basic
import SystemsDemos.BlockingQueue.History
import SystemsDemos.BlockingQueue.Wakeup
import SystemsDemos.BlockingQueue.Program
import SystemsDemos.BlockingQueue.Drain
import SystemsDemos.ThreadPool.ExactlyOnce
import SystemsDemos.ThreadPool.Wakeup
import SystemsDemos.RuntimeNode.StateMachine
import SystemsDemos.RuntimeNode.Node
import SystemsDemos.RuntimeNode.Steps
import SystemsDemos.RuntimeNode.Fault
import SystemsDemos.RuntimeNode.Goals
import SystemsDemos.RuntimeNode.CurrentStep
import SystemsDemos.RuntimeNode.FaultStop
import SystemsDemos.RuntimeNode.Acceptance
import SystemsDemos.RuntimeNode.Recoverable
import SystemsDemos.RuntimeNode.Reports
import SystemsDemos.RuntimeNode.TaskRun
import SystemsDemos.RuntimeNode.Iterations
import SystemsDemos.Text.Number
import SystemsDemos.Text.Stream
import SystemsDemos.Text.Trim
import SystemsDemos.SocketCan.CanFrame
import SystemsDemos.SocketCan.Candump
import SystemsDemos.SocketCan.Bridge
import SystemsDemos.SocketCan.Rejected
import SystemsDemos.SocketCan.Command
import SystemsDemos.SocketCan.Int16
import SystemsDemos.Heartbeat.Payload
import SystemsDemos.Heartbeat.Table
import SystemsDemos.Watchdog.Node
import SystemsDemos.Watchdog.Episode
import SystemsDemos.Watchdog.Service
import SystemsDemos.Traced.Basic
import SystemsDemos.Bytes.Occurrence
import SystemsDemos.Onnx.Wire
import SystemsDemos.Onnx.Inspector
import SystemsDemos.Onnx.Parsers
import SystemsDemos.Onnx.Generator
import SystemsDemos.Onnx.Termination
import SystemsDemos.Protobuf.Wire
import SystemsDemos.Onnx.Acts
import SystemsDemos.Onnx.Varint
import SystemsDemos.Onnx.Containment
import SystemsDemos.Onnx.RoundTrip
import SystemsDemos.Onnx.Unknown
import SystemsDemos.Ring.Slots
import SystemsDemos.ShmIpc.Basic
import SystemsDemos.ShmIpc.Ring
import SystemsDemos.Named.Objects
import SystemsDemos.ShmIpc.Startup
import SystemsDemos.ShmIpc.Attach
import SystemsDemos.ShmIpc.Served
import SystemsDemos.Observer.RobotArm
import SystemsDemos.Windows.Basic
import SystemsDemos.AudioAnalyzer.Framing
import SystemsDemos.AudioAnalyzer.Tracks
import SystemsDemos.AudioAnalyzer.Seek
import SystemsDemos.Chat.Sockets
import SystemsDemos.Chat.Epoll
import SystemsDemos.Chat.Streams
import SystemsDemos.Chat.Threaded
import SystemsDemos.Chat.Recipients
import SystemsDemos.Chat.Room
import SystemsDemos.Chat.EpollRoom
import SystemsDemos.Chat.Handlers
import SystemsDemos.Chat.ThreadedRoom
import SystemsDemos.Chat.Equivalence
import SystemsDemos.Bytes.Encoding
import SystemsDemos.Ncm.KeyBox
import SystemsDemos.Ncm.Decoder
import SystemsDemos.Ncm.Padding
import SystemsDemos.Ncm.Sections
import SystemsDemos.Ncm.RoundTrip
import SystemsDemos.Ncm.Permutation
import SystemsDemos.Echo.HandleClient
import SystemsDemos.Ownership.Holdings
import SystemsDemos.Raii.ResourceGuard
import SystemsDemos.StateMachine.Basic
import SystemsDemos.StateMachine.Refinement
import SystemsDemos.Lyrics.Stamps
import SystemsDemos.Lyrics.Parser
import SystemsDemos.Lyrics.Due
import SystemsDemos.Lyrics.Loaded
import SystemsDemos.Lyrics.Entries
import SystemsDemos.Text.Fraction
import SystemsDemos.Lyrics.Times
import SystemsDemos.Float.Rounding
import SystemsDemos.PickAndPlace.Arm
import SystemsDemos.StateMachine.RobotArm
import SystemsDemos.RoboMon.Robot
import SystemsDemos.RoboMon.Console
import SystemsDemos.RoboMon.Terminal
import SystemsDemos.Transition.Lossy
import SystemsDemos.Heartbeat.Network
import SystemsDemos.Heartbeat.Verdicts
import SystemsDemos.Transition.Stream
import SystemsDemos.Echo.Client
import SystemsDemos.Echo.Session
import SystemsDemos.Practice.Queue
import SystemsDemos.Practice.Pool
import SystemsDemos.RuntimeNode.CancelTest
import SystemsDemos.Inference.Score
import SystemsDemos.Inference.Node
import SystemsDemos.Chat.Session
import SystemsDemos.Chat.EpollSession
import SystemsDemos.Chat.ThreadedSession
import SystemsDemos.SocketCan.Monitor
import SystemsDemos.Search.Pieces
import SystemsDemos.Urdf.StructureCheck
import SystemsDemos.Visualizer.Library
import SystemsDemos.Visualizer.MainWindow
