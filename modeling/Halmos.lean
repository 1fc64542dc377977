import Halmos.Basic.Runs
import Halmos.Basic.Bytes
import Halmos.Basic.Buffer
import Halmos.Basic.ChainTable
import Halmos.Basic.CString
import Halmos.Basic.PosixPath
import Halmos.Basic.PrefixCode
import Halmos.Hpack.HuffmanCode
import Halmos.Hpack.Rfc7541
import Halmos.Http.StaticFile
import Halmos.Http.RouteWrites
import Halmos.Http.ServedPath
import Halmos.Http1.Routes
import Halmos.Http1.FileSend
import Halmos.Http1.Header
import Halmos.Http1.Multipart
import Halmos.Http1.Session
import Halmos.Http1.Reading
import Halmos.Http1.Parts
import Halmos.Http1.PatchedBody
import Halmos.Http1.Pipelining
import Halmos.Http1.Pointers
import Halmos.Http1.MultipartReads
import Halmos.Http1.RouteArea
import Halmos.Http.Chunked
import Halmos.Http2.Socket
import Halmos.Http2.Frame
import Halmos.Http2.Emit
import Halmos.Http2.Receiver
import Halmos.Http2.Input
import Halmos.Http2.Session
import Halmos.Http2.Manager
import Halmos.Http2.Multipart
import Halmos.Http2.Liveness
import Halmos.Http2.RoundTrip
import Halmos.Http2.HuffmanTable
import Halmos.Http2.Huffman
import Halmos.Http2.Hpack
import Halmos.Http2.HpackDecode
import Halmos.Http2.HpackRefines
import Halmos.Http2.HpackReject
import Halmos.Fcgi.Record
import Halmos.Fcgi.Socket
import Halmos.Fcgi.Splice
import Halmos.Fcgi.SplicePass
import Halmos.Fcgi.SpliceServes
import Halmos.Fcgi.StreamStep
import Halmos.Fcgi.StreamAnswer
import Halmos.Http2.ResponseHeader
import Halmos.Fcgi.StreamEnd
import Halmos.Http2.HpackFields
import Halmos.Http2.HpackMemory
import Halmos.Http2.HpackSafe
import Halmos.Http2.Server
import Halmos.Http2.StreamTable
import Halmos.Http2.Steps
import Halmos.Http2.Credit
import Halmos.Basic.Ledger
import Halmos.Http2.Windows
import Halmos.Http2.RouterCalls
import Halmos.Http2.Requests
import Halmos.Http2.Bodies
import Halmos.Http2.FlowControl
import Halmos.Http2.Trace
import Halmos.Http2.FilePump
import Halmos.Hpack.Decoder
import Halmos.Http2.HeaderLines
import Halmos.Http2.StatusCode
import Halmos.Fcgi.ReuseRun
import Halmos.Fcgi.Grammar
import Halmos.Fcgi.Params
import Halmos.Fcgi.Stdin
import Halmos.Fcgi.Session
import Halmos.Http2.BodyRange
import Halmos.Http2.Work
import Halmos.Http2.Silence
import Halmos.Http2.BackendSockets
import Halmos.Fcgi.Pool
import Halmos.Fcgi.Nodes
import Halmos.Fcgi.ScriptName
import Halmos.Fcgi.GatherBuf
import Halmos.Fcgi.PoolCounts
import Halmos.Fcgi.PoolPeers
import Halmos.Fcgi.PoolSlots
import Halmos.Fcgi.SessionEnd
import Halmos.Fcgi.Reuse
import Halmos.Basic.Probing
import Halmos.Security.Traffic
import Halmos.Security.TrafficLimit
import Halmos.Basic.Tally
import Halmos.Basic.LinkedQueue
import Halmos.Core.TaskQueue
import Halmos.Core.TaskQueueRun
import Halmos.Core.Workers
import Halmos.Core.EventLoop
import Halmos.Core.Lifetimes
import Halmos.Core.LifetimeSteps
import Halmos.Core.LifetimeRun
import Halmos.Core.ProtocolSession
import Halmos.WebSocket.Frame
import Halmos.WebSocket.Receive
import Halmos.WebSocket.ReceiveRun
import Halmos.WebSocket.Dispatch
import Halmos.WebSocket.Tunnel
import Halmos.WebSocket.TunnelCuts
import Halmos.WebSocket.Outgoing
import Halmos.WebSocket.Registry
import Halmos.WebSocket.RegistryRun
import Halmos.WebSocket.RegistryIndex
import Halmos.WebSocket.UserNames
import Halmos.WebSocket.Subscriptions
import Halmos.WebSocket.Messages
import Halmos.WebSocket.TopicRace
import Halmos.Basic.LockOrder
import Halmos.WebSocket.Locks
import Halmos.WebSocket.ReceiveSafe
import Halmos.WebSocket.Sockets
import Halmos.WebSocket.Reaper
import Halmos.WebSocket.Sends
import Halmos.WebSocket.TextSend
import Halmos.Http1.Relocation
import Halmos.Basic.Search
import Halmos.Http1.RequestText
import Halmos.Http1.HeaderLines
import Halmos.Fcgi.Delivery
import Halmos.Http1.Backend
import Halmos.Http1.Attempts
import Halmos.Http1.Answers
import Halmos.Http.BodyLimit
import Halmos.Http.FormData
import Halmos.Http2.StreamCount
import Halmos.Http2.HpackBuf
import Halmos.Fcgi.HeadersFirst
import Halmos.Http.ContentLength
import Halmos.Http2.StreamHash
import Halmos.Fcgi.ReceiveMemory
import Halmos.Http2.HuffmanStrings
import Halmos.Http.RouteFile
import Halmos.Core.Adaptive
import Halmos.Core.Bridge
import Halmos.Http2.HpackTable
import Halmos.Http2.HpackInt
import Halmos.Basic.Base64
import Halmos.WebSocket.Base64
import Halmos.Http.Destination
import Halmos.Http2.Routing
import Halmos.Http1.RequestRoute
import Halmos.Http.SameRoute
import Halmos.Utils.LogRun
import Halmos.WebSocket.Requests
import Halmos.Core.ConfigFile
import Halmos.Http.RouteReload
import Halmos.Http.MimeType
import Halmos.Http2.Client
import Halmos.Core.Balance
import Halmos.Fcgi.Application
import Halmos.Http1.Gateway
