import IisAsgiHandler.Library.EventMachine
import IisAsgiHandler.Library.Buffer
import IisAsgiHandler.Messages
import IisAsgiHandler.ResponsePump.Basic
import IisAsgiHandler.RequestHandler
import IisAsgiHandler.Http.Steps
import IisAsgiHandler.Http.Handler
import IisAsgiHandler.Http.Lifecycle
import IisAsgiHandler.Http.Simulation
import IisAsgiHandler.Http.System
import IisAsgiHandler.Http.Interleaving
import IisAsgiHandler.Http.Protocol
import IisAsgiHandler.Http.RequestBody
import IisAsgiHandler.Http.Response
import IisAsgiHandler.ResponsePump.Delivery
import IisAsgiHandler.WebSocket.Reader
import IisAsgiHandler.WebSocket.Reassembly
import IisAsgiHandler.WebSocket.Writer
import IisAsgiHandler.ResponsePump.Subscriber
import IisAsgiHandler.WebSocket.Serialisation
import IisAsgiHandler.WebSocket.Failures
import IisAsgiHandler.WebSocket.Handler
import IisAsgiHandler.WebSocket.Session
import IisAsgiHandler.WebSocket.Connection
import IisAsgiHandler.WebSocket.SessionOrder
import IisAsgiHandler.FailedResults
import IisAsgiHandler.Lifetime
import IisAsgiHandler.Library.MessagePack
import IisAsgiHandler.MessageEncoding
import IisAsgiHandler.ChannelLayer.Basic
import IisAsgiHandler.ChannelLayer.Expiry
import IisAsgiHandler.ChannelLayer.Delivery
import IisAsgiHandler.Library.CommandLine
import IisAsgiHandler.ProcessPool.CommandLine
import IisAsgiHandler.ProcessPool.Basic
import IisAsgiHandler.ProcessPool.Bookkeeping
import IisAsgiHandler.ProcessPool.Replacement
import IisAsgiHandler.ProcessPool.GlobalModule
import IisAsgiHandler.WebSocket.PartialWrites
import IisAsgiHandler.WebSocket.ReceiveBuffer
import IisAsgiHandler.MalformedReplies
import IisAsgiHandler.ChannelLayer.KeyList
import IisAsgiHandler.ProcessPool.Confinement
import IisAsgiHandler.ResponsePump.Replies
import IisAsgiHandler.Http.ResponseHeaders
import IisAsgiHandler.Library.Ownership
import IisAsgiHandler.RequestHeaders
import IisAsgiHandler.ScopedResources
import IisAsgiHandler.Library.BoundedCalls
import IisAsgiHandler.Http.HandlerCalls
import IisAsgiHandler.WebSocket.HandlerCalls
import IisAsgiHandler.Yielding
import IisAsgiHandler.Library.Components
import IisAsgiHandler.ResponsePump.Component
import IisAsgiHandler.ResponsePump.OverRedis
import IisAsgiHandler.WebSocket.Frames
import IisAsgiHandler.HttpModule.Basic
import IisAsgiHandler.HttpModule.Requests
import IisAsgiHandler.HttpModule.Connections
import IisAsgiHandler.HttpModule.Worker
import IisAsgiHandler.HttpModule.EndToEnd
import IisAsgiHandler.ChannelLayer.Housekeeping
import IisAsgiHandler.ChannelLayer.Losses
import IisAsgiHandler.Library.Utf8
import IisAsgiHandler.Forwarding
import IisAsgiHandler.WebSocket.Texts
import IisAsgiHandler.WebSocket.Protocol
import IisAsgiHandler.ProcessPool.Oversize
import IisAsgiHandler.ProcessPool.RunningModule
import IisAsgiHandler.ProcessPool.ApplicationStop
import IisAsgiHandler.Http.Completion
import IisAsgiHandler.ProcessPool.BoundedWork
import IisAsgiHandler.ProcessPool.ReturningStop
import IisAsgiHandler.Library.Occurrences
import IisAsgiHandler.ChannelLayer.Attribution
import IisAsgiHandler.HttpModule.Channels
import IisAsgiHandler.HttpModule.Received
import IisAsgiHandler.HttpModule.RoundTrip
