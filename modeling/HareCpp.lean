import HareCpp.Library.TransitionSystem
import HareCpp.Library.Outbox
import HareCpp.ErrorCodes
import HareCpp.Amqp
import HareCpp.Message
import HareCpp.ConnectionBase
import HareCpp.LiveHandle
import HareCpp.ChannelState
import HareCpp.ChannelHandler
import HareCpp.Dispatch
import HareCpp.Producer.System
import HareCpp.Producer.Moves
import HareCpp.Producer.Threads
import HareCpp.Producer.ExchangeTable
import HareCpp.Producer.Handles
import HareCpp.Producer.Session
import HareCpp.Producer.SendQueue
import HareCpp.Producer.Publishing
import HareCpp.Producer.Lending
import HareCpp.Producer.Channels
import HareCpp.Producer.Reopen
import HareCpp.Consumer.System
import HareCpp.Consumer.Moves
import HareCpp.Consumer.Threads
import HareCpp.Consumer.Session
import HareCpp.Consumer.Pending
import HareCpp.Consumer.Subscriptions
import HareCpp.Consumer.Reopen
import HareCpp.Gatekeeper
import HareCpp.Outstanding
import HareCpp.CloseOk
import HareCpp.ServerFailure
import HareCpp.Consumer.Locks
import HareCpp.Consumer.QueueProperties
import HareCpp.Library.ThreadHandle
import HareCpp.WorkerThread
import HareCpp.Producer.StartStop
import HareCpp.Producer.Defined
import HareCpp.Library.Progress
import HareCpp.Producer.Lifecycle
import HareCpp.Consumer.Lifecycle
import HareCpp.ReplyCodes
import HareCpp.Payload
import HareCpp.HandlerHistory
import HareCpp.Producer.TableHistory
import HareCpp.Consumer.SubscribeCalls
import HareCpp.Consumer.Setup
import HareCpp.Producer.ConnectChannels
import HareCpp.MessageBody
import HareCpp.Library.Numbering
import HareCpp.ChannelNumbers
import HareCpp.Producer.ChannelNumbers
import HareCpp.Consumer.ChannelNumbers
import HareCpp.WireChannels
import HareCpp.Consumer.Consuming
import HareCpp.Consumer.Recovery
import HareCpp.Producer.Recovery
import HareCpp.Consumer.Interleaving
import HareCpp.Producer.Locks
import HareCpp.Producer.Buffers
import HareCpp.MessageMemory
import HareCpp.MessageAliasing
import HareCpp.Conversation
import HareCpp.Consumer.SetupProtocol
import HareCpp.Library.Dispatcher
import HareCpp.Consumer.Dispatching
import HareCpp.Library.Flags
import HareCpp.MessageContent
import HareCpp.Consumer.QueueNames
