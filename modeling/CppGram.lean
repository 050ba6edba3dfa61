import CppGram.Transport.IntermediateSafety
import CppGram.Transport.AbridgedStreams
import CppGram.Transport.FullRuns
import CppGram.Transport.FullBursts
import CppGram.Transport.Checksum
import CppGram.Transport.ObfuscatedKeystream
import CppGram.Transport.ObfuscatedStreams
import CppGram.Transport.Handshake
import CppGram.Network.Send
import CppGram.Network.Delivery
import CppGram.Session.Identifiers
import CppGram.Session.Lengths
import CppGram.Client.Channel
import CppGram.Client.RoundRobin
import CppGram.Client.PluginLifecycle
import CppGram.Client.Cli
import CppGram.Core.Chaining
import CppGram.Transport.LengthFields
import CppGram.Storage.Memory
import CppGram.Storage.Sqlite
import CppGram.Threads.Tasks
import CppGram.Threads.WaitAll
import CppGram.Backend.Isolation
import CppGram.Backend.Guard
import CppGram.Backend.Shutdown
import CppGram.Backend.Matching
import CppGram.Backend.MarkupPaths
import CppGram.Backend.RichMessageShape
import CppGram.Backend.RichMessageBlocks
import CppGram.Backend.RichMessageTables
import CppGram.Backend.RichMessageHtml
import CppGram.Backend.RichMessageButtons
import CppGram.Backend.JsonEscapes
import CppGram.Backend.Binding
import CppGram.TL.Canonical
import CppGram.TL.Envelope
import CppGram.TL.Calls
import CppGram.TL.FailedReads
import CppGram.Session.Outputs
import CppGram.Transport.FakeTls
import CppGram.Storage.KeyValue
import CppGram.Backend.Messages
import CppGram.Backend.Errors
import CppGram.Threads.SyncWait
import CppGram.Backend.AsyncClient
import CppGram.Backend.BotApiReplies
import CppGram.Backend.Flow
import CppGram.Client.Letters
import CppGram.Backend.LoginEnds
import CppGram.Backend.SendSync
import CppGram.Backend.CacheRuns
import CppGram.Backend.Filters
import CppGram.Backend.Conversation
