import GameBook.ByteQueue
import GameBook.TcpDecoder
import GameBook.TcpLink
import GameBook.CreateWorld
import GameBook.DungeonTeleport
import GameBook.PublicTeleport
import GameBook.TokenLogin
import GameBook.LoginVerification
import GameBook.GhostPlayers
import GameBook.PacketReturn
import GameBook.MessageSystem
import GameBook.DescriptorReuse
import GameBook.SendQueue
import GameBook.Provenance
import GameBook.RequestsKept
import GameBook.OnlineLock
import GameBook.ObjectPool
import GameBook.PacketLength
import GameBook.WriteInterest
import GameBook.MysqlThreads
import GameBook.WorldVisibility
import GameBook.TeleportUpdates
import GameBook.NetworkLocator
import GameBook.PacketRoutes
import GameBook.StreamParser
import GameBook.Mongoose
import GameBook.HttpPacket
import GameBook.HttpSegments
import GameBook.GetPacket
import GameBook.RecvAtClose
import GameBook.ComponentCollections
import GameBook.SerialNumbers
import GameBook.Rotation
import GameBook.ThreadDispatch
import GameBook.WireFormat
import GameBook.SavedPlayers
import GameBook.CommandWords
import GameBook.RedisCommands
import GameBook.PlainCommands
import GameBook.RedisRequests
import GameBook.LiveWorlds
import GameBook.GameList
import GameBook.OutgoingConnects
import GameBook.ConnectsAnnounced
import GameBook.LoginAttempts
import GameBook.VerificationConnects
import GameBook.AttemptsAnswered
import GameBook.EntitySystem
import GameBook.ComponentReturns
import GameBook.ComponentLifecycle
import GameBook.SystemFrames
import GameBook.ParentCalls
import GameBook.AppRegistrations
import GameBook.RegisteredApps
import GameBook.WorldEntry
import GameBook.BinaryHeap
import GameBook.TimerComponent
import GameBook.TimerUpdates
import GameBook.TimerRemoval
import GameBook.ConnectResults
import GameBook.HttpBounds
import GameBook.ChunkedBody
import GameBook.HttpText
import GameBook.LoginRequest
import GameBook.BindBuffer
import GameBook.SqlLiteral
import GameBook.PlayerQueries
import GameBook.TableUpdate
import GameBook.PlayerCreation
import GameBook.OnlineQuery
import GameBook.PlayerIndexes
import GameBook.LastMapCalls
import GameBook.GreedyLoads
import GameBook.LoadBalance
import GameBook.ComponentCreation
import GameBook.CallbackObjects
import GameBook.TwoRuns
import GameBook.RecycledMoves
import GameBook.Recycled
import GameBook.ConnectionTable
import GameBook.ConnectionRuns
import GameBook.SerialLayout
import GameBook.Segments
import GameBook.StringSplit
import GameBook.StringFormat
import GameBook.ParserLine
import GameBook.MoveArrivals
import GameBook.PathFollowing
import GameBook.LeavingPlayers
import GameBook.ComponentFactory
import GameBook.PacketPath
import GameBook.GatheredLoads
import GameBook.ServerShutdown
import GameBook.HttpReplies
import GameBook.AllInOne
import GameBook.SharedThread
import GameBook.RobotBatches
import GameBook.Console
import GameBook.WorldTables
