import SessionServer.BoundedBlockingQueueWakeups
import SessionServer.WorkerPoolDrainEnd
import SessionServer.WorkerPoolWindow
import SessionServer.WorkerPoolDeferral
import SessionServer.InMemoryUsers
import SessionServer.RoomServiceCommute
import SessionServer.RoomServiceNumbers
import SessionServer.NameNormalization
import SessionServer.MessageRouterEncoding
import SessionServer.TcpServerWriteQueue
import SessionServer.TcpServerAccounting
import SessionServer.SessionPipeline
import SessionServer.ScenarioOptions
import SessionServer.LatencyStats
import SessionServer.SendWindow
