import TaskQueue.Task.Basic
import TaskQueue.Task.StateMachine
import TaskQueue.Task.Lifecycle
import TaskQueue.Task.Retry
import TaskQueue.Task.Backoff
import TaskQueue.Store.Redis
import TaskQueue.Store.Prog
import TaskQueue.Queue.RedisQueue
import TaskQueue.Queue.DLQ
import TaskQueue.Queue.Scheduler
import TaskQueue.Worker.Pool
import TaskQueue.Worker.Pause
import TaskQueue.Worker.Heartbeat
import TaskQueue.Worker.Registry
import TaskQueue.Api.Handlers
import TaskQueue.Api.RateLimit
import TaskQueue.Api.ClientRateLimit
import TaskQueue.Api.Hub
import TaskQueue.Client.TsWebSocket
import TaskQueue.Client.GoWebSocket
import TaskQueue.System.Step
import TaskQueue.System.Actor
import TaskQueue.System.Settlement
import TaskQueue.System.Lease
