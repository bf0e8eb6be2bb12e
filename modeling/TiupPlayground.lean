import TiupPlayground.Time
import TiupPlayground.Calendar
import TiupPlayground.Text
import TiupPlayground.Rfc3339
import TiupPlayground.Progress.Event
import TiupPlayground.Progress.State
import TiupPlayground.Progress.Frame
import TiupPlayground.Progress.Invariant
import TiupPlayground.Progress.Terminal
import TiupPlayground.Progress.Repeat
import TiupPlayground.Progress.Timestamps
import TiupPlayground.Progress.Plain
import TiupPlayground.Progress.Channel
import TiupPlayground.Progress.Json
import TiupPlayground.Progress.EventJson
import TiupPlayground.Progress.EventLog
import TiupPlayground.Daemon.Files
import TiupPlayground.Daemon.PidFile
import TiupPlayground.Daemon.Cleanup
import TiupPlayground.Daemon.Claim
import TiupPlayground.Daemon.System
import TiupPlayground.Daemon.ClaimLoop
import TiupPlayground.Daemon.Staleness
import TiupPlayground.Progress.Handle
import TiupPlayground.Progress.Writer
import TiupPlayground.Progress.Download
import TiupPlayground.Progress.Delivery
import TiupPlayground.Progress.SyncBarrier
import TiupPlayground.Progress.CloseFlush
import TiupPlayground.Progress.Waiters
import TiupPlayground.Progress.Tty
