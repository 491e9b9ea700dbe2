import Mpdcron.Stats.Request
import Mpdcron.Lib.Decimal
import Mpdcron.Lib.Lines
import Mpdcron.Lib.Blocks
import Mpdcron.Lib.Keyed
import Mpdcron.Lib.Script
import Mpdcron.Lib.Upserts
import Mpdcron.Lib.SqlText
import Mpdcron.Stats.Reply
import Mpdcron.Stats.CommandTable
import Mpdcron.Stats.Process
import Mpdcron.Stats.Permission
import Mpdcron.Stats.Framing
import Mpdcron.Stats.Answers
import Mpdcron.Eugene.SendCommand
import Mpdcron.Eugene.Quote
import Mpdcron.Eugene.Connection
import Mpdcron.Eugene.ListRoundTrip
import Mpdcron.Eugene.Requests
import Mpdcron.Eugene.ResponseRoundTrip
import Mpdcron.Gmodule
import Mpdcron.GmoduleOnce
import Mpdcron.Cron.Loop
import Mpdcron.Cron.LoopSettled
import Mpdcron.Cron.Reconnect
import Mpdcron.Lib.Timer
import Mpdcron.Lib.Transaction
import Mpdcron.Player.Stream
import Mpdcron.Player.RadioTitle
import Mpdcron.Player.Bookkeeping
import Mpdcron.Scrobbler.Coherence
import Mpdcron.Scrobbler.Daemon
import Mpdcron.Scrobbler.Saved
import Mpdcron.Scrobbler.JournalRoundTrip
import Mpdcron.Scrobbler.Curl
import Mpdcron.Scrobbler.CurlOnce
import Mpdcron.Stats.Server
import Mpdcron.Stats.ServerClients
import Mpdcron.Stats.Database
import Mpdcron.Stats.DbProcess
import Mpdcron.Stats.PlayCounts
import Mpdcron.Stats.Walrus
import Mpdcron.Stats.Atomicity
import Mpdcron.Stats.Writers
import Mpdcron.Stats.NumericArgument
import Mpdcron.Stats.Schema
import Mpdcron.Stats.SongRow
import Mpdcron.Stats.KarmaRange
import Mpdcron.Stats.Statement
import Mpdcron.Stats.TagColumn
import Mpdcron.Eugene.AlbumIdentity
import Mpdcron.Stats.Counting
import Mpdcron.Stats.RemoveTag
import Mpdcron.Scrobbler.NowPlayingKept
import Mpdcron.Scrobbler.Complete
import Mpdcron.Scrobbler.System
import Mpdcron.Player.Calls
import Mpdcron.Stats.Grammar
import Mpdcron.Stats.Pipeline
import Mpdcron.Stats.File
import Mpdcron.Cron.Hooks
import Mpdcron.Stats.Upgrade
import Mpdcron.Stats.Creation
import Mpdcron.Stats.Session
import Mpdcron.Stats.RemoveTagAtomic
import Mpdcron.Scrobbler.Handshake
import Mpdcron.Scrobbler.BackOff
import Mpdcron.Lib.PercentEncoding
import Mpdcron.Scrobbler.Body
import Mpdcron.Scrobbler.PollSet
import Mpdcron.Notification.File
import Mpdcron.Notification.Events
import Mpdcron.Eugene.AnyAnswer
import Mpdcron.Scrobbler.LongLines
import Mpdcron.Stats.FailedPlay
import Mpdcron.Lib.EndlessRun
import Mpdcron.Scrobbler.Moves
import Mpdcron.Scrobbler.Delivered
import Mpdcron.Scrobbler.Lives
import Mpdcron.Lib.AtomicCalls
import Mpdcron.Eugene.Calls
import Mpdcron.Eugene.ErrorTexts
import Mpdcron.Eugene.Served
import Mpdcron.Eugene.Protocol
import Mpdcron.Eugene.Linearized
import Mpdcron.Lib.Traces
import Mpdcron.Cron.Modules
import Mpdcron.Cron.ModuleSteps
import Mpdcron.Cron.ModuleLife
import Mpdcron.Stats.Listened
import Mpdcron.Scrobbler.EachRun
import Mpdcron.Scrobbler.Submitted
import Mpdcron.Stats.Conditions
import Mpdcron.Eugene.Program
import Mpdcron.Eugene.CurrentSong
import Mpdcron.Scrobbler.Linked
import Mpdcron.Scrobbler.LinkedRefines
