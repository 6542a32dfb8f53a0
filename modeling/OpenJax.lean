import OpenJax.Gateway.TurnRecovery
import OpenJax.Gateway.TurnIds
import OpenJax.Transcript.Stitching
import OpenJax.Model.ChatSplits
import OpenJax.Model.AnthropicSplits
import OpenJax.Agent.NativeArgs
import OpenJax.Agent.Compaction
import OpenJax.Agent.TurnBudget
import OpenJax.Gateway.EventStream
import OpenJax.Transcript.IndexAtomicity
import OpenJax.Transcript.IndexCrashes
import OpenJax.Gateway.Revocation
import OpenJax.Store.ActiveProvider
import OpenJax.Gateway.SegmentReplay
import OpenJax.Gateway.TurnAborts
import OpenJax.Gateway.ApprovalOnce
import OpenJax.Gateway.RateLimit
import OpenJax.Gateway.SessionPages
import OpenJax.Gateway.TokenExpiry
import OpenJax.Frontends.AgentLock
import OpenJax.Tui.Approvals
import OpenJax.Web.LiveReplay
import OpenJax.Gateway.Deletion
import OpenJax.Gateway.TitleDedupe
import OpenJax.Tools.ApprovalReuse
import OpenJax.Agent.DirectCall
import OpenJax.Agent.ApprovalStops
import OpenJax.Agent.TurnEngine
import OpenJax.Sandbox.CommandPaths
import OpenJax.Tools.ListDirNames
import OpenJax.Gateway.Submissions
import OpenJax.Tools.ReadHandler
import OpenJax.Tools.ToolCallKept
import OpenJax.Tools.GlobFiles
import OpenJax.Web.UserTexts
import OpenJax.Web.CallRuns
import OpenJax.Web.TimelineOrder
import OpenJax.Web.Rollback
import OpenJax.Web.RenderRuns
import OpenJax.Web.EventFrames
import OpenJax.Tui.History
import OpenJax.Tui.InputRuns
import OpenJax.Tui.Wrapping
import OpenJax.Sdk.PendingCalls
import OpenJax.Backend.EventStream
import OpenJax.Model.ProviderRoutes
import OpenJax.Logging.Rolling
import OpenJax.Tools.DiskUsage
import OpenJax.Store.Sessions
