import PageSession.Main
import PageSession.Proofs.Assembly.Bootstraps
import PageSession.Proofs.Exchange.Connections
import PageSession.Proofs.Exchange.Correlation
import PageSession.Proofs.Exchange.Executions
import PageSession.Proofs.Exchange.Inbound
import PageSession.Proofs.Exchange.InlineIds
import PageSession.Proofs.Exchange.InlineReplies
import PageSession.Proofs.Exchange.Timeouts
import PageSession.Proofs.Exchange.Loading
import PageSession.Proofs.Exchange.Submissions
import PageSession.Proofs.Exchange.OneShots
import PageSession.Proofs.Exchange.Likeness
import PageSession.Proofs.Exchange.LikeDesks
import PageSession.Proofs.Exchange.Silence
import PageSession.Proofs.Exchange.Commuting
import PageSession.Proofs.Exchange.Notices
import PageSession.Proofs.Exchange.Expiry
import PageSession.Proofs.Assembly.Listings
import PageSession.Proofs.Assembly.Lobbies
import PageSession.Proofs.Assembly.Nodes
import PageSession.Proofs.Assembly.Initializing
import PageSession.Proofs.Assembly.Compositions
import PageSession.Proofs.Assembly.Leftovers
import PageSession.Proofs.Assembly.Cycles
import PageSession.Proofs.Assembly.Moves
import PageSession.Proofs.Exchange.Bodies
import PageSession.Proofs.Exchange.StreamRuns
import PageSession.Proofs.Exchange.StreamReports
import PageSession.Proofs.Exchange.StreamEnds
import PageSession.Proofs.Text.Glyphs
import PageSession.Proofs.Json.Numbers
import PageSession.Proofs.Json.Tokens
import PageSession.Proofs.Json.Values
import PageSession.Proofs.Message.Frames
import PageSession.Proofs.Json.Records
import PageSession.Proofs.Message.Texts
import PageSession.Proofs.Exchange.StreamFrames
import PageSession.Proofs.Exchange.Tagging
import PageSession.Proofs.Exchange.Rooms
import PageSession.Proofs.Assembly.Deliveries
import PageSession.Proofs.Assembly.Deliverables
import PageSession.Proofs.Assembly.PathMaps
import PageSession.Proofs.Assembly.Records
import PageSession.Proofs.Assembly.Reports
import PageSession.Proofs.Assembly.Missing
import PageSession.Proofs.Assembly.Tracking
import PageSession.Proofs.Builtin.Kinds
import PageSession.Proofs.Builtin.Opening
import PageSession.Proofs.Session.Furnishing
import PageSession.Proofs.Session.Starting
import PageSession.Proofs.Exchange.Hearing
import PageSession.Proofs.Session.Residents
import PageSession.Proofs.Session.Attending
import PageSession.Proofs.Session.Following
import PageSession.Proofs.Page.Paths
import PageSession.Proofs.Exchange.Informing
import PageSession.Proofs.Exchange.Lifespans
import PageSession.Proofs.Exchange.Draws
