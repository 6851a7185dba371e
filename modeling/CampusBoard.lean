import CampusBoard.Json.Reader
import CampusBoard.Json.Records
import CampusBoard.Json.Printer
import CampusBoard.Transport
import CampusBoard.Market.Item
import CampusBoard.Market.Expiry
import CampusBoard.Housing.Listing
import CampusBoard.Reviews.Review
import CampusBoard.Traffic.Bar
import CampusBoard.Traffic.Count
import CampusBoard.Forms.Check
import CampusBoard.Display.Rating
import CampusBoard.Display.WalkLink
import CampusBoard.Calendar.Reader
import CampusBoard.Settings.Json
import CampusBoard.Settings.Repair
import CampusBoard.Settings.Document
import CampusBoard.Search.Engine
import CampusBoard.Votes.Buffer
import CampusBoard.Account.Session
import CampusBoard.Reviews.Desk
import CampusBoard.Traffic.Chart
import CampusBoard.Http.Site
import CampusBoard.Search.Index
import CampusBoard.Account.Connection
import CampusBoard.Proofs.Search.Position
import CampusBoard.Proofs.Search.Wording
import CampusBoard.Proofs.Search.History
import CampusBoard.Proofs.Votes.Epochs
import CampusBoard.Proofs.Account.Gates
import CampusBoard.Proofs.Histories
import CampusBoard.Proofs.Account.Successes
import CampusBoard.Proofs.Decode.Lists
import CampusBoard.Proofs.Search.Outcomes
import CampusBoard.Proofs.Search.Interleavings
import CampusBoard.Proofs.Toml.Values
import CampusBoard.Proofs.Toml.Lines
import CampusBoard.Proofs.Decode.Records
import CampusBoard.Proofs.Settings.Sections
import CampusBoard.Proofs.Settings.Document
import CampusBoard.Proofs.Pauses
import CampusBoard.Proofs.Votes.Deadlines
import CampusBoard.Proofs.Search.Notifications
import CampusBoard.Proofs.Json.Normal
import CampusBoard.Proofs.Json.Records
import CampusBoard.Proofs.Traffic.Bars
import CampusBoard.Proofs.Decode.Written
import CampusBoard.Proofs.Decode.RoundTrips
import CampusBoard.Proofs.Reviews.Submissions
import CampusBoard.Proofs.Reviews.Posts
import CampusBoard.Proofs.Account.Secrets
import CampusBoard.Proofs.Settings.Repair
import CampusBoard.Proofs.Decode.Scalars
import CampusBoard.Proofs.Decode.Overlays
import CampusBoard.Proofs.Search.Hits
import CampusBoard.Proofs.Account.Connections
import CampusBoard.Proofs.Toml.Tables
import CampusBoard.Proofs.Toml.Members
import CampusBoard.Proofs.Settings.Overlay
import CampusBoard.Proofs.Settings.Loaded
import CampusBoard.Proofs.Text.Numerals
import CampusBoard.Proofs.Calendar.WrittenDates
import CampusBoard.Proofs.Calendar.Timestamps
import CampusBoard.Proofs.Calendar.DayCount
import CampusBoard.Proofs.Market.Countdown
import CampusBoard.Proofs.Text.Cuts
import CampusBoard.Proofs.Forms.Addresses
import CampusBoard.Proofs.Text.Components
import CampusBoard.Proofs.Display.WalkLinks
import CampusBoard.Proofs.Traffic.CountLabels
import CampusBoard.Proofs.Search.LastPage
import CampusBoard.Proofs.Search.FilterUpdates
import CampusBoard.Proofs.Traffic.Rankings
import CampusBoard.Proofs.FailureTexts
import CampusBoard.Proofs.Settings.Lockouts
import CampusBoard.Proofs.Votes.EarlyPolls
import CampusBoard.Proofs.Cooldowns
import CampusBoard.Proofs.Text.Cores
import CampusBoard.Proofs.Reviews.Identifiers
