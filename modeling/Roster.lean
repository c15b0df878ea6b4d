import Roster.Account.Document
import Roster.Account.Identifier
import Roster.Proofs.Account.Forms
import Roster.Proofs.Account.Moment
import Roster.Proofs.Account.RoundTrip
import Roster.Proofs.Calendar.Timestamp
import Roster.Proofs.Config.Gate
import Roster.Proofs.Memory.Guarded
import Roster.Proofs.Memory.History
import Roster.Proofs.Memory.Isolation
import Roster.Proofs.Memory.Lifecycle
import Roster.Proofs.Memory.Race
import Roster.Proofs.Memory.Registration
import Roster.Proofs.Mock.Ledger
import Roster.Proofs.Mock.Queues
import Roster.Proofs.Mock.StandIn
import Roster.Proofs.Mock.Verdict
import Roster.Proofs.Rules.Consultation
import Roster.Proofs.Rules.Course
import Roster.Proofs.Rules.Failure
import Roster.Proofs.Session.Replay
import Roster.Proofs.Session.Reports
import Roster.Session
import Roster.Store.Memory
import Roster.Store.Mock
import Roster.Store.Scripted
