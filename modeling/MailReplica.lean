import MailReplica.Main
import MailReplica.Rehearsal.Account
import MailReplica.Rehearsal.LocalStore
import MailReplica.Rehearsal.Mailbox
import MailReplica.Rehearsal.Push
import MailReplica.Rehearsal.Server
import MailReplica.Remote.Waiting
import MailReplica.Timer.Manager
import MailReplica.Proofs.Work
import MailReplica.Proofs.Store.Journal
import MailReplica.Proofs.Store.Watch
import MailReplica.Proofs.Pass.Ends
import MailReplica.Proofs.Pass.Plan
import MailReplica.Proofs.Pass.Course
import MailReplica.Proofs.Pass.Window
import MailReplica.Proofs.Pass.Outcome
import MailReplica.Proofs.Flag
import MailReplica.Proofs.Pass.PerMessage
import MailReplica.Proofs.Pass.Target
import MailReplica.Proofs.Pass.Steady
import MailReplica.Proofs.Pass.Success
import MailReplica.Proofs.Pass.Tidings
import MailReplica.Proofs.Pass.Resume
import MailReplica.Proofs.Pass.Retry
import MailReplica.Proofs.Pass.Epoch
import MailReplica.Proofs.Pass.Cutoff
import MailReplica.Proofs.Rehearsal.Mailbox
import MailReplica.Proofs.Pass.Halves
import MailReplica.Proofs.Pass.Lockstep
import MailReplica.Proofs.Pass.Transcript
import MailReplica.Proofs.Pass.Trace
import MailReplica.Proofs.Pass.Outline
import MailReplica.Proofs.Pass.Grammar
import MailReplica.Proofs.Pass.Falter
import MailReplica.Proofs.Pass.Protocol
import MailReplica.Proofs.Pass.Stages
import MailReplica.Proofs.Pass.Ledger
import MailReplica.Proofs.Pass.Contained
import MailReplica.Proofs.Pass.Stable
import MailReplica.Proofs.Pass.Highest
import MailReplica.Proofs.Idle.Section
import MailReplica.Proofs.Idle.Work
import MailReplica.Proofs.Idle.Life
import MailReplica.Proofs.Idle.Phases
import MailReplica.Proofs.Idle.History
import MailReplica.Proofs.Idle.Rounds
import MailReplica.Proofs.Idle.Result
import MailReplica.Proofs.Idle.Protocol
import MailReplica.Proofs.Idle.Change
import MailReplica.Proofs.Push.Life
import MailReplica.Proofs.Push.Delivery
import MailReplica.Proofs.Idle.Stop
import MailReplica.Proofs.Push.Stop
import MailReplica.Proofs.Json.RoundTrip
import MailReplica.Proofs.Flag.Stored
import MailReplica.Proofs.Store.Alike
import MailReplica.Proofs.Wire.Stream
import MailReplica.Proofs.Wire.Grammar
import MailReplica.Proofs.Wire.Framing
import MailReplica.Proofs.Remote.Taking
import MailReplica.Proofs.Remote.Reading
import MailReplica.Proofs.Pass.Undated
import MailReplica.Proofs.Pass.Repeated
import MailReplica.Proofs.Pass.Removals
import MailReplica.Proofs.Text.Encode
import MailReplica.Proofs.Wire.Quoted
import MailReplica.Proofs.Remote.Handle
import MailReplica.Proofs.Remote.Hearing
import MailReplica.Proofs.Remote.Dialogue
import MailReplica.Proofs.Remote.Exchange
import MailReplica.Proofs.Remote.Requests
import MailReplica.Proofs.Remote.Standing
import MailReplica.Proofs.Remote.Opening
import MailReplica.Proofs.Store.Confined
import MailReplica.Proofs.Pass.Apart
import MailReplica.Proofs.Idle.Within
import MailReplica.Proofs.Idle.Unagreed
import MailReplica.Proofs.Idle.Limit
import MailReplica.Proofs.Timer.Alarm
import MailReplica.Proofs.Idle.Handle
import MailReplica.Proofs.Idle.Clockwork
import MailReplica.Proofs.Idle.Overdue
import MailReplica.Proofs.Idle.CleanUp
import MailReplica.Proofs.Idle.Bracket
import MailReplica.Proofs.Timer.Threads
import MailReplica.Proofs.Timer.Course
import MailReplica.Proofs.Push.Pace
import MailReplica.Proofs.Push.Crew
import MailReplica.Proofs.Push.Bookkeeping
import MailReplica.Proofs.Remote.Fetching
import MailReplica.Proofs.Json.Numeral
import MailReplica.Proofs.Text.Decode
import MailReplica.Proofs.Configuration.RoundTrip
import MailReplica.Proofs.Configuration.Limits
import MailReplica.Proofs.Store.Reload
import MailReplica.Proofs.Wire.Literal
import MailReplica.Proofs.Remote.Skipping
import MailReplica.Proofs.Remote.Remembering
import MailReplica.Proofs.Text.Blank
import MailReplica.Proofs.Flag.Atom
