import Sidekick.Main
import Sidekick.Samples
import Sidekick.Proofs.Calculator.InfixValue
import Sidekick.Proofs.Calculator.Rejection
import Sidekick.Proofs.Console.Saying
import Sidekick.Proofs.Field.Bracketed
import Sidekick.Proofs.Field.Member
import Sidekick.Proofs.Field.Reach
import Sidekick.Proofs.Mention.Grammar
import Sidekick.Proofs.Weather.Alignment
import Sidekick.Proofs.Web.Answering
import Sidekick.Proofs.Field.Own
import Sidekick.Proofs.Weather.Searching
import Sidekick.Proofs.Session.Inward
import Sidekick.Proofs.Session.Routing
import Sidekick.Proofs.Session.Sending
import Sidekick.Proofs.Session.Idling
import Sidekick.Proofs.Telegram.Alike
import Sidekick.Proofs.Telegram.Failures
import Sidekick.Proofs.Duration.Grammar
import Sidekick.Proofs.Duration.Matching
import Sidekick.Proofs.Calculator.Cutting
import Sidekick.Proofs.Calculator.Exactness
import Sidekick.Proofs.Calendar.Days
import Sidekick.Proofs.Calendar.Stamps
import Sidekick.Proofs.Number.Overflow
import Sidekick.Proofs.Session.Numbering
import Sidekick.Proofs.Timer.Starting
import Sidekick.Proofs.Weather.Later
import Sidekick.Proofs.Field.Faults
import Sidekick.Proofs.Field.Numbers
import Sidekick.Proofs.Duration.Restated
import Sidekick.Proofs.Calculator.Showing
import Sidekick.Proofs.Calculator.Heights
import Sidekick.Proofs.Calculator.Rearranging
import Sidekick.Proofs.Field.Closing
import Sidekick.Proofs.Session.Logging
import Sidekick.Proofs.Field.Slices
import Sidekick.Proofs.Field.Walking
