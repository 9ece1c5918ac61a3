import HostChannel.Proofs.Backend
import HostChannel.Proofs.Client.Exchanges
import HostChannel.Proofs.Client.Failures
import HostChannel.Proofs.Client.Immediate
import HostChannel.Proofs.Client.Signals
import HostChannel.Proofs.Job.Alignment
import HostChannel.Proofs.Job.Scan
import HostChannel.Proofs.Listing.Words
import HostChannel.Proofs.Listing.Writes
import HostChannel.Proofs.PushBuffer.Cursor
import HostChannel.Proofs.Session.Bounds
import HostChannel.Proofs.Session.Listing
import HostChannel.Proofs.Session.Submission
import HostChannel.Proofs.Session.Views
import HostChannel.Proofs.Simulator.Commutation
import HostChannel.Proofs.Simulator.Effects
import HostChannel.Proofs.Simulator.Locating
import HostChannel.Proofs.Stream.Builder
import HostChannel.Proofs.Stream.CommandWrites
import HostChannel.Proofs.Stream.Decoding
import HostChannel.Proofs.Stream.Reencoding
import HostChannel.Proofs.Stream.Truncation
import HostChannel.Proofs.Syncpoint.Ahead
import HostChannel.Proofs.Syncpoint.Completion
import HostChannel.Proofs.Waiting.Agreement
import HostChannel.Proofs.Windows
import HostChannel.Session.Run
import HostChannel.Stream.Builder
import HostChannel.Stream.Listing
import HostChannel.Waiting
