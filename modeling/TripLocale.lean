import TripLocale.Main
import TripLocale.Proofs.KeyPath.Chunk
import TripLocale.Proofs.Text.Numeral
import TripLocale.Proofs.Text.Split
import TripLocale.Proofs.KeyPath.Render
import TripLocale.Proofs.Bundle.Reach
import TripLocale.Proofs.Bundle.Walk
import TripLocale.Proofs.Bundle.FailedLookup
import TripLocale.Proofs.KeyPath.Plain
import TripLocale.Proofs.Bundle.Leaves
import TripLocale.Proofs.Json.Reader
import TripLocale.Proofs.Json.Scan
import TripLocale.Proofs.Bundle.RoundTrip
import TripLocale.Proofs.Shape.Place
import TripLocale.Proofs.Shape.Conform
import TripLocale.Proofs.Edition.Accessors
import TripLocale.Proofs.Json.Printable
import TripLocale.Proofs.Service.Framing
import TripLocale.Proofs.Bundle.Fault
import TripLocale.Proofs.KeyPath.Syntax
import TripLocale.Proofs.KeyPath.Restore
import TripLocale.Proofs.KeyPath.Below
import TripLocale.Proofs.Bundle.Below
import TripLocale.Proofs.Service.Replay
import TripLocale.Proofs.Settings.Separator
import TripLocale.Proofs.Files.Directory
import TripLocale.Proofs.Settings.Nearest
import TripLocale.Proofs.Settings.Climb
import TripLocale.Proofs.Listing
import TripLocale.Proofs.Shape.Report
import TripLocale.Proofs.Shape.Sections
import TripLocale.Proofs.Bundle.Compose
import TripLocale.Proofs.Bundle.Subtree
import TripLocale.Proofs.Bundle.Built
import TripLocale.Proofs.Bundle.Texts
import TripLocale.Proofs.Service.Answers
import TripLocale.Proofs.Service.Messages
import TripLocale.Proofs.Bundle.Codes
import TripLocale.Proofs.Language
import TripLocale.Proofs.Text.Trim
import TripLocale.Proofs.Text.Lowercase
import TripLocale.Proofs.KeyPath.Position
import TripLocale.Proofs.Settings.Members
