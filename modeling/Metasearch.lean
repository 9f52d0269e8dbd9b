import Metasearch.Main
import Metasearch.Pacing.Fetch
import Metasearch.Proofs.Isolation
import Metasearch.Proofs.Pacing.Schedule
import Metasearch.Proofs.Url.Page
import Metasearch.Proofs.Registry.Resolution
import Metasearch.Proofs.Collection
import Metasearch.Proofs.Settings
import Metasearch.Proofs.Request
import Metasearch.Proofs.Stored.Json
import Metasearch.Proofs.Stored.Toml
import Metasearch.Proofs.Template.Substitution
import Metasearch.Proofs.Text.Clean
import Metasearch.Proofs.Url.Gap
import Metasearch.Proofs.Answer.Feed
import Metasearch.Proofs.Template.Segment
import Metasearch.Proofs.Request.Paging
import Metasearch.Proofs.Request.Language
import Metasearch.Proofs.Answer.Redirect
import Metasearch.Proofs.Answer.Limit
import Metasearch.Proofs.Answer.Blank
import Metasearch.Proofs.CommandLine.Compact
import Metasearch.Proofs.Answer.Foreign
import Metasearch.Proofs.Answer.Spacing
import Metasearch.Proofs.Time.Spelling
import Metasearch.Proofs.Answer.Blocked
import Metasearch.Proofs.Pacing.Interval
