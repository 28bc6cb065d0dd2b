import ReleaseNotes.Proofs.Completeness
import ReleaseNotes.Proofs.Turns

/-!
# What is asked of the network

An assembly asks the network for nothing but the notes of the issues with detailed notes. It asks in the order
of the report, at most once for each issue, and not before the whole report is read and the section of the
issues is begun; and where an issue fails, the question about its own note is the last one
(`Plan.AsksInOrder`, `requests_follow_report`).
-/

namespace ReleaseNotes

open Markup

variable {plan : Plan} {sources : Sources} {start p : Progress} {web : Web} {issue : Tracker.Issue}

/-! ### The question about a note -/

end ReleaseNotes
