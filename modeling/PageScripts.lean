import PageScripts.Catalog.Discovery
import PageScripts.Catalog.Transitions
import PageScripts.Command.Run
import PageScripts.Input
import PageScripts.Main
import PageScripts.Page
import PageScripts.Render
import PageScripts.Rule.Describe
import PageScripts.Proofs.Action
import PageScripts.Proofs.Catalog.Plan
import PageScripts.Proofs.Render.Plan
import PageScripts.Proofs.Catalog.Operation
import PageScripts.Proofs.Catalog.Exclusive
import PageScripts.Proofs.Catalog.Outcome
import PageScripts.Proofs.Catalog.Holdings
import PageScripts.Proofs.Catalog.Local
import PageScripts.Proofs.Rule.Meaning
import PageScripts.Proofs.Registry
import PageScripts.Proofs.Rule.Agreement
import PageScripts.Proofs.Queue
import PageScripts.Proofs.Queue.History
import PageScripts.Proofs.Render.Queue
import PageScripts.Proofs.Render.Repeat
import PageScripts.Proofs.Render.Damage
import PageScripts.Proofs.Rule.Canonical
import PageScripts.Proofs.Catalog.InForce
import PageScripts.Proofs.Catalog.StoredRules
import PageScripts.Proofs.Render.Admitted
import PageScripts.Proofs.Rule.Edit
import PageScripts.Proofs.Page
import PageScripts.Proofs.Page.Handles
import PageScripts.Proofs.Page.FileNames
import PageScripts.Proofs.Queue.Exchange
import PageScripts.Proofs.Catalog.FirstSeen
import PageScripts.Proofs.Catalog.Media
import PageScripts.Proofs.Catalog.Moving
import PageScripts.Proofs.Catalog.OneByOne
import PageScripts.Proofs.Command.Printing
import PageScripts.Proofs.Command.Talk
import PageScripts.Proofs.Command.Copy
import PageScripts.Proofs.Command.Showing
import PageScripts.Proofs.Command.Rehearsal
import PageScripts.Proofs.Catalog.Faults
import PageScripts.Proofs.Command.Ways
import PageScripts.Proofs.Command.Choices
import PageScripts.Proofs.Command.Causes
import PageScripts.Proofs.Command.Leak
import PageScripts.Proofs.Catalog.Deletion
import PageScripts.Proofs.Catalog.Editing
import PageScripts.Proofs.Rule.Audit
import PageScripts.Proofs.Rule.Collision
import PageScripts.Proofs.Script.Check
import PageScripts.Proofs.Site.Layout
import PageScripts.Proofs.Site.Containment
import PageScripts.Proofs.Url.Version
import PageScripts.Proofs.Catalog.AllOrNone
import PageScripts.Proofs.Name
import PageScripts.Proofs.Registry.History
import PageScripts.Proofs.Vocabulary
import PageScripts.Proofs.Url.Source
import PageScripts.Proofs.Script.Dependencies
