import CodeShelf.Main
import CodeShelf.Transport.Script
import CodeShelf.World.Memory
import CodeShelf.World.Report
import CodeShelf.Proofs.Run
import CodeShelf.Proofs.Store.Turns
import CodeShelf.Proofs.Store.Listing
import CodeShelf.Proofs.Execution
import CodeShelf.Proofs.Session.Submission
import CodeShelf.Proofs.Detach
import CodeShelf.Proofs.Memory
import CodeShelf.Proofs.Traffic
import CodeShelf.Proofs.Traffic.Additions
import CodeShelf.Proofs.Traffic.World
import CodeShelf.Proofs.Store.Bookkeeping
import CodeShelf.Proofs.Course
import CodeShelf.Proofs.Store.Addition
import CodeShelf.Proofs.Json.RoundTrip
import CodeShelf.Proofs.Store.Lookup
import CodeShelf.Proofs.Store.Notices
import CodeShelf.Proofs.Store.Ledger
import CodeShelf.Proofs.Text.Utf8
import CodeShelf.Proofs.Transport.Http
import CodeShelf.Proofs.World.Simulation
import CodeShelf.Proofs.World.Interchange
import CodeShelf.Proofs.Life
import CodeShelf.Proofs.World.Chronicle
import CodeShelf.Proofs.World.Isolation
import CodeShelf.Proofs.Notification
import CodeShelf.Proofs.Text.Percent
import CodeShelf.Proofs.Transport.Routing
import CodeShelf.Proofs.Traffic.Moments
import CodeShelf.Proofs.Traffic.Contents
import CodeShelf.Proofs.Traffic.Routing
import CodeShelf.Proofs.World.Gates
import CodeShelf.Proofs.Wire.Grammar
import CodeShelf.Proofs.Wire.Shapes
import CodeShelf.Proofs.Text.Lower
import CodeShelf.Proofs.Search
import CodeShelf.Proofs.Cli.Operations
import CodeShelf.Proofs.Cli.Outcome
import CodeShelf.Proofs.Cli.Running
import CodeShelf.Proofs.Text.Blank
import CodeShelf.Proofs.Text.Normal
import CodeShelf.Proofs.Wire.Ids
import CodeShelf.Proofs.Url.Path
import CodeShelf.Proofs.Url.Endpoint
import CodeShelf.Proofs.Url.Host
import CodeShelf.Proofs.Url.Acceptance
import CodeShelf.Proofs.Memory.History
import CodeShelf.Proofs.Transport.Target
import CodeShelf.Proofs.Transport.Replies
