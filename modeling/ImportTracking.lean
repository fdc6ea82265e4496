import ImportTracking.Database.Location
import ImportTracking.Database.Installation
import ImportTracking.Lease.Drill
import ImportTracking.Main
import ImportTracking.Queue.Script
import ImportTracking.Rehearsal.Seed
import ImportTracking.Tracker.History
import ImportTracking.Proofs.Writers
import ImportTracking.Proofs.FanOut
import ImportTracking.Proofs.Turn
import ImportTracking.Proofs.Performance
import ImportTracking.Proofs.Accounts
import ImportTracking.Proofs.Deliveries
import ImportTracking.Proofs.Settled
import ImportTracking.Proofs.Retries
import ImportTracking.Proofs.Redelivery
import ImportTracking.Proofs.Duplicates
import ImportTracking.Proofs.Holders
import ImportTracking.Proofs.LeaseRows
import ImportTracking.Proofs.Mirror
import ImportTracking.Proofs.Traces
import ImportTracking.Proofs.Clients
import ImportTracking.Proofs.Numbers
import ImportTracking.Proofs.Orders
import ImportTracking.Proofs.Duties
import ImportTracking.Proofs.Wakeups
import ImportTracking.Proofs.Descent
import ImportTracking.Proofs.Ownership
import ImportTracking.Proofs.Integrity
import ImportTracking.Proofs.Channels
import ImportTracking.Proofs.Timeline
import ImportTracking.Proofs.Waiting
import ImportTracking.Proofs.Commuting
import ImportTracking.Proofs.Bookkeeping
import ImportTracking.Proofs.Routing
import ImportTracking.Proofs.Reports
import ImportTracking.Proofs.Installations
import ImportTracking.Proofs.Skips
import ImportTracking.Proofs.Filling
import ImportTracking.Proofs.FailedExports
import ImportTracking.Proofs.Recording
import ImportTracking.Proofs.Listings
import ImportTracking.Proofs.Encodings
import ImportTracking.Proofs.Readiness
import ImportTracking.Proofs.Guards
import ImportTracking.Proofs.Overrides
import ImportTracking.Proofs.Backoff
import ImportTracking.Proofs.Keywords
