import AccessControl.Cache.Rehearsal
import AccessControl.Engine.Session
import AccessControl.Json.Reader
import AccessControl.Json.Writer
import AccessControl.Scope.Document
import AccessControl.Proofs.Graph.Reachability
import AccessControl.Proofs.Permission.Coverage
import AccessControl.Proofs.Policy.Order
import AccessControl.Proofs.Cache.TtlLru
import AccessControl.Proofs.Role.Expansion
import AccessControl.Proofs.Engine.Answer
import AccessControl.Proofs.Check.Meaning
import AccessControl.Proofs.Entries
import AccessControl.Proofs.Check.Batch
import AccessControl.Proofs.Role.Changes
import AccessControl.Proofs.Role.Acyclic
import AccessControl.Proofs.Cache.Ledger
import AccessControl.Proofs.Cache.WriteBehind
import AccessControl.Proofs.Engine.Calls
import AccessControl.Proofs.Engine.Staleness
import AccessControl.Proofs.Engine.Expiry
import AccessControl.Proofs.Engine.Isolation
import AccessControl.Proofs.Policy.Readings
import AccessControl.Proofs.Policy.FirstMatch
import AccessControl.Proofs.Role.Representation
import AccessControl.Proofs.Cache.Drain
import AccessControl.Proofs.Cache.Crash
import AccessControl.Proofs.Cache.Freshness
import AccessControl.Proofs.Permission.Codec
import AccessControl.Proofs.Text.Quoted
import AccessControl.Proofs.Scope.Key
import AccessControl.Proofs.Scope.Resolution
import AccessControl.Proofs.Scope.Union
import AccessControl.Proofs.Permission.NamedGrant
import AccessControl.Proofs.Scope.Distinct
import AccessControl.Proofs.Graph.DepthFirst
import AccessControl.Proofs.Role.Live
import AccessControl.Proofs.Cache.Recency
import AccessControl.Proofs.Cache.Uses
import AccessControl.Proofs.Cache.Retention
import AccessControl.Proofs.Policy.Compilation
import AccessControl.Proofs.Role.CycleTest
import AccessControl.Proofs.Cache.RefreshTasks
import AccessControl.Proofs.Role.Commit
import AccessControl.Proofs.Scope.Combination
import AccessControl.Proofs.Policy.Evaluated
import AccessControl.Proofs.Scope.WireForm
import AccessControl.Proofs.Check.Quantified
import AccessControl.Proofs.Scope.Hierarchy
