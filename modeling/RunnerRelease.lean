import RunnerRelease.Main
import RunnerRelease.Rehearsal
import RunnerRelease.Proofs.Cluster.WriteOnce
import RunnerRelease.Proofs.Rehearsal
import RunnerRelease.Proofs.Time.Instant
import RunnerRelease.Proofs.Release.Course
import RunnerRelease.Proofs.Release.Priority
import RunnerRelease.Proofs.Session.Exchanges
import RunnerRelease.Proofs.Release.Trace
import RunnerRelease.Proofs.Time.Span
import RunnerRelease.Proofs.Release.RateLimit
import RunnerRelease.Proofs.Time.Calendar
import RunnerRelease.Proofs.Time.Rfc3339
import RunnerRelease.Proofs.Release.GracePeriod
import RunnerRelease.Proofs.Registry.Steady
import RunnerRelease.Proofs.Registry.Moving
import RunnerRelease.Proofs.Registry.LastPage
import RunnerRelease.Proofs.Release.MarkerWrite
import RunnerRelease.Proofs.Drain.Iteration
import RunnerRelease.Proofs.Drain.Deletion
import RunnerRelease.Proofs.MergePatch.Frame
import RunnerRelease.Proofs.Release.Deadline
import RunnerRelease.Proofs.Release.MarkerText
import RunnerRelease.Proofs.GitHub.Response
import RunnerRelease.Proofs.GitHub.Endpoint
import RunnerRelease.Proofs.Scope
import RunnerRelease.Proofs.Policy.Delays
import RunnerRelease.Proofs.Release.MarkerSpelling
import RunnerRelease.Proofs.Kubernetes.Response
