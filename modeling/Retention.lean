import Retention.CommandLine.Run
import Retention.Main
import Retention.Proofs.World
import Retention.Proofs.Rows
import Retention.Proofs.RemovalCourse
import Retention.Proofs.Steps
import Retention.Proofs.Removal
import Retention.Proofs.JobRows
import Retention.Proofs.LookupRows
import Retention.Proofs.JobCourse
import Retention.Proofs.Jobs
import Retention.Proofs.Calendar
import Retention.Proofs.Timestamps
import Retention.Proofs.PerformanceCourse
import Retention.Proofs.Performance
import Retention.Proofs.Calls
import Retention.Proofs.Parts
import Retention.Proofs.Integrity
import Retention.Proofs.Answers
import Retention.Proofs.Growth
import Retention.Proofs.Reachable
import Retention.Proofs.Checks
import Retention.Proofs.Pruning
import Retention.Proofs.Completion
import Retention.Proofs.JobParts
import Retention.Proofs.PerformanceParts
import Retention.Proofs.ChunkSizes
import Retention.Proofs.Retentions
import Retention.Proofs.Resumption
import Retention.Proofs.Transactions
import Retention.Proofs.Acceptance
import Retention.Proofs.KindFaults
import Retention.Proofs.Likeness
import Retention.Proofs.Rehearsals
import Retention.Proofs.ExitCodes
import Retention.Proofs.Ages
import Retention.Proofs.Pins
import Retention.Proofs.Extents
import Retention.Proofs.Statements
import Retention.Proofs.JobChunks
import Retention.Proofs.SecondRuns
import Retention.Proofs.Requests
import Retention.Proofs.References
import Retention.Proofs.ChunkReach
import Retention.Proofs.QuotedReferences
import Retention.Proofs.DistinctKeys
import Retention.Proofs.Readers
import Retention.Proofs.AsWritten
