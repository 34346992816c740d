import MemberOrder.Main
import MemberOrder.Proofs.Bucket.StableSort
import MemberOrder.Proofs.Collation.CaseVariants
import MemberOrder.Proofs.Class.Detection
import MemberOrder.Proofs.Class.Idempotence
import MemberOrder.Proofs.Class.OverloadGroups
import MemberOrder.Proofs.Source.LineComment
import MemberOrder.Proofs.Source.Losslessness
import MemberOrder.Proofs.Class.Independence
import MemberOrder.Proofs.Source.Rejection
import MemberOrder.Proofs.Batch.WriteBack
import MemberOrder.Proofs.Batch.Schedule
import MemberOrder.Proofs.Batch.Events
import MemberOrder.Proofs.Command.Run
import MemberOrder.Proofs.Config.Nearest
import MemberOrder.Proofs.Command.Check
import MemberOrder.Proofs.Command.Announcement
import MemberOrder.Proofs.Source.LineEndings
import MemberOrder.Proofs.Class.Guarded
import MemberOrder.Proofs.Source.Safety
import MemberOrder.Proofs.Class.Placement
import MemberOrder.Proofs.Class.Skipping
import MemberOrder.Proofs.Class.Reassembly
import MemberOrder.Proofs.Source.Splice
import MemberOrder.Proofs.Bucket.Neighbours
import MemberOrder.Proofs.Collation.Bytes
import MemberOrder.Proofs.Tree.FirstFault
import MemberOrder.Proofs.Class.Outermost
