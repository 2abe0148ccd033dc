import TagOrder.Main
import TagOrder.Session
import TagOrder.Storage.Shelf
import TagOrder.Proofs.Audit
import TagOrder.Proofs.Document.Format
import TagOrder.Proofs.MergeOrder
import TagOrder.Proofs.InStep
import TagOrder.Proofs.Rotation.Positions
import TagOrder.Proofs.Misplaced
import TagOrder.Proofs.Fixing.Again
import TagOrder.Proofs.Fixing.Frame
import TagOrder.Proofs.Fixing.Independent
import TagOrder.Proofs.Repair.Fewest
import TagOrder.Proofs.Repair.Sorts
import TagOrder.Proofs.Session
import TagOrder.Proofs.Fixing.Contents
import TagOrder.Proofs.Repair.Budget
import TagOrder.Proofs.Spread
import TagOrder.Proofs.Repair.Descent
import TagOrder.Proofs.Repair.Verdict
import TagOrder.Proofs.Rotation.Coupling
import TagOrder.Proofs.Fixing.Progress
import TagOrder.Proofs.Fixing.Backup
import TagOrder.Proofs.Repair.Single
import TagOrder.Proofs.Ranking.Inherited
import TagOrder.Proofs.Rivals
import TagOrder.Proofs.Options.Order
import TagOrder.Proofs.Options.Read
import TagOrder.Proofs.Template.Filling
import TagOrder.Proofs.Fixing.Insertion
import TagOrder.Proofs.Edit.Rewrite
import TagOrder.Proofs.Ranking.Absence
import TagOrder.Proofs.Repair.Resolve
import TagOrder.Proofs.Collect
import TagOrder.Proofs.Cluster.Partition
import TagOrder.Proofs.Settings
import TagOrder.Proofs.Options.OnTop
