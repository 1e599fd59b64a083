import BoundSql.Config.Load
import BoundSql.Proofs.Noninterference
import BoundSql.Proofs.Refusal
import BoundSql.Statement
import BoundSql.StatementKind
import BoundSql.Wire
import BoundSql.Workbench
import BoundSql.Proofs.Account
import BoundSql.Proofs.Restoring
import BoundSql.Proofs.Retrieval
import BoundSql.Proofs.Crossing
import BoundSql.Proofs.Integrity
import BoundSql.Proofs.Arrangement
import BoundSql.Proofs.Ambiguity
import BoundSql.Proofs.Codes
import BoundSql.Proofs.Renaming
import BoundSql.Proofs.Decoding
import BoundSql.Proofs.Unambiguity
import BoundSql.Proofs.Renewal
import BoundSql.Proofs.Capacity
import BoundSql.Proofs.Staleness
import BoundSql.Proofs.Ordering
import BoundSql.Proofs.Validity
import BoundSql.Proofs.Completeness
import BoundSql.Proofs.Demand
import BoundSql.Proofs.Alteration
import BoundSql.Proofs.Roles
import BoundSql.Proofs.Exclusion
import BoundSql.Proofs.Contribution
import BoundSql.Proofs.Width
import BoundSql.Proofs.Search
