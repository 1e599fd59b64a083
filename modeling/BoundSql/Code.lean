/-!
# Coded choices

A choice from a closed set is given by a variant or by its number.  `Coded` says for each
closed set how it is called in messages, which variants it has, and for each variant its
name and the keyword that it is written as.  The variants are numbered from 1 on in the
order in which they are listed.  `CodeArg.resolve` finds the variant that is meant; a
number that no variant has is refused.
-/

namespace BoundSql

/-- A closed set of numbered variants. -/
class Coded (T : Type) extends BEq T where
  /-- What the set is called in messages. -/
  label : String
  /-- The variants, by number. -/
  all : List T
  /-- The name of a variant. -/
  variant : T → String
  /-- The SQL text of a variant. -/
  keyword : T → String

namespace Coded

variable {T : Type} [Coded T]

/-- The number of a variant. -/
def code (t : T) : Nat := (all (T := T)).idxOf t + 1

/-- The variant with a number, if there is one. -/
def ofCode? (n : Int) : Option T :=
  if 0 < n then (all (T := T))[n.toNat - 1]? else none

end Coded

/-- A choice that is made by variant or by number. -/
inductive CodeArg (T : Type) where
  | variant (t : T)
  | code (n : Int)
deriving DecidableEq

/-- The variant that is meant, or the number that no variant has. -/
def CodeArg.resolve {T : Type} [Coded T] : CodeArg T → Except Int T
  | .variant t => .ok t
  | .code n =>
    match Coded.ofCode? n with
    | some t => .ok t
    | none => .error n

/-! ### The closed sets -/

/-- What happens to dependent objects. -/
inductive Cascade where
  | cascade | restrict
deriving DecidableEq

instance : Coded Cascade where
  label := "cascade"
  all := [.cascade, .restrict]
  variant
    | .cascade => "Cascade"
    | .restrict => "Restrict"
  keyword
    | .cascade => "CASCADE"
    | .restrict => "RESTRICT"

/-- The changes that a column can undergo. -/
inductive ColumnChange where
  | dropNotNull | dropDefault | setNotNull | setDataType | setDefault | setStatistics
  | setStorage
deriving DecidableEq

instance : Coded ColumnChange where
  label := "alter column"
  all :=
    [.dropNotNull, .dropDefault, .setNotNull, .setDataType, .setDefault,
      .setStatistics, .setStorage]
  variant
    | .dropNotNull => "DropNotNull"
    | .dropDefault => "DropDefault"
    | .setNotNull => "SetNotNull"
    | .setDataType => "SetDataType"
    | .setDefault => "SetDefault"
    | .setStatistics => "SetStatistics"
    | .setStorage => "SetStorage"
  keyword
    | .dropNotNull => "DROP NOT NULL"
    | .dropDefault => "DROP DEFAULT"
    | .setNotNull => "SET NOT NULL"
    | .setDataType => "SET DATA TYPE"
    | .setDefault => "SET DEFAULT"
    | .setStatistics => "SET STATISTICS"
    | .setStorage => "SET STORAGE"

/-- How the values of a column are stored. -/
inductive StorageMode where
  | extended | external | main | plain
deriving DecidableEq

instance : Coded StorageMode where
  label := "storage mode"
  all := [.extended, .external, .main, .plain]
  variant
    | .extended => "Extended"
    | .external => "External"
    | .main => "Main"
    | .plain => "Plain"
  keyword
    | .extended => "EXTENDED"
    | .external => "EXTERNAL"
    | .main => "MAIN"
    | .plain => "PLAIN"

/-- The storage parameters of tables and indexes. -/
inductive StorageParameter where
  | autosummarize | autovacuumAnalyzeScaleFactor | autovacuumAnalyzeThreshold
  | autovacuumCostDelay | autovacuumCostLimit | autovacuumEnabled
  | autovacuumFreezeMinAge | autovacuumFreezeMaxAge | autovacuumFreezeTableAge
  | autovacuumMultixactFreezeMinAge | autovacuumMultixactFreezeTableAge
  | autovacuumScaleFactor | autovacuumVacuumThreshold | buffering | fastUpdate
  | fillFactor | ginPendingListLimit | logAutovacuumMinDuration | pagesPerRange
  | parallelWorkers | userCatalogTable
deriving DecidableEq

instance : Coded StorageParameter where
  label := "storage parameter"
  all :=
    [.autosummarize, .autovacuumAnalyzeScaleFactor, .autovacuumAnalyzeThreshold,
      .autovacuumCostDelay, .autovacuumCostLimit, .autovacuumEnabled,
      .autovacuumFreezeMinAge, .autovacuumFreezeMaxAge, .autovacuumFreezeTableAge,
      .autovacuumMultixactFreezeMinAge, .autovacuumMultixactFreezeTableAge,
      .autovacuumScaleFactor, .autovacuumVacuumThreshold, .buffering, .fastUpdate,
      .fillFactor, .ginPendingListLimit, .logAutovacuumMinDuration, .pagesPerRange,
      .parallelWorkers, .userCatalogTable]
  variant
    | .autosummarize => "Autosummarize"
    | .autovacuumAnalyzeScaleFactor => "AutovacuumAnalyzeScaleFactor"
    | .autovacuumAnalyzeThreshold => "AutovacuumAnalyzeThreshold"
    | .autovacuumCostDelay => "AutovacuumCostDelay"
    | .autovacuumCostLimit => "AutovacuumCostLimit"
    | .autovacuumEnabled => "AutovacuumEnabled"
    | .autovacuumFreezeMinAge => "AutovacuumFreezeMinAge"
    | .autovacuumFreezeMaxAge => "AutovacuumFreezeMaxAge"
    | .autovacuumFreezeTableAge => "AutovacuumFreezeTableAge"
    | .autovacuumMultixactFreezeMinAge => "AutovacuumMultixactFreezeMinAge"
    | .autovacuumMultixactFreezeTableAge => "AutovacuumMultixactFreezeTableAge"
    | .autovacuumScaleFactor => "AutovacuumScaleFactor"
    | .autovacuumVacuumThreshold => "AutovacuumVacuumThreshold"
    | .buffering => "Buffering"
    | .fastUpdate => "FastUpdate"
    | .fillFactor => "FillFactor"
    | .ginPendingListLimit => "GinPendingListLimit"
    | .logAutovacuumMinDuration => "LogAutovacuumMinDuration"
    | .pagesPerRange => "PagesPerRange"
    | .parallelWorkers => "ParallelWorkers"
    | .userCatalogTable => "UserCatalogTable"
  keyword
    | .autosummarize => "autosummarize"
    | .autovacuumAnalyzeScaleFactor => "autovacuum_analyze_scale_factor"
    | .autovacuumAnalyzeThreshold => "autovacuum_analyze_threshold"
    | .autovacuumCostDelay => "autovacuum_vacuum_cost_delay"
    | .autovacuumCostLimit => "autovacuum_vacuum_cost_limit"
    | .autovacuumEnabled => "autovacuum_enabled"
    | .autovacuumFreezeMinAge => "autovacuum_freeze_min_age"
    | .autovacuumFreezeMaxAge => "autovacuum_freeze_max_age"
    | .autovacuumFreezeTableAge => "autovacuum_freeze_table_age"
    | .autovacuumMultixactFreezeMinAge => "autovacuum_multixact_freeze_min_age"
    | .autovacuumMultixactFreezeTableAge => "autovacuum_multixact_freeze_table_age"
    | .autovacuumScaleFactor => "autovacuum_vacuum_scale_factor"
    | .autovacuumVacuumThreshold => "autovacuum_vacuum_threshold"
    | .buffering => "buffering"
    | .fastUpdate => "fastupdate"
    | .fillFactor => "fillfactor"
    | .ginPendingListLimit => "gin_pending_list_limit"
    | .logAutovacuumMinDuration => "log_autovacuum_min_duration"
    | .pagesPerRange => "pages_per_range"
    | .parallelWorkers => "parallel_workers"
    | .userCatalogTable => "user_catalog_table"

/-- The ways to say which role is meant. -/
inductive RoleKind where
  | all | currentUser | name | everyone | sessionUser | currentRole
deriving DecidableEq

/-- A role that is meant by its name has no keyword; its name is written instead. -/
instance : Coded RoleKind where
  label := "role"
  all := [.all, .currentUser, .name, .everyone, .sessionUser, .currentRole]
  variant
    | .all => "All"
    | .currentUser => "CurrentUser"
    | .name => "Name"
    | .everyone => "Public"
    | .sessionUser => "SessionUser"
    | .currentRole => "CurrentRole"
  keyword
    | .all => "ALL"
    | .currentUser => "CURRENT_USER"
    | .name => ""
    | .everyone => "PUBLIC"
    | .sessionUser => "SESSION_USER"
    | .currentRole => "CURRENT_ROLE"

/-- The optional word behind `BEGIN`. -/
inductive TransactionAction where
  | transaction | work
deriving DecidableEq

instance : Coded TransactionAction where
  label := "transaction action"
  all := [.transaction, .work]
  variant
    | .transaction => "Transaction"
    | .work => "Work"
  keyword
    | .transaction => "TRANSACTION"
    | .work => "WORK"

/-- The modes of a transaction. -/
inductive TransactionMode where
  | deferrable | repeatableRead | readCommitted | readUncommitted | serializable
  | notDeferrable | readWrite | readOnly
deriving DecidableEq

instance : Coded TransactionMode where
  label := "transaction mode"
  all :=
    [.deferrable, .repeatableRead, .readCommitted, .readUncommitted, .serializable,
      .notDeferrable, .readWrite, .readOnly]
  variant
    | .deferrable => "Deferrable"
    | .repeatableRead => "IsolationLevelRepeatableRead"
    | .readCommitted => "IsolationLevelReadCommitted"
    | .readUncommitted => "IsolationLevelReadUncommitted"
    | .serializable => "IsolationLevelSerializable"
    | .notDeferrable => "NotDeferrable"
    | .readWrite => "ReadWrite"
    | .readOnly => "ReadOnly"
  keyword
    | .deferrable => "DEFERRABLE"
    | .repeatableRead => "ISOLATION LEVEL REPEATABLE READ"
    | .readCommitted => "ISOLATION LEVEL READ COMMITTED"
    | .readUncommitted => "ISOLATION LEVEL READ UNCOMMITTED"
    | .serializable => "ISOLATION LEVEL SERIALIZABLE"
    | .notDeferrable => "NOT DEFERRABLE"
    | .readWrite => "READ WRITE"
    | .readOnly => "READ ONLY"

end BoundSql
