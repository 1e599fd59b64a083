import BoundSql.Code

/-!
# Errors

`Error` lists what can go wrong between a caller's arguments and a finished statement: an
argument of a clause is refused, a clause holds a token of another registry, a registry
cannot serve a request, or the clauses that are set do not form a statement.  Each cause
is a constructor, and `Error.message` is the text of each.
-/

namespace BoundSql

/-- Why an argument of a clause is refused. -/
inductive Reason where
  | emptyText
  | nulInText
  | unknownCode (label : String) (code : Int)
  | zeroIncrement
  | cacheBelowOne (cache : Int)
  | roleNotAllowed (kind : RoleKind)
  | nameMissing
  | nameSuperfluous (kind : RoleKind)
  | settingNotClean
  | settingNotScalar
  | parameterRepeated (parameter : StorageParameter)
  | noParameters (keyword : String)
  | modeConflict (next prior : TransactionMode)
  | onlyWithDescendants
  | collationNotAllowed (change : ColumnChange)
  | valueNotAllowed (change : ColumnChange)
  | valueMissing (change : ColumnChange)
  | valueNotText (change : ColumnChange)
  | valueNotInteger (change : ColumnChange)
  | statisticsOutOfRange (target : Int)
deriving DecidableEq

namespace Reason

/-- The text of a reason. -/
def message : Reason → String
  | .emptyText => "cannot be empty"
  | .nulInText => "cannot contain NUL characters"
  | .unknownCode label code => "unknown " ++ label ++ " code " ++ toString code
  | .zeroIncrement => "cannot be zero"
  | .cacheBelowOne cache => "must be at least 1, got " ++ toString cache
  | .roleNotAllowed kind => Coded.variant kind ++ " is not allowed here"
  | .nameMissing => "a named role requires a name"
  | .nameSuperfluous kind => Coded.variant kind ++ " does not take a name"
  | .settingNotClean => "text values cannot be empty or contain NUL"
  | .settingNotScalar => "storage parameters take scalar values"
  | .parameterRepeated parameter => Coded.keyword parameter ++ " is already in the list"
  | .noParameters keyword => keyword ++ " needs at least one storage parameter"
  | .modeConflict next prior =>
    Coded.keyword next ++ " conflicts with " ++ Coded.keyword prior
  | .onlyWithDescendants => "ONLY and * are mutually exclusive"
  | .collationNotAllowed change =>
    "only allowed with SET DATA TYPE, not " ++ Coded.variant change
  | .valueNotAllowed change => Coded.variant change ++ " does not take a value"
  | .valueMissing change => Coded.variant change ++ " requires a value"
  | .valueNotText change => Coded.variant change ++ " requires a text value"
  | .valueNotInteger change => Coded.variant change ++ " requires an integer value"
  | .statisticsOutOfRange target =>
    "statistics target " ++ toString target ++ " is outside -1..=10000"

end Reason

/-- The refusal of one argument. -/
structure Rejection where
  argument : String
  reason : Reason
deriving DecidableEq

/-- Why a registry cannot serve a request, or a query cannot be used.  `endlessSearch` is
never reported: it stands for the outcome that there is not when the search for the tokens of
a query goes on without end. -/
inductive AllocationFault where
  | full (capacity : Nat)
  | idsExhausted
  | foreign (token : String)
  | alreadyBound (token : String)
  | unbound (token : String)
  | queryTooLarge (needed remaining : Nat)
  | danglingReference (reference : String) (count : Nat)
  | unusedValue (reference : String)
  | endlessSearch
deriving DecidableEq

namespace AllocationFault

/-- The text of a fault. -/
def message : AllocationFault → String
  | .full capacity => "registry is full (" ++ toString capacity ++ " placeholders)"
  | .idsExhausted => "placeholder id space exhausted"
  | .foreign token => "placeholder " ++ token ++ " was not issued by this registry"
  | .alreadyBound token => "placeholder " ++ token ++ " is already bound"
  | .unbound token => "placeholder " ++ token ++ " has no bound value"
  | .queryTooLarge needed remaining =>
    "sub-query needs " ++ toString needed ++ " placeholders but only "
      ++ toString remaining ++ " remain"
  | .danglingReference reference count =>
    "query references " ++ reference ++ " but binds " ++ toString count ++ " values"
  | .unusedValue reference => "parameter " ++ reference ++ " is never referenced"
  | .endlessSearch => "the search for the placeholders of a query does not end"

end AllocationFault

/-- Why the clauses that are set do not form a statement. -/
inductive Omission where
  | missing (clause : String)
  | noForm (forms : List String)
  | severalForms (forms : List String)
  | notAccepted (clause context : String)
deriving DecidableEq

namespace Omission

/-- The text of an omission in a statement of the given command. -/
def message (command : String) : Omission → String
  | .missing clause => command ++ " requires " ++ clause
  | .noForm forms => command ++ " requires one of: " ++ ", ".intercalate forms
  | .severalForms forms => command ++ " accepts only one of: " ++ ", ".intercalate forms
  | .notAccepted clause context => command ++ " does not accept " ++ clause ++ " " ++ context

end Omission

/-- What can go wrong between arguments and a statement. -/
inductive Error where
  /-- A setter refuses an argument. -/
  | invalidArgument (function : String) (rejection : Rejection)
  /-- A clause holds a token that its registry does not know. -/
  | staleToken (function : String)
  /-- A registry cannot serve a request. -/
  | allocation (fault : AllocationFault)
  /-- The clauses that are set do not form a statement. -/
  | incomplete (command : String) (omission : Omission)
deriving DecidableEq

namespace Error

/-- The text of an error. -/
def message : Error → String
  | .invalidArgument function rejection =>
    "Invalid argument '" ++ rejection.argument ++ "' to " ++ function ++ ": "
      ++ rejection.reason.message
  | .staleToken function => "Invalid variable 'placeholder' in " ++ function
  | .allocation fault => "Placeholder allocation failed: " ++ fault.message
  | .incomplete command omission => "Incomplete statement: " ++ omission.message command

end Error

end BoundSql
