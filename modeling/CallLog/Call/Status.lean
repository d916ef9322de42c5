/-!
# Call status

How a call ended: one of seventeen codes, numbered from 0, and perhaps a description.
-/

namespace CallLog

/-- The outcome of a call. -/
inductive Code where
  | ok
  | cancelled
  | unknown
  | invalidArgument
  | deadlineExceeded
  | notFound
  | alreadyExists
  | permissionDenied
  | resourceExhausted
  | failedPrecondition
  | aborted
  | outOfRange
  | unimplemented
  | internal
  | unavailable
  | dataLoss
  | unauthenticated
  deriving DecidableEq, Repr

namespace Code

/-- The codes in the order of their numbers. -/
def all : List Code :=
  [ok, cancelled, unknown, invalidArgument, deadlineExceeded, notFound, alreadyExists,
    permissionDenied, resourceExhausted, failedPrecondition, aborted, outOfRange, unimplemented,
    internal, unavailable, dataLoss, unauthenticated]

/-- The number of a code. -/
def value : Code → UInt32
  | ok => 0
  | cancelled => 1
  | unknown => 2
  | invalidArgument => 3
  | deadlineExceeded => 4
  | notFound => 5
  | alreadyExists => 6
  | permissionDenied => 7
  | resourceExhausted => 8
  | failedPrecondition => 9
  | aborted => 10
  | outOfRange => 11
  | unimplemented => 12
  | internal => 13
  | unavailable => 14
  | dataLoss => 15
  | unauthenticated => 16

/-- The name of a code. -/
def name : Code → String
  | ok => "Ok"
  | cancelled => "Cancelled"
  | unknown => "Unknown"
  | invalidArgument => "InvalidArgument"
  | deadlineExceeded => "DeadlineExceeded"
  | notFound => "NotFound"
  | alreadyExists => "AlreadyExists"
  | permissionDenied => "PermissionDenied"
  | resourceExhausted => "ResourceExhausted"
  | failedPrecondition => "FailedPrecondition"
  | aborted => "Aborted"
  | outOfRange => "OutOfRange"
  | unimplemented => "Unimplemented"
  | internal => "Internal"
  | unavailable => "Unavailable"
  | dataLoss => "DataLoss"
  | unauthenticated => "Unauthenticated"

theorem value_le (code : Code) : code.value ≤ 16 := by cases code <;> decide

theorem value_injective {a b : Code} (h : a.value = b.value) : a = b := by
  cases a <;> cases b <;> first | rfl | exact absurd h (by decide)

end Code

/-- A code and perhaps a description. -/
structure Status where
  code : Code
  description : Option String
  deriving DecidableEq, Repr

namespace Status

/-- The status of a code alone. -/
def ofCode (code : Code) : Status := ⟨code, none⟩

/-- The status with this description in place of any other. -/
def withDescription (status : Status) (description : String) : Status :=
  { status with description := some description }

/-- The name of the code, and after a colon the description if there is one. -/
def display (status : Status) : String :=
  match status.description with
  | some description => status.code.name ++ ": " ++ description
  | none => status.code.name

/-- The description unless it is missing or empty. -/
def message? (status : Status) : Option String := status.description.filter (· ≠ "")

end Status
end CallLog
