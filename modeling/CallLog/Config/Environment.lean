import CallLog.Text.Utf8

/-!
# Environment variables

The variables that settings are read from. They are handed over as entries, each a name, an equals
sign and a value, and a variable is looked up as the entry that begins with its name and an equals
sign. So a name that holds an equals sign can reach into a value: with `A` set to `B=c`, the entry
`A=B=c` gives `A=B` the value `c`. A value that is not UTF-8 counts as unset.
-/

namespace CallLog

/-- Variables and the bytes of their values. The name of a variable that is set is not empty and
holds no equals sign. -/
structure Environment where
  bindings : List (String × Bytes)
  deriving DecidableEq, Repr

namespace Environment

/-! ## Names -/

/-- The DSN of the sink. -/
def dsnVariable : String := "RPC_LOG_SINK_DSN"

/-- The address of the cloud logging service. -/
def endpointVariable : String := "RPC_LOG_SINK_ENDPOINT"

/-- The token for the cloud logging service. -/
def tokenVariable : String := "RPC_LOG_SINK_ACCESS_TOKEN"

/-- The project, unless a DSN names one. -/
def projectVariable : String := "GOOGLE_CLOUD_PROJECT"

/-- An older name for the same. -/
def legacyProjectVariable : String := "GCLOUD_PROJECT"

/-! ## Values -/

/-- The bytes after a name and an equals sign in the entry that begins so: what stands before the
first equals sign names the variable, and its value has to begin with the rest. -/
def bytes? (env : Environment) (name : String) : Option Bytes :=
  let value := env.bindings.lookup (String.ofList (name.toList.takeWhile (· ≠ '=')))
  match name.toList.dropWhile (· ≠ '=') with
  | [] => value
  | _ :: rest => value.bind ((Text.Utf8.encode (String.ofList rest ++ "=")).isPrefixOf? ·)

/-- The value of a variable that is set to a text. -/
def get? (env : Environment) (name : String) : Option String :=
  (env.bytes? name).bind Text.Utf8.decode?

/-- The value of a variable, or a default; an empty value counts. -/
def getD (env : Environment) (name default : String) : String := (env.get? name).getD default

/-- The value of a variable unless it is unset or empty. -/
def nonempty? (env : Environment) (name : String) : Option String :=
  (env.get? name).filter (· ≠ "")

/-! ## Entries -/

variable {env : Environment} {name : String}

theorem takeWhile_append_of_not_mem {cs : List Char} (h : '=' ∉ cs) (rest : List Char) :
    (cs ++ rest).takeWhile (· ≠ '=') = cs ++ rest.takeWhile (· ≠ '=') :=
  List.takeWhile_append_of_pos fun _ hc => decide_eq_true fun e => h (e ▸ hc)

theorem dropWhile_append_of_not_mem {cs : List Char} (h : '=' ∉ cs) (rest : List Char) :
    (cs ++ rest).dropWhile (· ≠ '=') = rest.dropWhile (· ≠ '=') :=
  List.dropWhile_append_of_pos fun _ hc => decide_eq_true fun e => h (e ▸ hc)

/-- A name without an equals sign is looked up as it is. -/
theorem bytes?_of_not_mem (h : '=' ∉ name.toList) :
    env.bytes? name = env.bindings.lookup name := by
  have before := takeWhile_append_of_not_mem h []
  have after := dropWhile_append_of_not_mem h []
  simp only [List.append_nil, List.takeWhile_nil, List.dropWhile_nil] at before after
  simp only [bytes?, before, after, String.ofList_toList]

end Environment
end CallLog
