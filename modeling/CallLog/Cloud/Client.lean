import CallLog.Cloud.Entry
import CallLog.Cloud.Error

/-!
# Cloud logging clients

A client is a handle to the cloud logging service. `ScriptedClient` answers from a script and keeps
the calls it received, so that what a sink asks of its client can be seen.
-/

namespace CallLog

/-- What a call to the service comes to. -/
abbrev CloudAnswer := Except CloudError Unit

/-- A handle to the service with states `χ`. -/
class Client (χ : Type) where
  /-- Hands entries to the service. -/
  send : χ → List Entry → CloudAnswer × χ
  /-- Ends the use of the service. -/
  close : χ → CloudAnswer × χ

/-- A call that a client received. -/
inductive ClientCall where
  | send (entries : List Entry)
  | close

/-- A client that answers from a script: the n-th `send` gets the n-th answer, and later ones
succeed. -/
structure ScriptedClient where
  answers : List CloudAnswer
  closing : CloudAnswer
  calls : List ClientCall

namespace ScriptedClient

/-- A client at the start of its script. -/
def ofScript (answers : List CloudAnswer) (closing : CloudAnswer) : ScriptedClient :=
  ⟨answers, closing, []⟩

/-- Answers a `send` and keeps it. -/
def send (client : ScriptedClient) (entries : List Entry) : CloudAnswer × ScriptedClient :=
  (client.answers.headD (.ok ()),
    { client with answers := client.answers.tail, calls := client.calls ++ [.send entries] })

/-- Answers a `close` and keeps it. -/
def close (client : ScriptedClient) : CloudAnswer × ScriptedClient :=
  (client.closing, { client with calls := client.calls ++ [.close] })

instance : Client ScriptedClient where
  send := send
  close := close

end ScriptedClient
end CallLog
