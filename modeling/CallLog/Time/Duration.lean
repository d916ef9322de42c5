import CallLog.Time.Fraction

/-!
# Durations

A span of whole seconds and nanoseconds below one second. The text is a decimal number of seconds
with the fewest of 0, 3, 6 or 9 fraction digits that are exact, and `s`.
-/

namespace CallLog

/-- A span of time. -/
structure Duration where
  seconds : UInt64
  nanos : Nat
  nanos_lt : nanos < 1000000000
  deriving DecidableEq, Repr

namespace Duration

/-- The span of these seconds and nanoseconds, if the latter stay below one second. -/
def of? (seconds : UInt64) (nanos : Nat) : Option Duration :=
  if h : nanos < 1000000000 then some ⟨seconds, nanos, h⟩ else none

/-- The characters of the text. -/
def chars (d : Duration) : List Char :=
  Text.decimal d.seconds.toNat ++ Fraction.chars d.nanos ++ ['s']

/-- The span in seconds, as text. -/
def text (d : Duration) : String := String.ofList d.chars

end Duration
end CallLog
