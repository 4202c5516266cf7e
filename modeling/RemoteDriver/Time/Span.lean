import RemoteDriver.Time.Rfc3339

/-!
# Spans of time as text

A span of milliseconds in the largest unit that leaves a whole part: seconds with as many digits
after the point as it needs, milliseconds below one second, and nanoseconds for none at all.
-/

namespace RemoteDriver.Time

/-- The text of a span of milliseconds. -/
def spanText (ms : Nat) : String :=
  if ms = 0 then "0ns"
  else if ms < 1000 then toString ms ++ "ms"
  else toString (ms / 1000) ++ String.ofList (Rfc3339.fractionText (ms % 1000)) ++ "s"

example : spanText 120050 = "120.05s" := by decide +kernel

end RemoteDriver.Time
