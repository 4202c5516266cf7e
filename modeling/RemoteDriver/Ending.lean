import RemoteDriver.World

/-!
# Endings

How it ends when a handle is drained: its items are taken one after the other until there are no
more, an error takes the place of the next one, or enough have been taken.
-/

namespace RemoteDriver

/-- How a drain ends. -/
inductive Ending
  /-- Nothing is left. -/
  | finished
  /-- A request failed. -/
  | failed (e : Error)
  /-- The caller stopped waiting. -/
  | abandoned
  /-- As many items were taken as were asked for. -/
  | stopped

/-- The ending of a drain that halts. -/
def Ending.ofHalt : Halt → Ending
  | .failed e => failed e
  | .abandoned => abandoned

end RemoteDriver
