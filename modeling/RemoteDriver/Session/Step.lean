import RemoteDriver.Session.Service

/-!
# Steps of a session

A step gives a command to a handle and waits for its result.  The wait may be cut short, and a
close signal may fire during it.  A step tells its result, how long it took and which requests it
posted; all else is in the session after it.
-/

namespace RemoteDriver

/-- A command with the circumstances under which it is given. -/
structure Step where
  /-- The name of the handle. -/
  target : String
  /-- The command. -/
  command : Command
  /-- The name under which a handle that it brings is kept. -/
  keep : Option String
  /-- After how many milliseconds its caller stops waiting. -/
  cancelAfter : Option Nat
  /-- After how many milliseconds the close signal of the handle fires. -/
  closeAfter : Option Nat

namespace Step

/-- How long a caller waits at most, in milliseconds: a hundred days.  A session goes on only when a
step has ended, and an answer may never come, so a caller who sets no time of their own gives up at
last.  The computations themselves know no such bound: their limits may hold any deadline. -/
def patience : Nat := 8640000000

/-- When the caller of a step that begins now stops waiting. -/
def deadline (step : Step) (now : Nat) : Nat :=
  match step.cancelAfter with
  | some span => now + min span patience
  | none => now + patience

/-- The close signal that fires while a step runs on a handle, and when. -/
def closing (step : Step) (h : Handle) (now : Nat) : Option (Nat × Nat) :=
  match h, step.closeAfter with
  | .changeStream s, some span => some (s.serial, now + span)
  | _, _ => none

end Step

/-- How a step ends. -/
inductive Verdict
  /-- With a result. -/
  | result (r : Result)
  /-- With an error. -/
  | failed (e : Error)
  /-- Its caller stopped waiting. -/
  | abandoned
  /-- There is no handle of the name. -/
  | noHandle
  /-- The handle does not know the command. -/
  | notOffered

namespace Verdict

/-- The verdict on a command that was served. -/
def ofExcept : Except Halt Result → Verdict
  | .ok r => result r
  | .error (.failed e) => failed e
  | .error .abandoned => abandoned

/-- The handle that a step brings. -/
def handle? : Verdict → Option Handle
  | result r => r.handle?
  | _ => none

end Verdict

/-- What a step tells. -/
structure Report where
  /-- How it ended. -/
  verdict : Verdict
  /-- The requests that were posted, in order. -/
  posted : List Request
  /-- How many milliseconds it took. -/
  elapsed : Nat

namespace Session

/-- What is left of a command once a close signal that fires while it runs has fired too: the step
waits for both. -/
def joined (limits : Limits) (w : World) : Except Halt Result → Except Halt Result × World
  | .error .abandoned => (.error .abandoned,
      match limits.closing with
      | some (subscription, time) =>
        if time ≤ limits.deadline then w.fire subscription else w
      | none => w)
  | r =>
    match limits.closing with
    | some (subscription, time) =>
      if time ≤ limits.deadline then (r, { w.fire subscription with now := max w.now time })
      else (.error .abandoned, { w with now := max w.now limits.deadline })
    | none => (r, w)

/-- The handles after a step: the one it was given to as it has become, and the one it brought. -/
def handlesAfter (s : Session) (step : Step) (became : Option Handle) (verdict : Verdict) :
    List (String × Handle) :=
  let mine := match became with
    | some h => kept s.handles step.target h
    | none => without s.handles step.target
  match step.keep, verdict.handle? with
  | some name, some h => kept mine name h
  | _, _ => mine

/-- Serves a command on a handle. -/
def serve (s : Session) (step : Step) (h : Handle) : Verdict × Option Handle × World :=
  match step.command with
  | .forget => (.result .done, none, s.world)
  | .compare other =>
    (.result (.comparison ((s.handle? other).bind h.isSame?)), some h, s.world)
  | command =>
    match h.service? command with
    | none => (.notOffered, some h, s.world)
    | some service =>
      let limits : Limits := ⟨step.deadline s.world.now, step.closing h s.world.now⟩
      match service limits s.world with
      | (r, became, w) =>
        match joined limits w r with
        | (r, w) => (.ofExcept r, became, w)

/-- Takes a step. -/
def step (s : Session) (step : Step) : Report × Session :=
  match s.handle? step.target with
  | none => (⟨.noHandle, [], 0⟩, s)
  | some h =>
    match s.serve step h with
    | (verdict, became, w) =>
      let report : Report :=
        ⟨verdict, w.posted.drop s.world.posted.length, w.now - s.world.now⟩
      (report, settled { s with world := w } (s.handlesAfter step became verdict))

/-- Takes steps one after the other. -/
def run (s : Session) : List Step → List Report × Session
  | [] => ([], s)
  | next :: rest =>
    let (report, s) := s.step next
    let (reports, s) := s.run rest
    (report :: reports, s)

end Session

end RemoteDriver
