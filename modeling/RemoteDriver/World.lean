import RemoteDriver.Endpoint
import RemoteDriver.Request

/-!
# The world that operations run in

Operations run against a remote side that answers from a script and on a clock that only moves
when everything waits.  What they leave behind is in one value: the requests posted so far, the
answers not yet given, the clients that have been closed or dropped, the databases that have been
handed out, and the close signals that have fired.

A computation is given *limits*: the time at which its caller stops waiting, and the time at which
a close signal fires while it runs.
-/

namespace RemoteDriver

/-! ## The remote side -/

/-- What comes back for a request. -/
inductive Content
  /-- A response with this body. -/
  | body (v : Json)
  /-- The endpoint is out of reach. -/
  | unreachable (reason : String)
  /-- A response that is no JSON. -/
  | undecodable (reason : String)

/-- The text of the failure where no response comes back. -/
def Content.failure? : Content → Option String
  | .body _ => none
  | .unreachable reason => some ("endpoint unreachable: " ++ reason)
  | .undecodable reason => some ("undecodable response: " ++ reason)

/-- What comes back for a request, and when. -/
structure Answer where
  /-- What comes back; nothing if no answer ever comes. -/
  content : Option Content
  /-- After how many milliseconds. -/
  delay : Nat

/-- The answer to a request that the script has nothing for: the value `null`, at once. -/
def Answer.standard : Answer :=
  ⟨some (.body (.object [("kind", .string "value"), ("payload", .null)])), 0⟩

/-- A request as it is posted. -/
structure Request where
  /-- Where to. -/
  url : Url
  /-- With which headers. -/
  headers : List (String × String)
  /-- With which envelope. -/
  envelope : Envelope

namespace Request

/-- The value of a header, its name in any case. -/
def header? (r : Request) (name : String) : Option String :=
  (r.headers.find? fun h => decide (h.1.toLower = name.toLower)).map (·.2)

end Request

/-- Who posts a request: a stateful handle by its number, or nobody in particular. -/
abbrev Sender := Option Nat

/-- The answers of the remote side.  Each belongs to a queue, and each request takes the first
answer of its queue. -/
structure Remote where
  /-- The queue that a request of a sender for an operation is answered from. -/
  queueOf : Sender → String → String
  /-- The answers with their queues. -/
  script : List (String × Answer)

namespace Remote

/-- A remote side with one queue for each operation. -/
def ofScript (script : List (String × Answer)) : Remote := ⟨fun _ operation => operation, script⟩

/-- A remote side with one answer, whatever is asked. -/
def ofAnswer (answer : Answer) : Remote := ⟨fun _ _ => "", [("", answer)]⟩

/-- The first answer of a queue, and the script without it. -/
def takeFrom (queue : String) :
    List (String × Answer) → Option (Answer × List (String × Answer))
  | [] => none
  | (name, answer) :: rest =>
    if name = queue then some (answer, rest)
    else (takeFrom queue rest).map fun (a, left) => (a, (name, answer) :: left)

/-- The answer to a request, and the remote side after it. -/
def answer (r : Remote) (sender : Sender) (operation : String) : Answer × Remote :=
  match takeFrom (r.queueOf sender operation) r.script with
  | some (a, left) => (a, { r with script := left })
  | none => (.standard, r)

/-- Taking an answer makes the script shorter by one. -/
theorem length_takeFrom {queue : String} {script left : List (String × Answer)} {a : Answer}
    (h : takeFrom queue script = some (a, left)) : left.length + 1 = script.length := by
  induction script generalizing left a with
  | nil => simp [takeFrom] at h
  | cons entry rest ih =>
    obtain ⟨name, first⟩ := entry
    simp only [takeFrom] at h
    split at h
    · simp only [Option.some.injEq, Prod.mk.injEq] at h
      simp [h.2]
    · obtain ⟨⟨b, kept⟩, hb, he⟩ := Option.map_eq_some_iff.1 h
      simp only [Prod.mk.injEq] at he
      have := ih hb
      simp [← he.2, this]

/-- An answer either comes from the script, which gets shorter, or is the standard one. -/
theorem answer_cases (r : Remote) (sender : Sender) (operation : String) :
    (r.answer sender operation).2.script.length < r.script.length
      ∨ r.answer sender operation = (.standard, r) := by
  unfold answer
  split
  · next h => have := length_takeFrom h; left; simp; omega
  · exact Or.inr rfl

end Remote

/-! ## The world -/

/-- What operations find and leave behind. -/
structure World where
  /-- The time in milliseconds. -/
  now : Nat
  /-- The remote side. -/
  remote : Remote
  /-- The requests posted so far, in order. -/
  posted : List Request
  /-- The clients that have been closed. -/
  closed : List Nat
  /-- The clients of which no handle is left. -/
  dropped : List Nat
  /-- The databases handed out so far, by client and name. -/
  databases : List ((Nat × String) × Nat)
  /-- The subscriptions whose close signal has fired. -/
  fired : List Nat
  /-- The number that the next thing with an identity gets. -/
  next : Nat

namespace World

/-- A world in which nothing has happened. -/
def start (remote : Remote) : World := ⟨0, remote, [], [], [], [], [], 0⟩

/-- A new identity. -/
def fresh (w : World) : Nat × World := (w.next, { w with next := w.next + 1 })

/-- Whether a client has been closed. -/
def isClosed (w : World) (client : Nat) : Bool := w.closed.contains client

/-- The world with a client closed. -/
def close (w : World) (client : Nat) : World :=
  if w.isClosed client then w else { w with closed := client :: w.closed }

/-- Whether the close signal of a subscription has fired. -/
def hasFired (w : World) (subscription : Nat) : Bool := w.fired.contains subscription

/-- The world with a close signal fired. -/
def fire (w : World) (subscription : Nat) : World :=
  if w.hasFired subscription then w else { w with fired := subscription :: w.fired }

end World

/-! ## Computations -/

/-- Why a computation has no result. -/
inductive Halt
  /-- It failed. -/
  | failed (e : Error)
  /-- Its caller stopped waiting. -/
  | abandoned

/-- How long a computation may take. -/
structure Limits where
  /-- When its caller stops waiting. -/
  deadline : Nat
  /-- The subscription whose close signal fires while it runs, and when. -/
  closing : Option (Nat × Nat)

/-- A computation in the world. -/
def Action (α : Type) : Type := Limits → World → Except Halt α × World

namespace Action

variable {α β : Type}

/-- The computation that has a result at once. -/
def done (a : α) : Action α := fun _ w => (.ok a, w)

/-- The computation that fails at once. -/
def fail (e : Error) : Action α := fun _ w => (.error (.failed e), w)

/-- The computation of what can be told without the world. -/
def ofExcept : Except Error α → Action α
  | .ok a => done a
  | .error e => fail e

/-- A computation and what follows from its result. -/
def andThen (t : Action α) (f : α → Action β) : Action β := fun limits w =>
  match t limits w with
  | (.ok a, w) => f a limits w
  | (.error h, w) => (.error h, w)

/-- The computation that looks something up. -/
def look (f : World → α) : Action α := fun _ w => (.ok (f w), w)

/-- The computation that changes the world. -/
def change (f : World → World) : Action Unit := fun _ w => (.ok (), f w)

/-- A new identity. -/
def fresh : Action Nat := fun _ w => (.ok w.fresh.1, w.fresh.2)

instance : Monad Action where
  pure := done
  bind := andThen

/-- A computation that may take `span` milliseconds; the operation is named in the error if it
takes longer. -/
def within (operation : String) (span : Nat) (t : Action α) : Action α := fun limits w =>
  let stop := w.now + span
  if stop ≤ limits.deadline then
    match t { limits with deadline := stop } w with
    | (.error .abandoned, w) => (.error (.failed (.timeout operation)), w)
    | result => result
  else t limits w

/-- A computation that is given up, without a result, at a moment if there is one. -/
def interruptedAt (moment : Option Nat) (t : Action α) : Action (Option α) := fun limits w =>
  match moment with
  | none => (t limits w).map (·.map some) id
  | some moment =>
    let stop := max w.now moment
    if stop ≤ limits.deadline then
      match t { limits with deadline := stop } w with
      | (.error .abandoned, w) => (.ok none, w)
      | (result, w) => (result.map some, w)
    else (t limits w).map (·.map some) id

/-- Posts a request and waits for what comes back.  What comes at once is taken without waiting. -/
def post (sender : Sender) (request : Request) : Action Content := fun limits w =>
  let (answer, remote) := w.remote.answer sender request.envelope.operation
  let arrival := w.now + answer.delay
  let w := { w with remote := remote, posted := w.posted ++ [request] }
  match answer.content with
  | none => (.error .abandoned, { w with now := max w.now limits.deadline })
  | some content =>
    if arrival ≤ max w.now limits.deadline then (.ok content, { w with now := arrival })
    else (.error .abandoned, { w with now := max w.now limits.deadline })

end Action

end RemoteDriver
