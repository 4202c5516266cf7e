import RemoteDriver.Session.Basic

/-!
# What handles make of commands

Each kind of handle knows some commands.  A client, a database and a collection stay what they are,
whatever is asked of them; a cursor and a change stream change, or are used up.
-/

namespace RemoteDriver

open Bson (Document Value)

/-- What a handle makes of a command: a result, and what the handle has become, if it is not used
up. -/
abbrev Service := Limits → World → Except Halt Result × Option Handle × World

namespace Handle

/-- What calls by name on a handle need; a close signal has no operations. -/
def gateway? : Handle → Option Gateway
  | client c => some c.gateway
  | database d => some d.gateway
  | collection c => some c.gateway
  | cursor c => some c.gateway
  | changeStream s => some s.gateway
  | closeSignal _ => none

/-- Whether two handles are the same, if they are of one kind and can be compared. -/
def isSame? : Handle → Handle → Option Bool
  | client a, client b => some (a.connection.client == b.connection.client)
  | database a, database b => some (a.isSame b)
  | collection a, collection b => some (a.isSame b)
  | _, _ => none

/-- What all handles with operations know. -/
def common? (g : Gateway) : Command → Option (Action Result)
  | .route => some do return .route g.route
  | .surface => some do return .surface g.surface
  | .forward call => some do
    return .reply (← g.forward call.name call.args call.kwargs)
  | .forwardOutcome call into => some do
    return .ofOutcome (← g.forwardOutcome call.name call.args call.kwargs) into
  | _ => none

end Handle

/-! ## Clients -/

namespace Client

/-- How many properties of the topology a client is asked for. -/
def topologyProperties : Nat := 7

/-- What a client makes of the commands that only clients know. -/
def own? (c : Client) : Command → Option (Action Result)
  | .invoke call into => some do
    return .ofOutcome (← c.invoke call.name call.args call.kwargs) into
  | .getDatabase name => some do return .handle (.database (← c.getDatabase name))
  | .get name => some do return .handle (.database (← c.get name))
  | .member name => some do return .handle (.database (← c.attr name))
  | .defaultDatabase => some do return .handle (.database (← c.defaultDatabase none))
  | .listDatabases filter => some do return .handle (.cursor (← c.listDatabases filter))
  | .listDatabaseNames => some do return .names (← c.listDatabaseNames)
  | .dropDatabase name => some do
    c.dropDatabase name
    return .done
  | .serverInfo => some do return .found (some (← c.serverInfo))
  | .watch pipeline => some do return .handle (.changeStream (← c.watch pipeline))
  | .startSession => some c.startSession
  | .topology => some do return .topology topologyProperties
  | .close => some do
    c.close
    return .done
  | .isClosed => some do return .truth (← c.isClosed)
  | .settings => some do return .settings c
  | .clone => some do return .handle (.client c)
  | .newClient setup => some do
    let serial ← Action.fresh
    return .handle (.client (← Action.ofExcept (setup.client serial)))
  | _ => none

end Client

/-! ## Databases -/

namespace Database

/-- What a database makes of the commands that not all handles know. -/
def own? (d : Database) : Command → Option (Action Result)
  | .invoke call into => some do
    return .ofOutcome (← d.invoke call.name call.args call.kwargs) into
  | .name => some do return .text d.name
  | .describe => some do return .text d.description
  | .client => some do return .handle (.client (← d.client))
  | .getCollection name => some do
    return .handle (.collection (← Action.ofExcept (d.getCollection name)))
  | .member name => some do return .handle (.collection (← Action.ofExcept (d.attr name)))
  | .listCollections filter => some do return .handle (.cursor (← d.listCollections filter))
  | .listCollectionNames filter => some do return .names (← d.listCollectionNames filter)
  | .command command => some do return .found (some (← d.command command))
  | .createCollection name => some do
    return .handle (.collection (← d.createCollection name))
  | .aggregate pipeline => some do return .handle (.cursor (← d.aggregate pipeline))
  | .watch pipeline => some do return .handle (.changeStream (← d.watch pipeline))
  | .dropCollection name => some do
    d.dropCollection name
    return .done
  | _ => none

end Database

/-! ## Collections -/

namespace Collection

/-- What a collection makes of the commands that not all handles know. -/
def own? (c : Collection) : Command → Option (Action Result)
  | .invoke call into => some do
    return .ofOutcome (← c.invoke call.name call.args call.kwargs) into
  | .name => some do return .text c.name
  | .fullName => some do return .text c.fullName
  | .describe => some do return .text c.description
  | .database => some do return .handle (.database c.database)
  | .insertOne document => some do return .insertedId (← c.insertOne document)
  | .insertMany documents => some do return .insertedIds (← c.insertMany documents)
  | .find filter options => some do
    return .handle (.cursor (← c.find filter (.ofList options)))
  | .findOne filter => some do return .found (← c.findOne filter)
  | .updateOne filter update options => some do
    return .updated (← c.updateOne filter update (.ofList options))
  | .updateMany filter update options => some do
    return .updated (← c.updateMany filter update (.ofList options))
  | .replaceOne filter replacement => some do
    return .updated (← c.replaceOne filter replacement)
  | .deleteOne filter => some do return .deleted (← c.deleteOne filter)
  | .deleteMany filter => some do return .deleted (← c.deleteMany filter)
  | .countDocuments filter => some do return .counted (← c.countDocuments filter)
  | .estimatedDocumentCount => some do return .counted (← c.estimatedDocumentCount)
  | .distinct key filter => some do return .values (← c.distinct key filter)
  | .aggregate pipeline => some do return .handle (.cursor (← c.aggregate pipeline))
  | .watch pipeline => some do return .handle (.changeStream (← c.watch pipeline))
  | .createIndex keys => some do return .indexName (← c.createIndex keys)
  | .dropIndex name => some do
    c.dropIndex name
    return .done
  | .listIndexes => some do return .handle (.cursor (← c.listIndexes))
  | .drop => some do
    c.drop
    return .done
  | _ => none

end Collection

/-! ## Endings of drains -/

namespace Ending

/-- The result of a stream that was drained to its end; an error takes the place of the items. -/
def toDocuments (items : List Document) : Ending → Except Halt Result
  | finished => .ok (.documents items)
  | stopped => .ok (.documents items)
  | failed e => .error (.failed e)
  | abandoned => .error .abandoned

/-- The result of a stream that was drained in part; an error is shown after the items. -/
def toItems (items : List Document) : Ending → Except Halt Result
  | finished => .ok (.items items none)
  | stopped => .ok (.items items none)
  | failed e => .ok (.items items (some e))
  | abandoned => .error .abandoned

end Ending

/-! ## Cursors -/

namespace Cursor

/-- A step of a cursor with its result put into words. -/
def served {α : Type} (f : α → Result) :
    Except Halt α × Cursor × World → Except Halt Result × Option Handle × World
  | (r, c, w) => (r.map f, some (.cursor c), w)

/-- What a cursor makes of the commands that not all handles know. -/
def own? (c : Cursor) : Command → Option Service
  | .invoke call into => some fun limits w =>
    served (.ofOutcome · into) (c.invoke call.name call.args call.kwargs limits w)
  | .look => some fun _ w => (.ok .done, some (.cursor c), w)
  | .describe => some fun _ w => (.ok (.text c.description), some (.cursor c), w)
  | .batchSize size => some fun _ w => (.ok .done, some (.cursor (c.withBatchSize size)), w)
  | .advance => some fun limits w => served .truth (c.advance limits w)
  | .tryNext => some fun limits w => served .found (c.tryNext limits w)
  | .close => some fun limits w => served (fun _ => .done) (c.close limits w)
  | .collect => some fun limits w =>
    match c.collect limits w with
    | (r, _, w) => (r.map .documents, none, w)
  | .stream => some fun limits w =>
    match c.stream limits w with
    | ((items, ending), _, w) => (ending.toDocuments items, none, w)
  | .take count => some fun limits w =>
    match c.take count limits w with
    | ((items, ending), _, w) => (ending.toItems items, none, w)
  | _ => none

end Cursor

/-! ## Change streams -/

namespace ChangeStream

/-- A step of a change stream with its result put into words. -/
def served {α : Type} (f : α → Result) :
    Except Halt α × ChangeStream × World → Except Halt Result × Option Handle × World
  | (r, s, w) => (r.map f, some (.changeStream s), w)

/-- What a change stream makes of the commands that not all handles know. -/
def own? (s : ChangeStream) : Command → Option Service
  | .invoke call into => some fun limits w =>
    served (.ofOutcome · into) (s.invoke call.name call.args call.kwargs limits w)
  | .look => some fun _ w => (.ok .done, some (.changeStream s), w)
  | .describe => some fun _ w => (.ok (.text s.description), some (.changeStream s), w)
  | .setTimeout timeout => some fun _ w =>
    (.ok .done, some (.changeStream (s.withTimeout timeout)), w)
  | .closeSignal => some fun _ w =>
    (.ok (.signal s.serial (w.hasFired s.serial)), some (.changeStream s), w)
  | .tryNext => some fun limits w => served .found (s.tryNext limits w)
  | .nextEvent => some fun limits w => served .found (s.nextEvent limits w)
  | .close => some fun limits w => served (fun _ => .done) (s.close limits w)
  | .stream => some fun limits w =>
    match s.stream limits w with
    | ((items, ending), _, w) => (ending.toDocuments items, none, w)
  | .take count => some fun limits w =>
    match s.take count limits w with
    | ((items, ending), _, w) => (ending.toItems items, none, w)
  | _ => none

end ChangeStream

/-! ## All handles -/

namespace Handle

/-- The service of a handle that stays what it is. -/
def steady (h : Handle) (t : Action Result) : Service := fun limits w =>
  match t limits w with
  | (r, w) => (r, some h, w)

/-- What a close signal makes of the commands that it knows. -/
def signalled (subscription : Nat) : Command → Option (Action Result)
  | .close => some do
    Action.change (·.fire subscription)
    return .truth true
  | .isClosed => some do return .truth (← Action.look (·.hasFired subscription))
  | _ => none

/-- What a handle makes of the commands that not all handles know. -/
def own? (h : Handle) (command : Command) : Option Service :=
  match h with
  | client c => (c.own? command).map h.steady
  | database d => (d.own? command).map h.steady
  | collection c => (c.own? command).map h.steady
  | cursor c => c.own? command
  | changeStream s => s.own? command
  | closeSignal subscription => (signalled subscription command).map h.steady

/-- What a handle makes of a command, if it knows it. -/
def service? (h : Handle) (command : Command) : Option Service :=
  match h.gateway?.bind (common? · command) with
  | some t => some (h.steady t)
  | none => h.own? command

end Handle

end RemoteDriver
