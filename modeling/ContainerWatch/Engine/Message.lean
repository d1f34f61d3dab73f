import ContainerWatch.Dictionary
import ContainerWatch.Json.Value
import ContainerWatch.Numeral
/-!
# Messages of the engine

A message on the engine's event stream: what kind of object it is about, which object, what happened
to it and when.  The engine may leave out every part.  Messages arrive as JSON objects;
`Message.ofJson?` reads one, refuses a part of the wrong type and a part that is given twice, and
ignores what it does not know.
-/

namespace ContainerWatch.Engine

/-- The kinds of object that the engine reports on. -/
inductive ObjectKind
  | unnamed
  | builder
  | config
  | container
  | daemon
  | image
  | network
  | node
  | plugin
  | secret
  | service
  | volume
  deriving DecidableEq, Repr

/-- The kind of object with a name. -/
def ObjectKind.ofName? : String → Option ObjectKind
  | "" => some unnamed
  | "builder" => some builder
  | "config" => some config
  | "container" => some container
  | "daemon" => some daemon
  | "image" => some image
  | "network" => some network
  | "node" => some node
  | "plugin" => some plugin
  | "secret" => some secret
  | "service" => some service
  | "volume" => some volume
  | _ => none

/-- How far a message concerns: one engine or the whole swarm. -/
inductive Scope
  | unnamed
  | engine
  | swarm
  deriving DecidableEq, Repr

/-- The scope with a name. -/
def Scope.ofName? : String → Option Scope
  | "" => some .unnamed
  | "local" => some .engine
  | "swarm" => some .swarm
  | _ => none

/-- The object that a message is about. -/
structure Actor where
  id : Option String
  attributes : Option Dictionary
  deriving DecidableEq, Inhabited

/-- A message of the engine. -/
structure Message where
  kind : Option ObjectKind
  action : Option String
  actor : Option Actor
  scope : Option Scope
  /-- seconds since 1970-01-01T00:00:00 -/
  time : Option Int
  /-- nanoseconds since 1970-01-01T00:00:00 -/
  timeNano : Option Int
  deriving DecidableEq, Inhabited

/-! ## Reading -/

/-- A name out of a closed list, given as a JSON string. -/
def ofNameIn {α : Type} (ofName? : String → Option α) (v : Json.Value) : Option α :=
  v.string?.bind ofName?

/-- An integer of eight bytes with a sign. -/
def int64? (v : Json.Value) : Option Int := v.integerWithin? Numeral.int64Min Numeral.int64Max

/-- A JSON object whose members are all strings; of a repeated name the last value counts. -/
def dictionary? (v : Json.Value) : Option Dictionary := do
  let members ← v.members?
  let entries ← members.mapM fun m => m.2.string?.map fun s => (m.1, s)
  some (Dictionary.ofList entries)

/-- A JSON object none of whose named members stands twice. -/
def fields? (names : List String) (v : Json.Value) : Option (List (String × Json.Value)) :=
  v.members?.filter fun members => !Json.repeats names members

/-- The actor of a message. -/
def Actor.ofJson? (v : Json.Value) : Option Actor := do
  let members ← fields? ["ID", "Attributes"] v
  let id ← Json.optional "ID" Json.Value.string? members
  let attributes ← Json.optional "Attributes" dictionary? members
  some ⟨id, attributes⟩

/-- A message given as a JSON object. -/
def Message.ofJson? (v : Json.Value) : Option Message := do
  let members ← fields? ["Type", "Action", "Actor", "scope", "time", "timeNano"] v
  let kind ← Json.optional "Type" (ofNameIn ObjectKind.ofName?) members
  let action ← Json.optional "Action" Json.Value.string? members
  let actor ← Json.optional "Actor" Actor.ofJson? members
  let scope ← Json.optional "scope" (ofNameIn Scope.ofName?) members
  let time ← Json.optional "time" int64? members
  let timeNano ← Json.optional "timeNano" int64? members
  some ⟨kind, action, actor, scope, time, timeNano⟩

end ContainerWatch.Engine
