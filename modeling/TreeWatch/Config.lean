/-
This file defines the settings of the program: what the live client follows and what
the server serves. They come from a TOML file, where everything has a default, and a
few can be set by the environment. A section may also be written as an array of its
settings in their declared order, and settings nobody knows are ignored.
-/

import TreeWatch.Diagram
import TreeWatch.Files
import TreeWatch.Toml.Reader

namespace TreeWatch

/-- Settings of the live client. -/
structure ClientConfig where
  /-- Where the status stream is. -/
  url : String := "http://127.0.0.1:8000/msg"
  /-- Milliseconds without a sign of life before the server counts as lost, and
  before it is tried again. -/
  watchdogTimeout : Nat := 100
  /-- The entities to track if there is no diagram. -/
  entities : List EntityId := []
  /-- The drawing to take the tracked entities from. -/
  diagram : Option String := none
  /-- How many samples a history strip shows. -/
  historyWidth : Nat := 40
  deriving DecidableEq, Repr

/-- Settings of the server. -/
structure ServerConfig where
  /-- The address to listen on. -/
  bind : String := "127.0.0.1:8000"
  /-- Milliseconds between two writes to an open stream. -/
  emitInterval : Nat := 10
  /-- The drawing shown on the index page. -/
  diagram : Option String := none
  /-- Whether random states are published. -/
  demo : Bool := false
  /-- Milliseconds between two random states. -/
  demoInterval : Nat := 500
  deriving DecidableEq, Repr

/-- All settings. -/
structure Config where
  client : ClientConfig := {}
  server : ServerConfig := {}
  deriving DecidableEq, Repr

/-- Why the program cannot start. -/
inductive SetupError where
  | unreadableConfig (path : String) (fault : TextFault)
  | malformedConfig (path : String)
  | unreadableDiagram (path : String) (fault : TextFault)
  | noEntities
  deriving DecidableEq, Repr

namespace SetupError

/-- What could not be done. -/
def summary : SetupError → String
  | unreadableConfig path _ => "Failed to read config " ++ path
  | malformedConfig path => "Failed to parse config " ++ path
  | unreadableDiagram path _ => "Failed to read diagram " ++ path
  | noEntities =>
    "No entities to track: set client.entities or point client.diagram at an SVG with nodes"

/-- Why, where there is more to say. -/
def cause? : SetupError → Option String
  | unreadableConfig _ fault | unreadableDiagram _ fault => some fault.message
  | malformedConfig _ | noEntities => none

/-- What could not be done, and why. -/
def message (error : SetupError) : String :=
  match error.cause? with
  | some cause => error.summary ++ ": " ++ cause
  | none => error.summary

end SetupError

namespace Config

open Toml (Value)

/-! ### Settings from values -/

def text? : Value → Option String
  | .string value => some value
  | _ => none

/-- A whole number that is not negative. -/
def count? : Value → Option Nat
  | .integer value => if value < 0 then none else some value.toNat
  | _ => none

def flag? : Value → Option Bool
  | .boolean value => some value
  | _ => none

def texts? : Value → Option (List String)
  | .array items => items.mapM text?
  | _ => none

/-- One setting of a section: its name and how its value changes the section. -/
structure Setting (Section : Type) where
  name : String
  set : Section → Value → Option Section

def clientSettings : List (Setting ClientConfig) :=
  [{ name := "url", set := fun client value =>
      (text? value).map fun url => { client with url } },
    { name := "watchdog_timeout_ms", set := fun client value =>
      (count? value).map fun watchdogTimeout => { client with watchdogTimeout } },
    { name := "entities", set := fun client value =>
      (texts? value).map fun entities => { client with entities } },
    { name := "diagram", set := fun client value =>
      (text? value).map fun diagram => { client with diagram := some diagram } },
    { name := "history_width", set := fun client value =>
      (count? value).map fun historyWidth => { client with historyWidth } }]

def serverSettings : List (Setting ServerConfig) :=
  [{ name := "bind", set := fun server value =>
      (text? value).map fun bind => { server with bind } },
    { name := "emit_interval_ms", set := fun server value =>
      (count? value).map fun emitInterval => { server with emitInterval } },
    { name := "diagram", set := fun server value =>
      (text? value).map fun diagram => { server with diagram := some diagram } },
    { name := "demo", set := fun server value =>
      (flag? value).map fun demo => { server with demo } },
    { name := "demo_interval_ms", set := fun server value =>
      (count? value).map fun demoInterval => { server with demoInterval } }]

variable {Section : Type}

/-- The section of a table. -/
def ofMembers? (settings : List (Setting Section)) (defaults : Section)
    (members : Toml.Members) : Option Section :=
  settings.foldlM (fun found setting =>
    match members.lookup setting.name with
    | some value => setting.set found value
    | none => some found) defaults

/-- The section of an array: its items are the settings in order. -/
def ofItems? : List (Setting Section) → Section → List Value → Option Section
  | setting :: settings, found, item :: items => do
    let found ← setting.set found item
    ofItems? settings found items
  | _, found, _ => some found

/-- The section of a value. A date has no setting that anybody knows. -/
def section? (settings : List (Setting Section)) (defaults : Section) :
    Value → Option Section
  | .table _ members => ofMembers? settings defaults members
  | .array items => ofItems? settings defaults items
  | .tables tables => ofItems? settings defaults (tables.reverse.map (.table .header))
  | .date => some defaults
  | _ => none

/-- The settings in the text of a configuration file. -/
def parse? (text : String) : Option Config := do
  let members ← Toml.read text
  let client ← match members.lookup "client" with
    | some value => section? clientSettings {} value
    | none => some {}
  let server ← match members.lookup "server" with
    | some value => section? serverSettings {} value
    | none => some {}
  pure { client, server }

/-- The settings in the file at a path, given what reading the file led to. -/
def ofFile (path : String) (content : Except FileFault Bytes) : Except SetupError Config :=
  match TextFault.decode content with
  | .error fault => .error (.unreadableConfig path fault)
  | .ok text =>
    match parse? text with
    | some config => .ok config
    | none => .error (.malformedConfig path)

/-! ### The environment -/

/-- A number below `2 ^ 64` in plain digits, which a plus sign may precede. -/
def environmentNumber? (text : String) : Option Nat :=
  let digits := match text.toList with
    | '+' :: rest => rest
    | characters => characters
  if digits.isEmpty ∨ ¬ digits.all Char.isDigit then none
  else
    let value := Toml.Scalar.number 10 digits
    if value < UInt64.size then some value else none

/-- Settings overridden by the environment, given by variable names and values. A
number that cannot be read is ignored. -/
def override (config : Config) (environment : List (String × String)) : Config :=
  let url := (environment.lookup "BT_LIVE_URL").getD config.client.url
  let watchdogTimeout :=
    ((environment.lookup "BT_LIVE_WATCHDOG_TIMEOUT_MS").bind environmentNumber?).getD
      config.client.watchdogTimeout
  let bind := (environment.lookup "BT_LIVE_BIND").getD config.server.bind
  { client := { config.client with url, watchdogTimeout }
    server := { config.server with bind } }

end Config

/-! ### Entities to track -/

/-- The entities of a diagram at a path, given what reading it led to. -/
def diagramEntities (path : String) (content : Except FileFault Bytes) :
    Except SetupError (List EntityId) :=
  match TextFault.decode content with
  | .error fault => .error (.unreadableDiagram path fault)
  | .ok drawing => .ok (Diagram.entityIds drawing)

/-- The entities a client tracks: those of its diagram if it has one, otherwise those
listed. There must be some. -/
def ClientConfig.trackedEntities {m : Type → Type} [Monad m]
    (read : String → m (Except FileFault Bytes)) (client : ClientConfig) :
    m (Except SetupError (List EntityId)) := do
  let found ← match client.diagram with
    | some path => do pure (diagramEntities path (← read path))
    | none => pure (.ok client.entities)
  pure do
    let entities ← found
    if entities.isEmpty then .error .noEntities else .ok entities

end TreeWatch
