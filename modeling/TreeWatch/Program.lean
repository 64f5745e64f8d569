/-
This file is the program from its arguments up to the point where it would go on
serving or watching. It reaches the world only through a host, so it can be run on
files in memory as well as on a disk.
-/

import TreeWatch.CommandLine
import TreeWatch.Config
import TreeWatch.Connection
import TreeWatch.Preview
import TreeWatch.Server

namespace TreeWatch

/-- The world outside the program. -/
structure Host (m : Type → Type) where
  read : String → m (Except FileFault Bytes)
  write : String → Bytes → m (Except FileFault Unit)
  /-- Shows a text to the user. -/
  print : String → m Unit
  /-- Starts to listen on an address, and says whether that is possible. -/
  listen : String → m Bool

/-- Why the program gives up. -/
inductive ProgramError where
  | setup (error : SetupError)
  | initialization (error : InitializationError)
  | unusableAddress (address : String)
  | preview (error : PreviewError)
  | unwritable (path : String) (fault : FileFault)

namespace ProgramError

/-- What went wrong. -/
def summary : ProgramError → String
  | setup error => error.summary
  | initialization error => error.message
  | unusableAddress address => "Failed to bind " ++ address
  | preview error => error.message
  | unwritable path _ => "Failed to write " ++ path

/-- The cause below it, where there is one. -/
def cause? : ProgramError → Option String
  | setup error => error.cause?
  | preview error => error.source?
  | unwritable _ fault => some fault.message
  | initialization _ | unusableAddress _ => none

/-- What the user is told. -/
def report (error : ProgramError) : String :=
  "Error: " ++ error.summary ++
    match error.cause? with
    | some cause => "\n\nCaused by:\n    " ++ cause
    | none => ""

end ProgramError

/-- How a run of the program ends, or what it goes on with. -/
inductive Outcome where
  | finished
  | failed (error : ProgramError)
  /-- There was nothing to run. -/
  | stopped (stop : CommandLine.Stop)
  /-- Listening on its address, the server goes on answering requests. -/
  | serving (config : ServerConfig) (server : Server)
  /-- The connection goes on following its stream. -/
  | watching (config : ClientConfig) (logOnly : Bool) (connection : Connection)

namespace Outcome

/-- The code the program ends with: zero where all went well, one where it failed and
two where its arguments make no sense. -/
def code : Outcome → Nat
  | failed _ => 1
  | stopped .misuse => 2
  | _ => 0

end Outcome

namespace Program

variable {m : Type → Type} [Monad m]

/-- The configuration in a file, or the defaults. -/
def loadConfig (host : Host m) : Option String → m (Except SetupError Config)
  | none => pure (.ok {})
  | some path => do pure (Config.ofFile path (← host.read path))

/-- The diagram a server shows, if it has one. -/
def loadDiagram (host : Host m) : Option String → m (Except SetupError (Option String))
  | none => pure (.ok none)
  | some path => do
    let content ← host.read path
    pure (match TextFault.decode content with
      | .ok drawing => .ok (some drawing)
      | .error fault => .error (.unreadableDiagram path fault))

/-- Starts the server. Its board has the entities of its diagram. -/
def serve (host : Host m) (config : ServerConfig) : m Outcome := do
  match ← loadDiagram host config.diagram with
  | .error error => pure (.failed (.setup error))
  | .ok diagram =>
    let entities := (diagram.map Diagram.entityIds).getD []
    if ← host.listen config.bind then
      pure (.serving config
        { board := { entities }, emitInterval := config.emitInterval, diagram })
    else pure (.failed (.unusableAddress config.bind))

/-- Prepares a connection that tracks the entities of the client. -/
def watch (host : Host m) (config : ClientConfig) (logOnly : Bool) : m Outcome := do
  match ← config.trackedEntities host.read with
  | .error error => pure (.failed (.setup error))
  | .ok entities =>
    match (Connection.new config.watchdogTimeout).track entities with
    | .error error => pure (.failed (.initialization error))
    | .ok (connection, _) => pure (.watching config logOnly connection)

/-- Shows a file as a page. -/
def preview (host : Host m) (file : String) (output : Option String) : m Outcome := do
  match previewPage file (← host.read file) with
  | .error error => pure (.failed (.preview error))
  | .ok page =>
    match output with
    | none => do
      host.print page
      pure .finished
    | some path =>
      match ← host.write path (Utf8.encode page) with
      | .ok () => pure .finished
      | .error fault => pure (.failed (.unwritable path fault))

/-- The settings of a server with what its command says. -/
def serverConfig (config : ServerConfig) (address diagram : Option String) (demo : Bool) :
    ServerConfig :=
  { config with
    bind := address.getD config.bind
    diagram := diagram <|> config.diagram
    demo := config.demo || demo }

/-- The settings of a client with what its command says. -/
def clientConfig (config : ClientConfig) (url diagram : Option String)
    (entities : List EntityId) : ClientConfig :=
  { config with
    url := url.getD config.url
    diagram := diagram <|> config.diagram
    entities := if entities.isEmpty then config.entities else entities }

/-- Runs the program. The configuration is read whatever the command is. -/
def run (host : Host m) (arguments : List String) (environment : List (String × String)) :
    m Outcome := do
  match Invocation.parse arguments (environment.lookup "BT_LIVE_CONFIG") with
  | .error stop => pure (.stopped stop)
  | .ok invocation =>
    match ← loadConfig host invocation.config with
    | .error error => pure (.failed (.setup error))
    | .ok loaded =>
      let config := loaded.override environment
      match invocation.command with
      | .serve address diagram demo =>
        serve host (serverConfig config.server address diagram demo)
      | .watch url diagram entities logOnly =>
        watch host (clientConfig config.client url diagram entities) logOnly
      | .preview file output => preview host file output

end Program

end TreeWatch
