/-
This file reads the arguments of the program. There is one option for every command
and then the command with options and words of its own. An option is written with two
hyphens and its name, some also with one hyphen and a letter, and its value stands
after an equals sign or in the next argument; after a letter it may also follow
directly. A value in an argument of its own must not look like an option, and only
words follow two hyphens alone. Arguments are read from left to right, and the first
that is wrong, or that asks for help, ends the reading.
-/

namespace TreeWatch

namespace CommandLine

/-- Why there is nothing to run. -/
inductive Stop where
  /-- The arguments ask for an explanation. -/
  | help
  /-- They make no sense. -/
  | misuse
  deriving DecidableEq, Repr

/-- What an option takes. -/
inductive Kind where
  /-- Nothing; it asks for help. -/
  | help
  /-- Nothing; it is given or not. -/
  | flag
  /-- A value. -/
  | text
  /-- A value each time it is given. -/
  | texts
  /-- A value that must not be empty. -/
  | path
  deriving DecidableEq, Repr

/-- An option. -/
structure Switch where
  name : String
  letter : Option Char := none
  kind : Kind
  deriving Repr

/-- What can be written on one level: before the command, or after one. -/
structure Level where
  options : List Switch
  /-- The commands that may follow. -/
  commands : List String := []
  /-- How many words may be given. Each names a file and must not be empty. -/
  words : Nat := 0

/-- What has been given on one level, each in order. -/
structure Given where
  options : List (String × String) := []
  words : List String := []
  deriving DecidableEq, Repr

namespace Given

/-- The value of an option that is given at most once. -/
def value? (given : Given) (name : String) : Option String := given.options.lookup name

/-- Whether an option is given. -/
def has (given : Given) (name : String) : Bool := (given.value? name).isSome

/-- All values of an option. -/
def values (given : Given) (name : String) : List String :=
  (given.options.filter (·.1 == name)).map Prod.snd

/-- Adds an option. Only some may be repeated. -/
def addOption (given : Given) (switch : Switch) (value : String) : Except Stop Given :=
  if switch.kind = .path ∧ value = "" then .error .misuse
  else if switch.kind ≠ .texts ∧ given.has switch.name then .error .misuse
  else .ok { given with options := given.options ++ [(switch.name, value)] }

/-- Adds a word, if there is room for one. -/
def addWord (given : Given) (level : Level) (word : String) : Except Stop Given :=
  if word = "" ∨ level.words ≤ given.words.length then .error .misuse
  else .ok { given with words := given.words ++ [word] }

/-- Adds words. -/
def addWords (given : Given) (level : Level) : List String → Except Stop Given
  | [] => .ok given
  | word :: rest => do
    let given ← given.addWord level word
    given.addWords level rest

end Given

/-- What one argument with options says. -/
inductive Reading where
  | given (given : Given)
  /-- The value of the last option is the next argument. -/
  | awaiting (switch : Switch) (given : Given)

/-- Reads an option that is written with its name. -/
def readNamed (level : Level) (given : Given) (text : List Char) : Except Stop Reading :=
  let name := String.ofList (text.takeWhile (· != '='))
  let attached := (text.dropWhile (· != '=')).tail?.map String.ofList
  match level.options.find? (·.name == name) with
  | none => .error .misuse
  | some switch =>
    match switch.kind, attached with
    | .help, none => .error .help
    | .flag, none => .given <$> given.addOption switch ""
    | .help, some _ | .flag, some _ => .error .misuse
    | _, some value => .given <$> given.addOption switch value
    | _, none => .ok (.awaiting switch given)

/-- Reads options that are written with their letters. -/
def readLetters (level : Level) (given : Given) : List Char → Except Stop Reading
  | [] => .ok (.given given)
  | letter :: rest =>
    match level.options.find? (·.letter == some letter) with
    | none => .error .misuse
    | some switch =>
      match switch.kind, rest with
      | .help, _ => .error .help
      | .flag, _ => do
        let given ← given.addOption switch ""
        readLetters level given rest
      | _, [] => .ok (.awaiting switch given)
      | _, '=' :: value => .given <$> given.addOption switch (String.ofList value)
      | _, value => .given <$> given.addOption switch (String.ofList value)

/-- The options of an argument, if it is one with options. A single hyphen is a word. -/
def readOptions? (level : Level) (given : Given) (argument : String) :
    Option (Except Stop Reading) :=
  match argument.toList with
  | '-' :: '-' :: text => some (readNamed level given text)
  | '-' :: letter :: rest => some (readLetters level given (letter :: rest))
  | _ => none

/-- Whether an argument can be the value of an option before it. -/
def isValue (argument : String) : Bool :=
  match argument.toList with
  | '-' :: _ :: _ => false
  | _ => true

/-- Reads the arguments of a level, up to a command if there is one; the command comes
with the arguments after it. -/
def readLevel (level : Level) (given : Given) :
    List String → Except Stop (Given × Option (String × List String))
  | [] => .ok (given, none)
  | argument :: rest =>
    if level.commands.contains argument then .ok (given, some (argument, rest))
    else if argument = "--" then do
      let given ← given.addWords level rest
      pure (given, none)
    else
      match readOptions? level given argument with
      | some (.error stop) => .error stop
      | some (.ok (.given given)) => readLevel level given rest
      | some (.ok (.awaiting switch given)) =>
        match rest with
        | value :: rest =>
          if isValue value then
            match given.addOption switch value with
            | .ok given => readLevel level given rest
            | .error stop => .error stop
          else .error .misuse
        | [] => .error .misuse
      | none =>
        match given.addWord level argument with
        | .ok given => readLevel level given rest
        | .error stop => .error stop

/-! ### The options there are -/

def helpSwitch : Switch := { name := "help", letter := some 'h', kind := .help }

/-- The configuration file can be named on every level. -/
def configSwitch : Switch := { name := "config", kind := .path }

/-- The level before the command. -/
def topLevel : Level :=
  { options := [configSwitch, helpSwitch], commands := ["serve", "watch", "preview", "help"] }

def serveLevel : Level :=
  { options :=
      [configSwitch, helpSwitch, { name := "bind", kind := .text },
        { name := "diagram", kind := .path }, { name := "demo", kind := .flag }] }

def watchLevel : Level :=
  { options :=
      [configSwitch, helpSwitch, { name := "url", kind := .text },
        { name := "diagram", kind := .path }, { name := "entity", kind := .texts },
        { name := "log-only", kind := .flag }] }

def previewLevel : Level :=
  { options :=
      [configSwitch, helpSwitch, { name := "output", letter := some 'o', kind := .path }]
    words := 1 }

end CommandLine

/-- What the program is to do. Options not given leave the configuration as it is. -/
inductive Command where
  /-- Serve the status stream and the page of a diagram. -/
  | serve (address : Option String) (diagram : Option String) (demo : Bool)
  /-- Follow a status stream. -/
  | watch (url : Option String) (diagram : Option String) (entities : List String)
    (logOnly : Bool)
  /-- Show a file as a page, in the output file if there is one. -/
  | preview (file : String) (output : Option String)
  deriving DecidableEq, Repr

/-- A command and the configuration file it is run with. -/
structure Invocation where
  config : Option String
  command : Command
  deriving DecidableEq, Repr

namespace Invocation

open CommandLine

/-- The command of a name with what is given after it. -/
def command? (name : String) (given : Given) : Option Command :=
  match name, given.words with
  | "serve", _ =>
    some (.serve (given.value? "bind") (given.value? "diagram") (given.has "demo"))
  | "watch", _ =>
    some (.watch (given.value? "url") (given.value? "diagram") (given.values "entity")
      (given.has "log-only"))
  | "preview", [file] => some (.preview file (given.value? "output"))
  | _, _ => none

/-- The level after a command. -/
def levelOf (name : String) : Level :=
  match name with
  | "serve" => serveLevel
  | "watch" => watchLevel
  | _ => previewLevel

/-- Which configuration file counts: that named after the command, then that named
before it, then that of the environment. Each level on which none is named turns to the
environment, so an empty name there is wrong unless both levels name one. -/
def chooseConfig (before after ambient : Option String) : Except Stop (Option String) :=
  if ambient = some "" ∧ (before.isNone ∨ after.isNone) then .error .misuse
  else .ok (after <|> before <|> ambient)

/-- Whether arguments after `help` name something that can be explained. -/
def isTopic : List String → Bool
  | [] => true
  | [topic] => topLevel.commands.contains topic
  | _ => false

/-- Reads the arguments of the program; `ambient` is the configuration file that the
environment names. -/
def parse (arguments : List String) (ambient : Option String) : Except Stop Invocation := do
  let (before, found) ← readLevel topLevel {} arguments
  match found with
  | none => .error .misuse
  | some ("help", rest) => .error (if isTopic rest then .help else .misuse)
  | some (name, rest) =>
    let (after, _) ← readLevel (levelOf name) {} rest
    match command? name after with
    | none => .error .misuse
    | some command =>
      let config ← chooseConfig (before.value? "config") (after.value? "config") ambient
      pure { config, command }

end Invocation

end TreeWatch
