import Lathe.Action

/-!
# Where log records go

Records are written under names. A name belongs to one of a few loggers: that of the application, or
that of one of the engines, to which the parts of the program belong by the first part of their
name. It is found by cutting the name at its dots, from the last one on, until what is left was used
as a name before; of two dots side by side only the last one is cut at. A logger sends the records
that are important enough to its handlers, and a handler writes those that are important enough for
it to its destination, the console or a file.

Loggers start without handlers, so that nothing is written before the set-up. Setting up again never
adds a handler that is already there.
-/

namespace Lathe.Log

/-- The levels that can be chosen by name. -/
def Level.chosen : List (String × Level) := [
  ("CRITICAL", 50), ("FATAL", 50), ("ERROR", 40), ("WARN", 30), ("WARNING", 30), ("INFO", 20),
  ("DEBUG", 10), ("NOTSET", 0)]

/-- A level as it is asked for. -/
inductive LevelChoice where
  /-- By its number. -/
  | number (level : Level)
  /-- By its name. -/
  | name (word : String)
  /-- In a way that stands for no level. -/
  | neither
deriving DecidableEq, Repr

/-- The level that a choice stands for. -/
def LevelChoice.level : LevelChoice → Except Fault Level
  | .number level => .ok level
  | .name word =>
    match Level.chosen.lookup word with
    | some level => .ok level
    | none => .error (.unknownLevel word)
  | .neither => .error .notLevel

/-- Where lines are written. -/
inductive Destination where
  /-- The console. -/
  | console
  /-- The file with a given path. -/
  | file (path : String)
deriving DecidableEq, Repr

/-- The name of the handler for a destination. -/
def Destination.handlerName : Destination → String
  | .console => "lathe_sim_console"
  | .file _ => "lathe_sim_file"

/-- Whether the destination is a file. -/
def Destination.isFile : Destination → Bool
  | .console => false
  | .file _ => true

/-- What a logger does with records. -/
structure Logger where
  /-- Records below this level are dropped. -/
  level : Level := 0
  /-- Whether records also go to more general loggers. -/
  propagates : Bool := true
  /-- The destinations of its handlers, in the order in which they were added. -/
  destinations : List Destination := []
deriving DecidableEq, Repr

namespace Logger

/-- Add a handler unless it is there. -/
def add (destination : Destination) (logger : Logger) : Logger :=
  if destination ∈ logger.destinations then logger
  else { logger with destinations := logger.destinations ++ [destination] }

/-- Take all records from the level of details upward, and keep them to itself. -/
def opened (logger : Logger) : Logger :=
  { logger with level := .debug, propagates := false }

end Logger

/-- The engines, whose parts write records. -/
inductive Engine where
  /-- The replay, the controller, tools and wear. -/
  | core
  /-- The commands. -/
  | handlers
  /-- The profiles. -/
  | config
  /-- The dry run. -/
  | dryRun
  /-- The operator panel. -/
  | panel
deriving DecidableEq, Repr

namespace Engine

/-- All engines. -/
def all : List Engine := [.core, .handlers, .config, .dryRun, .panel]

/-- The name under which the parts of an engine write. -/
def name : Engine → String
  | .core => "core"
  | .handlers => "handlers"
  | .config => "config"
  | .dryRun => "gcode_processor"
  | .panel => "gui"

end Engine

/-- The loggers, their handlers, and what was written so far. -/
structure Hub where
  /-- The logger of the application. -/
  application : Logger := {}
  /-- The loggers of the engines. -/
  engine : Engine → Logger := fun _ => {}
  /-- The handlers that exist, with the level below which they drop records. -/
  handlers : List (Destination × Level) := []
  /-- The names under which records were written, besides those of the loggers. -/
  names : List String := []
  /-- The lines written, in order. -/
  written : List (Destination × String) := []

namespace Hub

open Lathe.Action

/-- The name of the application's logger. -/
def applicationName : String := "lathe_sim"

/-- The level of the handler for a destination. -/
def levelOf (hub : Hub) (destination : Destination) : Level :=
  (hub.handlers.lookup destination).getD 0

/-- The file that is written to. -/
def file? (hub : Hub) : Option Destination :=
  hub.application.destinations.find? (·.isFile)

/-- The lines written to a destination, in order. -/
def linesTo (hub : Hub) (destination : Destination) : List String :=
  (hub.written.filter fun line => decide (line.1 = destination)).map (·.2)

/-- Give the application a handler with a level, unless it has one for that destination. -/
def addHandler (destination : Destination) (level : Level) (hub : Hub) : Hub :=
  if destination ∈ hub.application.destinations then hub
  else
    { hub with
      application := hub.application.add destination
      handlers := hub.handlers ++ [(destination, level)] }

/-- Set the level of the handler for a destination. -/
def setLevel (destination : Destination) (level : Level) (hub : Hub) : Hub :=
  { hub with
    handlers := hub.handlers.map fun handler =>
      if handler.1 = destination then (destination, level) else handler }

/-- Give every engine the handlers of the application that it lacks. -/
def connectEngines (hub : Hub) : Hub :=
  { hub with
    engine := fun e =>
      hub.application.destinations.foldl (fun logger d => logger.add d) (hub.engine e).opened }

/-- Set up the loggers: records from the chosen level upward go to the console, and all records to
the file, if one is given and there was none before. If there is no such level, the engines stay as
they were. -/
def setUp (choice : LevelChoice) (path : Option String) : Action Hub Unit := do
  change fun hub => { hub with application := hub.application.opened }
  change (addHandler .console 0)
  let level ← ofExcept choice.level
  change (setLevel .console level)
  match path with
  | some path =>
    change fun hub => if hub.file?.isSome then hub else hub.addHandler (.file path) .debug
  | none => pure ()
  change connectEngines

/-- What is left of a name when it is cut at a dot, the longest part first. The name is given by its
characters, the last one first. The character before a cut is never a cut of its own. -/
def cuts : List Char → List (List Char)
  | [] => []
  | ['.'] => []
  | '.' :: c :: rest => (c :: rest).reverse :: cuts rest
  | _ :: rest => cuts rest

/-- The logger of a given name, if the application or an engine has it. -/
def loggerOf? (hub : Hub) (name : List Char) : Option Logger :=
  if name = applicationName.toList then some hub.application
  else (Engine.all.find? fun e => decide (e.name.toList = name)).map hub.engine

/-- Whether a name is in use. -/
def isUsed (hub : Hub) (name : List Char) : Bool :=
  (hub.loggerOf? name).isSome || hub.names.contains (String.ofList name)

/-- The logger to which a name belongs, after at most `fuel` cuts. -/
def findLogger? (hub : Hub) : Nat → List Char → Option Logger
  | 0, _ => none
  | fuel + 1, name =>
    match hub.loggerOf? name with
    | some logger => some logger
    | none => ((cuts name.reverse).find? hub.isUsed).bind (findLogger? hub fuel)

/-- The logger to which a name belongs. -/
def loggerFor? (hub : Hub) (name : String) : Option Logger :=
  hub.findLogger? (name.length + 1) name.toList

/-- The destinations to which a record goes. -/
def route (hub : Hub) (record : Record) : List Destination :=
  match hub.loggerFor? record.logger with
  | none => []
  | some logger =>
    if 0 < record.level ∧ logger.level ≤ record.level then
      logger.destinations.filter fun d => decide (hub.levelOf d ≤ record.level)
    else []

/-- Write a record to all destinations to which it goes. -/
def write (hub : Hub) (record : Record) : Hub :=
  let lines := record.line.splitOn "\n"
  { hub with
    names := if hub.names.contains record.logger then hub.names else record.logger :: hub.names
    written := hub.written ++ (hub.route record).flatMap fun d => lines.map (d, ·) }

end Hub

end Lathe.Log
