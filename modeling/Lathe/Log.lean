/-!
# Log records

Operations report what they do as records: how important it is, which part of the program says it,
and what it says. The records of an operation are part of its result; nothing else depends on them.
-/

namespace Lathe.Log

/-- The parts of the program that write records. -/
inductive Source where
  /-- The replay of a program. -/
  | replay
  /-- The preparatory commands. -/
  | preparatory
  /-- The miscellaneous commands. -/
  | miscellaneous
  /-- The tool table. -/
  | tools
  /-- The wear of tools. -/
  | wear
  /-- The run controller. -/
  | controller
  /-- The dry run. -/
  | dryRun
  /-- The operator panel. -/
  | panel
deriving DecidableEq, Repr

/-- The name under which a source writes. -/
def Source.name : Source → String
  | .replay => "core.interpreter"
  | .preparatory => "handlers.g_codes"
  | .miscellaneous => "handlers.m_codes"
  | .tools => "core.tool_table"
  | .wear => "core.wear"
  | .controller => "core.simulation_controller"
  | .dryRun => "gcode_processor"
  | .panel => "gui.main_window"

/-- How important a record is; higher numbers are more important. -/
abbrev Level := Int

/-- The level of details. -/
def Level.debug : Level := 10

/-- The level of ordinary events. -/
def Level.info : Level := 20

/-- The level of warnings. -/
def Level.warning : Level := 30

/-- The levels that have names of their own. -/
def Level.names : List (Level × String) := [
  (0, "NOTSET"), (10, "DEBUG"), (20, "INFO"), (30, "WARNING"), (40, "ERROR"), (50, "CRITICAL")]

/-- The name of a level. -/
def Level.name (level : Level) : String :=
  (Level.names.lookup level).getD s!"Level {level}"

/-- One record. -/
structure Record where
  /-- How important it is. -/
  level : Level
  /-- The name of the writer. -/
  logger : String
  /-- What it says. -/
  message : String
deriving DecidableEq, Repr

/-- A record of details. -/
def debug (source : Source) (message : String) : Record := ⟨.debug, source.name, message⟩

/-- A record of an ordinary event. -/
def info (source : Source) (message : String) : Record := ⟨.info, source.name, message⟩

/-- A record of something that may need attention. -/
def warning (source : Source) (message : String) : Record := ⟨.warning, source.name, message⟩

/-- The record as a line of text, without the time. -/
def Record.line (record : Record) : String :=
  s!"[{record.level.name}] {record.logger}: {record.message}"

end Lathe.Log
