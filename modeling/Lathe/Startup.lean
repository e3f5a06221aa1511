import Lathe.Log.Routing
import Lathe.Panel.Event

/-!
# Starting the trainer

The loggers are set up, the start is reported, and the panel is opened. With the argument `--debug`
details are written to the console too.
-/

namespace Lathe.Startup

/-- The least level of records that go to the console. -/
def consoleLevel (arguments : List String) : Log.Level :=
  if "--debug" ∈ arguments then .debug else .info

/-- The record of the start. -/
def notice : Log.Record :=
  ⟨.info, Log.Hub.applicationName, "Starting lathe trainer"⟩

/-- The loggers after the panel is opened. -/
def hub (arguments : List String) : Log.Hub :=
  let ready := (Log.Hub.setUp (.number (consoleLevel arguments)) none {}).state
  (notice :: (Panel.opening Panel.new).records).foldl Log.Hub.write ready

/-- The lines that the start writes to the console. -/
def console (arguments : List String) : List String :=
  (hub arguments).linesTo .console

end Lathe.Startup
