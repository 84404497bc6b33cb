import ChatRelay.Log.Filter

/-!
# Setting up the log

The environment has precedence over the configuration, and a filter that cannot be read gives way
to the next one. The first setup of a process stays.
-/

namespace ChatRelay.Log

inductive Format where
  | text
  | json
deriving DecidableEq

def Format.name : Format → String
  | .text => "text"
  | .json => "json"

structure Environment where
  level : Option String := none
  format : Option String := none

structure Setup where
  filter : Filter
  format : Format

def fallback : Filter := [⟨"", some .info⟩]

/-- The filter of the environment, else the configured one, else the fallback. -/
def chooseFilter (env : Environment) (level : String) : Filter :=
  match env.level.bind Filter.ofText? with
  | some filter => filter
  | none => (Filter.ofText? level).getD fallback

/-- Only the exact word chooses the structured format. -/
def chooseFormat (env : Environment) (format : String) : Format :=
  if env.format.getD format = "json" then .json else .text

def setup (env : Environment) (level format : String) : Setup :=
  ⟨chooseFilter env level, chooseFormat env format⟩

/-- A setup that takes effect unless there is one already. -/
def setupOnce (env : Environment) (done : Option Setup) (level format : String) : Option Setup :=
  match done with
  | some s => some s
  | none => some (setup env level format)

/-- The levels that a configuration may name. -/
def isLevelName (text : String) : Bool :=
  ["trace", "debug", "info", "warn", "error"].contains text

/-- The formats that a configuration may name. -/
def isFormatName (text : String) : Bool :=
  ["text", "json"].contains text

end ChatRelay.Log
