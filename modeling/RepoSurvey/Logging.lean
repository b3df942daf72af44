/-!
# Logging

All loggers of the library stand below one root. An application sets the root up once or again; setting it up again
replaces what the previous set-up attached and leaves the application's own handlers alone.

* `Logging.loggerName`: the name of a logger below the root.
* `Logging`: the state of the root and of the log file.
* `setUp`, `attachForeign`, `log`: what happens to it.
-/

namespace RepoSurvey

inductive LogLevel where
  | debug
  | info
  | warning
  | error
  | critical
  deriving Repr, DecidableEq

namespace LogLevel

def name : LogLevel → String
  | debug => "DEBUG"
  | info => "INFO"
  | warning => "WARNING"
  | error => "ERROR"
  | critical => "CRITICAL"

def all : List LogLevel := [debug, info, warning, error, critical]

def rank : LogLevel → Nat
  | debug => 10
  | info => 20
  | warning => 30
  | error => 40
  | critical => 50

end LogLevel

inductive LogHandler where
  | console
  | file
  /-- A handler that the application attached itself. -/
  | foreign
  deriving Repr, DecidableEq

namespace LogHandler

def name : LogHandler → String
  | console => "RichHandler"
  | file => "FileHandler"
  | foreign => "NullHandler"

end LogHandler

structure Logging where
  /-- The root's level; none before the first set-up. -/
  level : Option LogLevel := none
  handlers : List LogHandler := []
  /-- The lines of the log file. -/
  lines : List String := []
  deriving Repr, DecidableEq

namespace Logging

def rootName : String := "archlens"

/-- The name of a logger: names outside the root are put below it. -/
def loggerName : Option String → String
  | none => rootName
  | some name => if name.startsWith rootName then name else rootName ++ "." ++ name

/-- Whether the records of a logger reach the root's handlers. -/
def reachesRoot (logger : String) : Bool := logger == rootName || logger.startsWith (rootName ++ ".")

/-- The name of the level. -/
def levelName (s : Logging) : String := (s.level.map LogLevel.name).getD "NOTSET"

/-- The level of a set-up; being quiet goes before being verbose. -/
def levelFor (verbose quiet : Bool) : LogLevel :=
  if quiet then .error else if verbose then .debug else .warning

/-- Attaches new handlers in place of those of the previous set-up. -/
def setUp (verbose quiet file : Bool) (s : Logging) : Logging where
  level := some (levelFor verbose quiet)
  handlers := s.handlers.filter (· == .foreign) ++ .console :: (if file then [.file] else [])
  lines := s.lines

def attachForeign (s : Logging) : Logging := { s with handlers := s.handlers ++ [.foreign] }

/-- A record in the log file. -/
def line (logger : String) (level : LogLevel) (message : String) : String :=
  logger ++ " - " ++ level.name ++ " - " ++ message

/-- Logs a message; it is written where a file is attached and the level lets it pass. -/
def log (name : Option String) (level : LogLevel) (message : String) (s : Logging) : Logging :=
  let logger := loggerName name
  let passes := (s.level.getD .warning).rank ≤ level.rank
  if reachesRoot logger ∧ passes ∧ s.handlers.contains .file then
    { s with lines := s.lines ++ [line logger level message] }
  else s

end Logging
end RepoSurvey
