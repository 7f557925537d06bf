import SqliteAccess.Text.Bytes

/-
  The log of the library.

  Lines go to the selected logger.  The standard logger may
  have been registered by the host; otherwise it is created
  when it is first needed, with a level taken from the
  environment.  A logger is offered the lines at its level
  and above.  It may fail on any of them: what a standard
  exception says is reported beside the log, and anything
  else that is thrown ends the process.

  Key definitions include:
    * `LogLevel`
    * `LogField`
    * `LogLine`
    * `Thrown`
    * `Delivery`
    * `Sink`
    * `Logger`
    * `Log`
    * `Log.offer`
    * `Log.write`
-/

namespace SqliteAccess

------------------------------------------------------------
-- Levels
------------------------------------------------------------

/- How serious a line is. -/
inductive LogLevel where
  | trace
  | debug
  | info
  | warning
  | error
  | critical
  | off
  deriving DecidableEq

namespace LogLevel

/- The levels in the order of their numbers. -/
def all : List LogLevel :=
  [trace, debug, info, warning, error, critical, off]

/- The number of a level. -/
def number : LogLevel → Nat
  | trace => 0
  | debug => 1
  | info => 2
  | warning => 3
  | error => 4
  | critical => 5
  | off => 6

/- The level with a given number. -/
def ofNumber? (n : Nat) : Option LogLevel :=
  all[n]?

/- The name of a level. -/
def name : LogLevel → String
  | trace => "trace"
  | debug => "debug"
  | info => "info"
  | warning => "warning"
  | error => "error"
  | critical => "critical"
  | off => "off"

/-
  The level that a text names; two levels have a short name
  too.  Every other text turns logging off.
-/
def ofName (t : Bytes) : LogLevel :=
  if t = Bytes.ascii "warn" then warning
  else if t = Bytes.ascii "err" then error
  else
    (all.find? fun l => Bytes.ascii l.name = t).getD off

end LogLevel

------------------------------------------------------------
-- Lines
------------------------------------------------------------

/- A named detail of a line. -/
structure LogField where
  key : Bytes
  value : Bytes
  deriving DecidableEq

namespace LogField

/- A detail that is a text. -/
def ofText
    (key : String)
    (value : Bytes) : LogField :=
  { key := Bytes.ascii key, value }

/- A detail that is a number. -/
def ofInt
    (key : String)
    (value : Int) : LogField :=
  { key := Bytes.ascii key, value := Bytes.ofInt value }

/- A detail as a line shows it. -/
def text (field : LogField) : Bytes :=
  field.key ++ Bytes.ascii "=" ++ field.value

end LogField

/- A line that a logger has taken. -/
structure LogLine where
  logger : Bytes
  level : LogLevel
  text : Bytes
  deriving DecidableEq

/- A message, followed by its details if there are any. -/
def LogLine.compose
    (message : Bytes)
    (fields : List LogField) : Bytes :=
  Bytes.joined (Bytes.ascii " ")
    (message :: fields.map LogField.text)

------------------------------------------------------------
-- Loggers
------------------------------------------------------------

/-
  What a logger may throw: a standard exception, which says
  what happened, or anything else.
-/
inductive Thrown where
  | standard (what : Bytes)
  | other
  deriving DecidableEq

/-
  What becomes of a line that is offered: it is taken, it is
  lost where the logger deals with its failure on its own, or
  the logger throws.
-/
inductive Delivery where
  | taken
  | lost
  | threw (x : Thrown)
  deriving DecidableEq

/-
  What a logger does with the lines it is offered.  It may
  depend on how many lines have been offered before.
-/
abbrev Sink :=
  Nat → LogLine → Delivery

/- A sink that takes every line. -/
def Sink.reliable : Sink :=
  fun _ _ => .taken

/- A sink that throws the same at every line. -/
def Sink.throwing (x : Thrown) : Sink :=
  fun _ _ => .threw x

/-
  A logger that lines can go to: the standard one, or one of
  the host with a level and a sink of its own.
-/
inductive Logger where
  | standard
  | custom (level : LogLevel) (sink : Sink)

/-
  The log: what the environment says about the level, the
  level of the standard logger once it exists and its sink,
  and the selected logger once there is one.  Then the number
  of lines offered so far, those that were taken and what was
  reported of failures, the latest first, and whether the
  process was ended by one.
-/
structure Log where
  environment : Option Bytes := none
  standardLevel : Option LogLevel := none
  standardSink : Sink := .reliable
  selected : Option Logger := none
  offered : Nat := 0
  lines : List LogLine := []
  reports : List Bytes := []
  ended : Bool := false

namespace Log

/- The name of the standard logger. -/
def standardName : Bytes :=
  Bytes.ascii "sqlguard"

/- The name of a logger of the host. -/
def customName : Bytes :=
  Bytes.ascii "custom"

/- The level that a new standard logger gets. -/
def firstLevel (log : Log) : LogLevel :=
  match log.environment with
  | none => .warning
  | some t => .ofName t

/- Select the standard logger if none is selected. -/
def ready (log : Log) : Log :=
  match log.selected with
  | some _ => log
  | none =>
      { log with
        standardLevel :=
          some (log.standardLevel.getD log.firstLevel)
        selected := some .standard }

/- The level of the selected logger. -/
def level (log : Log) : LogLevel :=
  match log.selected with
  | some (.custom level _) => level
  | _ => log.standardLevel.getD log.firstLevel

/- Give the selected logger another level. -/
def withLevel
    (log : Log)
    (level : LogLevel) : Log :=
  let log := log.ready
  match log.selected with
  | some (.custom _ sink) =>
      { log with selected := some (.custom level sink) }
  | _ => { log with standardLevel := some level }

/- Select a logger, or let the next line select one. -/
def withLogger
    (log : Log)
    (logger : Option Logger) : Log :=
  { log with selected := logger }

/- The name of the selected logger. -/
def name (log : Log) : Bytes :=
  match log.selected with
  | some (.custom _ _) => customName
  | _ => standardName

/- The sink of the selected logger. -/
def sink (log : Log) : Sink :=
  match log.selected with
  | some (.custom _ sink) => sink
  | _ => log.standardSink

/- Add a line to those that were taken. -/
def push
    (log : Log)
    (line : LogLine) : Log :=
  { log with lines := line :: log.lines }

/- Report what a standard exception says. -/
def report
    (log : Log)
    (what : Bytes) : Log :=
  { log with
    reports :=
      (Bytes.ascii "sqlguard: logging failed: " ++ what) ::
        log.reports }

/-
  Offer a line to the selected logger, which takes it, loses
  it or throws.
-/
def offer
    (log : Log)
    (line : LogLine) : Option Thrown × Log :=
  let next := { log with offered := log.offered + 1 }
  match log.sink log.offered line with
  | .taken => (none, next.push line)
  | .lost => (none, next)
  | .threw x => (some x, next)

/-
  Write a line, unless its level is too low.  Writing never
  fails: a standard exception is reported, and since nothing
  else is caught, anything else ends the process.  A process
  that was ended writes no more.
-/
def write
    (log : Log)
    (level : LogLevel)
    (message : Bytes)
    (fields : List LogField) : Log :=
  let target := log.ready
  let text := LogLine.compose message fields
  if log.ended then log
  else if level.number < target.level.number then target
  else
    match target.offer
        { logger := target.name, level, text } with
    | (none, log) => log
    | (some (.standard what), log) => log.report what
    | (some .other, log) => { log with ended := true }

end Log

end SqliteAccess
