import SqliteAccess.Log

/-
  Writing lines to a log, whatever its loggers do with them.

  A log can be written to again and again.  The loggers may
  take the lines, lose them or throw, but a process is ended
  only by a logger that throws what nothing catches.

  Key definitions include:
    * `Remark`
    * `Log.writeAll`
    * `Log.Written`
    * `Sink.Breaks`
    * `Log.sinks`
    * `Log.Gentle`

  The log is characterized by:
    * `Log.write_written`
    * `Log.ended_of_write`
    * `Log.Gentle.writeAll`
-/

namespace SqliteAccess

------------------------------------------------------------
-- Remarks
------------------------------------------------------------

/- What is said before it becomes the line of a logger. -/
structure Remark where
  level : LogLevel
  message : Bytes
  fields : List LogField

namespace Log

variable {log : Log}

/- Write remarks one after the other. -/
def writeAll
    (log : Log)
    (remarks : List Remark) : Log :=
  remarks.foldl
    (fun log r => log.write r.level r.message r.fields) log

theorem writeAll_append
    (log : Log)
    (first second : List Remark) :
    log.writeAll (first ++ second) =
      (log.writeAll first).writeAll second :=
  List.foldl_append

------------------------------------------------------------
-- What a Write Does
------------------------------------------------------------

/- Selecting a logger or a level ends no process. -/
@[simp]
theorem ready_ended (log : Log) :
    log.ready.ended = log.ended := by
  unfold ready
  split <;> rfl

theorem withLevel_ended
    (log : Log)
    (level : LogLevel) :
    (log.withLevel level).ended = log.ended := by
  have hReady := log.ready_ended
  unfold withLevel
  simp only
  split <;> exact hReady

/-
  What a write does to a log with a selected logger:

    * `passed`: nothing, if the process has been ended or the
      level is too low
    * `taken`, `lost`: the logger takes or loses the line
    * `reported`: it throws a standard exception, which is
      reported and has no other consequence
    * `broken`: it throws something else, which ends the
      process
-/
inductive Written (log : Log) : Log → Prop where
  | passed : Written log log
  | taken {line : LogLine}
      (hTaken : log.sink log.offered line = .taken) :
      Written log
        { log with
          offered := log.offered + 1
          lines := line :: log.lines }
  | lost {line : LogLine}
      (hLost : log.sink log.offered line = .lost) :
      Written log { log with offered := log.offered + 1 }
  | reported {line : LogLine} {what : Bytes}
      (hThrew : log.sink log.offered line =
        .threw (.standard what)) :
      Written log
        { log with
          offered := log.offered + 1
          reports :=
            (Bytes.ascii "sqlguard: logging failed: " ++
              what) :: log.reports }
  | broken {line : LogLine}
      (hThrew :
        log.sink log.offered line = .threw .other) :
      Written log
        { log with offered := log.offered + 1, ended := true }

/-
  A process that was ended writes nothing, and any other one
  selects a logger and does one of these things.
-/
theorem write_written
    (log : Log)
    (level : LogLevel)
    (message : Bytes)
    (fields : List LogField) :
    if log.ended then log.write level message fields = log
    else log.ready.Written
      (log.write level message fields) := by
  unfold write
  split
  case isTrue => rfl
  case isFalse =>
    simp only
    split
    case isTrue => exact .passed
    case isFalse =>
      unfold offer
      rcases hDelivery : log.ready.sink log.ready.offered
        { logger := log.ready.name, level
          text := LogLine.compose message fields } with
        _ | _ | x
      · exact .taken hDelivery
      · exact .lost hDelivery
      · cases x with
        | standard what => exact .reported hDelivery
        | other => exact .broken hDelivery

/- A process that was ended stays so. -/
theorem ended_of_write
    (remark : Remark)
    (hEnded : log.ended = true) :
    (log.write remark.level remark.message
      remark.fields).ended = true := by
  have hWritten := log.write_written remark.level
    remark.message remark.fields
  rw [if_pos hEnded] at hWritten
  rw [hWritten, hEnded]

theorem ended_of_writeAll
    (remarks : List Remark)
    (hEnded : log.ended = true) :
    (log.writeAll remarks).ended = true := by
  induction remarks generalizing log with
  | nil => exact hEnded
  | cons r l ih => exact ih (ended_of_write r hEnded)

end Log

------------------------------------------------------------
-- Loggers That End a Process
------------------------------------------------------------

/-
  Whether a sink may throw something that is no standard
  exception.
-/
def Sink.Breaks (sink : Sink) : Prop :=
  ∃ n line, sink n line = .threw .other

/- The sink of a logger of the host. -/
def Logger.sink? : Logger → Option Sink
  | standard => none
  | custom _ sink => some sink

namespace Log

variable {log log' : Log}

/- The sinks that the next lines may go to. -/
def sinks (log : Log) : List Sink :=
  log.standardSink :: (log.selected.bind Logger.sink?).toList

/- Selecting the standard logger adds no sink. -/
@[simp]
theorem ready_sinks (log : Log) :
    log.ready.sinks = log.sinks := by
  unfold ready sinks
  split
  case h_1 => rfl
  case h_2 hNone => rw [hNone]; rfl

/- Lines go to one of these sinks. -/
theorem sink_mem (log : Log) :
    log.sink ∈ log.sinks := by
  unfold sink sinks
  split
  case h_1 hCustom => simp [hCustom, Logger.sink?]
  case h_2 => exact List.mem_cons_self

/-
  Whether a process goes on that writes to a log: it has not
  been ended, and no sink breaks that lines may go to.
-/
structure Gentle (log : Log) : Prop where
  alive : log.ended = false
  sinks : ∀ sink ∈ log.sinks, ¬ sink.Breaks

namespace Gentle

theorem ready
    (hGentle : log.Gentle) :
    log.ready.Gentle where
  alive := by rw [ready_ended, hGentle.alive]
  sinks := by rw [ready_sinks]; exact hGentle.sinks

/- A line that is written changes nothing about that. -/
theorem written
    (hWritten : log.Written log')
    (hGentle : log.Gentle) :
    log'.Gentle := by
  cases hWritten with
  | broken hThrew =>
      exact absurd ⟨_, _, hThrew⟩
        (hGentle.sinks _ log.sink_mem)
  | _ => exact ⟨hGentle.alive, hGentle.sinks⟩

theorem write
    (remark : Remark)
    (hGentle : log.Gentle) :
    (log.write remark.level remark.message
      remark.fields).Gentle := by
  have hWritten := log.write_written remark.level
    remark.message remark.fields
  rw [if_neg (by simp [hGentle.alive])] at hWritten
  exact hGentle.ready.written hWritten

theorem writeAll
    (remarks : List Remark)
    (hGentle : log.Gentle) :
    (log.writeAll remarks).Gentle := by
  induction remarks generalizing log with
  | nil => exact hGentle
  | cons r l ih => exact ih (hGentle.write r)

/- Nor does another level of the selected logger. -/
theorem withLevel
    (level : LogLevel)
    (hGentle : log.Gentle) :
    (log.withLevel level).Gentle := by
  have hReady := hGentle.ready
  unfold Log.withLevel
  simp only
  split
  case h_1 hCustom =>
    refine ⟨hReady.alive, fun sink hMember => ?_⟩
    apply hReady.sinks sink
    simpa [Log.sinks, hCustom, Logger.sink?] using hMember
  case h_2 => exact ⟨hReady.alive, hReady.sinks⟩

/- Nor does another logger that does not break. -/
theorem withLogger
    {logger : Option Logger}
    (hLogger : ∀ sink ∈ logger.bind Logger.sink?,
      ¬ sink.Breaks)
    (hGentle : log.Gentle) :
    (log.withLogger logger).Gentle where
  alive := hGentle.alive
  sinks := by
    intro sink hMember
    rcases List.mem_cons.mp hMember with rfl | hSelected
    · exact hGentle.sinks _ List.mem_cons_self
    · exact hLogger sink (Option.mem_toList.mp hSelected)

end Gentle

end Log

end SqliteAccess
