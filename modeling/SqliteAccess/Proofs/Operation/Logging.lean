import SqliteAccess.Proofs.Operation.Mirroring
import SqliteAccess.Proofs.Statement.Currency

/-
  What the log has to do with everything else: nothing.

  A program that asks nothing of the log does the same in the
  same world and writes the same, whatever the log is.  So
  runs that differ in what is configured, selected and asked
  of the log go alike otherwise.  A logger that fails is not
  noticed, unless it throws what is no standard exception:
  then the process is ended on the spot.

  Key definitions include:
    * `Mirror.identity`
    * `Quiet.IgnoresLog`
    * `Operation.besideLog`
    * `Operation.Handles`
    * `Session.returned`
    * `Session.AlikeBesideLog`
    * `Session.OutlivesLog`

  The log is characterized by:
    * `Quiet.Mirrors.ignoresLog`
    * `Operation.perform_ignoresLog`
    * `Operation.perform_handles`
    * `Session.runAll_besideLog`
    * `Session.dismantleAll_ignoresLog`
    * `Session.returned_eq_iff`
    * `Session.logging_unobservable`
-/

namespace SqliteAccess

variable {E : Engine} {α β : Type}

open Quiet Attempt

------------------------------------------------------------
-- Programs
------------------------------------------------------------

/- The mirror in which everything stands for itself. -/
def Mirror.identity : Mirror where
  slot n := n
  injective hSame := hSame
  spare _ := False
  left := none
  patient n k := k = n

namespace Mirror

theorem identity_still : identity.Still := by
  intro p
  cases p <;> rfl

theorem identity_uses (p : Place) :
    identity.Uses p := by
  cases p <;> simp [Uses, identity]

theorem identity_patient : identity.Patient :=
  fun _ _ hSame => hSame

theorem identity_carries :
    identity.Carries Place.rank Place.rank where
  injective := Place.rank_inj
  image p := by rw [identity_still]

end Mirror

/-
  Whether a quiet step does the same in the same world and
  writes the same remarks, whatever the log is.
-/
def Quiet.IgnoresLog (x : Quiet E α) : Prop :=
  ∀ s s' : Session E, s'.world = s.world →
    (x s').1 = (x s).1 ∧ (x s').2.world = (x s).2.world ∧
      ∃ remarks, (x s).2.log = s.log.writeAll remarks ∧
        (x s').2.log = s'.log.writeAll remarks

namespace Quiet.IgnoresLog

variable {x : Quiet E α} {k : α → Quiet E β}

theorem read (f : World E → α) :
    IgnoresLog (Quiet.read f) :=
  fun _ _ hSame => ⟨congrArg f hSame, hSame, [], rfl, rfl⟩

theorem update (f : World E → World E) :
    IgnoresLog (Quiet.update f) :=
  fun _ _ hSame => ⟨rfl, congrArg f hSame, [], rfl, rfl⟩

theorem bind
    (h : IgnoresLog x)
    (hNext : ∀ a, IgnoresLog (k a)) :
    IgnoresLog (x >>= k) := by
  intro s s' hSame
  rcases h s s' hSame with
    ⟨hResults, hAfter, first, hLog, hLog'⟩
  rcases hNext (x s).1 _ _ hAfter with
    ⟨hLast, hWorld, second, hNextLog, hNextLog'⟩
  have hRun : (x >>= k) s' = k (x s).1 (x s').2 := by
    rw [← hResults]
    rfl
  rw [hRun]
  refine ⟨hLast, hWorld, first ++ second, ?_, ?_⟩
  · rw [Log.writeAll_append, ← hLog, ← hNextLog]
    rfl
  · rw [Log.writeAll_append, ← hLog', ← hNextLog']

/- What is done for each of what is found. -/
theorem each
    {f : α → Quiet E Unit}
    (hEach : ∀ a, IgnoresLog (f a))
    (l : List α) :
    IgnoresLog (Quiet.each f l) := by
  induction l with
  | nil => exact fun _ _ hSame => ⟨rfl, hSame, [], rfl, rfl⟩
  | cons a l ih => exact bind (hEach a) fun _ => ih

/- What is done for each of the found, and what comes then. -/
theorem forEach
    {l : World E → List α}
    {f : α → Quiet E Unit}
    {x : Quiet E β}
    (hEach : ∀ a, IgnoresLog (f a))
    (hNext : IgnoresLog x) :
    IgnoresLog (Quiet.read l >>= fun found =>
      Quiet.each f found >>= fun _ => x) :=
  bind (read l) fun found =>
    bind (each hEach found) fun _ => hNext

end Quiet.IgnoresLog

/-
  A quiet step that mirrors itself where everything stands
  for itself does not depend on the log.
-/
theorem Quiet.Mirrors.ignoresLog
    {x : Quiet E α}
    (h : Quiet.Mirrors .identity Eq x x) :
    x.IgnoresLog := by
  intro s s' hSame
  have hMirrors : s.world.Mirrors .identity s'.world := by
    rw [hSame]
    exact .of_still Mirror.identity_still
      Mirror.identity_uses rfl
  rcases h s s' hMirrors with ⟨hResults, hAfter⟩
  exact ⟨hResults.symm,
    hAfter.same Mirror.identity_still hSame, hAfter.logs⟩

/- Attempts that mirror themselves do not depend on it. -/
theorem Attempt.Mirrors.ignoresLog
    {x : Attempt E α}
    (h : Attempt.Mirrors .identity Eq x x) :
    Quiet.IgnoresLog x.run :=
  Quiet.Mirrors.ignoresLog fun s s' hMirrors =>
    ⟨(h s s' hMirrors).1.eq, (h s s' hMirrors).2⟩

------------------------------------------------------------
-- Operations
------------------------------------------------------------

/-
  Whether a request to the log is answered: the question for
  the level by a level, and every other one by nothing.
-/
inductive LogRequest.Answered :
    LogRequest → Except Failure Reply → Prop where
  | level (l : LogLevel) : Answered level (.ok (.level l))
  | done {r : LogRequest}
      (hOther : r ≠ .level) :
      Answered r (.ok .nothing)

/- A request to the log is answered and changes nothing else. -/
theorem LogRequest.perform_answered
    (r : LogRequest)
    (s : Session E) :
    r.Answered (r.perform.run s).1 ∧
      (r.perform.run s).2.world = s.world := by
  cases r with
  | level => exact ⟨.level _, rfl⟩
  | write | setLevel | select =>
      exact ⟨.done nofun, rfl⟩

namespace Operation

/- The replies to the operations that are no such requests. -/
def besideLog
    (ops : List Operation)
    (replies : List (Except Failure Reply)) :
    List (Except Failure Reply) :=
  ((ops.zip replies).filter (! ·.1.isLogging)).map (·.2)

/- Fewer replies are those that the others start with. -/
theorem besideLog_prefix_mono
    (ops : List Operation)
    {replies replies' : List (Except Failure Reply)}
    (hPrefix : replies <+: replies') :
    besideLog ops replies <+: besideLog ops replies' := by
  have hZip : ops.zip replies <+: ops.zip replies' := by
    rcases hPrefix with ⟨rest, rfl⟩
    induction ops generalizing replies with
    | nil => exact List.prefix_refl _
    | cons op ops ih =>
        cases replies with
        | nil => exact List.nil_prefix
        | cons reply replies =>
            exact (List.prefix_cons_inj _).mpr (ih)
  exact (hZip.filter _).map _

/- Where slots stand for themselves, so do operations. -/
theorem onImages_identity (op : Operation) :
    op.onImages Mirror.identity.slot = op := by
  cases op <;> rfl

/- All other operations do not depend on the log. -/
theorem perform_ignoresLog
    {op : Operation}
    (hBeside : op.isLogging = false) :
    Quiet.IgnoresLog (E := E) op.perform.run := by
  have hMirrors : Attempt.Mirrors (E := E) .identity Eq
      (op.performBy Place.rank)
      ((op.onImages Mirror.identity.slot).performBy
        Place.rank) :=
    performBy_mirrors Mirror.identity_patient
      Mirror.identity_carries hBeside
      fun n _ => Mirror.identity_uses (.slot n)
  rw [onImages_identity, performBy_rank] at hMirrors
  exact hMirrors.ignoresLog

/- The sink of a logger that an operation selects. -/
def sink? : Operation → Option Sink
  | log (.select logger) => logger.bind Logger.sink?
  | _ => none

/- The sinks that lines of a run may go to. -/
def sinks
    (log : Log)
    (ops : List Operation) : List Sink :=
  log.sinks ++ ops.filterMap sink?

/-
  What an operation does to the log:

    * `written`: it writes to it
    * `levelled`, `readied`: it sets the level or asks for it
    * `selected`: it selects a logger, or none
-/
inductive Handles
    (op : Operation)
    (log : Log) : Log → Prop where
  | written (remarks : List Remark) :
      Handles op log (log.writeAll remarks)
  | levelled (level : LogLevel) :
      Handles op log (log.withLevel level)
  | readied : Handles op log log.ready
  | selected {logger : Option Logger}
      (hSink : op.sink? = logger.bind Logger.sink?) :
      Handles op log (log.withLogger logger)

theorem perform_handles
    (op : Operation)
    (s : Session E) :
    op.Handles s.log (op.perform.run s).2.log := by
  cases hLogging : op.isLogging with
  | false =>
      rcases perform_ignoresLog hLogging s s rfl with
        ⟨-, -, remarks, hLog, -⟩
      rw [hLog]
      exact .written remarks
  | true =>
      cases op with
      | log r =>
          cases r with
          | write level message fields =>
              exact .written [{ level, message, fields }]
          | setLevel level => exact .levelled level
          | level => exact .readied
          | select logger => exact .selected rfl
      | _ => cases hLogging

namespace Handles

variable {op : Operation} {log log' : Log}

/- An operation that selects no sink that breaks is gentle. -/
theorem gentle
    (hHandles : op.Handles log log')
    (hSink : ∀ sink ∈ op.sink?, ¬ sink.Breaks)
    (hGentle : log.Gentle) :
    log'.Gentle := by
  cases hHandles with
  | written remarks => exact hGentle.writeAll remarks
  | levelled level => exact hGentle.withLevel level
  | readied => exact hGentle.ready
  | selected hSame =>
      rw [hSame] at hSink
      exact hGentle.withLogger hSink

/- A process that was ended stays so. -/
theorem ended
    (hHandles : op.Handles log log')
    (hEnded : log.ended = true) :
    log'.ended = true := by
  cases hHandles with
  | written remarks =>
      exact Log.ended_of_writeAll remarks hEnded
  | levelled level =>
      exact (log.withLevel_ended level).trans hEnded
  | readied => exact log.ready_ended.trans hEnded
  | selected => exact hEnded

end Handles

end Operation

------------------------------------------------------------
-- Runs
------------------------------------------------------------

namespace Session

variable {s s' : Session E}

/-
  Without the requests to the log, the other operations go on
  as they do with them.
-/
theorem runAll_besideLog
    (s s' : Session E)
    (ops : List Operation)
    (hSame : s'.world = s.world) :
    Operation.besideLog ops (s.runAll ops).1 =
        (s'.runAll (ops.filter (! ·.isLogging))).1 ∧
      (s'.runAll (ops.filter (! ·.isLogging))).2.world =
        (s.runAll ops).2.world := by
  induction ops generalizing s s' with
  | nil => exact ⟨rfl, hSame⟩
  | cons op ops ih =>
      cases hLogging : op.isLogging with
      | true =>
          have hNext : s'.world = (s.run op).2.world := by
            cases op with
            | log r =>
                exact hSame.trans
                  (r.perform_answered s).2.symm
            | _ => cases hLogging
          simpa [runAll, Operation.besideLog, hLogging]
            using ih (s.run op).2 s' hNext
      | false =>
          rcases Operation.perform_ignoresLog hLogging s s'
              hSame with ⟨hReply, hWorld, -⟩
          rcases ih (s.run op).2 (s'.run op).2 hWorld with
            ⟨hReplies, hLast⟩
          simp only [List.filter_cons, hLogging,
            Bool.not_false, if_true, runAll]
          refine ⟨?_, hLast⟩
          rw [← hReplies]
          simp only [Operation.besideLog, List.zip_cons_cons,
            List.filter_cons, hLogging, Bool.not_false,
            if_true, List.map_cons]
          exact congrArg (· :: _) hReply.symm

/- So runs go alike that differ in such requests only. -/
theorem runAll_alike
    {ops ops' : List Operation}
    (hSame : s'.world = s.world)
    (hBeside : ops'.filter (! ·.isLogging) =
      ops.filter (! ·.isLogging)) :
    Operation.besideLog ops' (s'.runAll ops').1 =
        Operation.besideLog ops (s.runAll ops).1 ∧
      (s'.runAll ops').2.world = (s.runAll ops).2.world := by
  have hFirst := runAll_besideLog s s ops rfl
  have hSecond := runAll_besideLog s' s ops' hSame.symm
  rw [hBeside] at hSecond
  exact ⟨hSecond.1.trans hFirst.1.symm,
    hSecond.2.symm.trans hFirst.2⟩

/- Every request to the log is answered. -/
theorem runAll_answered
    (s : Session E)
    (ops : List Operation)
    {r : LogRequest}
    {reply : Except Failure Reply}
    (hReply : (Operation.log r, reply) ∈
      ops.zip (s.runAll ops).1) :
    r.Answered reply := by
  induction ops generalizing s with
  | nil => cases hReply
  | cons op ops ih =>
      rcases List.mem_cons.mp hReply with hFirst | hRest
      · cases hFirst
        exact (r.perform_answered s).1
      · exact ih _ hRest

theorem destroyStatement_ignoresLog (p : Place) :
    Quiet.IgnoresLog (E := E) (Statement.destroy p) := by
  have hMirrors := Statement.destroy_mirrors (E := E)
    (Mirror.identity_uses p)
  rw [Mirror.identity_still] at hMirrors
  exact hMirrors.ignoresLog

/- Nor does the destruction of everything depend on the log. -/
theorem dismantleAll_ignoresLog :
    Quiet.IgnoresLog (dismantleAll (E := E)) := by
  have hPatient := Mirror.identity_patient
  have hCarries := Mirror.identity_carries
  apply IgnoresLog.forEach (f := Savepoint.destroy)
  · exact fun p =>
      (Savepoint.destroy_mirrors p hPatient).ignoresLog
  apply IgnoresLog.forEach (f := Transaction.destroy)
  · exact fun p =>
      (Transaction.destroy_mirrors p hPatient).ignoresLog
  apply IgnoresLog.bind (.update _)
  intro _
  apply IgnoresLog.forEach (f := Backup.destroy)
  · exact fun p => (Backup.destroy_mirrors p).ignoresLog
  apply IgnoresLog.forEach destroyStatement_ignoresLog
  apply IgnoresLog.forEach (f := Operation.vacateSerialized)
  · exact fun z => (Operation.vacateSerializedBy_mirrors
      hCarries z).ignoresLog
  apply IgnoresLog.bind (.read _)
  exact IgnoresLog.each fun c =>
    (Operation.vacateConnectionBy_mirrors
      hCarries c).ignoresLog

theorem dismantle_world
    (hSame : s'.world = s.world) :
    s'.dismantle.world = s.dismantle.world := by
  rcases dismantleAll_ignoresLog s s' hSame with
    ⟨-, hWorld, -⟩
  unfold dismantle StateT.run
  exact hWorld

------------------------------------------------------------
-- Processes That Are Ended
------------------------------------------------------------

/-
  The replies that operations return.  The operation in which
  the process is ended returns none, and no other one is
  carried out after it.
-/
def returned
    (s : Session E) :
    List Operation → List (Except Failure Reply)
  | [] => []
  | op :: r =>
      let (reply, s) := s.run op
      if s.log.ended then [] else reply :: returned s r

/- What is returned is what a run starts with. -/
theorem returned_prefix_runAll
    (s : Session E)
    (ops : List Operation) :
    s.returned ops <+: (s.runAll ops).1 := by
  induction ops generalizing s with
  | nil => exact List.prefix_refl _
  | cons op ops ih =>
      simp only [returned, runAll]
      split
      · exact List.nil_prefix
      · exact (List.prefix_cons_inj _).mpr (ih _)

/- A process that was ended stays so. -/
theorem runAll_ended
    (ops : List Operation)
    (hEnded : s.log.ended = true) :
    (s.runAll ops).2.log.ended = true := by
  induction ops generalizing s with
  | nil => exact hEnded
  | cons op ops ih => exact ih ((op.perform_handles s).ended hEnded)

/- Everything is returned if and only if it is not ended. -/
theorem returned_eq_iff
    (ops : List Operation)
    (hAlive : s.log.ended = false) :
    s.returned ops = (s.runAll ops).1 ↔
      (s.runAll ops).2.log.ended = false := by
  induction ops generalizing s with
  | nil => exact iff_of_true rfl hAlive
  | cons op ops ih =>
      simp only [returned, runAll]
      cases hEnded : (s.run op).2.log.ended with
      | true =>
          rw [if_pos rfl]
          apply iff_of_false (List.cons_ne_nil _ _).symm
          simp [runAll_ended ops hEnded]
      | false =>
          rw [if_neg (by simp)]
          exact (List.cons_inj_right _).trans (ih hEnded)

/- A process whose sinks do not break goes on to its end. -/
theorem dismantle_gentle
    (ops : List Operation)
    (hSinks : ∀ op ∈ ops, ∀ sink ∈ op.sink?, ¬ sink.Breaks)
    (hGentle : s.log.Gentle) :
    (s.runAll ops).2.dismantle.log.Gentle := by
  induction ops generalizing s with
  | nil =>
      rcases dismantleAll_ignoresLog s s rfl with
        ⟨-, -, remarks, hLog, -⟩
      show s.dismantle.log.Gentle
      unfold dismantle StateT.run
      rw [hLog]
      exact hGentle.writeAll remarks
  | cons op ops ih =>
      have hFirst := (op.perform_handles s).gentle
        (hSinks op List.mem_cons_self) hGentle
      exact ih (fun op' hMember =>
        hSinks op' (List.mem_cons_of_mem _ hMember)) hFirst

/- A process is ended by a sink that breaks, or by none. -/
theorem breaks_of_ended
    (ops : List Operation)
    (hAlive : s.log.ended = false)
    (hEnded : (s.runAll ops).2.dismantle.log.ended = true) :
    ∃ sink ∈ Operation.sinks s.log ops, sink.Breaks := by
  apply Classical.byContradiction
  intro hNone
  have hNever : ∀ sink ∈ Operation.sinks s.log ops,
      ¬ sink.Breaks := fun sink hMember hBreaks =>
    hNone ⟨sink, hMember, hBreaks⟩
  have hGentle := dismantle_gentle ops
    (fun op hMember sink hSink => hNever sink
      (List.mem_append_right _
        (List.mem_filterMap.mpr ⟨op, hMember, hSink⟩)))
    ⟨hAlive, fun sink hMember =>
      hNever sink (List.mem_append_left _ hMember)⟩
  rw [hGentle.alive] at hEnded
  cases hEnded

------------------------------------------------------------
-- Two Runs
------------------------------------------------------------

/-
  Whether two sessions go alike under operations that may
  differ in requests to the log.  A run carries out all of
  them, as a process does that is never ended:

    * `replies`: they give the same replies to all others
    * `world`, `dismantled`: they arrive at the same world,
      with the same objects in it, the same engine and the
      same calls to it, which is so again after everything is
      destroyed
    * `meanwhile`: they do so at any time at which both have
      carried out the same of the others, and so before one
      of the processes is ended
    * `returned`: if one of the processes is ended, then what
      it has returned until then is what the other returns,
      too, as long as that one goes on
-/
structure AlikeBesideLog
    (s s' : Session E)
    (ops ops' : List Operation) : Prop where
  replies :
    Operation.besideLog ops' (s'.runAll ops').1 =
      Operation.besideLog ops (s.runAll ops).1
  world : (s'.runAll ops').2.world = (s.runAll ops).2.world
  dismantled :
    (s'.runAll ops').2.dismantle.world =
      (s.runAll ops).2.dismantle.world
  meanwhile : ∀ n n',
    (ops'.take n').filter (! ·.isLogging) =
        (ops.take n).filter (! ·.isLogging) →
      (s'.runAll (ops'.take n')).2.world =
        (s.runAll (ops.take n)).2.world
  returned :
    Operation.besideLog ops (s.returned ops) <+:
        Operation.besideLog ops' (s'.returned ops') ∨
      Operation.besideLog ops' (s'.returned ops') <+:
        Operation.besideLog ops (s.returned ops)

/-
  What the failures of its loggers do to a process:

    * `answered`: none comes out of a request to the log
    * `returned`, `complete`: nor does one come out of any
      other operation, which returns what it returns in a run
      unless the process is ended in it
    * `survives`: none ends the process, in an operation or
      while everything in it is destroyed, unless one of its
      sinks throws what is no standard exception
-/
structure OutlivesLog
    (s : Session E)
    (ops : List Operation) : Prop where
  answered : ∀ r reply,
    (Operation.log r, reply) ∈ ops.zip (s.runAll ops).1 →
      r.Answered reply
  returned : s.returned ops <+: (s.runAll ops).1
  complete : s.returned ops = (s.runAll ops).1 ↔
    (s.runAll ops).2.log.ended = false
  survives : (s.runAll ops).2.dismantle.log.ended = true →
    ∃ sink ∈ Operation.sinks s.log ops, sink.Breaks

/- Of equal replies, one process returns what the other does. -/
theorem returned_alike
    {ops ops' : List Operation}
    (hReplies :
      Operation.besideLog ops' (s'.runAll ops').1 =
        Operation.besideLog ops (s.runAll ops).1) :
    Operation.besideLog ops (s.returned ops) <+:
        Operation.besideLog ops' (s'.returned ops') ∨
      Operation.besideLog ops' (s'.returned ops') <+:
        Operation.besideLog ops (s.returned ops) := by
  have hOne := Operation.besideLog_prefix_mono ops
    (s.returned_prefix_runAll ops)
  have hOther := Operation.besideLog_prefix_mono ops'
    (s'.returned_prefix_runAll ops')
  rw [hReplies] at hOther
  exact List.prefix_or_prefix_of_prefix hOne hOther

theorem outlivesLog_of_alive
    (ops : List Operation)
    (hAlive : s.log.ended = false) :
    s.OutlivesLog ops where
  answered _ _ := runAll_answered s ops
  returned := s.returned_prefix_runAll ops
  complete := returned_eq_iff ops hAlive
  survives := breaks_of_ended ops hAlive

/- A connection is destroyed with a statement that is live. -/
def destroyedLive : List Operation :=
  oneRowSetup ++ [.dropConnection 0]

/-
  So it is after a logger was selected that takes every line
  and throws something.
-/
def destroyedThrowing (x : Thrown) : List Operation :=
  [.log (.select (some (.custom .trace (.throwing x))))] ++
    oneRowSetup ++ [.log .level, .dropConnection 0]

/- A logger that throws anything else ends the process. -/
example :
    let breaking := destroyedThrowing .other
    ((start oneRowEngine 100 {}).returned breaking).length <
      breaking.length := by
  decide +kernel

end Session

end SqliteAccess
