import SqliteAccess.Proofs.Connection.Establishing
import SqliteAccess.Proofs.Operation.Run
import SqliteAccess.Proofs.Session.Power

/-
  A connection is opened as a whole or not at all.

  The library is held before a connection is established, and
  the hold is given up if that fails.  A session is left with
  a connection that is open and held, or with the connections
  and the holders that it had.

  Key definitions include:
    * `Library.Holds`
    * `Connection.Course`
    * `Session.OpensWhole`

  Opening is characterized by:
    * `Sound.fresh`
    * `Library.hold_holds`
    * `Session.openAt_whole`
    * `Session.opening_atomic`
-/

namespace SqliteAccess

variable {E : Engine} {s : Session E}

open Quiet Attempt

------------------------------------------------------------
-- Numbers
------------------------------------------------------------

/- A statement that is left was made on an open database. -/
theorem Trace.Lawful.database_born
    {hosted : List StatementHandle}
    {t : Trace}
    {st : StatementHandle}
    (hLawful : t.Lawful hosted)
    (hLeft : st ∈ t.unfinalized) :
    (Lifetime.database st.database).births t ≠ 0 := by
  have hAlive := ((Lifetime.mem_unfinalized_iff
    hLawful.statements).1 st).mp hLeft
  rcases Lifetime.births_ne_zero_iff.mp
    (Lifetime.births_ne_zero_of_alive hAlive) with
      ⟨⟨call, answer⟩, hMember, hBorn⟩
  rcases List.append_of_mem hMember with
    ⟨later, earlier, rfl⟩
  cases call <;> try cases hBorn
  case prepare sql st' =>
    simp only [Lifetime.statement, Bool.and_eq_true,
      decide_eq_true_eq] at hBorn
    rw [← hBorn.1]
    have hOpen := (hLawful.of_append.databases st'.database).2
      (by simp [Call.databases]) (by simp [Call.makesDatabase])
    apply Lifetime.births_ne_zero_of_suffix _
      (Lifetime.births_ne_zero_of_alive hOpen)
    exact (List.suffix_cons _ _).trans
      (List.suffix_append _ _)

/- What is numbered next is new in any sound session. -/
theorem Sound.fresh
    {g : Stage E}
    (hSound : Sound g) :
    g.world.Fresh where
  connection := by
    cases hFound : g.world.connections.get? ⟨_⟩ with
    | none => rfl
    | some conn =>
        exact absurd (hSound.opened.identified hFound)
          (Nat.not_succ_le_self _)
  database := by
    apply List.filter_eq_nil_iff.mpr
    intro st hLeft hSame
    have hNumber := hSound.opened.numbered
      (hSound.lawful.database_born hLeft)
    rw [of_decide_eq_true hSame] at hNumber
    exact absurd hNumber (Nat.not_succ_le_self _)

------------------------------------------------------------
-- Holding the Library
------------------------------------------------------------

namespace Library

/- The call by which an engine is started that is down. -/
def begun : Bool → Trace
  | true => []
  | false => [⟨.startup, ResultCode.ok⟩]

theorem begun_tidy (started : Bool) :
    (begun started).Tidy := by
  cases started <;> exact fun _ => rfl

/-
  How the library is held for a new connection: the engine
  refuses to start, or it runs and has one holder more.
-/
inductive Holds
    (s : Session E) :
    Except Failure Unit × Session E → Prop where
  | refused {code e t}
      (hCode : code ≠ ResultCode.ok)
      (hDown : s.world.library.started = false)
      (hHears : s.Hears [⟨.startup, code⟩] t)
      (hConnections :
        t.world.connections = s.world.connections)
      (hHolders :
        t.world.library.holders = s.world.library.holders) :
      Holds s (.error e, t)
  | held {t : Session E}
      (hHears :
        s.Hears (begun s.world.library.started) t)
      (hConnections :
        t.world.connections = s.world.connections)
      (hIssued : t.world.issued = s.world.issued)
      (hLibrary : t.world.library =
        { started := true
          shutdownPending := false
          holders := s.world.library.holders + 1 }) :
      Holds s (.ok (), t)

/-
  Starting leaves the connections alone, and forgets a stop
  that was due.
-/
theorem start_frame (s : Session E) :
    (start.run s).2.world.connections = s.world.connections ∧
      (start.run s).2.world.issued = s.world.issued ∧
        (start.run s).2.world.library.shutdownPending =
          false := by
  have hAnswered : ∀ (code : ResultCode) (t : Session E),
      let w := ((answered code).run t).2.world
      w.connections = t.world.connections ∧
        w.issued = t.world.issued ∧
          w.library.shutdownPending =
            t.world.library.shutdownPending := by
    intro code t
    unfold answered
    split <;> exact ⟨rfl, rfl, rfl⟩
  rw [start_run s]
  cases s.world.library.started with
  | true => exact ⟨rfl, rfl, rfl⟩
  | false => exact hAnswered _ (invoke .startup _).2

/- Holding is one of the two. -/
theorem hold_holds (s : Session E) :
    Holds s (hold.run s) := by
  rcases hold_run s with ⟨hResult, hSession⟩
  rcases start_starts s with ⟨hStarts, hHolders⟩
  rcases start_frame s with ⟨hConnections, hIssued, hForgot⟩
  rcases hStart : start.run s with ⟨result, t⟩
  rcases hHold : hold.run s with ⟨result', t'⟩
  rw [hStart] at hStarts hHolders hConnections hIssued
  rw [hStart] at hForgot hResult hSession
  rw [hHold] at hResult hSession
  simp only at hResult hSession hHolders hConnections
  simp only at hIssued hForgot
  subst hResult hSession
  have hLibrary : t.world.library.started = true →
      (oneMore t.world).library =
        { started := true
          shutdownPending := false
          holders := s.world.library.holders + 1 } := by
    intro hUp
    simp [oneMore, World.modifyLibrary, hUp, hForgot, hHolders]
  cases hStarts with
  | running hOk hUp hStill hTrace =>
      cases hOk
      refine .held ?_ hConnections hIssued (hLibrary hStill)
      rw [hUp]
      exact .of_trace hTrace
  | refused hCode hError hDown hStill hTrace =>
      cases hError
      exact .refused hCode hDown ⟨[_], hTrace, rfl⟩ hConnections
        hHolders
  | done hCode hOk hDown hUp hTrace =>
      cases hOk
      refine .held ?_ hConnections hIssued (hLibrary hUp)
      rw [hDown]
      rw [hCode] at hTrace
      exact ⟨[_, _], hTrace, rfl⟩

/- A hold that is given up at once is one holder less. -/
theorem release_at_once
    (hForgot : s.world.library.shutdownPending = false) :
    (release s).2 = { s with world := oneLess s.world } := by
  rw [release_run, if_neg]
  rintro ⟨_, hPending⟩
  exact Bool.noConfusion (hForgot.symm.trans hPending)

end Library

------------------------------------------------------------
-- Opening a Connection
------------------------------------------------------------

namespace Connection

/-
  The ways in which a connection is opened, each with what
  comes of it and with the calls, the latest first: the engine
  does not start, or a connection is established or not.
-/
inductive Course
    (started : Bool)
    (path : Bytes)
    (options : ConnectionOptions) :
    Except Failure DatabaseHandle → Trace → Prop where
  | unstarted {code e}
      (hDown : started = false)
      (hCode : code ≠ ResultCode.ok) :
      Course started path options (.error e)
        [⟨.startup, code⟩]
  | started {result l}
      (hSettled : Settled path options result l) :
      Course started path options result
        (l ++ Library.begun started)

end Connection

namespace Session

/-
  Whether a connection was opened as a whole or not at all.
  Either a session has a connection more, which has an open
  database, nothing of it is live, and it holds the library.
  Or it has the same connections, and the library has as many
  holders as before.
-/
inductive OpensWhole
    (s : Session E)
    (path : Bytes)
    (options : ConnectionOptions) :
    Except Failure ConnectionId × Session E → Prop where
  | opened {c db l t}
      (hNew : s.world.connections.get? c = none)
      (hCourse : Connection.Course s.world.library.started path
        options (.ok db) l)
      (hHears : s.Hears l t)
      (hConnections : ∀ c',
        t.world.connections.get? c' =
          if c' = c then
            some (Connection.unused db path options)
          else s.world.connections.get? c')
      (hLibrary : t.world.library =
        { started := true
          shutdownPending := false
          holders := s.world.library.holders + 1 }) :
      OpensWhole s path options (.ok c, t)
  | failed {e l t}
      (hCourse : Connection.Course s.world.library.started path
        options (.error e) l)
      (hHears : s.Hears l t)
      (hConnections : ∀ c',
        t.world.connections.get? c' =
          s.world.connections.get? c')
      (hHolders :
        t.world.library.holders = s.world.library.holders) :
      OpensWhole s path options (.error e, t)

/- Opening is whole if what is numbered next is new. -/
theorem openAt_whole
    (hFresh : s.world.Fresh)
    (path : Bytes)
    (options : ConnectionOptions) :
    s.OpensWhole path options
      ((Connection.openAt path options).run s) := by
  have hHolds := Library.hold_holds s
  unfold Connection.openAt
  rcases hHold : Library.hold.run s with ⟨result, t⟩
  rw [hHold] at hHolds
  cases hHolds with
  | refused hCode hDown hHears hConnections hHolders =>
      rw [run_bind_of_error hHold]
      exact .failed (.unstarted hDown hCode) hHears
        (fun c' => by rw [hConnections]) hHolders
  | held hHears hConnections hIssued hLibrary =>
      rw [run_bind_of_ok hHold, run_onFailure]
      have hTidy := hHears.unfinalized (Library.begun_tidy _)
      have hFresh' : t.world.Fresh :=
        { connection := by
            rw [hConnections, hIssued]
            exact hFresh.connection
          database := by
            unfold Trace.unfinalizedOn
            rw [hTidy, hIssued]
            exact hFresh.database }
      have hEstablishes :=
        Connection.establish_did hFresh' path options
      rcases hRun : (Connection.establish path options).run t
        with ⟨result, t'⟩
      rw [hRun] at hEstablishes
      cases hEstablishes with
      | done hNew hSettled hHears' hConnections' hLibrary' =>
          rw [hConnections] at hNew hConnections'
          exact .opened hNew (.started hSettled)
            (hHears.trans hHears') hConnections'
            (hLibrary'.trans hLibrary)
      | failed hSettled hDid =>
          have hSame := hDid.library.trans hLibrary
          have hReleased := Library.release_at_once (s := t')
            (by rw [hSame])
          show OpensWhole s path options
            (.error _, (Library.release t').2)
          rw [hReleased]
          refine .failed (.started hSettled) ?_ (fun c' => ?_) ?_
          · exact hHears.trans hDid.heard
          · rw [← hConnections]
            exact hDid.connections c'
          · show t'.world.library.holders - 1 = _
            rw [hSame]
            rfl

/-
  After any operations on any engine, a connection is opened
  as a whole or not at all.
-/
theorem opening_atomic
    (engine : E.State)
    (patience : Nat)
    (log : Log)
    (ops : List Operation)
    (path : Bytes)
    (options : ConnectionOptions) :
    ((start engine patience log).runAll ops).2.OpensWhole
      path options
        ((Connection.openAt path options).run
          ((start engine patience log).runAll ops).2) := by
  exact openAt_whole
    (reachable_sound engine patience log ops).fresh path options

end Session

end SqliteAccess
