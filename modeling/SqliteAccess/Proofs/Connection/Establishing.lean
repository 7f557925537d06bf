import SqliteAccess.Proofs.Connection.Configuring
import SqliteAccess.Proofs.Connection.Effects

/-
  How a connection is established.

  A database is opened, and the settings of the connection
  are made.  Each of these can fail in a few ways, and nothing
  is done after a failure but to give back what was taken: the
  statement of a setting and the handle of the database.

  Key definitions include:
    * `World.Fresh`
    * `OpenFlags.Proper`
    * `Connection.Released`
    * `Connection.Arrived`
    * `Connection.Settled`
    * `Connection.Establishes`

  The ways are characterized by:
    * `OpenFlags.native_of_proper`
    * `Connection.releaseHandle_did`
    * `Connection.openHandle_did`
    * `Connection.configure_did`
    * `Connection.establish_did`
-/

namespace SqliteAccess

variable {E : Engine} {s t : Session E} {c : ConnectionId}
variable {conn : Connection} {db : DatabaseHandle}

open Quiet Attempt

------------------------------------------------------------
-- Numbers
------------------------------------------------------------

/-
  Whether what is numbered next is new: there is no such
  connection, and no such database has a statement.
-/
structure World.Fresh (w : World E) : Prop where
  connection :
    w.connections.get? ⟨w.issued.connections + 1⟩ = none
  database :
    w.trace.unfinalizedOn ⟨w.issued.databases + 1⟩ = []

------------------------------------------------------------
-- Flags
------------------------------------------------------------

namespace OpenFlags

/-
  Whether a database may be opened with flags at a path: for
  reading or for writing, created only by a writer, and at a
  path without a NUL.
-/
structure Proper
    (path : Bytes)
    (flags : OpenFlags) : Prop where
  one : flags.has readOnly ≠ flags.has readWrite
  create : flags.has create = true →
    flags.has readWrite = true
  path : 0 ∉ path

/- Proper flags are passed on. -/
theorem native_of_proper
    {path : Bytes}
    {flags : OpenFlags}
    (hProper : flags.Proper path) :
    ∃ native, flags.native path = .ok native := by
  have hCreate : (flags.has create &&
      ! flags.has readWrite) = false := by
    cases hHas : flags.has create with
    | false => rfl
    | true => simp [hProper.create hHas]
  simp [native, hProper.one, hCreate, hProper.path]

/- Flags that are not are refused as such. -/
theorem native_of_improper
    {path : Bytes}
    {flags : OpenFlags}
    (hImproper : ¬ flags.Proper path) :
    ∃ r : Refusal, flags.native path = .error r ∧
      r.error.kind = .opening := by
  unfold native
  split
  case isTrue => exact ⟨_, rfl, rfl⟩
  case isFalse hOne =>
    split
    case isTrue => exact ⟨_, rfl, rfl⟩
    case isFalse hCreate =>
      split
      case isTrue => exact ⟨_, rfl, rfl⟩
      case isFalse hPath =>
        refine absurd ⟨?_, ?_, ?_⟩ hImproper
        · simpa using hOne
        · simpa using hCreate
        · simpa using hPath

end OpenFlags

------------------------------------------------------------
-- Releasing a Handle
------------------------------------------------------------

namespace Connection

/-
  The ways in which a database is closed, with a final code.
  If something is in the way, it is closed once more.
-/
inductive Shut
    (db : DatabaseHandle)
    (code : ResultCode) : Trace → Prop where
  | once
      (hFree : code ≠ ResultCode.busy) :
      Shut db code [⟨.close db, code⟩]
  | again :
      Shut db code
        [⟨.close db, code⟩, ⟨.close db, ResultCode.busy⟩]

/-
  The ways in which the handle of a database is released.  It
  is closed, now or later.
-/
inductive Released
    (db : DatabaseHandle) : Trace → Prop where
  | closed {l}
      (hShut : Shut db ResultCode.ok l) :
      Released db l
  | deferred {l code}
      (hShut : Shut db code l)
      (hCode : code ≠ ResultCode.ok) :
      Released db (⟨.closeLater db, ()⟩ :: l)

/- No statement is named where none is left. -/
theorem finalizeLeft_consulted
    {s : Session E}
    (hTidy : s.world.trace.unfinalizedOn db = [])
    (n : Nat) :
    s.Consulted (finalizeLeft db n s).2 := by
  cases n with
  | zero => exact .refl s
  | succ n =>
      have hNone : (invoke (.nextStatement db
          (s.world.trace.unfinalizedOn db)) s).1.val =
            none := by
        rcases (invoke (.nextStatement db
            (s.world.trace.unfinalizedOn db)) s).1 with
          ⟨_ | st, hNamed⟩
        · rfl
        · rw [hTidy] at hNamed
          cases hNamed
      unfold finalizeLeft
      rw [Quiet.run_bind, Quiet.run_bind]
      simp only [Quiet.read, hNone]
      exact .asked rfl s

/- Closing a database without statements is one of its ways. -/
theorem closeStubborn_did
    {s : Session E}
    (hTidy : s.world.trace.unfinalizedOn db = [])
    (path : Bytes) :
    ∃ l, s.Did l (closeStubborn db path s).2 ∧
      Shut db (closeStubborn db path s).1 l := by
  let code : ResultCode := (invoke (.close db) s).1
  let t := (invoke (.close db) s).2
  have hDid : s.Did [⟨.close db, code⟩] t := .call rfl s
  unfold closeStubborn
  rw [Quiet.run_bind]
  split
  case isTrue hFree =>
    exact ⟨_, hDid, .once hFree⟩
  case isFalse hBusy =>
    have hCode : code = ResultCode.busy :=
      Classical.not_not.mp hBusy
    rw [hCode] at hDid
    let noted := (note .error
      "untracked statements left on connection, finalizing them"
      [.ofText "path" path] t).2
    have hNoted : t.Did [] noted := .note _ _ _ t
    let left := noted.world.trace.unfinalizedOn db
    let asked := (finalizeLeft db (left.length + 1) noted).2
    have hStill : noted.world.trace.unfinalizedOn db = [] :=
      hTidy
    have hAsked : noted.Did [] asked :=
      .of_consulted (finalizeLeft_consulted hStill _)
    exact ⟨_, ((hDid.trans hNoted).trans hAsked).trans
      (.call (c := .close db) rfl asked), .again⟩

/-
  Whether a session comes after another one by certain calls,
  and a connection has no handle any more.
-/
structure Disowns
    (s : Session E)
    (c : ConnectionId)
    (conn : Connection)
    (l : Trace)
    (t : Session E) : Prop where
  heard : s.Hears l t
  connections : ∀ c',
    t.world.connections.get? c' =
      if c' = c then some conn.withoutHandle
      else s.world.connections.get? c'
  library : t.world.library = s.world.library

/- What is done before it adds its calls. -/
theorem Disowns.after
    {l l' : Trace}
    {u : Session E}
    (hDisowns : Disowns t c conn l' u)
    (hDid : s.Did l t) :
    Disowns s c conn (l' ++ l) u where
  heard := hDid.heard.trans hDisowns.heard
  connections c' := by
    rw [hDisowns.connections, hDid.connections]
  library := hDisowns.library.trans hDid.library

/- Forgetting the handle of a connection calls nothing. -/
theorem withoutHandle_disowns
    (hFound : s.world.connections.get? c = some conn) :
    Disowns s c conn []
      ((update (World.modifyConnection c withoutHandle) >>=
        fun _ => noteClosed c) s).2 := by
  let w : World E := World.modifyConnection c withoutHandle
    s.world
  have hWorld : w =
      { s.world with
        connections :=
          s.world.connections.modify c withoutHandle } :=
    World.modifyConnection_eq _ _ _
  refine ⟨.of_trace ?_, fun c' => ?_, ?_⟩
  · show w.trace = _
    rw [hWorld]
  · show w.connections.get? c' = _
    rw [hWorld]
    exact (Table.get?_modify _ _ _ _).trans (by rw [hFound]; rfl)
  · show w.library = _
    rw [hWorld]

/- The handle of a connection is released in one of the ways. -/
theorem releaseHandle_did
    (hFound : s.world.connections.get? c = some conn)
    (hOpen : conn.handle = some db)
    (hTidy : s.world.trace.unfinalizedOn db = []) :
    ∃ l, Disowns s c conn l (releaseHandle c s).2 ∧
      Released db l := by
  rcases closeStubborn_did hTidy conn.path with
    ⟨l, hDid, hShut⟩
  unfold releaseHandle lookup
  rw [Quiet.run_bind]
  simp only [Quiet.read, World.connection_of_get? hFound, hOpen]
  rw [Quiet.run_bind]
  split
  case isTrue hCode =>
    let noted := (note .error
      "sqlite3_close failed, deferring release"
      [.ofText "path" conn.path,
        .ofText "code"
          (ResultCode.name (closeStubborn db conn.path s).1)]
      (closeStubborn db conn.path s).2).2
    have hNoted :
        (closeStubborn db conn.path s).2.Did [] noted :=
      .note _ _ _ _
    have hDeferred := (hDid.trans hNoted).trans
      (.call (c := .closeLater db) rfl noted)
    have hLeft := withoutHandle_disowns
      (hDeferred.connection hFound)
    exact ⟨_, hLeft.after hDeferred, .deferred hShut hCode⟩
  case isFalse hCode =>
    have hOk := Classical.not_not.mp hCode
    have hLeft := withoutHandle_disowns (hDid.connection hFound)
    rw [hOk] at hShut
    exact ⟨_, hLeft.after hDid, .closed hShut⟩

------------------------------------------------------------
-- Opening a Handle
------------------------------------------------------------

/-
  The ways in which a database is opened, each with what comes
  of it and with the calls, the latest first.  A handle that a
  failure has left is closed at once.
-/
inductive Arrived
    (path : Bytes)
    (bits : Int32) :
    Except Failure DatabaseHandle → Trace → Prop where
  | refused {db answer e}
      (hCreated : answer.created = false)
      (hKind : e.kind = .opening) :
      Arrived path bits (.error (.database e))
        [⟨.openDatabase path bits db, answer⟩]
  | abandoned {db answer code e}
      (hCreated : answer.created = true)
      (hCode : answer.code ≠ ResultCode.ok)
      (hKind : e.kind = .opening) :
      Arrived path bits (.error (.database e))
        [⟨.close db, code⟩,
          ⟨.openDatabase path bits db, answer⟩]
  | opened {db answer}
      (hCreated : answer.created = true)
      (hCode : answer.code = ResultCode.ok) :
      Arrived path bits (.ok db)
        [⟨.openDatabase path bits db, answer⟩]

/-
  The error of an opening that failed is one of opening.  Only
  a handle that it has left is closed.
-/
theorem openingError_did
    (db : DatabaseHandle)
    (path : Bytes)
    (answer : OpenAnswer)
    (s : Session E) :
    (openingError db path answer s).1.kind = .opening ∧
      ∃ code,
        s.Did
          (if answer.created then [⟨.close db, code⟩] else [])
          (openingError db path answer s).2 := by
  unfold openingError
  cases answer.created with
  | false => exact ⟨rfl, ResultCode.ok, .refl s⟩
  | true =>
      have hAsked : s.Did [] (invoke (.errorMessage db)
          (invoke (.extendedErrorCode db) s).2).2 :=
        .of_consulted ((Session.Consulted.asked rfl s).trans
          (.asked rfl _))
      exact ⟨rfl, _,
        hAsked.trans (.call (c := .close db) rfl _)⟩

/- What is done with the answer of an engine that opens. -/
def arrive
    (db : DatabaseHandle)
    (path : Bytes)
    (answer : OpenAnswer) : Attempt E DatabaseHandle := do
  if answer.code ≠ ResultCode.ok ∨ ! answer.created then
    fail (← lift (openingError db path answer))
  return db

/- A handle that there is has a number, which is used up. -/
theorem openHandle_run
    (path : Bytes)
    (flags : OpenFlags)
    (s : Session E) :
    ∃ db answer t,
      db.number = s.world.issued.databases + 1 ∧
        s.Did [⟨.openDatabase path flags.bits db, answer⟩] t ∧
        (openHandle path flags).run s =
          (arrive db path answer).run t := by
  let db : DatabaseHandle := ⟨s.world.issued.databases + 1⟩
  let q : Call := .openDatabase path flags.bits db
  let answer : OpenAnswer := (invoke q s).1
  let t := (invoke q s).2
  have hDid : s.Did [⟨q, answer⟩] t := .call rfl s
  have hRun : (openHandle path flags).run s =
      (if answer.created then
        (lift <| update fun w =>
          { w with issued.databases := db.number }) >>=
            fun _ => arrive db path answer
      else arrive db path answer).run t := rfl
  cases hCreated : answer.created with
  | false =>
      refine ⟨db, answer, t, rfl, hDid, hRun.trans ?_⟩
      rw [hCreated]
      rfl
  | true =>
      let t' : Session E :=
        { t with
          world :=
            { t.world with issued.databases := db.number } }
      have hNumbered : t.Did [] t' :=
        ⟨.of_trace rfl, fun _ => rfl, rfl⟩
      refine ⟨db, answer, t', rfl, hDid.trans hNumbered,
        hRun.trans ?_⟩
      rw [hCreated]
      rfl

/-
  Opening a database is one of its ways.  A handle has the
  next number.
-/
theorem openHandle_did
    (path : Bytes)
    (flags : OpenFlags)
    (s : Session E) :
    ∃ l, s.Did l ((openHandle path flags).run s).2 ∧
      Arrived path flags.bits ((openHandle path flags).run s).1
        l ∧
      ∀ db, ((openHandle path flags).run s).1 = .ok db →
        db.number = s.world.issued.databases + 1 := by
  rcases openHandle_run path flags s with
    ⟨db, answer, t, hNumber, hDid, hRun⟩
  rw [hRun]
  by_cases hGood :
      answer.code = ResultCode.ok ∧ answer.created = true
  · have hArrive : (arrive db path answer).run t =
        (.ok db, t) := by
      simp [arrive, hGood]
    rw [hArrive]
    refine ⟨_, hDid, .opened hGood.2 hGood.1, ?_⟩
    rintro _ ⟨⟩
    exact hNumber
  · rcases openingError_did db path answer t with
      ⟨hKind, code, hClosed⟩
    have hArrive : (arrive db path answer).run t =
        (.error (.database (openingError db path answer t).1),
          (openingError db path answer t).2) := by
      have hBad : answer.code ≠ ResultCode.ok ∨
          (! answer.created) = true :=
        (Classical.not_and_iff_not_or_not.mp hGood).imp_right
          fun hNone => by simp [hNone]
      unfold arrive
      rw [if_pos hBad]
      rfl
    rw [hArrive]
    cases hCreated : answer.created with
    | false =>
        rw [hCreated] at hClosed
        exact ⟨_, hDid.trans hClosed,
          .refused hCreated hKind, nofun⟩
    | true =>
        rw [hCreated] at hClosed
        have hCode : answer.code ≠ ResultCode.ok :=
          fun hOk => hGood ⟨hOk, hCreated⟩
        exact ⟨_, hDid.trans hClosed,
          .abandoned hCreated hCode hKind, nofun⟩

------------------------------------------------------------
-- Establishing a Connection
------------------------------------------------------------

/- A connection that has not been used yet. -/
def unused
    (db : DatabaseHandle)
    (path : Bytes)
    (options : ConnectionOptions) : Connection :=
  { handle := some db
    path
    options
    statements := []
    backups := [] }

/-
  The ways in which a connection is established, each with
  what comes of it and with the calls, the latest first.  A
  database whose settings fail is released at once.
-/
inductive Settled
    (path : Bytes)
    (options : ConnectionOptions) :
    Except Failure DatabaseHandle → Trace → Prop where
  | refused {e}
      (hImproper : ¬ options.flags.Proper path)
      (hKind : e.kind = .opening) :
      Settled path options (.error (.database e)) []
  | unopened {flags e l}
      (hProper : options.flags.Proper path)
      (hFlags : options.flags.native path = .ok flags)
      (hArrived : Arrived path flags.bits (.error e) l) :
      Settled path options (.error e) l
  | unconfigured {flags db e l l' l''}
      (hProper : options.flags.Proper path)
      (hFlags : options.flags.native path = .ok flags)
      (hArrived : Arrived path flags.bits (.ok db) l)
      (hTook : Setting.AllTook db options.settings false l')
      (hReleased : Released db l'') :
      Settled path options (.error e) (l'' ++ l' ++ l)
  | configured {flags db l l'}
      (hProper : options.flags.Proper path)
      (hFlags : options.flags.native path = .ok flags)
      (hArrived : Arrived path flags.bits (.ok db) l)
      (hTook : Setting.AllTook db options.settings true l') :
      Settled path options (.ok db) (l' ++ l)

/-
  Whether a session comes after another one by certain calls,
  and has a connection more that has not been used yet, or the
  same ones after a failure.
-/
inductive Establishes
    (s : Session E)
    (path : Bytes)
    (options : ConnectionOptions) :
    Except Failure ConnectionId × Session E → Prop where
  | done {c db l t}
      (hNew : s.world.connections.get? c = none)
      (hSettled : Settled path options (.ok db) l)
      (hHears : s.Hears l t)
      (hConnections : ∀ c',
        t.world.connections.get? c' =
          if c' = c then some (unused db path options)
          else s.world.connections.get? c')
      (hLibrary : t.world.library = s.world.library) :
      Establishes s path options (.ok c, t)
  | failed {e l t}
      (hSettled : Settled path options (.error e) l)
      (hDid : s.Did l t) :
      Establishes s path options (.error e, t)

/-
  How a new connection is configured: its settings are made,
  or its handle is released and it is forgotten.
-/
inductive Configures
    (s : Session E)
    (c : ConnectionId)
    (conn : Connection)
    (db : DatabaseHandle)
    (options : ConnectionOptions) :
    Except Failure Unit × Session E → Prop where
  | done {l t}
      (hTook : Setting.AllTook db options.settings true l)
      (hDid : s.Did l t) :
      Configures s c conn db options (.ok (), t)
  | failed {e l l' t}
      (hTook : Setting.AllTook db options.settings false l)
      (hReleased : Released db l')
      (hDisowns : Disowns s c conn (l' ++ l) t) :
      Configures s c conn db options
        (.error e, (update (forget c) t).2)

/- Configuring is one of the ways. -/
theorem configure_did
    (hFound : s.world.connections.get? c = some conn)
    (hOpen : conn.handle = some db)
    (hFree : conn.statements = [])
    (hTidy : s.world.trace.unfinalizedOn db = [])
    (options : ConnectionOptions) :
    Configures s c conn db options
      ((onFailure (applyOptions c options)
        (releaseHandle c >>= fun _ =>
          update (forget c))).run s) := by
  rcases Setting.applyAll_did hFound hOpen hFree
    options.settings_hasText with ⟨l, hDid, hTook⟩
  rw [← applyOptions_eq] at hDid hTook
  rw [run_onFailure]
  rcases hRun : (applyOptions c options).run s with
    ⟨result, t⟩
  rw [hRun] at hDid hTook
  cases result with
  | ok _ => exact .done hTook hDid
  | error e =>
      have hTidy' : t.world.trace.unfinalizedOn db = [] := by
        unfold Trace.unfinalizedOn at hTidy ⊢
        rw [hDid.heard.unfinalized hTook.tidy, hTidy]
      rcases releaseHandle_did (hDid.connection hFound) hOpen
        hTidy' with ⟨l', hDisowns, hReleased⟩
      exact .failed hTook hReleased (hDisowns.after hDid)

/- A connection that is forgotten was none before. -/
theorem forget_did
    {path : Bytes}
    {options : ConnectionOptions}
    {l l' : Trace}
    {u : Session E}
    (hNew : s.world.connections.get? c = none)
    (hDid : s.Did l t)
    (hDisowns : Disowns
      { t with world := register c db path options t.world }
      c conn l' u) :
    s.Did (l' ++ l) (update (forget c) u).2 where
  heard := hDid.heard.trans hDisowns.heard
  connections c' := by
    refine (Table.get?_erase _ _ _).trans ?_
    by_cases hSame : c' = c
    · rw [if_pos hSame, hSame, hNew]
    · rw [if_neg hSame, hDisowns.connections, if_neg hSame]
      refine (Table.get?_put _ _ _ _).trans ?_
      rw [if_neg hSame]
      exact hDid.connections c'
  library := hDisowns.library.trans hDid.library

/- Opening a database makes no statement. -/
theorem Arrived.tidy
    {path : Bytes}
    {bits : Int32}
    {result : Except Failure DatabaseHandle}
    {l : Trace}
    (hArrived : Arrived path bits result l) :
    l.Tidy := by
  cases hArrived <;> exact fun _ => rfl

/- A connection is established in one of the ways. -/
theorem establish_did
    (hFresh : s.world.Fresh)
    (path : Bytes)
    (options : ConnectionOptions) :
    Establishes s path options
      ((establish path options).run s) := by
  unfold establish
  by_cases hProper : options.flags.Proper path
  case neg =>
    rcases OpenFlags.native_of_improper hProper with
      ⟨r, hFlags, hKind⟩
    rw [hFlags]
    exact .failed (.refused hProper hKind) (.refl s)
  case pos =>
    rcases OpenFlags.native_of_proper hProper with
      ⟨flags, hFlags⟩
    have hAccepted : (accept (options.flags.native path)).run s =
        (.ok flags, s) := by
      rw [hFlags]
      rfl
    rw [run_bind_of_ok hAccepted]
    rcases openHandle_did path flags s with
      ⟨l, hDid, hArrived, hNumber⟩
    have hIssued := ((openHandle_affects (A := fun _ => False)
      path flags s).keeps_connections id).issued
    rcases hRun : (openHandle path flags).run s with
      ⟨result, t⟩
    rw [hRun] at hDid hArrived hIssued hNumber
    cases result with
    | error e =>
        rw [run_bind_of_error hRun]
        exact .failed (.unopened hProper hFlags hArrived) hDid
    | ok db =>
        rw [run_bind_of_ok hRun, run_read]
        -- the new connection is entered, and then configured
        let c : ConnectionId :=
          ⟨t.world.issued.connections + 1⟩
        have hNew : s.world.connections.get? c = none := by
          show s.world.connections.get?
            ⟨t.world.issued.connections + 1⟩ = none
          rw [hIssued]
          exact hFresh.connection
        let t' : Session E :=
          { t with
            world := register c db path options t.world }
        have hEntered : ∀ c',
            t'.world.connections.get? c' =
              if c' = c then some (unused db path options)
              else t.world.connections.get? c' :=
          fun c' => Table.get?_put _ _ _ _
        have hFound := (hEntered c).trans (if_pos rfl)
        have hSame : db = ⟨s.world.issued.databases + 1⟩ :=
          congrArg DatabaseHandle.mk (hNumber db rfl)
        have hTidy : t'.world.trace.unfinalizedOn db = [] := by
          show (Trace.unfinalized t.world.trace).filter _ = []
          rw [hDid.heard.unfinalized hArrived.tidy, hSame]
          exact hFresh.database
        have hConfigured :=
          configure_did hFound rfl rfl hTidy options
        show Establishes s path options ((onFailure
          (applyOptions c options)
            (releaseHandle c >>= fun _ =>
              update (forget c)) >>= fun _ =>
                lift (note .debug "connection opened"
                  [.ofText "path" path,
                    .ofInt "flags" flags.bits.toInt]) >>=
                      fun _ => pure c).run t')
        rcases hTail : (onFailure (applyOptions c options)
          (releaseHandle c >>= fun _ =>
            update (forget c))).run t' with ⟨result, t''⟩
        rw [hTail] at hConfigured
        cases hConfigured with
        | done hTook hDid' =>
            rw [run_bind_of_ok hTail]
            refine .done hNew
              (.configured hProper hFlags hArrived hTook)
              (hDid.heard.trans hDid'.heard) (fun c' => ?_)
              (hDid'.library.trans hDid.library)
            refine (hDid'.connections c').trans ?_
            rw [hEntered, hDid.connections]
        | failed hTook hReleased hDisowns =>
            rw [run_bind_of_error hTail]
            exact .failed
              (.unconfigured hProper hFlags hArrived hTook
                hReleased)
              (forget_did hNew hDid hDisowns)

end Connection

end SqliteAccess
