import SqliteAccess.Proofs.Statement.Arguments
import SqliteAccess.Proofs.Statement.Running

/-
  How a new connection is configured.

  The options of a connection ask for settings, which are made
  one after the other up to the first that fails.  Each of
  them can go in a few ways, which are lists of calls.

  Key definitions include:
    * `Setting`
    * `ConnectionOptions.settings`
    * `Setting.Took`
    * `Setting.AllTook`

  The settings are characterized by:
    * `Connection.applyOptions_eq`
    * `Setting.apply_did`
    * `Setting.applyAll_did`
-/

namespace SqliteAccess

variable {E : Engine} {s : Session E} {c : ConnectionId}
variable {conn : Connection} {db : DatabaseHandle}

open Quiet Attempt

------------------------------------------------------------
-- Settings
------------------------------------------------------------

/-
  A setting of a connection.  A statement is executed, and a
  pragma is stepped to its end.
-/
inductive Setting where
  | extendedCodes (on : Bool)
  | busyTimeout (milliseconds : Int)
  | switch (flag : ConfigFlag) (on : Bool)
  | statement (sql : Bytes)
  | pragma (sql : Bytes)

/- The settings that options ask for, in order. -/
def ConnectionOptions.settings
    (o : ConnectionOptions) : List Setting :=
  .extendedCodes o.extendedCodes ::
    (o.busyTimeout.toList.map .busyTimeout ++
      (if o.strictQuoting then
          [.switch .quotedStringsInData false,
            .switch .quotedStringsInDefinitions false]
        else []) ++
      (if o.foreignKeys then
          [.statement (Bytes.ascii "PRAGMA foreign_keys = ON")]
        else []) ++
      (if o.writeAheadLog then
          [.pragma (Bytes.ascii "PRAGMA journal_mode = WAL")]
        else []))

namespace Setting

/- Make a setting. -/
def apply
    (c : ConnectionId) : Setting → Attempt E Unit
  | extendedCodes on => Connection.setExtendedCodes c on
  | busyTimeout milliseconds =>
      Connection.setBusyTimeout c milliseconds
  | switch flag on => Connection.setConfig c flag on
  | statement sql => do
      let _ ← Connection.execute c sql
  | pragma sql =>
      Statement.within c sql fun p => do
        Statement.drain p (← lift (read (·.patience)))

/- Make settings one after the other. -/
def applyAll
    (c : ConnectionId) : List Setting → Attempt E Unit
  | [] => pure ()
  | x :: r => do
      apply c x
      applyAll c r

end Setting

namespace Connection

/- A pragma that is accepted is stepped to its end. -/
theorem setPragma_eq
    {name literal : Bytes}
    {v : Value}
    (hName : Identifier.isQualified name = true)
    (hValue : Pragma.literal? v = some literal) :
    setPragma (E := E) c name v =
      Setting.apply c
        (.pragma (Bytes.ascii "PRAGMA " ++ name ++
          Bytes.ascii " = " ++ literal)) := by
  have hAccepted : Pragma.requireName name = .ok () := by
    simp [Pragma.requireName, hName]
  have hLiteral : Pragma.literal name v = .ok literal := by
    simp [Pragma.literal, hValue]
  unfold setPragma
  rw [hAccepted, accept_ok_bind, hLiteral, accept_ok_bind]
  rfl

/- The journal is switched by such a pragma. -/
theorem setPragma_journal :
    setPragma (E := E) c (Bytes.ascii "journal_mode")
        (.text (Bytes.ascii "WAL")) =
      Setting.apply c
        (.pragma (Bytes.ascii "PRAGMA journal_mode = WAL")) :=
  setPragma_eq (by decide) (by decide)

/- Applying options is making their settings. -/
theorem applyOptions_eq
    (c : ConnectionId)
    (o : ConnectionOptions) :
    applyOptions (E := E) c o =
      Setting.applyAll c o.settings := by
  rcases o with ⟨flags, timeout, keys, log, codes, quoting⟩
  unfold applyOptions ConnectionOptions.settings
  rw [setPragma_journal]
  cases timeout <;> cases keys <;> cases log <;>
    cases quoting <;>
      simp [Setting.applyAll, Setting.apply]

end Connection

------------------------------------------------------------
-- Ways a Setting Goes
------------------------------------------------------------

namespace Setting

/-
  The ways in which a setting is made on a database, or fails,
  each with the calls that are made, the latest first.  A
  negative time to wait is refused without a call.
-/
inductive Took
    (db : DatabaseHandle) :
    Setting → Bool → Trace → Prop where
  | extendedCodes {on ok code}
      (hCode : ok = true ↔ code = ResultCode.ok) :
      Took db (.extendedCodes on) ok
        [⟨.extendedCodes db on, code⟩]
  | negative {milliseconds}
      (hNegative : milliseconds < 0) :
      Took db (.busyTimeout milliseconds) false []
  | busyTimeout {milliseconds ok code}
      (hPositive : 0 ≤ milliseconds)
      (hCode : ok = true ↔ code = ResultCode.ok) :
      Took db (.busyTimeout milliseconds) ok
        [⟨.busyTimeout db milliseconds, code⟩]
  | switch {flag on ok answer}
      (hCode : ok = true ↔ answer.code = ResultCode.ok) :
      Took db (.switch flag on) ok
        [⟨.configure db flag (if on then 1 else 0), answer⟩]
  | statement {sql ok l}
      (hRan : Statement.Ran db sql Statement.Executed ok l) :
      Took db (.statement sql) ok l
  | pragma {sql ok l}
      (hRan : Statement.Ran db sql Statement.Drained ok l) :
      Took db (.pragma sql) ok l

/-
  The ways in which settings are made in turn, up to the first
  that fails.
-/
inductive AllTook
    (db : DatabaseHandle) :
    List Setting → Bool → Trace → Prop where
  | done : AllTook db [] true []
  | failed {x r l}
      (hFirst : Took db x false l) :
      AllTook db (x :: r) false l
  | next {x r ok l l'}
      (hFirst : Took db x true l)
      (hRest : AllTook db r ok l') :
      AllTook db (x :: r) ok (l' ++ l)

/- Making a setting leaves no statement. -/
theorem Took.tidy
    {x : Setting}
    {ok : Bool}
    {l : Trace}
    (hTook : Took db x ok l) :
    l.Tidy := by
  cases hTook with
  | extendedCodes | negative | busyTimeout | switch =>
      exact fun _ => rfl
  | statement hRan => exact hRan.tidy Statement.Executed.tidy
  | pragma hRan => exact hRan.tidy Statement.Drained.tidy

theorem AllTook.tidy
    {r : List Setting}
    {ok : Bool}
    {l : Trace}
    (hTook : AllTook db r ok l) :
    l.Tidy := by
  induction hTook with
  | done => exact .nil
  | failed hFirst => exact hFirst.tidy
  | next hFirst _ ih => exact .append hFirst.tidy ih

/- Whether the text of a setting can be sent. -/
def HasText : Setting → Prop
  | statement sql => Statement.Sendable sql
  | pragma sql => Statement.Sendable sql
  | _ => True

/- A call whose result is checked is one setting. -/
theorem call_did
    {q : Call}
    (f : q.Answer → ResultCode)
    (hEffect : q.isEffect = true)
    (db : DatabaseHandle)
    (phase : Phase)
    (s : Session E) :
    ∃ answer,
      s.Did [⟨q, answer⟩]
        ((lift (invoke q) >>= fun answer =>
          check db (f answer) phase []).run s).2 ∧
      (((lift (invoke q) >>= fun answer =>
          check db (f answer) phase []).run s).1.isOk = true ↔
        f answer = ResultCode.ok) := by
  rw [run_bind_of_ok (run_lift _ s)]
  exact ⟨_, (Session.Did.call hEffect s).trans
    (check_did _ _ _ _ _), check_isOk _ _ _ _ _⟩

/- Stepping a new statement to its end is one of its ways. -/
theorem drainAll_did
    (c : ConnectionId)
    (t : Session E)
    (st : StatementHandle)
    (r : Statement)
    (hStands : t.Stands .scratch c st r)
    (hReady : r.state = .ready)
    (hFresh : r.stepFailed = false) :
    ∃ l r', t.Did l ((lift (read (·.patience)) >>=
        Statement.drain .scratch).run t).2 ∧
      ((lift (read (·.patience)) >>=
        Statement.drain .scratch).run t).2.Stands .scratch c
          st r' ∧
      Statement.Drained st ((lift (read (·.patience)) >>=
        Statement.drain .scratch).run t).1.isOk l := by
  rw [run_read]
  have hState : r.state ≠ .done := by simp [hReady]
  rcases Statement.drain_did hStands hState hFresh
    t.world.patience with ⟨l, r', hDid, hLast, hDrained, _⟩
  exact ⟨l, r', hDid, hLast, hDrained⟩

/- Making a setting is one of its ways. -/
theorem apply_did
    {x : Setting}
    (hFound : s.world.connections.get? c = some conn)
    (hOpen : conn.handle = some db)
    (hFree : conn.statements = [])
    (hText : x.HasText) :
    ∃ l, s.Did l ((x.apply c).run s).2 ∧
      Took db x ((x.apply c).run s).1.isOk l := by
  have hHandle : (s.world.connection c).handle = some db := by
    rw [World.connection_of_get? hFound]
    exact hOpen
  cases x with
  | extendedCodes on =>
      have hRun : ((extendedCodes on).apply c).run s =
          (lift (invoke (.extendedCodes db on)) >>=
            fun code => check db code .opening).run s := by
        unfold apply Connection.setExtendedCodes
          Connection.lookup
        simp only []
        rw [run_read, hHandle]
      rw [hRun]
      rcases call_did (q := .extendedCodes db on)
        (fun code => code) rfl db .opening s with
        ⟨code, hDid, hCode⟩
      exact ⟨_, hDid, .extendedCodes hCode⟩
  | busyTimeout milliseconds =>
      have hOpened : (Connection.requireOpen c
          "setBusyTimeout").run s = (.ok db, s) :=
        Connection.requireOpen_of_open hHandle _
      by_cases hNegative : milliseconds < 0
      · have hRun : ((busyTimeout milliseconds).apply c).run s =
            (.error (.database (Refusal.negativeTimeout
              milliseconds).error), s) :=
          (run_bind_of_ok hOpened).trans
            (run_bind_of_error (run_require_of_false
              (decide_eq_false (Int.not_le.mpr hNegative)) _ s))
        rw [hRun]
        exact ⟨[], .refl s, .negative hNegative⟩
      · have hPositive : 0 ≤ milliseconds :=
          Int.not_lt.mp hNegative
        have hRun : ((busyTimeout milliseconds).apply c).run s =
            (lift (invoke (.busyTimeout db milliseconds)) >>=
              fun code => check db code .other).run s :=
          (run_bind_of_ok hOpened).trans
            (run_bind_of_ok (run_require_of_true
              (decide_eq_true hPositive) _ s))
        rw [hRun]
        rcases call_did (q := .busyTimeout db milliseconds)
          (fun code => code) rfl db .other s with
          ⟨code, hDid, hCode⟩
        exact ⟨_, hDid, .busyTimeout hPositive hCode⟩
  | switch flag on =>
      have hRun : ((switch flag on).apply c).run s =
          (lift (invoke (.configure db flag
            (if on then 1 else 0))) >>=
              fun answer => check db answer.code .other).run s :=
        run_bind_of_ok (Connection.requireOpen_of_open hHandle _)
      rw [hRun]
      rcases call_did
        (q := .configure db flag (if on then 1 else 0))
        (fun answer => answer.code) rfl db .other s with
        ⟨answer, hDid, hCode⟩
      exact ⟨_, hDid, .switch hCode⟩
  | statement sql =>
      rcases Connection.execute_did hFound hOpen hFree hText with
        ⟨l, hDid, hRan⟩
      have hApply : (statement sql).apply (E := E) c =
          (Connection.execute c sql >>= fun _ => pure ()) :=
        rfl
      rw [hApply]
      refine ⟨l, ?_, .statement ?_⟩
      · rw [run_map_snd]
        exact hDid
      · rw [run_map_isOk]
        exact hRan
  | pragma sql =>
      rcases Statement.within_did
        (fun p => lift (read (·.patience)) >>=
          Statement.drain p) Statement.Drained hFound hOpen
            hFree hText (drainAll_did c) with ⟨l, hDid, hRan⟩
      exact ⟨l, hDid, .pragma hRan⟩

/- Making settings in turn is one of their ways. -/
theorem applyAll_did
    {l : List Setting}
    (hFound : s.world.connections.get? c = some conn)
    (hOpen : conn.handle = some db)
    (hFree : conn.statements = [])
    (hText : ∀ x ∈ l, x.HasText) :
    ∃ l', s.Did l' ((applyAll c l).run s).2 ∧
      AllTook db l ((applyAll c l).run s).1.isOk l' := by
  induction l generalizing s with
  | nil => exact ⟨[], .refl s, .done⟩
  | cons x r ih =>
      rcases apply_did hFound hOpen hFree
        (hText x List.mem_cons_self) with ⟨l, hDid, hTook⟩
      unfold applyAll
      rcases hRun : (x.apply c).run s with ⟨result, t⟩
      rw [hRun] at hDid hTook
      cases result with
      | error e =>
          rw [run_bind_of_error hRun]
          exact ⟨l, hDid, .failed hTook⟩
      | ok _ =>
          rcases ih (hDid.connection hFound) fun y hMember =>
            hText y (List.mem_cons_of_mem x hMember) with
              ⟨l', hRest, hAll⟩
          rw [run_bind_of_ok hRun]
          exact ⟨l' ++ l, hDid.trans hRest, .next hTook hAll⟩

end Setting

/- Every text that options ask for can be sent. -/
theorem ConnectionOptions.settings_hasText
    (o : ConnectionOptions) :
    ∀ x ∈ o.settings, x.HasText := by
  have hKeys : Statement.Sendable
      (Bytes.ascii "PRAGMA foreign_keys = ON") :=
    ⟨by decide +kernel, by decide +kernel⟩
  have hLog : Statement.Sendable
      (Bytes.ascii "PRAGMA journal_mode = WAL") :=
    ⟨by decide +kernel, by decide +kernel⟩
  have hTimeout : ∀ x ∈ o.busyTimeout.toList.map
      Setting.busyTimeout, x.HasText := by
    intro x hMember
    rcases List.mem_map.mp hMember with ⟨_, _, rfl⟩
    trivial
  have hOptional : ∀ (b : Bool) (l : List Setting),
      (∀ x ∈ l, x.HasText) →
        ∀ x ∈ (if b then l else []), x.HasText := by
    intro b l hAll
    cases b with
    | true => exact hAll
    | false => exact nofun
  unfold ConnectionOptions.settings
  simp only [List.forall_mem_cons, List.forall_mem_append]
  refine ⟨trivial, ⟨⟨hTimeout, ?_⟩, ?_⟩, ?_⟩
  · apply hOptional
    simp [Setting.HasText]
  · apply hOptional
    simp [Setting.HasText, hKeys]
  · apply hOptional
    simp [Setting.HasText, hLog]

end SqliteAccess
