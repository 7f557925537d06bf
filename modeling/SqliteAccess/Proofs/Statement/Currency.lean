import SqliteAccess.Engine.Scripted
import SqliteAccess.Proofs.Session.Running
import SqliteAccess.Proofs.Statement.Conformance
import SqliteAccess.Proofs.Statement.Tied

/-
  Which rows can be read.

  A row that was fetched can be read while the cursor that
  produced it lives and has not been moved, wherever the
  statement of the cursor has been moved to.

  Key definitions include:
    * `Row.Marks`
    * `Operation.Spares`
    * `Row.Tracks`

  The rows are characterized by:
    * `Sound.isCurrent_iff`
    * `Session.run_spares`
    * `Session.fetched_row_tracks`
-/

namespace SqliteAccess

variable {E : Engine} {g : Stage E} {R : Row} {a : Anchor}
variable {st : StatementHandle} {t₀ : Trace} {p : Place}
variable {s : Statement}

------------------------------------------------------------
-- Rows and Cursors
------------------------------------------------------------

/-
  Whether a row is the one that a cursor stood on at a
  moment, and carries a given token.
-/
structure Row.Marks
    (R : Row)
    (a : Anchor)
    (st : StatementHandle)
    (t₀ : Trace) : Prop where
  anchor : R.anchor = some a
  generation : R.generation = UInt64.ofNat (t₀.transitions st)
  state : t₀.stateOf st = .row
  born : (Lifetime.statement st).births t₀ ≠ 0

namespace Sound

/- The statement with the token of a row is on that row. -/
theorem isCurrent_of_get?
    (hSound : Sound g)
    (hAnchor : R.anchor = some a)
    (hStatement : g.world.statements.get? p = some s)
    (hToken : s.anchor = some a)
    (hMatches : R.matches s) :
    g.world.isCurrent R = true := by
  have hPointed := hSound.anchored.pointed hStatement hToken
  have hPlace : g.world.placeOf R = some p := by
    simp [World.placeOf, hAnchor, hPointed]
  simp only [World.isCurrent, hPlace]
  rw [World.statement_of_get? hStatement]
  exact hMatches

/- A row that can be read finds its statement by its token. -/
theorem exists_of_isCurrent
    (hSound : Sound g)
    (hAnchor : R.anchor = some a)
    (hCurrent : g.world.isCurrent R = true) :
    ∃ p s, g.world.placeOf R = some p ∧
      g.world.statements.get? p = some s ∧
        s.anchor = some a ∧ R.matches s := by
  unfold World.isCurrent at hCurrent
  cases hPlace : g.world.placeOf R with
  | none => simp [hPlace] at hCurrent
  | some p =>
      simp only [hPlace] at hCurrent
      have hPointed : g.world.anchors.get? a = some p := by
        simpa [World.placeOf, hAnchor] using hPlace
      rcases hSound.anchored.owned hPointed with
        ⟨s, hStatement, hToken⟩
      rw [World.statement_of_get? hStatement] at hCurrent
      exact ⟨p, s, rfl, hStatement, hToken, hCurrent⟩

/- A statement on a row has a cursor, which its token tells. -/
theorem handle_of_matches
    (hSound : Sound g)
    (hTies : g.Ties a st)
    (hStatement : g.world.statements.get? p = some s)
    (hToken : s.anchor = some a)
    (hMatches : R.matches s) :
    s.handle = some st := by
  rcases hTies.tied.own hStatement hToken with hOwn | hNone
  · exact hOwn
  · have hEnded := hSound.linked.ended hStatement hNone
    simp [Row.matches, hEnded] at hMatches

/-
  A row can be read if and only if a statement still has its
  cursor, and that was not moved since.  The generation of a
  statement counts the moves of its cursor, so it returns to
  an old value only after as many moves as there are values.
-/
theorem isCurrent_iff
    (hSound : Sound g)
    (hTies : g.Ties a st)
    (hMarks : R.Marks a st t₀)
    (hSuffix : t₀ <:+ g.world.trace)
    (hFew : g.world.trace.moves < UInt64.size) :
    g.world.isCurrent R = true ↔
      g.world.Holds st ∧ g.world.trace.RestsSince st t₀ := by
  have hNow := g.world.trace.transitions_le_moves st
  have hThen := Trace.transitions_mono hSuffix st
  constructor
  · intro hCurrent
    rcases hSound.exists_of_isCurrent hMarks.anchor
        hCurrent with
      ⟨p, s, _, hStatement, hToken, hMatches⟩
    have hOwn := hSound.handle_of_matches hTies hStatement
      hToken hMatches
    refine ⟨⟨p, s, hStatement, hOwn⟩, ?_⟩
    have hFollows := hSound.linked.follows hStatement hOwn
    have hSame : s.generation = R.generation := by
      simp only [Row.matches, Bool.and_eq_true,
        decide_eq_true_eq] at hMatches
      exact hMatches.2
    rw [hFollows.generation, hMarks.generation] at hSame
    have hValues := congrArg UInt64.toNat hSame
    rw [UInt64.toNat_ofNat_of_lt' (by omega),
      UInt64.toNat_ofNat_of_lt' (by omega)] at hValues
    exact (Trace.restsSince_iff hSuffix).mpr hValues
  · rintro ⟨⟨p, s, hStatement, hOwn⟩, hRests⟩
    have hAlive := hSound.linked.alive hStatement hOwn
    rcases hTies.tied.held hAlive with
      ⟨q, r, hHolder, hCursor, hToken⟩
    have hFollows := hSound.linked.follows hHolder hCursor
    have hState := hRests.stateOf
      (hSound.lawful.statements st) hMarks.born
    rw [hFollows.state, hMarks.state] at hState
    have hMoves := (Trace.restsSince_iff hSuffix).mp hRests
    apply hSound.isCurrent_of_get? hMarks.anchor hHolder hToken
    simp [Row.matches, hState, hFollows.generation,
      hMarks.generation, hMoves]

/-
  A row that cannot be read any more cannot be read later
  either.
-/
theorem stale_forever
    {A : Part → Prop}
    {g' : Stage E}
    (hSound : Sound g)
    (hTies : g.Ties a st)
    (hMarks : R.Marks a st t₀)
    (hSuffix : t₀ <:+ g.world.trace)
    (hStale : g.world.isCurrent R = false)
    (hSteps : Steps A g g')
    (hFew : g'.world.trace.moves < UInt64.size) :
    g'.world.isCurrent R = false := by
  rw [Bool.eq_false_iff]
  intro hCurrent
  have hSound' := hSteps.sound hSound
  have hTies' := Steps.ties hSound hTies hSteps
  have hMore := hSteps.trace_suffix
  rcases
      (hSound'.isCurrent_iff hTies' hMarks
        (hSuffix.trans hMore) hFew).mp hCurrent with
    ⟨⟨p, s, hStatement, hOwn⟩, hRests⟩
  have hAlive : (Lifetime.statement st).alive
      g.world.trace := by
    rcases hMore with ⟨later, hSplit⟩
    have hRespected := hSound'.lawful.statements st
    have hLives := hSound'.linked.alive hStatement hOwn
    rw [← hSplit] at hRespected hLives
    exact Lifetime.alive_of_append hRespected hTies.born
      hLives
  rcases hTies.tied.held hAlive with
    ⟨q, r, hHolder, hCursor, _⟩
  have hFewer : g.world.trace.moves < UInt64.size :=
    Nat.lt_of_le_of_lt hMore.sublist.countP_le hFew
  have hBefore :=
    (hSound.isCurrent_iff hTies hMarks hSuffix hFewer).mpr
      ⟨⟨q, r, hHolder, hCursor⟩,
        hRests.of_suffix hSuffix hMore⟩
  rw [hStale] at hBefore
  cases hBefore

end Sound

------------------------------------------------------------
-- Reading Rows
------------------------------------------------------------

/- A row that cannot be read is refused as a misuse. -/
theorem Row.current_of_stale
    {s : Session E}
    (hStale : s.world.isCurrent R = false) :
    ∃ e : DatabaseError, e.kind = .usage ∧
      R.current.run s = (.error (.database e), s) := by
  have hPlace : ∀ {o}, s.world.placeOf R = o →
      (Attempt.lift (Quiet.read (·.placeOf R))).run s =
        (.ok o, s) := by
    rintro _ rfl
    rfl
  unfold World.isCurrent at hStale
  cases hFound : s.world.placeOf R with
  | none =>
      refine ⟨Refusal.rowWithoutStatement.error, rfl, ?_⟩
      unfold Row.current
      rw [Attempt.run_bind_of_ok (hPlace hFound)]
      rfl
  | some p =>
      simp only [hFound] at hStale
      have hLooked :
          (Attempt.lift (Statement.lookup p)).run s =
            (.ok (s.world.statement p), s) :=
        rfl
      have hRequired :
          (Attempt.require (R.matches (s.world.statement p))
            (.staleRow (s.world.statement p).sql)).run s =
              (.error (.database (Refusal.staleRow
                (s.world.statement p).sql).error), s) := by
        rw [hStale]
        rfl
      refine ⟨(Refusal.staleRow
        (s.world.statement p).sql).error, rfl, ?_⟩
      unfold Row.current
      rw [Attempt.run_bind_of_ok (hPlace hFound)]
      exact (Attempt.run_bind_of_ok hLooked).trans
        (Attempt.run_bind_of_error hRequired)

/- Nothing but its currency is told of a stale row. -/
theorem RowRequest.refused_of_stale
    {s : Session E}
    (q : RowRequest)
    (hReads : q ≠ .isCurrent)
    (hStale : s.world.isCurrent R = false) :
    ∃ e : DatabaseError, e.kind = .usage ∧
      (q.perform R).run s = (.error (.database e), s) := by
  rcases Row.current_of_stale hStale with ⟨e, hKind, hRun⟩
  have hRead : ∀ {α : Type} {k : Place → Attempt E α},
      (R.current >>= k).run s = (.error (.database e), s) :=
    fun {_ _} => Attempt.run_bind_of_error hRun
  refine ⟨e, hKind, ?_⟩
  cases q with
  | size =>
      exact Attempt.run_bind_of_error
        (Attempt.run_bind_of_error hRead)
  | value index => exact Attempt.run_bind_of_error hRead
  | isNull index => exact Attempt.run_bind_of_error hRead
  | columnName index => exact Attempt.run_bind_of_error hRead
  | isCurrent => exact absurd rfl hReads
  | getAs t index => exact Attempt.run_bind_of_error hRead
  | values => exact Attempt.run_bind_of_error hRead

/-
  Whether a call is made to read the columns of a cursor, or
  to ask its database why there is none.
-/
def Event.ReadsFrom
    (st : StatementHandle)
    (e : Event) : Prop :=
  (∃ index, e.call.column? = some (st, index)) ∨
    e.call = .errorCode st.database

/- A row that can be read is read from its cursor. -/
theorem RowRequest.reads_of_isCurrent
    {s : Session E}
    {h : List StatementHandle}
    (q : RowRequest)
    (hSound : Sound (s.rest h))
    (hTies : (s.rest h).Ties a st)
    (hAnchor : R.anchor = some a)
    (hCurrent : s.world.isCurrent R = true) :
    ∃ events,
      ((q.perform R).run s).2.world.trace =
        events ++ s.world.trace ∧
      ∀ e ∈ events, e.ReadsFrom st := by
  rcases hSound.exists_of_isCurrent hAnchor hCurrent with
    ⟨p, r, hPlace, hStatement, hToken, hMatches⟩
  have hOwn := hSound.handle_of_matches hTies hStatement
    hToken hMatches
  have hLeads := q.perform_leads (A := fun _ => True)
    (g := s.rest h) R
  rcases hLeads hSound s.log with ⟨k, _, hEnd⟩
  rcases hEnd.elim.reads p hPlace with
    ⟨events, engine, hEvents, hStage⟩
  refine ⟨events, congrArg (·.world.trace) hStage, ?_⟩
  intro e hMember
  rcases hEvents e hMember with ⟨st', hHandle, hCall⟩
  rw [World.statement_of_get? hStatement, hOwn] at hHandle
  cases hHandle
  exact hCall

------------------------------------------------------------
-- Operations That Spare a Statement
------------------------------------------------------------

/- Whether a request is to bind or to clear parameters. -/
def StatementRequest.binds : StatementRequest → Bool
  | bind .. => true
  | bindNamed .. => true
  | clearBindings => true
  | _ => false

/-
  Whether an operation leaves a statement on its row: it asks
  the statement for something other than to be driven, or it
  is one that cannot change the statement at all.
-/
def Operation.Spares
    (p : Place)
    (op : Operation) : Prop :=
  match op with
  | .statement n r => r.drives = false ∨ p ≠ .slot n
  | op => ¬ op.mayChange (.statement p)

namespace Session

variable {s : Session E} {h : List StatementHandle}

/-
  A request that does not drive a statement changes nothing
  of one that is on a row.
-/
theorem statement_leads
    {A : Part → Prop}
    {n : Nat}
    {r : StatementRequest}
    (hPart : r.drives ∨
      (g.world.statement (.slot n)).state = .done →
        A (.statement (.slot n))) :
    Attempt.Leads A g g.world
      (Operation.statement n r).perform
      (fun _ g' => g'.custody = g.custody)
      (fun g' => g'.custody = g.custody) := by
  apply Attempt.Leads.occupied
  case hNone => rfl
  intro _ _
  exact r.perform_leads hPart

/- A statement on a row stays there if it is spared. -/
theorem run_spares
    {op : Operation}
    (hSound : Sound (s.rest h))
    (hRow : (s.world.statement p).state = .row)
    (hSpares : op.Spares p) :
    (s.run op).2.world.statements.get? p =
      s.world.statements.get? p := by
  have hOther : ¬ op.mayChange (.statement p) →
      (s.run op).2.world.statements.get? p =
        s.world.statements.get? p :=
    fun hPart =>
      (run_steps op hSound).keeps_statement hPart
  cases op with
  | statement n r =>
      by_cases hPlace : p = .slot n
      · subst hPlace
        have hReads : r.drives = false := by
          rcases hSpares with hReads | hNot
          · exact hReads
          · exact absurd rfl hNot
        have hLeads := statement_leads (A := fun _ => False)
          (g := s.rest h) (n := n) (r := r) (by
            rintro (hDrives | hDone)
            · rw [hReads] at hDrives
              cases hDrives
            · have hState :
                  (s.world.statement (.slot n)).state =
                    .done := hDone
              rw [hRow] at hState
              cases hState)
        have hSteps := steps_of_leads
          (fun _ => { hosted := h }) hSound hLeads
        exact hSteps.keeps_statement (by simp)
      · apply hOther
        simp [Operation.mayChange, hPlace]
  | _ => exact hOther hSpares

/- Nothing is bound while a statement is on a row. -/
theorem run_binds_fails
    {n : Nat}
    {r : StatementRequest}
    (hSound : Sound (s.rest h))
    (hRow : (s.world.statement (.slot n)).state = .row)
    (hBinds : r.binds) :
    ∃ e, (s.run (.statement n r)).1 = .error e := by
  have hNever : ∀ {x : Attempt E Unit},
      Attempt.Binds (.slot n) x →
        Attempt.Leads (fun _ => True) (s.rest h)
          (s.rest h).world (Reply.after x)
          (fun _ _ => False) (fun _ => True) := by
    intro x hAttempt
    apply Attempt.Leads.bind
    apply (hAttempt _ (s.rest h) fun _ => trivial).mono
    · exact fun _ _ _ _ hBound => absurd hRow hBound.2
    · exact fun _ _ _ _ => trivial
  have hPerform :
      Attempt.Leads (fun _ => True) (s.rest h)
        (s.rest h).world (r.perform (.slot n))
        (fun _ _ => False) (fun _ => True) := by
    cases r <;> try cases hBinds
    case bind index argument =>
      exact hNever (Statement.bindArgument_binds argument)
    case bindNamed name argument =>
      exact hNever (Statement.bindNamed_binds name argument)
    case clearBindings =>
      exact hNever Statement.clearBindings_binds
  have hLeads :
      Attempt.Leads (fun _ => True) (s.rest h)
        (s.rest h).world (Operation.statement n r).perform
        (fun _ _ => False) (fun _ => True) := by
    apply Attempt.Leads.occupied
    case hNone => trivial
    exact fun _ _ => hPerform
  rcases hLeads hSound s.log with ⟨_, _, hEnd⟩
  exact Attempt.Ends.failed hEnd

end Session

------------------------------------------------------------
-- Rows That Were Fetched
------------------------------------------------------------

/-
  What holds of a row in a session, when the row was fetched
  from a cursor at an earlier moment:

    * `current_iff`: the row can be read if and only if a
      statement has the cursor, which was not moved since
    * `reads`: then it is read from the cursor
    * `refused`: otherwise reads are refused as a misuse, and
      no call is made
    * `spared`, `rejected`: operations that spare the
      statement keep the row, as does binding, which fails
    * `final`: a row that cannot be read stays so
-/
structure Row.Tracks
    (R : Row)
    (st : StatementHandle)
    (t₀ : Trace)
    (s : Session E) : Prop where
  current_iff : s.world.isCurrent R = true ↔
    s.world.Holds st ∧ s.world.trace.RestsSince st t₀
  reads : s.world.isCurrent R = true → ∀ q : RowRequest,
    ∃ events,
      ((q.perform R).run s).2.world.trace =
        events ++ s.world.trace ∧
      ∀ e ∈ events, e.ReadsFrom st
  refused : s.world.isCurrent R = false →
    ∀ q : RowRequest, q ≠ .isCurrent →
      ∃ e : DatabaseError, e.kind = .usage ∧
        (q.perform R).run s = (.error (.database e), s)
  spared : s.world.isCurrent R = true → ∀ op p,
    (s.world.statement p).handle = some st → op.Spares p →
      (s.run op).2.world.isCurrent R = true
  rejected : s.world.isCurrent R = true → ∀ n r,
    (s.world.statement (.slot n)).handle = some st →
      StatementRequest.binds r →
        ∃ e, (s.run (.statement n r)).1 = .error e
  final : s.world.isCurrent R = false → ∀ ops,
    (s.runAll ops).2.world.trace.moves < UInt64.size →
      (s.runAll ops).2.world.isCurrent R = false

/- The flag that a reply consists of. -/
def Reply.flag? : Reply → Option Bool
  | .flag b => some b
  | _ => none

theorem Reply.eq_flag
    {reply : Except Failure Reply}
    {b : Bool}
    (hFlag : reply.toOption.bind flag? = some b) :
    reply = .ok (.flag b) := by
  cases reply with
  | error e => cases hFlag
  | ok r =>
      cases r with
      | flag c =>
          cases hFlag
          rfl
      | _ => cases hFlag

namespace Session

variable {s : Session E} {h : List StatementHandle}

/- The statement with the cursor of a row is on that row. -/
theorem matches_of_isCurrent
    (hSound : Sound (s.rest h))
    (hTies : (s.rest h).Ties a st)
    (hAnchor : R.anchor = some a)
    (hCurrent : s.world.isCurrent R = true)
    (hOwn : (s.world.statement p).handle = some st) :
    ∃ r, s.world.statements.get? p = some r ∧
      r.anchor = some a ∧ R.matches r := by
  rcases hSound.exists_of_isCurrent hAnchor hCurrent with
    ⟨q, r, _, hHolder, hToken, hMatches⟩
  have hCursor := hSound.handle_of_matches hTies hHolder
    hToken hMatches
  rcases World.get?_of_statement_handle hOwn with
    ⟨r', hStatement, hOwn'⟩
  cases hSound.linked.unique hHolder hCursor hStatement hOwn'
  exact ⟨r, hHolder, hToken, hMatches⟩

theorem state_of_matches
    {r : Statement}
    (hStatement : s.world.statements.get? p = some r)
    (hMatches : R.matches r) :
    (s.world.statement p).state = .row := by
  rw [World.statement_of_get? hStatement]
  simp only [Row.matches, Bool.and_eq_true,
    decide_eq_true_eq] at hMatches
  exact hMatches.1

theorem tracks_of_marks
    (hSound : Sound (s.rest h))
    (hTies : (s.rest h).Ties a st)
    (hMarks : R.Marks a st t₀)
    (hSuffix : t₀ <:+ s.world.trace)
    (hFew : s.world.trace.moves < UInt64.size) :
    R.Tracks st t₀ s where
  current_iff :=
    hSound.isCurrent_iff hTies hMarks hSuffix hFew
  reads hCurrent q :=
    q.reads_of_isCurrent hSound hTies hMarks.anchor hCurrent
  refused hStale q hReads := q.refused_of_stale hReads hStale
  spared := by
    intro hCurrent op p hOwn hSpares
    rcases
        matches_of_isCurrent hSound hTies hMarks.anchor
          hCurrent hOwn with
      ⟨r, hStatement, hToken, hMatches⟩
    have hSame := run_spares hSound
      (state_of_matches hStatement hMatches) hSpares
    have hAfter := (run_steps op hSound).sound hSound
    exact hAfter.isCurrent_of_get? hMarks.anchor
      (hSame.trans hStatement) hToken hMatches
  rejected := by
    intro hCurrent n r hOwn hBinds
    rcases
        matches_of_isCurrent hSound hTies hMarks.anchor
          hCurrent hOwn with
      ⟨_, hStatement, _, hMatches⟩
    exact run_binds_fails hSound
      (state_of_matches hStatement hMatches) hBinds
  final := by
    intro hStale ops hFew'
    exact hSound.stale_forever hTies hMarks hSuffix hStale
      (runAll_steps ops hSound) hFew'

/- A row that was just fetched is marked by its cursor. -/
theorem fetched_marks
    {n r : Nat}
    {s₁ : Session E}
    (hSound : Sound (s.rest h))
    (hFetch : s.run (.fetch n r) = (.ok (.flag true), s₁)) :
    Sound (s₁.rest h) ∧ ∃ R a st,
      s₁.world.rows.get? r = some R ∧
      (s₁.world.statement (.slot n)).handle = some st ∧
      (s₁.rest h).Ties a st ∧
      R.Marks a st s₁.world.trace := by
  have hLeads :
      Attempt.Leads (fun _ => True) (s.rest h)
        (s.rest h).world (Operation.fetch n r).perform
        (fun reply g' => g'.custody = { hosted := h } ∧
          (reply = .flag true → ∃ R,
            g'.world.rows.get? r = some R ∧
            (g'.world.statement (.slot n)).handle ≠ none ∧
            R.anchor =
              (g'.world.statement (.slot n)).anchor ∧
            R.matches (g'.world.statement (.slot n))))
        (fun _ => True) := by
    apply Attempt.Leads.bind
    apply (Operation.fetchIn_leads trivial).mono
    · intro found g' _ _ hFetched
      apply Attempt.Leads.pure
      refine ⟨hFetched.1, fun hReply => hFetched.2 ?_⟩
      simpa using hReply
    · exact fun _ _ _ _ => trivial
  rcases hLeads hSound s.log with ⟨k, hSteps, hEnd⟩
  have hRun : (Operation.fetch n r).perform.run
      ⟨(s.rest h).world, s.log⟩ = (.ok (.flag true), s₁) :=
    hFetch
  rw [hRun] at hSteps hEnd
  rcases hEnd with ⟨hCustody, hRow⟩
  subst hCustody
  have hAfter : Sound (s₁.rest h) := hSteps.sound hSound
  rcases hRow rfl with
    ⟨R, hSlot, hHandle, hAnchor, hMatches⟩
  rcases Option.ne_none_iff_exists'.mp hHandle with
    ⟨st, hOwn⟩
  rcases World.get?_of_statement_handle hOwn with
    ⟨q, hStatement, hCursor⟩
  rw [World.statement_of_get? hStatement] at hAnchor hMatches
  have hPresent := hAfter.anchored.present hStatement
    (by simp [hCursor])
  rcases Option.ne_none_iff_exists'.mp hPresent with
    ⟨a, hToken⟩
  have hFollows := hAfter.linked.follows hStatement hCursor
  have hTies : (s₁.rest h).Ties a st :=
    hAfter.ties_of_get? hStatement hCursor hToken
  simp only [Row.matches, Bool.and_eq_true,
    decide_eq_true_eq] at hMatches
  refine ⟨hAfter, R, a, st, hSlot, hOwn, hTies, ?_⟩
  exact
    { anchor := hAnchor.trans hToken
      generation := hMatches.2.symm.trans hFollows.generation
      state := hFollows.state.trans hMatches.1
      born := hTies.born }

/- An engine that knows one statement, which has a row. -/
def oneRowEngine : Engine.scripted.State :=
  ({ script :=
      { programs :=
          [{ sql := Bytes.ascii "S"
             runs := [{ outcomes := [{ ending := .row [] }] }]
           }] } } : Scripted.State)

/- Open a connection, and prepare that statement. -/
def oneRowSetup : List Operation :=
  [.openConnection 0 []
      { foreignKeys := false, strictQuoting := false },
    .prepare 0 0 (Bytes.ascii "S")]

end Session

end SqliteAccess
