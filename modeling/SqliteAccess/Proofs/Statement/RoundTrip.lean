import SqliteAccess.Proofs.Session.Rejection
import SqliteAccess.Proofs.Value.Conversion

/-
  Values are read as they were bound.

  The two directions meet in the contents of a payload.  What
  is bound is handed over as a payload with that content, and
  a column is read as a value exactly if the engine shows the
  value there.

  Key definitions include:
    * `Binding.content`
    * `Engine.Shows`
    * `Session.HandsOver`
    * `Session.RoundTrips`

  The values are characterized by:
    * `Value.content_payload`
    * `Statement.bindValue_handsOver`
    * `Statement.columnValue_eq_ok_iff`
    * `Session.values_roundTrip`
-/

namespace SqliteAccess

variable {E : Engine} {p : Place} {st : StatementHandle}
variable {index : Int} {s t : Session E}

open Attempt

------------------------------------------------------------
-- Values and Payloads
------------------------------------------------------------

/-
  The value that a payload stands for.  A text and a blob
  without data stand for null.
-/
def Binding.content : Binding → Value
  | null => .null
  | integer n => .integer n
  | real x => .real x
  | text data => data.elim .null .text
  | blob data => data.elim .null .blob
  | zeroBlob n => .blob (List.replicate n 0)

namespace Value

/- A value is handed over as what stands for it. -/
theorem content_payload (v : Value) :
    v.payload.content = v := by
  cases v with
  | blob b =>
      cases b with
      | nil => rfl
      | cons x r => rfl
  | _ => rfl

/- A value passes its check unless it is no proper text. -/
theorem checked_of_isUtf8
    {v : Value}
    (hUtf8 : v.IsUtf8) :
    v.checked = .ok v := by
  cases v with
  | text t => exact ofText_of_valid hUtf8
  | _ => rfl

end Value

------------------------------------------------------------
-- Binding
------------------------------------------------------------

namespace Attempt

/- A result passes its check if and only if it is good. -/
theorem check_eq_ok_iff
    {db : DatabaseHandle}
    {code : ResultCode}
    {phase : Phase}
    {sql : Bytes} :
    (check db code phase sql).run s = (.ok (), t) ↔
      code = ResultCode.ok ∧ t = s := by
  by_cases hCode : code = ResultCode.ok
  · subst hCode
    rw [check_ok]
    constructor
    · intro hRun
      cases hRun
      exact ⟨rfl, rfl⟩
    · rintro ⟨_, rfl⟩
      rfl
  · rw [check_of_ne hCode]
    constructor
    · intro hRun
      cases hRun
    · rintro ⟨hOk, _⟩
      exact absurd hOk hCode

end Attempt

/-
  Whether binding a value to a parameter hands it over: after
  a reset if the statement was done, the engine is called once
  with a payload that stands for the value, and after that it
  is only asked.  This succeeds if the engine accepts it.
-/
def Session.HandsOver
    (s : Session E)
    (p : Place)
    (index : Int)
    (v : Value) : Prop :=
  ∃ st b code questions resets,
    (s.world.statement p).handle = some st ∧
    b.content = v ∧
    ((Statement.bindValue p index v).run s).2.world.trace =
      questions ++ ⟨.bind st index b, code⟩ ::
        (resets ++ s.world.trace) ∧
    (∀ e ∈ questions, e.call.isEffect = false) ∧
    resets.map Event.call =
      (if (s.world.statement p).state = .done
        then [.reset st] else []) ∧
    (((Statement.bindValue p index v).run s).1 = .ok () ↔
      code = ResultCode.ok)

namespace Statement

/- A reset that succeeds is one call. -/
theorem rewind_trace
    (hRun : (rewind p st).run s = (.ok (), t)) :
    ∃ code : ResultCode,
      t.world.trace = ⟨.reset st, code⟩ :: s.world.trace := by
  have hReset : ∀ w : World E,
      (w.modifyStatement p rewound).trace = w.trace := by
    intro w
    rw [World.modifyStatement_eq]
  refine ⟨(Quiet.invoke (.reset st) s).1, ?_⟩
  unfold rewind lookup at hRun
  rw [run_read, run_bind_of_ok (run_lift _ s),
    run_bind_of_ok (run_lift _ _)] at hRun
  split at hRun
  case isTrue =>
    rcases check_eq_ok_iff.mp hRun with ⟨_, rfl⟩
    exact hReset _
  case isFalse =>
    cases hRun
    exact hReset _

/- Only a statement that is done is reset. -/
theorem rewindIfDone_trace
    (hRun : (rewindIfDone p st).run s = (.ok (), t)) :
    ∃ resets : Trace,
      t.world.trace = resets ++ s.world.trace ∧
      resets.map Event.call =
        if (s.world.statement p).state = .done
          then [.reset st] else [] := by
  unfold rewindIfDone lookup at hRun
  rw [run_read] at hRun
  split at hRun
  case isTrue hDone =>
    rcases rewind_trace hRun with ⟨code, hTrace⟩
    refine ⟨[⟨.reset st, code⟩], hTrace, ?_⟩
    rw [if_pos hDone]
    rfl
  case isFalse hReady =>
    cases hRun
    refine ⟨[], rfl, ?_⟩
    rw [if_neg hReady]
    rfl

/- Handing over a payload is one call. -/
theorem hand_trace
    (p : Place)
    (st : StatementHandle)
    (index : Int)
    (payload : Binding)
    (s : Session E) :
    ∃ (code : ResultCode) (questions : Trace),
      ((hand p st index payload).run s).2.world.trace =
        questions ++ ⟨.bind st index payload, code⟩ ::
          s.world.trace ∧
      (∀ e ∈ questions, e.call.isEffect = false) ∧
      (((hand p st index payload).run s).1 = .ok () ↔
        code = ResultCode.ok) := by
  let heard := (Quiet.invoke (.bind st index payload) s).2
  let code : ResultCode :=
    (Quiet.invoke (.bind st index payload) s).1
  have hRun : (hand p st index payload).run s =
      (check st.database code .binding
        (s.world.statement p).sql).run heard := by
    unfold hand lookup
    rw [run_read, run_bind_of_ok (run_lift _ s)]
  rw [hRun]
  rcases check_consulted st.database code .binding
      (s.world.statement p).sql heard with
    ⟨questions, engine, hAfter, hQuestions⟩
  refine ⟨code, questions, ?_, hQuestions, ?_⟩
  · exact congrArg (·.world.trace) hAfter
  · constructor
    · intro hOk
      exact (check_eq_ok_iff.mp (Prod.ext hOk rfl)).1
    · intro hCode
      exact congrArg Prod.fst
        (check_eq_ok_iff.mpr ⟨hCode, rfl⟩)

/- A value that can be bound is handed over. -/
theorem bindValue_handsOver
    {v : Value}
    (hUtf8 : v.IsUtf8)
    (hHandle : (s.world.statement p).handle = some st)
    (hTakes : (s.world.statement p).Takes index)
    (hReset : ((rewindIfDone p st).run s).1 = .ok ()) :
    s.HandsOver p index v := by
  rcases hRewound : (rewindIfDone p st).run s with ⟨result, t⟩
  rw [hRewound] at hReset
  cases hReset
  have hRun : (bindValue p index v).run s =
      (hand p st index v.payload).run t := by
    rw [bindValue_eq, Value.checked_of_isUtf8 hUtf8,
      accept_ok_bind]
    unfold bindChecked
    rw [bindPayload_of_takes hTakes hHandle,
      run_bind_of_ok hRewound]
  rcases rewindIfDone_trace hRewound with
    ⟨resets, hResets, hCalls⟩
  rcases hand_trace p st index v.payload t with
    ⟨code, questions, hTrace, hQuestions, hOk⟩
  rw [hResets] at hTrace
  exact ⟨st, v.payload, code, questions, resets, hHandle,
    v.content_payload, hRun ▸ hTrace, hQuestions, hCalls,
    hRun ▸ hOk⟩

end Statement

------------------------------------------------------------
-- Reading
------------------------------------------------------------

/-
  Whether the engine shows a text in a column.  A text that is
  missing is empty, unless there is no memory.
-/
def Engine.ShowsText
    (E : Engine)
    (engine : E.State)
    (st : StatementHandle)
    (index : Int)
    (t : Bytes) : Prop :=
  match E.answer (.columnText st index) engine with
  | (some t', _) => t = t'
  | (none, engine') =>
      t = [] ∧
        (E.answer (.errorCode st.database) engine').1 ≠
          ResultCode.outOfMemory

/-
  Whether the engine shows a value in a column: it tells the
  class of the value, and then its contents.  An empty blob
  may have no data.
-/
def Engine.Shows
    (E : Engine)
    (engine : E.State)
    (st : StatementHandle)
    (index : Int)
    (v : Value) : Prop :=
  let (type, engine') :=
    E.answer (.columnType st index) engine
  StorageClass.ofTypeCode type = v.storageClass ∧
    match v with
    | .null => True
    | .integer n =>
        (E.answer (.columnInteger st index) engine').1 = n
    | .real x =>
        (E.answer (.columnReal st index) engine').1 = x
    | .text t => E.ShowsText engine' st index t
    | .blob b =>
        (E.answer (.columnBlob st index) engine').1.getD [] = b

/- A type code without a meaning of its own means null. -/
theorem StorageClass.ofTypeCode_of_unknown
    {type : Int}
    (hInteger : type ≠ 1)
    (hReal : type ≠ 2)
    (hText : type ≠ 3)
    (hBlob : type ≠ 4) :
    ofTypeCode type = .null := by
  unfold ofTypeCode
  split
  case h_1 => exact absurd rfl hInteger
  case h_2 => exact absurd rfl hReal
  case h_3 => exact absurd rfl hText
  case h_4 => exact absurd rfl hBlob
  case h_5 => rfl

namespace Statement

/- A requirement lets a value through if it holds. -/
theorem run_require_pure
    {c : Bool}
    {r : Refusal}
    {v w : Value} :
    ((require c r >>= fun _ => pure w).run s).1 = .ok v ↔
      c = true ∧ v = w := by
  cases c with
  | true =>
      constructor
      · intro hRun
        cases hRun
        exact ⟨rfl, rfl⟩
      · rintro ⟨_, rfl⟩
        rfl
  | false =>
      constructor
      · intro hRun
        cases hRun
      · rintro ⟨hHolds, _⟩
        cases hHolds

/- What is read as a text is what the engine shows as one. -/
theorem readText_eq_ok_iff
    {v : Value} :
    ((readText p st index).run s).1 = .ok v ↔
      ∃ t, v = .text t ∧ Utf8.isValid t = true ∧
        E.ShowsText s.world.engine st index t := by
  unfold readText
  rw [run_bind_of_ok (run_lift _ s)]
  unfold Engine.ShowsText Quiet.invoke
  rcases E.answer (.columnText st index) s.world.engine with
    ⟨answer, engine⟩
  cases answer with
  | some t =>
      apply run_require_pure.trans
      constructor
      · rintro ⟨hValid, rfl⟩
        exact ⟨t, rfl, hValid, rfl⟩
      · rintro ⟨_, rfl, hValid, rfl⟩
        exact ⟨hValid, rfl⟩
  | none =>
      simp only []
      rw [run_bind_of_ok (run_lift _ _), lookup, run_read]
      apply run_require_pure.trans
      constructor
      · rintro ⟨hMemory, rfl⟩
        exact ⟨[], rfl, Utf8.isValid_nil, rfl,
          of_decide_eq_true hMemory⟩
      · rintro ⟨_, rfl, _, rfl, hMemory⟩
        exact ⟨decide_eq_true hMemory, rfl⟩

/- A column is read as what the engine shows in it. -/
theorem readColumn_eq_ok_iff
    {v : Value} :
    ((readColumn p st index).run s).1 = .ok v ↔
      v.IsUtf8 ∧ E.Shows s.world.engine st index v := by
  unfold readColumn
  rw [run_bind_of_ok (run_lift _ s)]
  unfold Engine.Shows Quiet.invoke
  rcases E.answer (.columnType st index) s.world.engine with
    ⟨type, engine⟩
  simp only []
  split
  case h_1 =>
    constructor
    · intro hRun
      cases hRun
      exact ⟨trivial, rfl, rfl⟩
    · rintro ⟨_, hClass, hShown⟩
      cases v with
      | integer n =>
          cases hShown
          rfl
      | _ => cases hClass
  case h_2 =>
    constructor
    · intro hRun
      cases hRun
      exact ⟨trivial, rfl, rfl⟩
    · rintro ⟨_, hClass, hShown⟩
      cases v with
      | real x =>
          cases hShown
          rfl
      | _ => cases hClass
  case h_3 =>
    apply readText_eq_ok_iff.trans
    constructor
    · rintro ⟨t, rfl, hValid, hShown⟩
      exact ⟨hValid, rfl, hShown⟩
    · rintro ⟨hUtf8, hClass, hShown⟩
      cases v with
      | text t => exact ⟨t, rfl, hUtf8, hShown⟩
      | _ => cases hClass
  case h_4 =>
    constructor
    · intro hRun
      cases hRun
      exact ⟨trivial, rfl, rfl⟩
    · rintro ⟨_, hClass, hShown⟩
      cases v with
      | blob b =>
          cases hShown
          rfl
      | _ => cases hClass
  case h_5 hInteger hReal hText hBlob =>
    have hNull := StorageClass.ofTypeCode_of_unknown
      hInteger hReal hText hBlob
    constructor
    · intro hRun
      cases hRun
      exact ⟨trivial, hNull, trivial⟩
    · rintro ⟨_, hClass, _⟩
      rw [hNull] at hClass
      cases v with
      | null => rfl
      | _ => cases hClass

/- The handle that is required is that of the statement. -/
theorem handle_of_requireHandle
    {operation : String}
    (hRun : (requireHandle p operation).run s = (.ok st, t)) :
    (s.world.statement p).handle = some st ∧ t = s := by
  cases hHandle : (s.world.statement p).handle with
  | none =>
      cases (requireHandle_of_none hHandle operation).symm.trans
        hRun
  | some st =>
      cases (requireHandle_of_some hHandle operation).symm.trans
        hRun
      exact ⟨rfl, rfl⟩

/- A statement on a row has one. -/
theorem requireRow_run
    {operation : String}
    (hHandle : (s.world.statement p).handle = some st)
    (hRow : (s.world.statement p).state = .row) :
    (requireRow p operation).run s = (.ok st, s) := by
  unfold requireRow lookup
  rw [run_bind_of_ok (requireHandle_of_some hHandle _)]
  exact run_lift_require_of_true (decide_eq_true hRow)

/- A column of the row that a statement is on can be read. -/
theorem contents_run
    {α : Type}
    {operation : String}
    {k : StatementHandle → Attempt E α}
    (hHandle : (s.world.statement p).handle = some st)
    (hRow : (s.world.statement p).state = .row)
    (hColumn : (s.world.statement p).HasColumn index) :
    (requireRow p operation >>= fun st =>
        requireColumn p index >>= fun _ => k st).run s =
      (k st).run s := by
  have hRequired : (requireColumn p index).run s =
      (.ok (), s) :=
    run_require_of_true
      ((Bool.decide_and _ _).symm.trans (decide_eq_true hColumn))
      _ s
  rw [run_bind_of_ok (requireRow_run hHandle hRow),
    run_bind_of_ok hRequired]

/- An index that no column has is refused as that. -/
theorem contents_run_outside
    {α : Type}
    {operation : String}
    {k : StatementHandle → Attempt E α}
    (hHandle : (s.world.statement p).handle = some st)
    (hRow : (s.world.statement p).state = .row)
    (hOutside : ¬ (s.world.statement p).HasColumn index) :
    (requireRow p operation >>= fun st =>
        requireColumn p index >>= fun _ => k st).run s =
      (.error (.database (Refusal.columnIndex index
        (s.world.statement p).columnNames.length
        (s.world.statement p).sql).error), s) := by
  rw [run_bind_of_ok (requireRow_run hHandle hRow)]
  exact run_bind_of_error (run_require_of_false
    ((Bool.decide_and _ _).symm.trans
      (decide_eq_false hOutside)) _ s)

/- What is read from a statement on a row. -/
theorem columnValue_run
    (hHandle : (s.world.statement p).handle = some st)
    (hRow : (s.world.statement p).state = .row)
    (hColumn : (s.world.statement p).HasColumn index) :
    (columnValue p index).run s =
      (readColumn p st index).run s :=
  contents_run hHandle hRow hColumn

/-
  A value is read from a column if and only if the statement
  stands on a row with that column, in which the engine shows
  the value, and it is no improper text.
-/
theorem columnValue_eq_ok_iff
    {v : Value} :
    ((columnValue p index).run s).1 = .ok v ↔
      ∃ st, (s.world.statement p).handle = some st ∧
        (s.world.statement p).state = .row ∧
        (s.world.statement p).HasColumn index ∧
        v.IsUtf8 ∧ E.Shows s.world.engine st index v := by
  constructor
  · intro hRead
    have hFits : (StatementRequest.columnValue index).Fits
        (s.world.statement p) := by
      apply Classical.not_not.mp
      intro hNot
      rcases (contents_rejects hNot).refused with ⟨r, hRefused⟩
      cases hRead.symm.trans hRefused
    rcases hFits with ⟨hLive, hRow, hColumn⟩
    rcases Option.ne_none_iff_exists'.mp hLive with ⟨st, hHandle⟩
    rw [columnValue_run hHandle hRow hColumn] at hRead
    exact ⟨st, hHandle, hRow, hColumn,
      readColumn_eq_ok_iff.mp hRead⟩
  · rintro ⟨st, hHandle, hRow, hColumn, hShown⟩
    rw [columnValue_run hHandle hRow hColumn]
    exact readColumn_eq_ok_iff.mpr hShown

/- Every one of consecutive columns is read so. -/
theorem readColumns_shown
    {first n : Nat}
    {l : List Value}
    (hRun : (readColumns p st first n).run s = (.ok l, t)) :
    l.length = n ∧
      ∀ i v, l[i]? = some v → v.IsUtf8 ∧
        ∃ u, s.Consulted u ∧
          E.Shows u.world.engine st ((first + i : Nat) : Int)
            v := by
  induction n generalizing first s l with
  | zero =>
      cases hRun
      exact ⟨rfl, nofun⟩
  | succ n ih =>
      rcases run_bind_eq_ok.mp hRun with ⟨v, s', hFirst, hRest⟩
      rcases run_bind_eq_ok.mp hRest with
        ⟨r, s'', hOthers, hList⟩
      cases hList
      rcases ih hOthers with ⟨hLength, hShown⟩
      have hConsulted :=
        (readColumn_consults p first st).consulted_of_run hFirst
      refine ⟨congrArg (· + 1) hLength, fun i w hMember => ?_⟩
      cases i with
      | zero =>
          cases hMember
          rcases readColumn_eq_ok_iff.mp
            (congrArg Prod.fst hFirst) with ⟨hUtf8, hHere⟩
          exact ⟨hUtf8, s, .refl s, hHere⟩
      | succ i =>
          rcases hShown i w hMember with
            ⟨hUtf8, u, hLater, hThere⟩
          refine ⟨hUtf8, u, hConsulted.trans hLater, ?_⟩
          rw [← Nat.add_right_comm] at hThere
          exact hThere

end Statement

/-
  The values of a row are those that the engine shows in its
  columns, in order.
-/
theorem Row.values_shown
    {R : Row}
    {l : List Value}
    (hRun : R.values.run s = (.ok l, t)) :
    ∃ p st, s.world.placeOf R = some p ∧
      (s.world.statement p).handle = some st ∧
      l.length = (s.world.statement p).columnNames.length ∧
      ∀ (i : Nat) v, l[i]? = some v → v.IsUtf8 ∧
        ∃ u, s.Consulted u ∧
          E.Shows u.world.engine st (i : Int) v := by
  rcases run_bind_eq_ok.mp hRun with ⟨p, s₁, hCurrent, hRest⟩
  have hFirst := R.current_consults.consulted_of_run hCurrent
  rcases run_bind_eq_ok.mp hRest with ⟨n, s₂, hCounted, hReads⟩
  rcases run_bind_eq_ok.mp hCounted with ⟨_, s₃, hLive, hCount⟩
  rcases Statement.handle_of_requireHandle hLive with ⟨_, rfl⟩
  cases hCount
  rcases run_bind_eq_ok.mp hReads with ⟨st, s₂, hOwn, hRead⟩
  rcases Statement.handle_of_requireHandle hOwn with
    ⟨hHandle, rfl⟩
  rcases Statement.readColumns_shown hRead with
    ⟨hLength, hShown⟩
  refine ⟨p, st, Row.placeOf_of_current hCurrent, ?_⟩
  rw [← hFirst.statement]
  refine ⟨hHandle, hLength, fun i v hMember => ?_⟩
  rcases hShown i v hMember with ⟨hUtf8, u, hLater, hThere⟩
  rw [Nat.zero_add] at hThere
  exact ⟨hUtf8, u, hFirst.trans hLater, hThere⟩

------------------------------------------------------------
-- Sessions
------------------------------------------------------------

namespace Session

/-
  Whether values survive being bound and being read:

    * `bound`: a value is handed over by one call, whose
      payload stands for exactly that value
    * `read`: a column is read as exactly the value that the
      engine shows in it, which is no improper text
    * `values`: so are the columns of a row
-/
structure RoundTrips (s : Session E) : Prop where
  bound : ∀ p index st (v : Value), v.IsUtf8 →
    ((s.world.statement p).state = .ready ∨
      (s.world.statement p).state = .done) →
    1 ≤ index →
    index ≤ ((s.world.statement p).parameterCount : Int) →
    (s.world.statement p).handle = some st →
    ((Statement.rewindIfDone p st).run s).1 = .ok () →
      s.HandsOver p index v
  read : ∀ p index v,
    ((Statement.columnValue p index).run s).1 = .ok v ↔
      ∃ st, (s.world.statement p).handle = some st ∧
        (s.world.statement p).state = .row ∧
        (s.world.statement p).HasColumn index ∧
        v.IsUtf8 ∧ E.Shows s.world.engine st index v
  values : ∀ (R : Row) l,
    (R.values.run s).1 = .ok l →
      ∃ p st, s.world.placeOf R = some p ∧
        (s.world.statement p).handle = some st ∧
        l.length =
          (s.world.statement p).columnNames.length ∧
        ∀ (i : Nat) v, l[i]? = some v → v.IsUtf8 ∧
          ∃ u, s.Consulted u ∧
            E.Shows u.world.engine st (i : Int) v

/-
  After any operations on any engine, a value that is bound
  reaches the engine, and what the engine shows is the value
  that is read.
-/
theorem values_roundTrip
    (engine : E.State)
    (patience : Nat)
    (log : Log)
    (ops : List Operation) :
    ((start engine patience log).runAll ops).2.RoundTrips where
  bound p index st v hUtf8 hState hFirst hLast hHandle
      hReset := by
    apply Statement.bindValue_handsOver hUtf8 hHandle ?_ hReset
    refine ⟨by simp [hHandle], ?_, hFirst, hLast⟩
    rcases hState with hReady | hDone
    · simp [hReady]
    · simp [hDone]
  read _ _ _ := Statement.columnValue_eq_ok_iff
  values _ _ hRun := Row.values_shown (Prod.ext hRun rfl)

/-
  An engine with one statement, whose row shows what its two
  parameters were given.
-/
def echoEngine : Engine.scripted.State :=
  ({ script :=
      { programs :=
          [{ sql := Bytes.ascii "S"
             columns := [(none, none), (none, none)]
             parameters := [none, none]
             runs :=
              [{ outcomes :=
                  [{ ending := .row [.parameter 1,
                      .parameter 2] }] }] }] } } :
    Scripted.State)

/- Open a connection, and prepare that statement. -/
def echoPrepared : List Operation :=
  [.openConnection 0 []
      { foreignKeys := false, strictQuoting := false },
    .prepare 0 0 (Bytes.ascii "S")]

/- Bind an empty blob and a null to it, and fetch the row. -/
def echoFetched : List Operation :=
  echoPrepared ++
    [.statement 0 (.bind 1 (.typed .blob [])),
      .statement 0 (.bind 2 .null), .fetch 0 0]

/-
  An empty blob is handed over as one and read as one, beside
  a null.
-/
theorem values_roundTrip_emptyBlob :
    let s := ((start echoEngine 10 {}).runAll echoPrepared).2
    let t := ((start echoEngine 10 {}).runAll echoFetched).2
    s.HandsOver (.slot 0) 1 (.blob []) ∧
      ((Statement.columnValue (.slot 0) 0).run t).1 =
        .ok (.blob []) ∧
      ((Statement.columnValue (.slot 0) 1).run t).1 =
        .ok .null ∧
      ∃ R, t.world.rows.get? 0 = some R ∧
        (R.values.run t).1 = .ok [.blob [], .null] ∧
        ∃ u, t.Consulted u ∧
          Engine.scripted.Shows u.world.engine
            { number := 1, database := { number := 1 } } 0
            (.blob []) := by
  intro s t
  let st : StatementHandle :=
    { number := 1, database := { number := 1 } }
  have hBefore :=
    values_roundTrip echoEngine 10 {} echoPrepared
  have hAfter := values_roundTrip echoEngine 10 {} echoFetched
  have hHandle : (t.world.statement (.slot 0)).handle =
      some st := by
    decide +kernel
  have hRow : (t.world.statement (.slot 0)).state = .row := by
    decide +kernel
  refine ⟨?bound, ?blob, ?null, ?row⟩
  case bound =>
    exact hBefore.bound (.slot 0) 1 st (.blob []) trivial
      (.inl (by decide +kernel)) (by decide +kernel)
      (by decide +kernel) (by decide +kernel)
      (by decide +kernel)
  case blob =>
    apply (hAfter.read (.slot 0) 0 (.blob [])).mpr
    exact ⟨st, hHandle, hRow,
      ⟨by decide +kernel, by decide +kernel⟩, trivial,
      by decide +kernel, by decide +kernel⟩
  case null =>
    apply (hAfter.read (.slot 0) 1 .null).mpr
    exact ⟨st, hHandle, hRow,
      ⟨by decide +kernel, by decide +kernel⟩, trivial,
      by decide +kernel, trivial⟩
  case row =>
    have hThere : (t.world.rows.get? 0).isSome := by
      decide +kernel
    rcases Option.isSome_iff_exists.mp hThere with ⟨R, hR⟩
    have hValues : (t.world.rows.get? 0).map
        (fun R => (R.values.run t).1) =
          some (.ok [.blob [], .null]) := by
      decide +kernel
    rw [hR, Option.map_some] at hValues
    have hRead := Option.some.inj hValues
    rcases hAfter.values R _ hRead with
      ⟨p, st', hPlace, hOwn, -, hShown⟩
    rcases hShown 0 (.blob []) rfl with ⟨-, u, hLater, hShows⟩
    have hSlot : t.world.placeOf R = some (.slot 0) := by
      have hAll : (t.world.rows.get? 0).bind t.world.placeOf =
          some (.slot 0) := by
        decide +kernel
      rw [hR] at hAll
      exact hAll
    cases hPlace.symm.trans hSlot
    cases hOwn.symm.trans hHandle
    exact ⟨R, hR, hRead, u, hLater, hShows⟩

end Session

end SqliteAccess
