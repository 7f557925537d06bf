import SqliteAccess.Proofs.Operation.Moving
import SqliteAccess.Proofs.Statement.Described
import SqliteAccess.Proofs.Statement.RoundTrip

/-
  A row is read alike, however it is read.

  What an engine shows in a column decides what is read there,
  whether that is a value or an error.  So on an engine that
  goes on showing the same while a cursor rests on a row, the
  statement of the cursor and its rows are read in any way and
  any order with one result, until the cursor is moved.

  Key definitions include:
    * `Engine.ShowsAlike`
    * `Session.KeepsShowing`
    * `Session.SameRow`
    * `Row.ReadsAs`
    * `Session.ReadsAs`

  The reads are characterized by:
    * `Statement.readColumn_eq_error`
    * `Statement.readColumn_congr`
    * `Session.SameRow.readColumns_eq_ok`
    * `Session.SameRow.readColumns_eq_error`
    * `Session.SameRow.readsAs`
    * `Session.alike_of_handle`
    * `Session.row_reads_agree`
-/

namespace SqliteAccess

variable {E : Engine} {p q : Place} {st : StatementHandle}
variable {index : Int} {s t : Session E}

open Attempt

------------------------------------------------------------
-- What a Column Shows
------------------------------------------------------------

/- A check as the caller learns of it. -/
def Refusal.raised
    {α : Type}
    (check : Except Refusal α) : Except Failure α :=
  check.mapError fun r => .database r.error

theorem Attempt.run_accept
    {α : Type}
    (check : Except Refusal α)
    (s : Session E) :
    (accept check).run s = (Refusal.raised check, s) := by
  cases check <;> rfl

/- Whether an engine shows the same in a column as before. -/
def Engine.ShowsAlike
    (E : Engine)
    (st : StatementHandle)
    (index : Int)
    (before after : E.State) : Prop :=
  ∀ v, E.Shows after st index v ↔ E.Shows before st index v

/- An engine that answers as another one does in a state. -/
def Engine.frozen
    (E : Engine)
    (e : E.State) : Engine where
  State := Unit
  describe := E.describe
  answer c _ := ((E.answer c e).1, ())

namespace Statement

/-
  A text is not read because it is not UTF-8, or because there
  is none and no memory for it either.
-/
theorem readText_eq_error
    {e : Failure}
    (hRun : ((readText p st index).run s).1 = .error e) :
    (∃ t, E.ShowsText s.world.engine st index t ∧
        Utf8.isValid t = false ∧
        e = .database (Refusal.columnUtf8 index).error) ∨
      (∀ t, ¬ E.ShowsText s.world.engine st index t) ∧
        e = .database (Refusal.columnMemory index
          (s.world.statement p).sql).error := by
  unfold readText at hRun
  rw [run_bind_of_ok (run_lift _ s)] at hRun
  unfold Engine.ShowsText
  unfold Quiet.invoke at hRun
  revert hRun
  rcases E.answer (.columnText st index) s.world.engine with
    ⟨answer, engine⟩
  intro hRun
  cases answer with
  | some t =>
      left
      cases hValid : Utf8.isValid t with
      | true =>
          rw [run_bind_of_ok
            (run_require_of_true hValid _ _)] at hRun
          cases hRun
      | false =>
          rw [run_bind_of_error
            (run_require_of_false hValid _ _)] at hRun
          cases hRun
          exact ⟨t, rfl, hValid, rfl⟩
  | none =>
      right
      simp only [] at hRun
      rw [run_bind_of_ok (run_lift _ _), lookup,
        run_read] at hRun
      by_cases hMemory :
          (E.answer (.errorCode st.database) engine).1 =
            ResultCode.outOfMemory
      · rw [run_bind_of_error (run_require_of_false
          (decide_eq_false (not_not_intro hMemory)) _ _)]
          at hRun
        cases hRun
        exact ⟨fun _ hShown => hShown.2 hMemory, rfl⟩
      · rw [run_bind_of_ok (run_require_of_true
          (decide_eq_true hMemory) _ _)] at hRun
        cases hRun

/-
  A column is not read because it shows a text that is not
  UTF-8, or because it shows nothing for want of memory.
-/
theorem readColumn_eq_error
    {e : Failure}
    (hRun : ((readColumn p st index).run s).1 = .error e) :
    (∃ t, E.Shows s.world.engine st index (.text t) ∧
        Utf8.isValid t = false ∧
        e = .database (Refusal.columnUtf8 index).error) ∨
      (∀ v, ¬ E.Shows s.world.engine st index v) ∧
        e = .database (Refusal.columnMemory index
          (s.world.statement p).sql).error := by
  unfold readColumn at hRun
  rw [run_bind_of_ok (run_lift _ s)] at hRun
  unfold Engine.Shows
  unfold Quiet.invoke at hRun
  revert hRun
  rcases E.answer (.columnType st index) s.world.engine with
    ⟨type, engine⟩
  intro hRun
  simp only [] at hRun
  split at hRun
  case h_3 =>
    rcases readText_eq_error hRun with
      ⟨t, hShown, hInvalid, rfl⟩ | ⟨hNone, rfl⟩
    · exact .inl ⟨t, ⟨rfl, hShown⟩, hInvalid, rfl⟩
    · refine .inr ⟨?_, rfl⟩
      rintro v ⟨hClass, hShown⟩
      cases v with
      | text t => exact hNone t hShown
      | _ => cases hClass
  -- No other class is refused.
  all_goals cases hRun

/-
  What is read from a column depends on nothing but what the
  engine shows there.
-/
theorem readColumn_congr
    (hShows :
      E.ShowsAlike st index s.world.engine t.world.engine)
    (hSql :
      (t.world.statement q).sql = (s.world.statement p).sql) :
    ((readColumn q st index).run t).1 =
      ((readColumn p st index).run s).1 := by
  cases hBefore : ((readColumn p st index).run s).1 with
  | ok v =>
      rcases readColumn_eq_ok_iff.mp hBefore with
        ⟨hUtf8, hShown⟩
      exact readColumn_eq_ok_iff.mpr
        ⟨hUtf8, (hShows v).mpr hShown⟩
  | error e =>
      cases hAfter : ((readColumn q st index).run t).1 with
      | ok v =>
          rcases readColumn_eq_ok_iff.mp hAfter with
            ⟨hUtf8, hShown⟩
          cases hBefore.symm.trans (readColumn_eq_ok_iff.mpr
            ⟨hUtf8, (hShows v).mp hShown⟩)
      | error e' =>
          rcases readColumn_eq_error hBefore,
              readColumn_eq_error hAfter with
            ⟨⟨x, hShown, _, rfl⟩ | ⟨hNone, rfl⟩,
              ⟨y, hShown', _, rfl⟩ | ⟨hNone', rfl⟩⟩
          · rfl
          · exact absurd ((hShows _).mpr hShown) (hNone' _)
          · exact absurd ((hShows _).mp hShown') (hNone _)
          · rw [hSql]

end Statement

------------------------------------------------------------
-- Moments of One Row
------------------------------------------------------------

/- A question does not move a cursor. -/
theorem Event.isTransitionOf_of_question
    {e : Event}
    (hQuestion : e.call.isEffect = false)
    (st : StatementHandle) :
    e.isTransitionOf st = false := by
  rcases e with ⟨call, answer⟩
  cases call <;> first | rfl | cases hQuestion

namespace Session

/- What reading a column of a statement gives. -/
def columnRead
    (s : Session E)
    (p : Place)
    (index : Int) : Except Failure Value :=
  ((Statement.columnValue p index).run s).1

/-
  Whether the engine shows the same in the columns of a row
  for as long as the cursor is not moved, whatever else is
  done in the meantime.
-/
def KeepsShowing
    (s : Session E)
    (p : Place)
    (st : StatementHandle) : Prop :=
  ∀ later index,
    (s.runAll later).2.world.trace.RestsSince st
        s.world.trace →
      (s.world.statement p).HasColumn index →
        E.ShowsAlike st index s.world.engine
          (s.runAll later).2.world.engine

/- A frozen engine shows the same for ever. -/
theorem keepsShowing_frozen
    {e : E.State}
    (s : Session (E.frozen e))
    (p : Place)
    (st : StatementHandle) :
    s.KeepsShowing p st :=
  fun _ _ _ _ _ => Iff.rfl

/-
  Whether a session is a later moment of the row that the
  statement in a slot is on.  The cursor was not moved since,
  but the statement may have been moved to another slot.
-/
structure SameRow
    (s : Session E)
    (n : Nat)
    (st : StatementHandle)
    (t : Session E)
    (m : Nat) : Prop where
  later : ∃ ops, (s.runAll ops).2 = t
  rests : t.world.trace.RestsSince st s.world.trace
  handle : (t.world.statement (.slot m)).handle = some st
  state : (t.world.statement (.slot m)).state = .row
  alike :
    (s.world.statement (.slot n)).Alike
      (t.world.statement (.slot m))

variable {n m : Nat}

/- A request is carried out on the statement in a slot. -/
theorem run_statement
    (hHandle :
      (t.world.statement (.slot m)).handle = some st)
    (r : StatementRequest) :
    t.run (.statement m r) = (r.perform (.slot m)).run t := by
  rcases World.get?_of_statement_handle hHandle with
    ⟨_, hStatement, _⟩
  exact run_bind_of_ok
    (Moves.run_statementIn (by simp [hStatement]))

namespace SameRow

/- A row is a moment of itself. -/
theorem refl
    (hHandle :
      (s.world.statement (.slot n)).handle = some st)
    (hRow : (s.world.statement (.slot n)).state = .row) :
    s.SameRow n st s n :=
  ⟨⟨[], rfl⟩, ⟨[], rfl, nofun⟩, hHandle, hRow, ⟨rfl, rfl⟩⟩

theorem hasColumn_iff
    (hSame : s.SameRow n st t m) :
    (t.world.statement (.slot m)).HasColumn index ↔
      (s.world.statement (.slot n)).HasColumn index := by
  unfold Statement.HasColumn
  rw [hSame.alike.columnNames]

/- The row is still there after a column of it was read. -/
theorem afterColumn
    (hSame : s.SameRow n st t m)
    (hColumn : (s.world.statement (.slot n)).HasColumn index) :
    s.SameRow n st
      ((Statement.readColumn (.slot m) st index).run t).2
      m := by
  have hConsulted :=
    (Statement.readColumn_consults (.slot m) index
      st).consulted t
  have hStatement := hConsulted.statement (.slot m)
  rcases hSame.later with ⟨ops, hLater⟩
  constructor
  case later =>
    refine ⟨ops ++ [.statement m (.columnValue index)], ?_⟩
    rw [runAll_append, hLater]
    show (t.run (.statement m (.columnValue index))).2 = _
    rw [run_statement hSame.handle]
    refine (run_map_snd _ _ _).trans ?_
    rw [Statement.columnValue_run hSame.handle hSame.state
      (hSame.hasColumn_iff.mpr hColumn)]
  case rests =>
    rcases hConsulted with ⟨l, engine, hAfter, hQuestions⟩
    rcases hSame.rests with ⟨since, hTrace, hRests⟩
    refine ⟨l ++ since, ?_, ?_⟩
    · rw [hAfter, List.append_assoc, ← hTrace]
    · intro e hMember
      rcases List.mem_append.mp hMember with hNew | hOld
      · exact e.isTransitionOf_of_question
          (hQuestions e hNew) st
      · exact hRests e hOld
  case handle => exact hStatement ▸ hSame.handle
  case state => exact hStatement ▸ hSame.state
  case alike => exact hStatement ▸ hSame.alike

variable (hHere : s.SameRow n st s n)
variable (hKeeps : s.KeepsShowing (.slot n) st)

include hHere hKeeps

/- A column is read as it was read before. -/
theorem readColumn_eq
    (hSame : s.SameRow n st t m)
    (hColumn : (s.world.statement (.slot n)).HasColumn index) :
    ((Statement.readColumn (.slot m) st index).run t).1 =
      s.columnRead (.slot n) index := by
  rcases hSame.later with ⟨ops, rfl⟩
  have hBefore := Statement.columnValue_run hHere.handle
    hHere.state hColumn
  rw [columnRead, hBefore]
  exact Statement.readColumn_congr
    (hKeeps ops index hSame.rests hColumn) hSame.alike.sql

/- So is what no column has refused as it was. -/
theorem columnValue_eq
    (hSame : s.SameRow n st t m)
    (index : Int) :
    ((Statement.columnValue (.slot m) index).run t).1 =
      s.columnRead (.slot n) index := by
  by_cases hColumn :
      (s.world.statement (.slot n)).HasColumn index
  · rw [Statement.columnValue_run hSame.handle hSame.state
      (hSame.hasColumn_iff.mpr hColumn)]
    exact hHere.readColumn_eq hKeeps hSame hColumn
  · have hOutside : ¬ (t.world.statement
        (.slot m)).HasColumn index :=
      fun hIs => hColumn (hSame.hasColumn_iff.mp hIs)
    unfold columnRead Statement.columnValue
    rw [Statement.contents_run_outside hSame.handle
        hSame.state hOutside,
      Statement.contents_run_outside hHere.handle hHere.state
        hColumn, hSame.alike.sql, hSame.alike.columnNames]

/- All columns are read in order if each of them is. -/
theorem readColumns_eq_ok
    (first : Nat)
    {l : List Value}
    (hSame : s.SameRow n st t m)
    (hLast : first + l.length ≤
      (s.world.statement (.slot n)).columnNames.length)
    (hRead : ∀ (i : Nat) v, l[i]? = some v →
      s.columnRead (.slot n) ((first + i : Nat) : Int) =
        .ok v) :
    ((Statement.readColumns (.slot m) st first
      l.length).run t).1 = .ok l := by
  induction l generalizing first t with
  | nil => rfl
  | cons v l ih =>
      rw [List.length_cons] at hLast
      have hColumn : (s.world.statement
          (.slot n)).HasColumn (first : Int) :=
        ⟨by omega, by omega⟩
      have hFirst := (hHere.readColumn_eq hKeeps hSame
        hColumn).trans (hRead 0 v rfl)
      have hRest := ih (first + 1)
        (hSame.afterColumn hColumn) (by omega) (by
          intro i w hMember
          rw [Nat.add_right_comm]
          exact hRead (i + 1) w hMember)
      rw [List.length_cons, Statement.readColumns,
        run_bind_of_ok (Prod.ext hFirst rfl),
        run_bind_of_ok (Prod.ext hRest rfl)]
      rfl

/- Reading all columns ends with the first that fails. -/
theorem readColumns_eq_error
    (first count : Nat)
    {k : Nat}
    {e : Failure}
    (hSame : s.SameRow n st t m)
    (hInside : k < count)
    (hLast : first + count ≤
      (s.world.statement (.slot n)).columnNames.length)
    (hBefore : ∀ i < k, ∃ v,
      s.columnRead (.slot n) ((first + i : Nat) : Int) =
        .ok v)
    (hError :
      s.columnRead (.slot n) ((first + k : Nat) : Int) =
        .error e) :
    ((Statement.readColumns (.slot m) st first
      count).run t).1 = .error e := by
  induction k generalizing first count t with
  | zero =>
      rcases Nat.exists_eq_succ_of_ne_zero
        (Nat.ne_of_gt hInside) with ⟨count, rfl⟩
      have hColumn : (s.world.statement
          (.slot n)).HasColumn (first : Int) :=
        ⟨by omega, by omega⟩
      have hFirst := (hHere.readColumn_eq hKeeps hSame
        hColumn).trans hError
      rw [Statement.readColumns,
        run_bind_of_error (Prod.ext hFirst rfl)]
  | succ k ih =>
      rcases Nat.exists_eq_succ_of_ne_zero
        (Nat.ne_of_gt (Nat.zero_lt_of_lt hInside)) with
        ⟨count, rfl⟩
      rcases hBefore 0 (Nat.succ_pos k) with ⟨v, hValue⟩
      have hColumn : (s.world.statement
          (.slot n)).HasColumn (first : Int) :=
        ⟨by omega, by omega⟩
      have hFirst := (hHere.readColumn_eq hKeeps hSame
        hColumn).trans hValue
      have hRest := ih (first + 1) count
        (hSame.afterColumn hColumn) (by omega) (by omega)
        (by
          intro i hLess
          rw [Nat.add_right_comm]
          exact hBefore (i + 1) (by omega))
        (by
          rw [Nat.add_right_comm]
          exact hError)
      rw [Statement.readColumns,
        run_bind_of_ok (Prod.ext hFirst rfl),
        run_bind_of_error (Prod.ext hRest rfl)]

end SameRow

end Session

------------------------------------------------------------
-- Ways of Reading
------------------------------------------------------------

namespace Statement

/- The class of a column is that of the value in it. -/
theorem columnType_of_value
    {v : Value}
    (hValue : ((columnValue p index).run s).1 = .ok v) :
    ((columnType p index).run s).1 = .ok v.storageClass := by
  rcases columnValue_eq_ok_iff.mp hValue with
    ⟨st, hHandle, hRow, hColumn, _, hClass, _⟩
  unfold columnType
  rw [contents_run hHandle hRow hColumn, ← hClass]
  rfl

/- A column is null if the value in it is. -/
theorem columnIsNull_of_value
    {v : Value}
    (hValue : ((columnValue p index).run s).1 = .ok v) :
    ((columnIsNull p index).run s).1 =
      .ok (decide (v = .null)) := by
  have hClass := columnType_of_value hValue
  unfold columnIsNull
  rw [run_bind_of_ok (Prod.ext hClass rfl)]
  cases v <;> rfl

/- A column is read as a host type by converting its value. -/
theorem columnAs_eq
    (p : Place)
    (T : HostType)
    (index : Int)
    (s : Session E) :
    ((columnAs p T index).run s).1 =
      ((columnValue p index).run s).1 >>= fun v =>
        Refusal.raised (v.toHost T) := by
  unfold columnAs
  rcases hRun : (columnValue p index).run s with ⟨result, t⟩
  cases result with
  | error e =>
      rw [run_bind_of_error hRun]
      rfl
  | ok v =>
      rw [run_bind_of_ok hRun, run_accept]
      rfl

end Statement

namespace Row

variable {R : Row}

/- A row that can be read finds its statement. -/
theorem current_run
    (hPlace : s.world.placeOf R = some p)
    (hCurrent : s.world.isCurrent R = true) :
    R.current.run s = (.ok p, s) := by
  unfold World.isCurrent at hCurrent
  simp only [hPlace] at hCurrent
  unfold current
  rw [run_read, hPlace]
  exact run_lift_require_of_true hCurrent

/- Its values are those of all columns. -/
theorem values_run
    (hPlace : s.world.placeOf R = some p)
    (hCurrent : s.world.isCurrent R = true)
    (hHandle : (s.world.statement p).handle = some st) :
    R.values.run s =
      (Statement.readColumns p st 0
        (s.world.statement p).columnNames.length).run s := by
  have hCounted : (Statement.columnCount p).run s =
      (.ok (s.world.statement p).columnNames.length, s) := by
    unfold Statement.columnCount
    rw [run_bind_of_ok
      (Statement.requireHandle_of_some hHandle _)]
    rfl
  unfold values
  rw [run_bind_of_ok (current_run hPlace hCurrent),
    run_bind_of_ok hCounted,
    run_bind_of_ok (Statement.requireHandle_of_some hHandle _)]

/-
  Whether a row with a number of columns is read with given
  results for its columns:

    * `value`: these are what the columns are read as
    * `isNull`: a column is null if its value is
    * `getAs`: a column is read as a host type by converting
      its value, and not at all if there is none
    * `values`: all values are read if there are, in order
    * `failed`: otherwise the first error is raised
-/
structure ReadsAs
    (R : Row)
    (t : Session E)
    (count : Nat)
    (results : Int → Except Failure Value) : Prop where
  value : ∀ index, ((R.value index).run t).1 = results index
  isNull : ∀ index v, results index = .ok v →
    ((R.isNull index).run t).1 = .ok (decide (v = .null))
  getAs : ∀ T index, ((R.getAs T index).run t).1 =
    results index >>= fun v => Refusal.raised (v.toHost T)
  values : ∀ l : List Value, l.length = count →
    (∀ (i : Nat) v, l[i]? = some v → results i = .ok v) →
      (R.values.run t).1 = .ok l
  failed : ∀ k e, k < count →
    (∀ i : Nat, i < k → ∃ v, results i = .ok v) →
      results k = .error e → (R.values.run t).1 = .error e

end Row

namespace Session

/-
  Whether the row that a statement is on is read with given
  results for its columns, whoever reads it:

    * `value`: these are what the columns are read as
    * `isUtf8`: no text among them is improper
    * `storageClass`, `isNull`: the class of a column is that
      of its value
    * `typed`: a column is read as a host type, which may be
      optional, by converting its value
    * `row`: every row of the statement is read so
    * `current`, `rowCurrent`: and whatever is read, and
      however that ends, no row expires
-/
structure ReadsAs
    (t : Session E)
    (p : Place)
    (results : Int → Except Failure Value) : Prop where
  value : ∀ index, t.columnRead p index = results index
  isUtf8 : ∀ index v, results index = .ok v → v.IsUtf8
  storageClass : ∀ index v, results index = .ok v →
    ((Statement.columnType p index).run t).1 =
      .ok v.storageClass
  isNull : ∀ index v, results index = .ok v →
    ((Statement.columnIsNull p index).run t).1 =
      .ok (decide (v = .null))
  typed : ∀ T index,
    ((Statement.columnAs p T index).run t).1 =
      results index >>= fun v => Refusal.raised (v.toHost T)
  row : ∀ R, t.world.placeOf R = some p →
    t.world.isCurrent R = true →
      R.ReadsAs t (t.world.statement p).columnNames.length
        results
  current : ∀ (r : StatementRequest) R,
    r.readsColumns = true →
      ((r.perform p).run t).2.world.isCurrent R =
        t.world.isCurrent R
  rowCurrent : ∀ (r : RowRequest) R R',
    ((r.perform R).run t).2.world.isCurrent R' =
      t.world.isCurrent R'

variable {n m : Nat}

/- All moments of a row are read with the same results. -/
theorem SameRow.readsAs
    (hHere : s.SameRow n st s n)
    (hKeeps : s.KeepsShowing (.slot n) st)
    (hSame : s.SameRow n st t m) :
    t.ReadsAs (.slot m) (s.columnRead (.slot n)) := by
  have hValue : ∀ index, t.columnRead (.slot m) index =
      s.columnRead (.slot n) index :=
    hHere.columnValue_eq hKeeps hSame
  have hTyped : ∀ T index,
      ((Statement.columnAs (.slot m) T index).run t).1 =
        s.columnRead (.slot n) index >>= fun v =>
          Refusal.raised (v.toHost T) := by
    intro T index
    rw [← hValue]
    exact Statement.columnAs_eq (.slot m) T index t
  constructor
  case value => exact hValue
  case isUtf8 =>
    intro index v hRead
    rcases Statement.columnValue_eq_ok_iff.mp hRead with
      ⟨_, _, _, _, hUtf8, _⟩
    exact hUtf8
  case storageClass =>
    intro index v hRead
    exact Statement.columnType_of_value
      ((hValue index).trans hRead)
  case isNull =>
    intro index v hRead
    exact Statement.columnIsNull_of_value
      ((hValue index).trans hRead)
  case typed => exact hTyped
  case row =>
    intro R hPlace hCurrent
    have hFound := Row.current_run hPlace hCurrent
    have hValues := Row.values_run hPlace hCurrent hSame.handle
    have hNames := hSame.alike.columnNames
    constructor
    case value =>
      intro index
      unfold Row.value
      rw [run_bind_of_ok hFound]
      exact hValue index
    case isNull =>
      intro index v hRead
      unfold Row.isNull
      rw [run_bind_of_ok hFound]
      exact Statement.columnIsNull_of_value
        ((hValue index).trans hRead)
    case getAs =>
      intro T index
      unfold Row.getAs
      rw [run_bind_of_ok hFound]
      exact hTyped T index
    case values =>
      intro l hLength hRead
      rw [hValues, ← hLength]
      apply hHere.readColumns_eq_ok hKeeps 0 hSame
      · rw [Nat.zero_add, hLength, hNames]
      · intro i v hMember
        rw [Nat.zero_add]
        exact hRead i v hMember
    case failed =>
      intro k e hInside hBefore hError
      rw [hValues]
      apply hHere.readColumns_eq_error hKeeps 0 _ hSame
        hInside
      · rw [Nat.zero_add, hNames]
      · intro i hLess
        rw [Nat.zero_add]
        exact hBefore i hLess
      · rw [Nat.zero_add]
        exact hError
  case current =>
    intro r R hReads
    exact ((r.perform_consults hReads (.slot m)).consulted
      t).isCurrent R
  case rowCurrent =>
    intro r R R'
    exact ((r.perform_consults R).consulted t).isCurrent R'

------------------------------------------------------------
-- Sessions
------------------------------------------------------------

variable {h : List StatementHandle}

/- A cursor rests if the count of its moves does. -/
theorem restsSince_of_transitions
    (later : List Operation)
    (hSound : Sound (s.rest h))
    (hCount :
      (s.runAll later).2.world.trace.transitions st =
        s.world.trace.transitions st) :
    (s.runAll later).2.world.trace.RestsSince st
      s.world.trace :=
  (Trace.restsSince_iff
    (runAll_steps later hSound).trace_suffix).mpr hCount

/-
  A compiled statement tells the same about itself for as long
  as it lives, wherever it is moved.
-/
theorem alike_of_handle
    {later : List Operation}
    (hSound : Sound (s.rest h))
    (hHandle : (s.world.statement p).handle = some st)
    (hOwn :
      ((s.runAll later).2.world.statement q).handle =
        some st) :
    (s.world.statement p).Alike
      ((s.runAll later).2.world.statement q) := by
  have hSteps := runAll_steps later hSound
  have hLater := hSteps.sound hSound
  rcases World.get?_of_statement_handle hHandle with
    ⟨d, hStatement, hCursor⟩
  rcases World.get?_of_statement_handle hOwn with
    ⟨d', hStatement', hCursor'⟩
  rcases Option.ne_none_iff_exists'.mp
      (hSound.anchored.present hStatement (by simp [hCursor]))
    with ⟨a, hToken⟩
  have hDescribes : (s.rest h).world.Describes a d := by
    constructor
    case issued =>
      exact hSound.anchored.numbered
        (hSound.anchored.pointed hStatement hToken)
    case told =>
      intro q r hOther hToken'
      cases hSound.anchored.unique hStatement hToken hOther
        hToken'
      cases hStatement.symm.trans hOther
      exact ⟨rfl, rfl⟩
  -- The cursor keeps the token, and the token what is told.
  have hTies := Steps.ties hSound
    (hSound.ties_of_get? hStatement hCursor hToken) hSteps
  rcases hTies.tied.held
      (hLater.linked.alive hStatement' hCursor') with
    ⟨q', r, hHolder, hCursor'', hToken'⟩
  cases hLater.linked.unique hStatement' hCursor' hHolder
    hCursor''
  cases hStatement'.symm.trans hHolder
  rw [World.statement_of_get? hStatement,
    World.statement_of_get? hStatement']
  exact (hSteps.describes hDescribes).told _ _ hHolder hToken'

/- A statement stays on its row while its cursor rests. -/
theorem row_of_rests
    {later : List Operation}
    (hSound : Sound (s.rest h))
    (hHandle : (s.world.statement p).handle = some st)
    (hRow : (s.world.statement p).state = .row)
    (hRests :
      (s.runAll later).2.world.trace.RestsSince st
        s.world.trace)
    (hOwn :
      ((s.runAll later).2.world.statement q).handle =
        some st) :
    ((s.runAll later).2.world.statement q).state = .row := by
  have hLater := (runAll_steps later hSound).sound hSound
  rcases World.get?_of_statement_handle hHandle with
    ⟨d, hStatement, hCursor⟩
  rcases World.get?_of_statement_handle hOwn with
    ⟨d', hStatement', hCursor'⟩
  have hBefore := hSound.linked.follows hStatement hCursor
  have hAfter := hLater.linked.follows hStatement' hCursor'
  have hState := hRests.stateOf
    (hLater.lawful.statements st)
    (Lifetime.births_ne_zero_of_alive
      (hSound.linked.alive hStatement hCursor))
  rw [World.statement_of_get? hStatement] at hRow
  rw [World.statement_of_get? hStatement']
  exact (hAfter.state.symm.trans hState).trans
    (hBefore.state.trans hRow)

/-
  On every engine that goes on showing the same in a row: as
  long as its cursor is not moved, the row is read with the
  results of its first reading, in all ways of reading it and
  whatever is done in between.
-/
theorem row_reads_agree
    (engine : E.State)
    (patience : Nat)
    (log : Log)
    (before later : List Operation)
    (n m : Nat)
    (s t : Session E)
    (hBefore :
      ((start engine patience log).runAll before).2 = s)
    (hLater : (s.runAll later).2 = t)
    (hHandle :
      (s.world.statement (.slot n)).handle = some st)
    (hRow : (s.world.statement (.slot n)).state = .row)
    (hKeeps : s.KeepsShowing (.slot n) st)
    (hRests : t.world.trace.RestsSince st s.world.trace)
    (hOwn :
      (t.world.statement (.slot m)).handle = some st) :
    t.ReadsAs (.slot m) (s.columnRead (.slot n)) := by
  subst hBefore hLater
  have hSound := reachable_sound engine patience log before
  have hSame : SameRow _ n st _ m :=
    ⟨⟨later, rfl⟩, hRests, hOwn,
      row_of_rests hSound hHandle hRow hRests hOwn,
      alike_of_handle hSound hHandle hOwn⟩
  exact SameRow.readsAs (.refl hHandle hRow) hKeeps hSame

/- A statement whose rows are a number and an improper text. -/
def improperCursor : Scripted.Cursor :=
  let cells : List Cell :=
    [.value (.integer 7), .value (.text [255])]
  { program :=
      { sql := Bytes.ascii "S"
        columns := [(none, none), (none, none)] }
    text := Bytes.ascii "S"
    outcomes := [{ ending := .row cells }]
    row := cells }

/- An engine whose only statement is that one, on a row. -/
def frozenEngine : Engine :=
  Engine.scripted.frozen
    ({ script := { programs := [improperCursor.program] }
       cursors := .put {} ⟨1, ⟨1⟩⟩ improperCursor } :
      Scripted.State)

/- The session of the frozen engine that is on the row. -/
def frozenSession : Session frozenEngine :=
  ((start (E := frozenEngine) () 10 {}).runAll
    oneRowFetched).2

/- Fail to read the row, and move its statement. -/
def rowReread : List Operation :=
  [.row 0 .values, .moveStatement 0 1]

/- A row is read alike after a failure and a move. -/
theorem row_reads_agree_moved :
    ∃ st,
      (frozenSession.world.statement (.slot 0)).handle =
          some st ∧
      (frozenSession.world.statement (.slot 0)).state =
          .row ∧
      frozenSession.KeepsShowing (.slot 0) st ∧
      (frozenSession.runAll rowReread).2.world.trace.RestsSince
        st frozenSession.world.trace ∧
      ((frozenSession.runAll rowReread).2.world.statement
        (.slot 1)).handle = some st ∧
      (frozenSession.columnRead (.slot 0) 1).toOption = none ∧
      (frozenSession.runAll rowReread).2.ReadsAs (.slot 1)
        (frozenSession.columnRead (.slot 0)) := by
  have hRow :
      (frozenSession.world.statement (.slot 0)).state =
        .row := by
    decide +kernel
  have hFails :
      (frozenSession.columnRead (.slot 0) 1).toOption =
        none := by
    decide +kernel
  have hOwn :
      (frozenSession.world.statement (.slot 0)).handle.any
        (fun st =>
          decide (((frozenSession.runAll
              rowReread).2.world.statement
                (.slot 1)).handle = some st) &&
            decide ((frozenSession.runAll
                rowReread).2.world.trace.transitions st =
              frozenSession.world.trace.transitions st)) =
        true := by
    decide +kernel
  rcases (Option.any_eq_true _ _).mp hOwn with
    ⟨st, hHandle, hMoved⟩
  simp only [Bool.and_eq_true, decide_eq_true_eq] at hMoved
  have hKeeps := keepsShowing_frozen frozenSession
    (.slot 0) st
  have hRests := restsSince_of_transitions
    (s := frozenSession) rowReread
    (reachable_sound _ _ _ _) hMoved.2
  exact ⟨st, hHandle, hRow, hKeeps, hRests, hMoved.1, hFails,
    row_reads_agree (E := frozenEngine) () 10 {}
      oneRowFetched rowReread 0 1 frozenSession
      (frozenSession.runAll rowReread).2 rfl rfl hHandle hRow
      hKeeps hRests hMoved.1⟩

end Session

end SqliteAccess
