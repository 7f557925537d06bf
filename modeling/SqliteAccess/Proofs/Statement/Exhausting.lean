import SqliteAccess.Proofs.Session.Patience
import SqliteAccess.Proofs.Statement.Mirroring
import SqliteAccess.Proofs.Statement.Running

/-
  How a statement is run whose rows come to an end.

  It is stepped until an answer is no row, and is reset if
  that answer says that it is done.  If the engine has
  finitely many rows for it, there is a patience from which on
  it is always run in this way.

  Key definitions include:
    * `Statement.executeIn`
    * `Statement.Exhausted`

  The statements are characterized by:
    * `Statement.execute_run`
    * `Statement.executeIn_did`
    * `Statement.executeIn_settles`
    * `Statement.prepare_patience`
-/

namespace SqliteAccess

variable {E : Engine} {s : Session E} {p : Place}
variable {c : ConnectionId} {st : StatementHandle}
variable {r : Statement}

namespace Statement

open Attempt

------------------------------------------------------------
-- Running With a Number of Steps
------------------------------------------------------------

/- Run a statement to its end within a number of steps. -/
def executeIn
    (p : Place)
    (n : Nat) : Attempt E Int := do
  let st ← requireHandle p "execute"
  drain p n
  let changed : Int ←
    lift (Quiet.invoke (.changes st.database))
  rewind p st
  return changed

/- A statement is executed within the patience. -/
theorem execute_run (p : Place) (s : Session E) :
    (execute p).run s =
      (executeIn p s.world.patience).run s := by
  unfold execute executeIn
  cases hHandle : (s.world.statement p).handle with
  | some st =>
      have hRun := requireHandle_of_some hHandle "execute"
      rw [run_bind_of_ok hRun, run_bind_of_ok hRun, run_read]
  | none =>
      have hRun : ∃ e,
          (requireHandle p "execute").run s =
            (.error e, s) := by
        unfold requireHandle lookup
        rw [run_read, hHandle]
        exact ⟨_, rfl⟩
      rcases hRun with ⟨e, hRun⟩
      rw [run_bind_of_error hRun, run_bind_of_error hRun]

theorem executeIn_mirrors
    {m : Mirror}
    (hUses : m.Uses p)
    (n : Nat) :
    Attempt.Mirrors (E := E) m Eq (executeIn p n)
      (executeIn (m.place p) n) := by
  apply Attempt.Mirrors.andThen
    (requireHandle_mirrors hUses _)
  intro st
  apply Attempt.Mirrors.andThen (drain_mirrors hUses n)
  intro _
  apply Attempt.Mirrors.andThen (.invoke _)
  intro changed
  apply Attempt.Mirrors.andThen (rewind_mirrors hUses st)
  exact fun _ => .pure rfl

------------------------------------------------------------
-- Calls
------------------------------------------------------------

/-
  The ways in which a statement is stepped over all of its
  rows, each with the calls, the latest first.  It gets stuck,
  or it is reset once it is done.
-/
inductive Exhausted
    (st : StatementHandle) : Bool → Trace → Prop where
  | stuck {rows code}
      (hRow : code ≠ ResultCode.row)
      (hDone : code ≠ ResultCode.done) :
      Exhausted st false
        (⟨.step st, code⟩ ::
          List.replicate rows ⟨.step st, ResultCode.row⟩)
  | rewound {rows code ok}
      (hCode : ok = true ↔ code = ResultCode.ok) :
      Exhausted st ok
        (⟨.reset st, code⟩ :: ⟨.step st, ResultCode.done⟩ ::
          List.replicate rows ⟨.step st, ResultCode.row⟩)

/-
  A statement that is not given up is stepped over its rows,
  up to the first answer that is none.
-/
theorem drain_exhausts
    (hStands : s.Stands p c st r)
    (hState : r.state ≠ .done)
    (hFailed : r.stepFailed = false)
    (n : Nat)
    (hEnds : ((drain p n).run s).1 ≠ .error .endless) :
    ∃ rows code r',
      s.Did
        (⟨.step st, code⟩ ::
          List.replicate rows ⟨.step st, ResultCode.row⟩)
        ((drain p n).run s).2 ∧
      ((drain p n).run s).2.Stands p c st r' ∧
      (((drain p n).run s).1 = .ok () ∧
          code = ResultCode.done ∧ r'.stepFailed = false ∨
        (∃ e, ((drain p n).run s).1 = .error e) ∧
          code ≠ ResultCode.row ∧ code ≠ ResultCode.done) := by
  induction n generalizing s r with
  | zero => exact absurd rfl hEnds
  | succ n ih =>
      rcases step_did hStands hState with
        ⟨code, hDid, hStands', hStep⟩
      unfold drain at hEnds ⊢
      rcases hRun : (step p).run s with ⟨result, t⟩
      rw [hRun] at hDid hStands' hStep
      rcases hStep with ⟨rfl, rfl⟩ | ⟨rfl, rfl⟩ |
        ⟨hRow, hDone, e, rfl⟩
      · rw [run_bind_of_ok hRun, if_pos rfl] at hEnds ⊢
        have hOnRow :
            (r.stepped ResultCode.row).state ≠ .done := by
          intro hDone
          cases hDone
        rcases ih hStands' hOnRow hFailed hEnds with
          ⟨rows, code, r', hLater, hLast, hHow⟩
        refine ⟨rows + 1, code, r', ?_, hLast, hHow⟩
        rw [List.replicate_succ']
        exact hDid.trans hLater
      · rw [run_bind_of_ok hRun]
        exact ⟨0, _, _, hDid, hStands',
          .inl ⟨rfl, rfl, hFailed⟩⟩
      · rw [run_bind_of_error hRun]
        exact ⟨0, code, _, hDid, hStands',
          .inr ⟨⟨e, rfl⟩, hRow, hDone⟩⟩

/-
  Running a statement that is not given up is one of the ways
  in which it is stepped over its rows.
-/
theorem executeIn_did
    (hStands : s.Stands p c st r)
    (hState : r.state ≠ .done)
    (hFailed : r.stepFailed = false)
    (n : Nat)
    (hEnds : ((executeIn p n).run s).1 ≠ .error .endless) :
    ∃ l r', s.Did l ((executeIn p n).run s).2 ∧
      ((executeIn p n).run s).2.Stands p c st r' ∧
      Exhausted st ((executeIn p n).run s).1.isOk l := by
  unfold executeIn at hEnds ⊢
  rw [run_bind_of_ok (hStands.requireHandle _)] at hEnds ⊢
  rcases hRun : (drain p n).run s with ⟨result, t⟩
  rcases drain_exhausts hStands hState hFailed n
    (first_ends hEnds) with
    ⟨rows, code, r', hDid, hStands', hHow⟩
  rw [hRun] at hDid hStands' hHow
  rcases hHow with ⟨rfl, rfl, hFresh⟩ | ⟨⟨e, rfl⟩, hRow, hDone⟩
  · let asked := (Quiet.invoke (.changes st.database) t).2
    have hAsked : t.Consulted asked := .asked rfl t
    rcases rewind_did (hStands'.of_consulted hAsked) hFresh with
      ⟨code, hReset, hLast, hCode⟩
    rw [run_bind_of_ok hRun, run_bind_of_ok (run_lift _ t)]
    have hAll := hDid.trans
      ((Session.Did.of_consulted hAsked).trans hReset)
    rcases hRewound : (rewind p st).run asked with ⟨result, u⟩
    rw [hRewound] at hLast hCode hAll
    cases result with
    | error e =>
        rw [run_bind_of_error hRewound]
        exact ⟨_, _, hAll, hLast, .rewound hCode⟩
    | ok _ =>
        rw [run_bind_of_ok hRewound]
        exact ⟨_, _, hAll, hLast, .rewound hCode⟩
  · rw [run_bind_of_error hRun]
    exact ⟨_, r', hDid, hStands', .stuck hRow hDone⟩

------------------------------------------------------------
-- Giving Up
------------------------------------------------------------

theorem settle_finishes
    (p : Place)
    (st : StatementHandle)
    (code : ResultCode) :
    Attempt.Finishes (E := E) (settle p st code) := by
  apply Attempt.Finishes.bind (.lift _)
  intro _
  apply Attempt.Finishes.ite (.pure _)
  apply Attempt.Finishes.ite (.pure _)
  apply Attempt.Finishes.bind (.lift _)
  intro s
  exact .bind (.lift _) fun e => .fail e

theorem rewind_finishes
    (p : Place)
    (st : StatementHandle) :
    Attempt.Finishes (E := E) (rewind p st) := by
  apply Attempt.Finishes.bind (.lift _)
  intro s
  apply Attempt.Finishes.bind (.lift _)
  intro code
  apply Attempt.Finishes.bind (.lift _)
  intro _
  exact .ite (check_finishes _ _ _ _) (.pure ())

theorem keep_finishes
    (p : Place)
    (c : ConnectionId)
    (db : DatabaseHandle)
    (sql : Bytes)
    (compiled : StatementHandle × PrepareAnswer) :
    Attempt.Finishes (E := E)
      (keep p c db sql compiled) := by
  rcases compiled with ⟨st, answer⟩
  apply Attempt.Finishes.ite
  · apply Attempt.Finishes.bind (.lift _)
    intro e
    apply Attempt.Finishes.ite
    · exact .bind (.lift _) fun _ => .failed e
    · exact .failed e
  · apply Attempt.Finishes.bind (.require _ _)
    intro _
    apply Attempt.Finishes.bind (.lift _)
    intro issued
    apply Attempt.Finishes.bind (.lift _)
    exact fun s => .lift _

/- Compiling is never given up. -/
theorem prepare_finishes
    (c : ConnectionId)
    (p : Place)
    (sql : Bytes) :
    Attempt.Finishes (E := E) (prepare c p sql) := by
  rw [prepare_eq]
  apply Attempt.Finishes.bind
  · apply Attempt.Finishes.bind (.lift _)
    intro conn
    cases conn.handle with
    | some db => exact .pure db
    | none => exact .fail _
  · intro db
    apply Attempt.Finishes.bind (.accept _)
    intro _
    exact .bind (.lift _) fun _ => keep_finishes p c db sql _

/- It has no influence on the patience. -/
theorem prepare_patience
    (c : ConnectionId)
    (sql : Bytes)
    (s : Session E) :
    ((prepare c .scratch sql).run s).2.world.patience =
      s.world.patience :=
  ((prepare_mirrors (p := .scratch) trivial c sql).sessions
    s.mirrors_self).2.world.patience

/- After a row, stepping goes on with one step less. -/
theorem drain_succ_of_row
    {t : Session E}
    (hStep : (step p).run s = (.ok .row, t))
    (n : Nat) :
    (drain p (n + 1)).run s = (drain p n).run t :=
  (run_bind_of_ok hStep).trans (by rw [if_pos rfl])

/- After any other answer, it ends. -/
theorem drain_succ_of_end
    (hRow : ((step p).run s).1 ≠ .ok .row)
    (n : Nat) :
    (drain p (n + 1)).run s =
      (((step p).run s).1.map fun _ => (),
        ((step p).run s).2) := by
  unfold drain
  rcases hRun : (step p).run s with ⟨result, t⟩
  rw [hRun] at hRow
  cases result with
  | error e => exact run_bind_of_error hRun
  | ok found =>
      rw [run_bind_of_ok hRun]
      cases found with
      | row => exact absurd rfl hRow
      | completed => rfl

/-
  Stepping over finitely many rows comes to an end, and more
  patience changes nothing.
-/
theorem drain_settles
    (hStands : s.Stands p c st r)
    (hState : r.state ≠ .done)
    (hRows : E.Exhausts st s.world.engine) :
    ∃ m, ((drain p m).run s).1 ≠ .error .endless ∧
      ∀ n, m ≤ n → (drain p n).run s = (drain p m).run s := by
  generalize hEngine : s.world.engine = e at hRows
  induction hRows generalizing s r with
  | step _ ih =>
      subst hEngine
      let code : ResultCode := (Quiet.invoke (.step st) s).1
      let heard := (Quiet.invoke (.step st) s).2
      have hRun : (step p).run s =
          (settle p st code).run heard :=
        step_run hStands hState
      by_cases hRow : code = ResultCode.row
      · let t := (Quiet.update
          (World.modifyStatement p (·.stepped code)) heard).2
        have hStep : (step p).run s = (.ok .row, t) := by
          rw [hRun]
          unfold settle
          rw [run_bind_of_ok (run_lift _ heard), if_pos hRow]
          rfl
        have hStands' : t.Stands p c st (r.stepped code) :=
          (hStands.call (.step st)).modify
            (r.stepped_refers code).1
            (r.stepped_refers code).2
        have hOnRow : (r.stepped code).state ≠ .done := by
          simp [stepped, hRow]
        have hEngine : t.world.engine =
            (E.answer (.step st) s.world.engine).2 := by
          show (World.modifyStatement p _ _).engine = _
          rw [World.modifyStatement_eq]
          rfl
        rcases ih hRow hStands' hOnRow hEngine with
          ⟨m, hEnds, hSame⟩
        refine ⟨m + 1, ?_, fun n hMore => ?_⟩
        · rw [drain_succ_of_row hStep]
          exact hEnds
        · rcases Nat.exists_eq_add_of_le' hMore with ⟨k, rfl⟩
          rw [← Nat.add_assoc, drain_succ_of_row hStep,
            drain_succ_of_row hStep]
          exact hSame _ (Nat.le_add_left m k)
      · have hOther : ((step p).run s).1 ≠ .ok .row := by
          intro hResult
          rw [hRun] at hResult
          rcases settle_result p st code heard with
            ⟨_, hCode⟩ | ⟨hOk, _⟩ | ⟨e, hError, _⟩
          · exact hRow hCode
          · rw [hResult] at hOk
            cases hOk
          · rw [hResult] at hError
            cases hError
        refine ⟨1, ?_, fun n hMore => ?_⟩
        · have hEnds := settle_finishes p st code heard
          rw [← hRun] at hEnds
          rw [drain_succ_of_end hOther]
          intro hEndless
          apply hEnds
          revert hEndless
          cases ((step p).run s).1 with
          | ok _ => exact nofun
          | error e =>
              intro hEndless
              cases hEndless
              rfl
        · rcases Nat.exists_eq_add_of_le' hMore with ⟨k, rfl⟩
          rw [drain_succ_of_end hOther,
            drain_succ_of_end hOther]

/- So does running a statement that has finitely many rows. -/
theorem executeIn_settles
    (hStands : s.Stands p c st r)
    (hState : r.state ≠ .done)
    (hRows : E.Exhausts st s.world.engine) :
    ∃ m, ((executeIn p m).run s).1 ≠ .error .endless ∧
      ∀ n, m ≤ n →
        (executeIn p n).run s = (executeIn p m).run s := by
  rcases drain_settles hStands hState hRows with
    ⟨m, hEnds, hSame⟩
  have hRest : Attempt.Finishes (E := E)
      (lift (Quiet.invoke (.changes st.database)) >>=
        fun changed => rewind p st >>= fun _ =>
          pure changed) :=
    .bind (.lift _) fun _ =>
      .bind (rewind_finishes p st) fun _ => .pure _
  have hRun : ∀ n, (executeIn p n).run s =
      (drain p n >>= fun _ =>
        lift (Quiet.invoke (.changes st.database)) >>=
          fun changed => rewind p st >>= fun _ =>
            pure changed).run s :=
    fun n => run_bind_of_ok (hStands.requireHandle _)
  refine ⟨m, ?_, fun n hMore => ?_⟩
  · rw [hRun]
    exact bind_ends hEnds fun _ => hRest
  · rw [hRun, hRun, run_bind, run_bind, hSame n hMore]

end Statement

end SqliteAccess
