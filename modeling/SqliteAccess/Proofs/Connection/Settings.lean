import SqliteAccess.Connection.Settings
import SqliteAccess.Proofs.Session.Leads

/-
  Settings of connections, step by step.  Whatever is set or
  asked changes no object.

  The programs are characterized by:
    * `Connection.askOpen_leads`
    * `Connection.setConfig_leads`
    * `Connection.setBusyTimeout_leads`
    * `Connection.setExtendedCodes_leads`
-/

namespace SqliteAccess

variable {E : Engine} {β : Type} {A : Part → Prop}
variable {g : Stage E} {c : ConnectionId}

------------------------------------------------------------
-- Open Connections
------------------------------------------------------------

/- The handle of an open connection, or a refusal. -/
theorem Attempt.Leads.requireOpen
    {operation : String}
    {k : DatabaseHandle → Attempt E β}
    {Q : β → Stage E → Prop}
    {F : Stage E → Prop}
    (hOpen : ∀ conn db,
      g.world.connections.get? c = some conn →
        conn.handle = some db →
          Leads A g g.world (k db) Q F)
    (hClosed : F g) :
    Leads A g g.world
      (Connection.requireOpen c operation >>= k) Q F := by
  apply bind
  unfold Connection.requireOpen
  apply read
  cases hHandle : (g.world.connection c).handle with
  | none => exact refuse hClosed
  | some db =>
      rcases World.get?_of_connection_handle hHandle with
        ⟨conn, hConnection, hOwn⟩
      exact pure (hOpen conn db hConnection hOwn)

namespace Connection

open Attempt

------------------------------------------------------------
-- Questions
------------------------------------------------------------

/- A question to the database of an open connection. -/
theorem askOpen_leads
    {operation : String}
    (call : DatabaseHandle → Call)
    {k : (db : DatabaseHandle) → (call db).Answer →
      Attempt E β}
    (hCall : ∀ db, (call db).ofDatabase? = some db)
    (h : ∀ db answer engine,
      g.world.Opens db →
        Leads A (g.heard ⟨call db, answer⟩ engine)
          (g.heard ⟨call db, answer⟩ engine).world
          (k db answer) (fun _ => g.Asked) g.Asked) :
    Leads A g g.world
      (requireOpen c operation >>= fun db =>
        lift (Quiet.invoke (call db)) >>= k db)
      (fun _ => g.Asked) g.Asked := by
  apply Leads.requireOpen
  case hClosed => exact .refl g
  intro conn db hConnection hHandle
  have hOpen : g.world.Opens db :=
    ⟨c, conn, hConnection, hHandle⟩
  apply Leads.ask
  · exact fun _ => .database (hCall db) (.inl hOpen)
  intro answer engine
  exact h db answer engine hOpen

/- What is asked last of an open connection. -/
theorem askLast_leads
    {operation : String}
    (call : DatabaseHandle → Call)
    (f : (db : DatabaseHandle) → (call db).Answer → β)
    (hCall : ∀ db, (call db).ofDatabase? = some db) :
    Leads A g g.world
      (requireOpen c operation >>= fun db =>
        lift (Quiet.invoke (call db)) >>= fun answer =>
          pure (f db answer))
      (fun _ => g.Asked) g.Asked := by
  apply askOpen_leads call hCall
  intro db answer engine _
  exact .pure ((Stage.Asked.refl g).heard _ _)

theorem isAutocommit_leads :
    Leads A g g.world (isAutocommit c)
      (fun _ => g.Asked) g.Asked := by
  apply askLast_leads .autocommit fun _ b => b
  exact fun _ => rfl

theorem lastRowId_leads :
    Leads A g g.world (lastRowId c)
      (fun _ => g.Asked) g.Asked := by
  apply askLast_leads .lastRowId fun _ n => n
  exact fun _ => rfl

theorem changes_leads :
    Leads A g g.world (changes c)
      (fun _ => g.Asked) g.Asked := by
  apply askLast_leads .changes fun _ n => n
  exact fun _ => rfl

theorem totalChanges_leads :
    Leads A g g.world (totalChanges c)
      (fun _ => g.Asked) g.Asked := by
  apply askLast_leads .totalChanges fun _ n => n
  exact fun _ => rfl

theorem transactionState_leads
    (schema : Bytes) :
    Leads A g g.world (transactionState c schema)
      (fun _ => g.Asked) g.Asked := by
  apply askLast_leads fun db =>
    .transactionState db
      (if schema.isEmpty then none
        else some (Bytes.untilNul schema))
  exact fun _ => rfl

theorem isReadOnly_leads
    (schema : Bytes) :
    Leads A g g.world (isReadOnly c schema)
      (fun _ => g.Asked) g.Asked := by
  apply askLast_leads fun db =>
    .readOnlySchema db (Bytes.untilNul schema)
  exact fun _ => rfl

------------------------------------------------------------
-- Settings
------------------------------------------------------------

/- What is set is checked. -/
theorem check_asked_leads
    {db : DatabaseHandle}
    {code : ResultCode}
    {phase : Phase}
    {f : Unit → β}
    {g' : Stage E}
    (hAsked : g.Asked g')
    (hOpen : g'.world.Opens db) :
    Leads A g' g'.world
      (check db code phase >>= fun u => pure (f u))
      (fun _ => g.Asked) g.Asked := by
  apply Leads.bind
  apply (check_leads (.inl hOpen)).mono
  · intro _ g'' _ _ hChecked
    exact .pure (hAsked.trans hChecked)
  · intro g'' _ _ hChecked
    exact hAsked.trans hChecked

theorem setConfig_leads
    (flag : ConfigFlag)
    (on : Bool) :
    Leads A g g.world (setConfig c flag on)
      (fun _ => g.Asked) g.Asked := by
  apply askOpen_leads fun db =>
    .configure db flag (if on then 1 else 0)
  · exact fun _ => rfl
  intro db answer engine hOpen
  apply Leads.last
  exact check_asked_leads
    ((Stage.Asked.refl g).heard _ engine) hOpen

theorem getConfig_leads
    (flag : ConfigFlag) :
    Leads A g g.world (getConfig c flag)
      (fun _ => g.Asked) g.Asked := by
  apply askOpen_leads fun db => .configure db flag (-1)
  · exact fun _ => rfl
  intro db answer engine hOpen
  exact check_asked_leads
    ((Stage.Asked.refl g).heard _ engine) hOpen

theorem setBusyTimeout_leads
    (milliseconds : Int) :
    Leads A g g.world (setBusyTimeout c milliseconds)
      (fun _ => g.Asked) g.Asked := by
  unfold setBusyTimeout
  apply Leads.requireOpen
  case hClosed => exact .refl g
  intro conn db hConnection hHandle
  have hOpen : g.world.Opens db :=
    ⟨c, conn, hConnection, hHandle⟩
  apply Leads.require
  case hFalse => exact fun _ => .refl g
  intro _
  apply Leads.ask
  · exact fun _ => .database rfl (.inl hOpen)
  intro code engine
  apply Leads.last
  exact check_asked_leads
    ((Stage.Asked.refl g).heard _ engine) hOpen

/- A connection that is closed has nothing to set. -/
theorem setExtendedCodes_leads
    (on : Bool) :
    Leads A g g.world (setExtendedCodes c on)
      (fun _ => g.Asked) g.Asked := by
  unfold setExtendedCodes
  apply Leads.read
  cases hHandle : (g.world.connection c).handle with
  | none => exact .pure (.refl g)
  | some db =>
      have hOpen : g.world.Opens db :=
        ⟨c, World.get?_of_connection_handle hHandle⟩
      apply Leads.ask
      · exact fun _ => .database rfl (.inl hOpen)
      intro code engine
      apply Leads.last
      exact check_asked_leads
        ((Stage.Asked.refl g).heard _ engine) hOpen

theorem interrupt_leads :
    Quiet.Leads A g g.world (interrupt c)
      fun _ => g.Asked := by
  unfold interrupt
  apply Quiet.Leads.read
  cases hHandle : (g.world.connection c).handle with
  | none => exact .pure (.refl g)
  | some db =>
      have hOpen : g.world.Opens db :=
        ⟨c, World.get?_of_connection_handle hHandle⟩
      apply Quiet.Leads.last
      apply Quiet.Leads.ask
      · exact fun _ => .database rfl (.inl hOpen)
      intro _ engine
      exact .pure ((Stage.Asked.refl g).heard _ engine)

end Connection

end SqliteAccess
