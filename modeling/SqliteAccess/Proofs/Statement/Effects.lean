import SqliteAccess.Proofs.Session.Effects

/-
  What statements and rows are kept from.  Of all that is
  done with them, only preparing has an effect.

  The programs are characterized by:
    * `Statement.destroy_affects`
    * `Statement.prepare_affects`
    * `Statement.within_affects`
    * `Statement.execute_affects`
    * `Statement.bindArgument_affects`
    * `Row.values_affects`
-/

namespace SqliteAccess

variable {E : Engine} {α : Type} {A : Effect → Prop}

open Attempt

namespace Connection

/- Asking for an open connection has no effect. -/
theorem requireOpen_affects
    (c : ConnectionId)
    (operation : String) :
    Affects (E := E) A (requireOpen c operation) := by
  apply Affects.bind (.read _)
  intro conn
  cases conn.handle with
  | some db => exact .pure db
  | none => exact .refuse _

end Connection

namespace Statement

variable (p : Place) (st : StatementHandle) (index : Int)

------------------------------------------------------------
-- Finalizing
------------------------------------------------------------

theorem requireHandle_affects (operation : String) :
    Affects (E := E) A (requireHandle p operation) := by
  apply Affects.bind (.read _)
  intro s
  cases s.handle with
  | some st => exact .pure st
  | none => exact .refuse _

theorem finalize_affects :
    Quiet.Affects (E := E) A (finalize p) := by
  apply Quiet.Affects.bind (.read _)
  intro s
  cases s.handle with
  | none => exact .statement p _
  | some st =>
      apply Quiet.Affects.bind
      · exact .edit fun w => .linked w _ fun _ => rfl
      intro _
      apply Quiet.Affects.bind (.statement p ended)
      intro _
      apply Quiet.Affects.bind (.ask rfl)
      intro code
      exact .ite (.note _ _ _) (.pure ())

theorem detach_affects :
    Quiet.Affects (E := E) A (detach p) := by
  apply Quiet.Affects.bind (.statement p _)
  exact fun _ => finalize_affects p

theorem destroy_affects :
    Quiet.Affects (E := E) A (destroy p) := by
  apply Quiet.Affects.bind (finalize_affects p)
  intro _
  apply Quiet.Affects.edit
  intro w
  rw [World.dropAnchor_eq]
  exact .apart w _ _ _ _ rfl

------------------------------------------------------------
-- Compiling
------------------------------------------------------------

theorem compile_affects
    (hCompile : A .compile)
    (db : DatabaseHandle)
    (sql : Bytes) :
    Quiet.Affects (E := E) A (compile db sql) := by
  apply Quiet.Affects.bind (.read _)
  intro issued
  apply Quiet.Affects.bind
  · exact .invoke fun f hSome => by cases hSome; exact hCompile
  intro answer
  apply Quiet.Affects.ite
  · apply Quiet.Affects.bind
    · exact .edit fun w => .apart w _ _ _ _ rfl
    · exact fun _ => .pure _
  · exact .pure _

theorem describeColumns_affects
    (first count : Nat) :
    Quiet.Affects (E := E) A
      (describeColumns st first count) := by
  induction count generalizing first with
  | zero => exact .pure _
  | succ n ih =>
      apply Quiet.Affects.bind (.ask rfl)
      intro name
      apply Quiet.Affects.bind (.ask rfl)
      intro type
      apply Quiet.Affects.bind (ih (first + 1))
      exact fun _ => .pure _

theorem describe_affects
    (c : ConnectionId)
    (anchor : Anchor)
    (sql : Bytes)
    (tail : Option Nat) :
    Quiet.Affects (E := E) A
      (describe c anchor sql st tail) := by
  apply Quiet.Affects.bind (.ask rfl)
  intro text
  apply Quiet.Affects.bind (.ask rfl)
  intro parameters
  apply Quiet.Affects.bind (.ask rfl)
  intro columns
  apply Quiet.Affects.bind (describeColumns_affects st 0 _)
  exact fun _ => .pure _

/- Entering a statement is an edit. -/
theorem register_edited
    (c : ConnectionId)
    (s : Statement)
    (w : World E) :
    w.Edited (register c p s w) := by
  have hEntered := World.Edited.connection w c
    (f := (·.addStatement p)) fun _ => .inr rfl
  rw [World.modifyConnection_eq] at hEntered
  rw [register_eq]
  exact hEntered.trans (.apart _ _ _ _ _ rfl)

/-
  What is done with a statement that has been compiled: it is
  kept at a place, unless the engine has found an error.
-/
def keep
    (c : ConnectionId)
    (db : DatabaseHandle)
    (sql : Bytes)
    (compiled : StatementHandle × PrepareAnswer) :
    Attempt E Unit := do
  let (st, answer) := compiled
  if answer.code ≠ ResultCode.ok then
    let e ← lift (handleError db answer.code .preparing sql)
    if answer.created then
      let _ ← lift (Quiet.invoke (.finalize st))
    fail e
  require answer.created (.noStatement sql)
  let number := (← lift (Quiet.read (·.issued.anchors))) + 1
  let s ← lift (describe c { number } sql st answer.tail)
  lift (Quiet.update (register c p s))

/- Preparing is compiling and keeping. -/
theorem prepare_eq
    (c : ConnectionId)
    (sql : Bytes) :
    prepare (E := E) c p sql =
      (Connection.requireOpen c "prepare" >>= fun db =>
        accept (requireText sql) >>= fun _ =>
          lift (compile db sql) >>= keep p c db sql) := rfl

theorem keep_affects
    (c : ConnectionId)
    (db : DatabaseHandle)
    (sql : Bytes)
    (compiled : StatementHandle × PrepareAnswer) :
    Affects (E := E) A (keep p c db sql compiled) := by
  rcases compiled with ⟨st, answer⟩
  apply Affects.ite
  · apply Affects.bind (.lift (handleError_affects _ _ _ _))
    intro e
    apply Affects.ite
    · apply Affects.bind (.ask rfl)
      exact fun _ => .failed
    · exact .failed
  · apply Affects.bind (.require _ _)
    intro _
    apply Affects.bind (.read _)
    intro issued
    apply Affects.bind
    · exact .lift (describe_affects st c _ sql _)
    exact fun s => .lift (.edit (register_edited p c s))

theorem prepare_affects
    (hCompile : A .compile)
    (c : ConnectionId)
    (sql : Bytes) :
    Affects (E := E) A (prepare c p sql) := by
  rw [prepare_eq]
  apply Affects.bind (Connection.requireOpen_affects c _)
  intro db
  apply Affects.bind (.accept _)
  intro _
  apply Affects.bind (.lift (compile_affects hCompile db sql))
  exact keep_affects p c db sql

------------------------------------------------------------
-- Moving
------------------------------------------------------------

/- Taking a statement to another place is an edit. -/
theorem transfer_edited
    (source target : Place)
    (w : World E) :
    w.Edited (transfer source target w) := by
  have hLinked := World.Edited.linked w
    (w.statement source).connection
    (f := (·.replaceStatement source target))
    fun conn => by
      unfold Connection.replaceStatement
      split <;> rfl
  rw [World.modifyLinked_eq] at hLinked
  rw [transfer_eq]
  exact hLinked.trans (.apart _ _ _ _ _ rfl)

theorem move_affects (source target : Place) :
    Quiet.Affects (E := E) A (move source target) :=
  .edit (transfer_edited source target)

theorem assign_affects (source target : Place) :
    Quiet.Affects (E := E) A (assign source target) := by
  apply Quiet.Affects.ite
  · exact .pure ()
  · apply Quiet.Affects.bind (finalize_affects target)
    exact fun _ => move_affects source target

/- Temporary statements are compiled. -/
theorem within_affects
    (hCompile : A .compile)
    {c : ConnectionId}
    {sql : Bytes}
    {work : Place → Attempt E α}
    (hWork : ∀ p, Affects A (work p)) :
    Affects A (within c sql work) := by
  apply Affects.bind (prepare_affects _ hCompile c sql)
  intro _
  exact .ensuring (hWork .scratch) (destroy_affects .scratch)

------------------------------------------------------------
-- Stepping
------------------------------------------------------------

theorem rewind_affects :
    Affects (E := E) A (rewind p st) := by
  apply Affects.bind (.read _)
  intro s
  apply Affects.bind (.ask rfl)
  intro code
  apply Affects.bind (.lift (.statement p _))
  intro _
  exact .ite (check_affects _ _ _ _) (.pure ())

theorem rewindIfDone_affects :
    Affects (E := E) A (rewindIfDone p st) := by
  apply Affects.bind (.read _)
  intro s
  exact .ite (rewind_affects p st) (.pure ())

theorem reset_affects :
    Affects (E := E) A (reset p) := by
  apply Affects.bind (requireHandle_affects p _)
  exact fun st => rewind_affects p st

theorem step_affects :
    Affects (E := E) A (step p) := by
  apply Affects.bind (requireHandle_affects p _)
  intro st
  apply Affects.bind (rewindIfDone_affects p st)
  intro _
  apply Affects.bind (.ask rfl)
  intro code
  apply Affects.bind (.lift (.statement p _))
  intro _
  apply Affects.ite (.pure _)
  apply Affects.ite (.pure _)
  apply Affects.bind (.read _)
  intro s
  apply Affects.bind (.lift (handleError_affects _ _ _ _))
  exact fun e => .fail e

theorem next_affects :
    Affects (E := E) A (next p) :=
  (step_affects p).map

theorem fetch_affects :
    Affects (E := E) A (fetch p) := by
  apply Affects.bind (step_affects p)
  intro result
  cases result with
  | completed => exact .pure none
  | row =>
      apply Affects.bind (.read _)
      exact fun _ => .pure _

theorem drain_affects (n : Nat) :
    Affects (E := E) A (drain p n) := by
  induction n with
  | zero => exact .throw _
  | succ n ih =>
      apply Affects.bind (step_affects p)
      exact fun result => .ite ih (.pure ())

theorem execute_affects :
    Affects (E := E) A (execute p) := by
  apply Affects.bind (requireHandle_affects p _)
  intro st
  apply Affects.bind (.read _)
  intro patience
  apply Affects.bind (drain_affects p patience)
  intro _
  apply Affects.bind (.ask rfl)
  intro changed
  apply Affects.bind (rewind_affects p st)
  exact fun _ => .pure _

------------------------------------------------------------
-- Binding
------------------------------------------------------------

theorem requireNoRow_affects (operation : String) :
    Affects (E := E) A (requireNoRow p operation) := by
  apply Affects.bind (.read _)
  exact fun _ => .require _ _

theorem requireParameter_affects :
    Affects (E := E) A (requireParameter p index) := by
  apply Affects.bind (.read _)
  exact fun _ => .require _ _

theorem bindPayload_affects
    (operation : String)
    (payload : Binding) :
    Affects (E := E) A
      (bindPayload p index operation payload) := by
  apply Affects.bind (requireHandle_affects p _)
  intro st
  apply Affects.bind (requireNoRow_affects p _)
  intro _
  apply Affects.bind (requireParameter_affects p index)
  intro _
  apply Affects.bind (rewindIfDone_affects p st)
  intro _
  apply Affects.bind (.read _)
  intro s
  apply Affects.bind (.ask rfl)
  exact fun code => check_affects _ _ _ _

theorem bindText_affects (t : Bytes) :
    Affects (E := E) A (bindText p index t) := by
  apply Affects.bind (.accept _)
  exact fun _ => bindPayload_affects p index _ _

theorem bindValue_affects (v : Value) :
    Affects (E := E) A (bindValue p index v) := by
  cases v with
  | text t => exact bindText_affects p index t
  | _ => exact bindPayload_affects p index _ _

theorem bindHost_affects
    (t : HostType)
    (x : t.Carrier) :
    Affects (E := E) A (bindHost p index t x) := by
  induction t with
  | value => exact bindValue_affects p index x
  | integer k =>
      apply Affects.bind (.accept _)
      exact fun n => bindPayload_affects p index _ _
  | text => exact bindText_affects p index x
  | optional t ih =>
      cases x with
      | none => exact bindPayload_affects p index _ _
      | some x => exact ih x
  | _ => exact bindPayload_affects p index _ _

theorem bindArgument_affects (argument : Argument) :
    Affects (E := E) A (bindArgument p index argument) := by
  cases argument with
  | null => exact bindPayload_affects p index _ _
  | typed t x => exact bindHost_affects p index t x
  | view data => exact bindText_affects p index _
  | terminated t =>
      cases t with
      | none => exact bindPayload_affects p index _ _
      | some t => exact bindText_affects p index _

theorem parameterIndex_affects (name : Bytes) :
    Affects (E := E) A (parameterIndex p name) := by
  apply Affects.bind (requireHandle_affects p _)
  exact fun st => .ask rfl

theorem searchSigils_affects
    (name : Bytes)
    (l : List UInt8) :
    Quiet.Affects (E := E) A (searchSigils st name l) := by
  induction l with
  | nil => exact .pure _
  | cons b r ih =>
      apply Quiet.Affects.bind (.ask rfl)
      exact fun index => .ite (.pure _) ih

theorem requireParameterIndex_affects (name : Bytes) :
    Affects (E := E) A (requireParameterIndex p name) := by
  apply Affects.bind (requireHandle_affects p _)
  intro st
  apply Affects.bind (parameterIndex_affects p name)
  intro exact_
  have hRest : ∀ index : Nat, Affects (E := E) A do
      let s ← lift (lookup p)
      require (index ≠ 0) (.parameterName name s.sql)
      return index := by
    intro index
    apply Affects.bind (.read _)
    intro s
    apply Affects.bind (.require _ _)
    exact fun _ => .pure index
  apply Affects.ite
  · apply Affects.bind
    · exact .lift (searchSigils_affects st name _)
    · exact hRest
  · exact hRest _

theorem bindNamed_affects
    (name : Bytes)
    (argument : Argument) :
    Affects (E := E) A (bindNamed p name argument) := by
  apply Affects.bind (requireParameterIndex_affects p name)
  exact fun index => bindArgument_affects p index argument

theorem clearBindings_affects :
    Affects (E := E) A (clearBindings p) := by
  apply Affects.bind (requireHandle_affects p _)
  intro st
  apply Affects.bind (requireNoRow_affects p _)
  intro _
  apply Affects.bind (rewindIfDone_affects p st)
  intro _
  apply Affects.bind (.read _)
  intro s
  apply Affects.bind (.ask rfl)
  exact fun code => check_affects _ _ _ _

------------------------------------------------------------
-- Columns
------------------------------------------------------------

theorem requireRow_affects (operation : String) :
    Affects (E := E) A (requireRow p operation) := by
  apply Affects.bind (requireHandle_affects p _)
  intro st
  apply Affects.bind (.read _)
  intro s
  apply Affects.bind (.require _ _)
  exact fun _ => .pure st

theorem requireColumn_affects :
    Affects (E := E) A (requireColumn p index) := by
  apply Affects.bind (.read _)
  exact fun _ => .require _ _

theorem readText_affects :
    Affects (E := E) A (readText p st index) := by
  apply Affects.bind (.ask rfl)
  intro text
  cases text with
  | some t =>
      apply Affects.bind (.require _ _)
      exact fun _ => .pure _
  | none =>
      apply Affects.bind (.ask rfl)
      intro code
      apply Affects.bind (.read _)
      intro s
      apply Affects.bind (.require _ _)
      exact fun _ => .pure _

theorem readColumn_affects :
    Affects (E := E) A (readColumn p st index) := by
  apply Affects.bind (.ask rfl)
  intro type
  split
  · exact (Affects.ask rfl).map
  · exact (Affects.ask rfl).map
  · exact readText_affects p st index
  · exact (Affects.ask rfl).map
  · exact .pure _

theorem readColumns_affects
    (first count : Nat) :
    Affects (E := E) A (readColumns p st first count) := by
  induction count generalizing first with
  | zero => exact .pure _
  | succ n ih =>
      apply Affects.bind (readColumn_affects p st _)
      intro v
      exact (ih (first + 1)).map

theorem columnValue_affects :
    Affects (E := E) A (columnValue p index) := by
  apply Affects.bind (requireRow_affects p _)
  intro st
  apply Affects.bind (requireColumn_affects p index)
  exact fun _ => readColumn_affects p st index

theorem columnAs_affects (t : HostType) :
    Affects (E := E) A (columnAs p t index) := by
  apply Affects.bind (columnValue_affects p index)
  exact fun v => .accept _

theorem columnType_affects :
    Affects (E := E) A (columnType p index) := by
  apply Affects.bind (requireRow_affects p _)
  intro st
  apply Affects.bind (requireColumn_affects p index)
  intro _
  exact (Affects.ask rfl).map

theorem columnIsNull_affects :
    Affects (E := E) A (columnIsNull p index) :=
  (columnType_affects p index).map

------------------------------------------------------------
-- Metadata
------------------------------------------------------------

theorem columnCount_affects :
    Affects (E := E) A (columnCount p) := by
  apply Affects.bind (requireHandle_affects p _)
  exact fun _ => (Affects.read _).map

theorem columnName_affects :
    Affects (E := E) A (columnName p index) := by
  apply Affects.bind (requireHandle_affects p _)
  intro _
  apply Affects.bind (requireColumn_affects p index)
  exact fun _ => (Affects.read _).map

theorem columnDeclaration_affects :
    Affects (E := E) A (columnDeclaration p index) := by
  apply Affects.bind (requireHandle_affects p _)
  intro _
  apply Affects.bind (requireColumn_affects p index)
  exact fun _ => (Affects.read _).map

theorem countParameters_affects :
    Affects (E := E) A (countParameters p) := by
  apply Affects.bind (requireHandle_affects p _)
  exact fun _ => (Affects.read _).map

theorem parameterName_affects :
    Affects (E := E) A (parameterName p index) := by
  apply Affects.bind (requireHandle_affects p _)
  intro st
  apply Affects.bind (.read _)
  intro s
  apply Affects.bind (.require _ _)
  exact fun _ => (Affects.ask rfl).map

theorem isReadOnly_affects :
    Affects (E := E) A (isReadOnly p) := by
  apply Affects.bind (requireHandle_affects p _)
  exact fun st => .ask rfl

theorem expandedSql_affects :
    Affects (E := E) A (expandedSql p) := by
  apply Affects.bind (requireHandle_affects p _)
  intro st
  apply Affects.bind (.ask rfl)
  intro text
  cases text with
  | some t => exact .pure t
  | none =>
      apply Affects.bind (.read _)
      exact fun s => .refuse _

theorem owner_affects :
    Affects (E := E) A (owner p) := by
  apply Affects.bind (requireHandle_affects p _)
  exact fun _ => (Affects.read _).map

end Statement

------------------------------------------------------------
-- Rows
------------------------------------------------------------

namespace Row

variable (r : Row) (index : Int)

theorem current_affects :
    Affects (E := E) A r.current := by
  apply Affects.bind (.read _)
  intro place
  cases place with
  | none => exact .refuse _
  | some p =>
      apply Affects.bind (.read _)
      intro s
      apply Affects.bind (.require _ _)
      exact fun _ => .pure p

theorem size_affects :
    Affects (E := E) A r.size :=
  r.current_affects.bind Statement.columnCount_affects

theorem value_affects :
    Affects (E := E) A (r.value index) :=
  r.current_affects.bind fun p =>
    Statement.columnValue_affects p index

theorem isNull_affects :
    Affects (E := E) A (r.isNull index) :=
  r.current_affects.bind fun p =>
    Statement.columnIsNull_affects p index

theorem columnName_affects :
    Affects (E := E) A (r.columnName index) :=
  r.current_affects.bind fun p =>
    Statement.columnName_affects p index

theorem getAs_affects (t : HostType) :
    Affects (E := E) A (r.getAs t index) :=
  r.current_affects.bind fun p =>
    Statement.columnAs_affects p index t

theorem values_affects :
    Affects (E := E) A r.values := by
  apply Affects.bind r.current_affects
  intro p
  apply Affects.bind (Statement.columnCount_affects p)
  intro count
  apply Affects.bind (Statement.requireHandle_affects p _)
  exact fun st => Statement.readColumns_affects p st 0 count

end Row

end SqliteAccess
