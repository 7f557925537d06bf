import SqliteAccess.Proofs.Session.Mirroring

/-
  Statements of sessions that mirror each other.

  What is done with the statement at a place has the same
  result as what is done with the one at its image.

  The statements are characterized by:
    * `Statement.finalize_mirrors`
    * `Statement.destroy_mirrors`
    * `Statement.prepare_mirrors`
    * `Statement.assign_mirrors`
    * `Statement.within_mirrors`
    * `Statement.step_mirrors`
    * `Statement.execute_mirrors`
-/

namespace SqliteAccess

variable {E : Engine} {α β : Type} {m : Mirror}

------------------------------------------------------------
-- Open Connections
------------------------------------------------------------

namespace Connection

theorem lookup_mirrors (c : ConnectionId) :
    Quiet.Mirrors (E := E) m (Connection.Mirrors m)
      (lookup c) (lookup c) :=
  .read fun h => h.connection c

theorem requireOpen_mirrors
    (c : ConnectionId)
    (operation : String) :
    Attempt.Mirrors (E := E) m Eq (requireOpen c operation)
      (requireOpen c operation) := by
  apply Attempt.Mirrors.bind (.lift (lookup_mirrors c))
  intro conn conn' hMirrors
  rw [hMirrors.handle]
  cases conn.handle with
  | none => exact .refuse _
  | some db => exact .pure rfl

end Connection

namespace Statement

variable {p q : Place}

open Quiet Attempt

------------------------------------------------------------
-- Looking Up
------------------------------------------------------------

theorem lookup_mirrors
    (hUses : m.Uses p) :
    Quiet.Mirrors (E := E) m Eq (lookup p)
      (lookup (m.place p)) :=
  .read fun h => (h.statement hUses).symm

theorem requireHandle_mirrors
    (hUses : m.Uses p)
    (operation : String) :
    Attempt.Mirrors (E := E) m Eq (requireHandle p operation)
      (requireHandle (m.place p) operation) := by
  apply Attempt.Mirrors.andThen (.lift (lookup_mirrors hUses))
  intro s
  cases s.handle with
  | none => exact .refuse _
  | some st => exact .pure rfl

/- A statement is changed together with its image. -/
theorem modify_mirrors
    (hUses : m.Uses p)
    (f : Statement → Statement) :
    Quiet.Mirrors (E := E) m Eq
      (update (World.modifyStatement p f))
      (update (World.modifyStatement (m.place p) f)) := by
  apply Quiet.Mirrors.change
  · intro w w' h
    rw [World.modifyStatement_eq, World.modifyStatement_eq]
    exact
      { h with statements := h.statements.modify hUses f }
  · intro hStill
    rw [hStill]

------------------------------------------------------------
-- Finalizing
------------------------------------------------------------

/- A statement and its image are struck out. -/
theorem unlist_mirrors (c : Option ConnectionId) :
    Quiet.Mirrors (E := E) m Eq
      (update (World.modifyLinked c (·.removeStatement p)))
      (update (World.modifyLinked c
        (·.removeStatement (m.place p)))) := by
  apply Quiet.Mirrors.change
  · intro w w' h
    rw [World.modifyLinked_eq, World.modifyLinked_eq]
    exact
      { h with
        connections :=
          h.connections.modify? c (·.removeStatement p) }
  · intro hStill
    rw [hStill]

theorem finalize_mirrors
    (hUses : m.Uses p) :
    Quiet.Mirrors (E := E) m Eq (finalize p)
      (finalize (m.place p)) := by
  apply Quiet.Mirrors.andThen (lookup_mirrors hUses)
  intro s
  cases s.handle with
  | none => exact modify_mirrors hUses _
  | some st =>
      apply Quiet.Mirrors.andThen
      · exact unlist_mirrors s.connection
      · intro _
        apply Quiet.Mirrors.andThen (modify_mirrors hUses _)
        intro _
        apply Quiet.Mirrors.andThen (.invoke _)
        exact fun code => .ite (.note _ _ _) (.pure rfl)

theorem detach_mirrors
    (hUses : m.Uses p) :
    Quiet.Mirrors (E := E) m Eq (detach p)
      (detach (m.place p)) :=
  .andThen (modify_mirrors hUses _)
    fun _ => finalize_mirrors hUses

theorem destroy_mirrors
    (hUses : m.Uses p) :
    Quiet.Mirrors (E := E) m Eq (destroy p)
      (destroy (m.place p)) := by
  apply Quiet.Mirrors.andThen (finalize_mirrors hUses)
  intro _
  apply Quiet.Mirrors.change
  · intro w w' h
    simp only [World.dropAnchor_eq, h.statement hUses]
    exact
      { h with
        anchors := h.anchors.erase? _
        statements := h.statements.erase hUses }
  · intro hStill
    rw [hStill]

------------------------------------------------------------
-- Compiling
------------------------------------------------------------

theorem compile_mirrors
    (db : DatabaseHandle)
    (sql : Bytes) :
    Quiet.Mirrors (E := E) m Eq (compile db sql)
      (compile db sql) := by
  apply Quiet.Mirrors.andThen
  · exact .read fun h =>
      congrArg Issued.statements h.issued.symm
  · intro issued
    apply Quiet.Mirrors.andThen (.invoke _)
    intro answer
    apply Quiet.Mirrors.ite
    · apply Quiet.Mirrors.andThen
      · apply Quiet.Mirrors.update
        intro w w' h
        exact
          { h with issued := by simp only [h.issued] }
      · exact fun _ => .pure rfl
    · exact .andThen (.pure rfl) fun _ => .pure rfl

theorem describeColumns_mirrors
    (st : StatementHandle)
    (first count : Nat) :
    Quiet.Mirrors (E := E) m Eq
      (describeColumns st first count)
      (describeColumns st first count) := by
  induction count generalizing first with
  | zero => exact .pure rfl
  | succ count ih =>
      apply Quiet.Mirrors.andThen (.invoke _)
      intro name
      apply Quiet.Mirrors.andThen (.invoke _)
      intro type
      apply Quiet.Mirrors.andThen (ih (first + 1))
      exact fun _ => .pure rfl

theorem describe_mirrors
    (c : ConnectionId)
    (anchor : Anchor)
    (sql : Bytes)
    (st : StatementHandle)
    (tail : Option Nat) :
    Quiet.Mirrors (E := E) m Eq
      (describe c anchor sql st tail)
      (describe c anchor sql st tail) := by
  apply Quiet.Mirrors.andThen (.invoke _)
  intro text
  apply Quiet.Mirrors.andThen (.invoke _)
  intro parameters
  apply Quiet.Mirrors.andThen (.invoke _)
  intro columns
  apply Quiet.Mirrors.andThen (describeColumns_mirrors st 0 _)
  exact fun _ => .pure rfl

theorem register_mirrors
    (hUses : m.Uses p)
    (c : ConnectionId)
    (s : Statement) :
    Quiet.Mirrors (E := E) m Eq (update (register c p s))
      (update (register c (m.place p) s)) := by
  apply Quiet.Mirrors.change
  · intro w w' h
    rw [register_eq, register_eq]
    exact
      { h with
        issued := by simp only [h.issued]
        anchors := h.anchors.put? hUses s.anchor
        statements := h.statements.put hUses s
        connections :=
          h.connections.modify c (·.addStatement hUses) }
  · intro hStill
    rw [hStill]

theorem prepare_mirrors
    (hUses : m.Uses p)
    (c : ConnectionId)
    (sql : Bytes) :
    Attempt.Mirrors (E := E) m Eq (prepare c p sql)
      (prepare c (m.place p) sql) := by
  apply Attempt.Mirrors.andThen
    (Connection.requireOpen_mirrors c _)
  intro db
  apply Attempt.Mirrors.andThen (.accept _)
  intro _
  apply Attempt.Mirrors.andThen
    (.lift (compile_mirrors db sql))
  rintro ⟨st, answer⟩
  apply Attempt.Mirrors.optional
  · apply Attempt.Mirrors.andThen (.require _ _)
    intro _
    apply Attempt.Mirrors.andThen
    · exact .read fun h =>
        congrArg Issued.anchors h.issued.symm
    · intro issued
      apply Attempt.Mirrors.andThen
        (.lift (describe_mirrors c _ sql st _))
      exact fun s => .lift (register_mirrors hUses c s)
  · intro hKept
    apply Attempt.Mirrors.andThen
      (.lift (handleError_mirrors db _ _ sql))
    intro e
    apply Attempt.Mirrors.optional
    · exact .andThen (.throw _) fun _ => hKept
    · intro hFailed
      exact .andThen (.invoke (.finalize st))
        fun _ => hFailed

------------------------------------------------------------
-- Moving
------------------------------------------------------------

theorem transfer_mirrors
    (hUses : m.Uses p)
    (hUses' : m.Uses q) :
    Quiet.Mirrors (E := E) m Eq (update (transfer p q))
      (update (transfer (m.place p) (m.place q))) := by
  apply Quiet.Mirrors.change
  · intro w w' h
    simp only [transfer_eq, h.statement hUses,
      h.statement hUses']
    exact
      { h with
        anchors := (h.anchors.erase? _).put? hUses' _
        connections := h.connections.modify? _
          (·.replaceStatement hUses')
        statements :=
          (h.statements.put hUses' _).put hUses _ }
  · intro hStill
    rw [hStill, hStill]

theorem move_mirrors
    (hUses : m.Uses p)
    (hUses' : m.Uses q) :
    Quiet.Mirrors (E := E) m Eq (move p q)
      (move (m.place p) (m.place q)) :=
  transfer_mirrors hUses hUses'

theorem assign_mirrors
    (hUses : m.Uses p)
    (hUses' : m.Uses q) :
    Quiet.Mirrors (E := E) m Eq (assign p q)
      (assign (m.place p) (m.place q)) := by
  unfold assign
  simp only [Mirror.place_inj]
  exact .ite (.pure rfl)
    (.andThen (finalize_mirrors hUses')
      fun _ => transfer_mirrors hUses hUses')

------------------------------------------------------------
-- Temporary Statements
------------------------------------------------------------

theorem within_mirrors
    {Q : α → β → Prop}
    {work : Place → Attempt E α}
    {work' : Place → Attempt E β}
    (c : ConnectionId)
    (sql : Bytes)
    (hWork :
      Attempt.Mirrors m Q (work .scratch) (work' .scratch)) :
    Attempt.Mirrors m Q (within c sql work)
      (within c sql work') :=
  .andThen (prepare_mirrors (p := .scratch) trivial c sql)
    fun _ => .ensuring hWork
      (destroy_mirrors (p := .scratch) trivial)

------------------------------------------------------------
-- Running
------------------------------------------------------------

theorem rewind_mirrors
    (hUses : m.Uses p)
    (st : StatementHandle) :
    Attempt.Mirrors (E := E) m Eq (rewind p st)
      (rewind (m.place p) st) := by
  apply Attempt.Mirrors.andThen (.lift (lookup_mirrors hUses))
  intro s
  apply Attempt.Mirrors.andThen (.invoke _)
  intro code
  apply Attempt.Mirrors.andThen
    (.lift (modify_mirrors hUses _))
  exact fun _ => .ite (check_mirrors _ _ _ _) (.pure rfl)

theorem rewindIfDone_mirrors
    (hUses : m.Uses p)
    (st : StatementHandle) :
    Attempt.Mirrors (E := E) m Eq (rewindIfDone p st)
      (rewindIfDone (m.place p) st) :=
  .andThen (.lift (lookup_mirrors hUses))
    fun _ => .ite (rewind_mirrors hUses st) (.pure rfl)

theorem reset_mirrors
    (hUses : m.Uses p) :
    Attempt.Mirrors (E := E) m Eq (reset p)
      (reset (m.place p)) :=
  .andThen (requireHandle_mirrors hUses _)
    fun st => rewind_mirrors hUses st

theorem step_mirrors
    (hUses : m.Uses p) :
    Attempt.Mirrors (E := E) m Eq (step p)
      (step (m.place p)) := by
  apply Attempt.Mirrors.andThen
    (requireHandle_mirrors hUses _)
  intro st
  apply Attempt.Mirrors.andThen
    (rewindIfDone_mirrors hUses st)
  intro _
  apply Attempt.Mirrors.andThen (.invoke _)
  intro code
  apply Attempt.Mirrors.andThen
    (.lift (modify_mirrors hUses _))
  intro _
  apply Attempt.Mirrors.ite (.pure rfl)
  apply Attempt.Mirrors.ite (.pure rfl)
  apply Attempt.Mirrors.andThen (.lift (lookup_mirrors hUses))
  intro s
  apply Attempt.Mirrors.andThen
    (.lift (handleError_mirrors _ _ _ _))
  exact fun e => .throw _

theorem next_mirrors
    (hUses : m.Uses p) :
    Attempt.Mirrors (E := E) m Eq (next p)
      (next (m.place p)) :=
  .map (step_mirrors hUses)

theorem fetch_mirrors
    (hUses : m.Uses p) :
    Attempt.Mirrors (E := E) m Eq (fetch p)
      (fetch (m.place p)) := by
  apply Attempt.Mirrors.andThen (step_mirrors hUses)
  intro result
  cases result with
  | completed => exact .pure rfl
  | row => exact .map (.lift (lookup_mirrors hUses))

theorem drain_mirrors
    (hUses : m.Uses p)
    (n : Nat) :
    Attempt.Mirrors (E := E) m Eq (drain p n)
      (drain (m.place p) n) := by
  induction n with
  | zero => exact .throw _
  | succ n ih =>
      apply Attempt.Mirrors.andThen (step_mirrors hUses)
      exact fun result => .ite ih (.pure rfl)

theorem execute_mirrors
    (hPatient : m.Patient)
    (hUses : m.Uses p) :
    Attempt.Mirrors (E := E) m Eq (execute p)
      (execute (m.place p)) := by
  apply Attempt.Mirrors.andThen
    (requireHandle_mirrors hUses _)
  intro st
  apply Attempt.Mirrors.andThen
    (.read fun h => (hPatient _ _ h.patience).symm)
  intro n
  apply Attempt.Mirrors.andThen (drain_mirrors hUses n)
  intro _
  apply Attempt.Mirrors.andThen (.invoke _)
  intro changed
  apply Attempt.Mirrors.andThen (rewind_mirrors hUses st)
  exact fun _ => .pure rfl

------------------------------------------------------------
-- Binding
------------------------------------------------------------

theorem requireNoRow_mirrors
    (hUses : m.Uses p)
    (operation : String) :
    Attempt.Mirrors (E := E) m Eq (requireNoRow p operation)
      (requireNoRow (m.place p) operation) :=
  .andThen (.lift (lookup_mirrors hUses))
    fun _ => .require _ _

theorem requireParameter_mirrors
    (hUses : m.Uses p)
    (index : Int) :
    Attempt.Mirrors (E := E) m Eq (requireParameter p index)
      (requireParameter (m.place p) index) :=
  .andThen (.lift (lookup_mirrors hUses))
    fun _ => .require _ _

/- Asking a statement something once it is rewound. -/
theorem askReady_mirrors
    (hUses : m.Uses p)
    {st : StatementHandle}
    {call : Call}
    {result : call.Answer → ResultCode}
    {phase : Phase} :
    Attempt.Mirrors (E := E) m Eq
      (rewindIfDone p st >>= fun _ =>
        lift (lookup p) >>= fun s =>
          lift (Quiet.invoke call) >>= fun answer =>
            check st.database (result answer) phase s.sql)
      (rewindIfDone (m.place p) st >>= fun _ =>
        lift (lookup (m.place p)) >>= fun s =>
          lift (Quiet.invoke call) >>= fun answer =>
            check st.database (result answer) phase
              s.sql) := by
  apply Attempt.Mirrors.andThen
    (rewindIfDone_mirrors hUses st)
  intro _
  apply Attempt.Mirrors.andThen (.lift (lookup_mirrors hUses))
  intro s
  apply Attempt.Mirrors.andThen (.invoke _)
  exact fun answer => check_mirrors _ _ _ _

theorem bindPayload_mirrors
    (hUses : m.Uses p)
    (index : Int)
    (operation : String)
    (payload : Binding) :
    Attempt.Mirrors (E := E) m Eq
      (bindPayload p index operation payload)
      (bindPayload (m.place p) index operation payload) := by
  apply Attempt.Mirrors.andThen
    (requireHandle_mirrors hUses _)
  intro st
  apply Attempt.Mirrors.andThen
    (requireNoRow_mirrors hUses _)
  intro _
  apply Attempt.Mirrors.andThen
    (requireParameter_mirrors hUses _)
  exact fun _ => askReady_mirrors hUses

theorem bindText_mirrors
    (hUses : m.Uses p)
    (index : Int)
    (t : Bytes) :
    Attempt.Mirrors (E := E) m Eq (bindText p index t)
      (bindText (m.place p) index t) :=
  .andThen (.accept _)
    fun _ => bindPayload_mirrors hUses _ _ _

theorem bindValue_mirrors
    (hUses : m.Uses p)
    (index : Int)
    (v : Value) :
    Attempt.Mirrors (E := E) m Eq (bindValue p index v)
      (bindValue (m.place p) index v) := by
  cases v with
  | text t => exact bindText_mirrors hUses index t
  | null | integer | real | blob =>
      exact bindPayload_mirrors hUses _ _ _

theorem bindHost_mirrors
    (hUses : m.Uses p)
    (index : Int)
    (t : HostType)
    (x : t.Carrier) :
    Attempt.Mirrors (E := E) m Eq (bindHost p index t x)
      (bindHost (m.place p) index t x) := by
  induction t with
  | value => exact bindValue_mirrors hUses index x
  | integer k =>
      exact .andThen (.accept _)
        fun _ => bindPayload_mirrors hUses _ _ _
  | text => exact bindText_mirrors hUses index x
  | bool | single | double | blob =>
      exact bindPayload_mirrors hUses _ _ _
  | optional t ih =>
      cases x with
      | none => exact bindPayload_mirrors hUses _ _ _
      | some x => exact ih x

theorem bindArgument_mirrors
    (hUses : m.Uses p)
    (index : Int)
    (argument : Argument) :
    Attempt.Mirrors (E := E) m Eq
      (bindArgument p index argument)
      (bindArgument (m.place p) index argument) := by
  cases argument with
  | null => exact bindPayload_mirrors hUses _ _ _
  | typed t x => exact bindHost_mirrors hUses index t x
  | view data => exact bindText_mirrors hUses index _
  | terminated text =>
      cases text with
      | none => exact bindPayload_mirrors hUses _ _ _
      | some t => exact bindText_mirrors hUses index _

theorem parameterIndex_mirrors
    (hUses : m.Uses p)
    (name : Bytes) :
    Attempt.Mirrors (E := E) m Eq (parameterIndex p name)
      (parameterIndex (m.place p) name) :=
  .andThen (requireHandle_mirrors hUses _)
    fun st => .invoke (.parameterIndex st _)

theorem searchSigils_mirrors
    (st : StatementHandle)
    (name : Bytes)
    (l : List UInt8) :
    Quiet.Mirrors (E := E) m Eq (searchSigils st name l)
      (searchSigils st name l) := by
  induction l with
  | nil => exact .pure rfl
  | cons b l ih =>
      apply Quiet.Mirrors.andThen (.invoke _)
      exact fun index => .ite (.pure rfl) ih

theorem requireParameterIndex_mirrors
    (hUses : m.Uses p)
    (name : Bytes) :
    Attempt.Mirrors (E := E) m Eq
      (requireParameterIndex p name)
      (requireParameterIndex (m.place p) name) := by
  apply Attempt.Mirrors.andThen
    (requireHandle_mirrors hUses _)
  intro st
  apply Attempt.Mirrors.andThen
    (parameterIndex_mirrors hUses name)
  intro found
  apply Attempt.Mirrors.ite
  · apply Attempt.Mirrors.andThen
      (.lift (searchSigils_mirrors st name _))
    intro index
    apply Attempt.Mirrors.andThen
      (.lift (lookup_mirrors hUses))
    exact fun s => .map (.require _ _)
  · apply Attempt.Mirrors.andThen (.pure rfl)
    intro index
    apply Attempt.Mirrors.andThen
      (.lift (lookup_mirrors hUses))
    exact fun s => .map (.require _ _)

theorem bindNamed_mirrors
    (hUses : m.Uses p)
    (name : Bytes)
    (argument : Argument) :
    Attempt.Mirrors (E := E) m Eq (bindNamed p name argument)
      (bindNamed (m.place p) name argument) :=
  .andThen (requireParameterIndex_mirrors hUses name)
    fun index => bindArgument_mirrors hUses index argument

theorem clearBindings_mirrors
    (hUses : m.Uses p) :
    Attempt.Mirrors (E := E) m Eq (clearBindings p)
      (clearBindings (m.place p)) := by
  apply Attempt.Mirrors.andThen
    (requireHandle_mirrors hUses _)
  intro st
  apply Attempt.Mirrors.andThen
    (requireNoRow_mirrors hUses _)
  exact fun _ => askReady_mirrors hUses

------------------------------------------------------------
-- Columns
------------------------------------------------------------

theorem requireRow_mirrors
    (hUses : m.Uses p)
    (operation : String) :
    Attempt.Mirrors (E := E) m Eq (requireRow p operation)
      (requireRow (m.place p) operation) := by
  apply Attempt.Mirrors.andThen
    (requireHandle_mirrors hUses _)
  intro st
  apply Attempt.Mirrors.andThen (.lift (lookup_mirrors hUses))
  exact fun s => .map (.require _ _)

theorem requireColumn_mirrors
    (hUses : m.Uses p)
    (index : Int) :
    Attempt.Mirrors (E := E) m Eq (requireColumn p index)
      (requireColumn (m.place p) index) :=
  .andThen (.lift (lookup_mirrors hUses))
    fun _ => .require _ _

theorem readText_mirrors
    (hUses : m.Uses p)
    (st : StatementHandle)
    (index : Int) :
    Attempt.Mirrors (E := E) m Eq (readText p st index)
      (readText (m.place p) st index) := by
  apply Attempt.Mirrors.andThen (.invoke _)
  intro text
  cases text with
  | some t => exact .map (.require _ _)
  | none =>
      apply Attempt.Mirrors.andThen (.invoke _)
      intro code
      apply Attempt.Mirrors.andThen
        (.lift (lookup_mirrors hUses))
      exact fun s =>
        .map (.require _ _)

theorem readColumn_mirrors
    (hUses : m.Uses p)
    (st : StatementHandle)
    (index : Int) :
    Attempt.Mirrors (E := E) m Eq (readColumn p st index)
      (readColumn (m.place p) st index) := by
  apply Attempt.Mirrors.andThen (.invoke _)
  intro type
  split
  · exact .map (.invoke (.columnInteger st index))
  · exact .map (.invoke (.columnReal st index))
  · exact readText_mirrors hUses st index
  · exact .map (.invoke (.columnBlob st index))
  · exact .pure rfl

theorem readColumns_mirrors
    (hUses : m.Uses p)
    (st : StatementHandle)
    (first count : Nat) :
    Attempt.Mirrors (E := E) m Eq
      (readColumns p st first count)
      (readColumns (m.place p) st first count) := by
  induction count generalizing first with
  | zero => exact .pure rfl
  | succ count ih =>
      apply Attempt.Mirrors.andThen
        (readColumn_mirrors hUses st _)
      exact fun v => .map (ih (first + 1))

theorem columnValue_mirrors
    (hUses : m.Uses p)
    (index : Int) :
    Attempt.Mirrors (E := E) m Eq (columnValue p index)
      (columnValue (m.place p) index) := by
  apply Attempt.Mirrors.andThen (requireRow_mirrors hUses _)
  intro st
  exact .andThen (requireColumn_mirrors hUses index)
    fun _ => readColumn_mirrors hUses st index

theorem columnAs_mirrors
    (hUses : m.Uses p)
    (t : HostType)
    (index : Int) :
    Attempt.Mirrors (E := E) m Eq (columnAs p t index)
      (columnAs (m.place p) t index) :=
  .andThen (columnValue_mirrors hUses index)
    fun _ => .accept _

theorem columnType_mirrors
    (hUses : m.Uses p)
    (index : Int) :
    Attempt.Mirrors (E := E) m Eq (columnType p index)
      (columnType (m.place p) index) := by
  apply Attempt.Mirrors.andThen (requireRow_mirrors hUses _)
  intro st
  exact .andThen (requireColumn_mirrors hUses index)
    fun _ => .map (.invoke (.columnType st index))

theorem columnIsNull_mirrors
    (hUses : m.Uses p)
    (index : Int) :
    Attempt.Mirrors (E := E) m Eq (columnIsNull p index)
      (columnIsNull (m.place p) index) :=
  .map (columnType_mirrors hUses index)

theorem columnCount_mirrors
    (hUses : m.Uses p) :
    Attempt.Mirrors (E := E) m Eq (columnCount p)
      (columnCount (m.place p)) :=
  .andThen (requireHandle_mirrors hUses _)
    fun _ => .map (.lift (lookup_mirrors hUses))

theorem columnName_mirrors
    (hUses : m.Uses p)
    (index : Int) :
    Attempt.Mirrors (E := E) m Eq (columnName p index)
      (columnName (m.place p) index) := by
  apply Attempt.Mirrors.andThen
    (requireHandle_mirrors hUses _)
  intro _
  exact .andThen (requireColumn_mirrors hUses index)
    fun _ => .map (.lift (lookup_mirrors hUses))

theorem columnDeclaration_mirrors
    (hUses : m.Uses p)
    (index : Int) :
    Attempt.Mirrors (E := E) m Eq (columnDeclaration p index)
      (columnDeclaration (m.place p) index) := by
  apply Attempt.Mirrors.andThen
    (requireHandle_mirrors hUses _)
  intro _
  exact .andThen (requireColumn_mirrors hUses index)
    fun _ => .map (.lift (lookup_mirrors hUses))

theorem countParameters_mirrors
    (hUses : m.Uses p) :
    Attempt.Mirrors (E := E) m Eq (countParameters p)
      (countParameters (m.place p)) :=
  .andThen (requireHandle_mirrors hUses _)
    fun _ => .map (.lift (lookup_mirrors hUses))

theorem parameterName_mirrors
    (hUses : m.Uses p)
    (index : Int) :
    Attempt.Mirrors (E := E) m Eq (parameterName p index)
      (parameterName (m.place p) index) := by
  apply Attempt.Mirrors.andThen
    (requireHandle_mirrors hUses _)
  intro st
  apply Attempt.Mirrors.andThen (.lift (lookup_mirrors hUses))
  intro s
  exact .andThen (.require _ _)
    fun _ => .map (.invoke (.parameterName st index))

theorem isReadOnly_mirrors
    (hUses : m.Uses p) :
    Attempt.Mirrors (E := E) m Eq (isReadOnly p)
      (isReadOnly (m.place p)) :=
  .andThen (requireHandle_mirrors hUses _)
    fun st => .invoke (.readOnlyStatement st)

theorem expandedSql_mirrors
    (hUses : m.Uses p) :
    Attempt.Mirrors (E := E) m Eq (expandedSql p)
      (expandedSql (m.place p)) := by
  apply Attempt.Mirrors.andThen
    (requireHandle_mirrors hUses _)
  intro st
  apply Attempt.Mirrors.andThen (.invoke _)
  intro text
  cases text with
  | some t => exact .pure rfl
  | none =>
      exact .andThen (.lift (lookup_mirrors hUses))
        fun s => .refuse _

theorem owner_mirrors
    (hUses : m.Uses p) :
    Attempt.Mirrors (E := E) m Eq (owner p)
      (owner (m.place p)) :=
  .andThen (requireHandle_mirrors hUses _)
    fun _ => .map (.lift (lookup_mirrors hUses))

end Statement

------------------------------------------------------------
-- Rows
------------------------------------------------------------

namespace Row

open Statement

/-
  A row is read at the place of its statement in one session,
  and at the image of that place in the other.
-/
theorem current_mirrors (r : Row) :
    Attempt.Mirrors (E := E) m
      (fun p p' => p' = m.place p ∧ m.Uses p)
      r.current r.current := by
  apply Attempt.Mirrors.bind
  · apply Attempt.Mirrors.read
      (Q := fun o o' => o' = o.map m.place ∧
        ∀ p, o = some p → m.Uses p)
    intro w w' h
    exact ⟨h.placeOf r, fun p => h.used_of_placeOf⟩
  · rintro o _ ⟨rfl, hUsed⟩
    cases o with
    | none => exact .refuse _
    | some p =>
        have hUses := hUsed p rfl
        apply Attempt.Mirrors.andThen
          (.lift (lookup_mirrors hUses))
        intro s
        exact .andThen (.require _ _)
          fun _ => .pure ⟨rfl, hUses⟩

/- What is read from a row is read from its statement. -/
theorem read_mirrors
    {f : Place → Attempt E α}
    (r : Row)
    (hRead : ∀ {p}, m.Uses p →
      Attempt.Mirrors m Eq (f p) (f (m.place p))) :
    Attempt.Mirrors m Eq (r.current >>= f)
      (r.current >>= f) := by
  apply Attempt.Mirrors.bind (current_mirrors r)
  rintro p _ ⟨rfl, hUses⟩
  exact hRead hUses

theorem values_mirrors (r : Row) :
    Attempt.Mirrors (E := E) m Eq r.values r.values := by
  apply read_mirrors
  intro p hUses
  apply Attempt.Mirrors.andThen (columnCount_mirrors hUses)
  intro count
  exact .andThen (requireHandle_mirrors hUses _)
    fun st => readColumns_mirrors hUses st 0 count

end Row

end SqliteAccess
