import SqliteAccess.Connection.Opening

/-
  What the changes of a world do to its tables.

  Every change is brought to one form, a record update of the
  tables that it writes, so that all other fields are seen to
  be untouched by computation.

  Key definitions include:
    * `Table.modify`
    * `World.heard`

  The changes are characterized by:
    * `Ascending.sort_perm`
    * `Ascending.sort_eq_of_perm`
    * `Ascending.sort_map`
    * `Table.get?_modify`
    * `World.modifyStatement_eq`
    * `World.modifyConnection_eq`
    * `Statement.register_eq`
    * `Statement.transfer_eq`
-/

namespace SqliteAccess

------------------------------------------------------------
-- Ascending Order
------------------------------------------------------------

namespace Ascending

variable {α : Type}

theorem insert_perm
    (rank : α → Nat)
    (x : α)
    (l : List α) :
    (insert rank x l).Perm (x :: l) := by
  induction l with
  | nil => exact .refl _
  | cons y r ih =>
      unfold insert
      split
      · exact .refl _
      · exact (ih.cons y).trans (.swap x y r)

/- Sorting changes the order only. -/
theorem sort_perm
    (rank : α → Nat)
    (l : List α) :
    (sort rank l).Perm l := by
  induction l with
  | nil => exact .refl _
  | cons x r ih =>
      exact (insert_perm rank x (sort rank r)).trans
        (ih.cons x)

/- Elements of different rank may be put in either order. -/
theorem insert_comm
    {rank : α → Nat}
    (hRank : ∀ {x y}, rank x = rank y → x = y)
    (x y : α)
    (l : List α) :
    insert rank x (insert rank y l) =
      insert rank y (insert rank x l) := by
  by_cases hSame : rank x = rank y
  · rw [hRank hSame]
  · induction l with
    | nil => grind [insert]
    | cons z l ih => grind [insert]

/- Only the elements matter where no two have one rank. -/
theorem sort_eq_of_perm
    {rank : α → Nat}
    {l l' : List α}
    (hRank : ∀ {x y}, rank x = rank y → x = y)
    (hPerm : l.Perm l') :
    sort rank l = sort rank l' := by
  induction hPerm with
  | nil => rfl
  | cons x _ ih => exact congrArg (insert rank x) ih
  | swap x y l => exact insert_comm hRank y x (sort rank l)
  | trans _ _ ih ih' => exact ih.trans ih'

theorem insert_map
    {β : Type}
    (rank : β → Nat)
    (f : α → β)
    (x : α)
    (l : List α) :
    insert rank (f x) (l.map f) =
      (insert (fun x => rank (f x)) x l).map f := by
  induction l with
  | nil => rfl
  | cons y l ih =>
      simp only [insert, List.map_cons, ih]
      split
      case isTrue => rfl
      case isFalse => rfl

/- Images are sorted as what they are images of. -/
theorem sort_map
    {β : Type}
    (rank : β → Nat)
    (f : α → β)
    (l : List α) :
    sort rank (l.map f) =
      (sort (fun x => rank (f x)) l).map f := by
  induction l with
  | nil => rfl
  | cons x l ih =>
      simp only [sort, List.map_cons, ih, insert_map]

end Ascending

------------------------------------------------------------
-- Tables
------------------------------------------------------------

namespace Table

variable {κ α : Type} [DecidableEq κ]

/- Change the value of a key that has one. -/
def modify
    (t : Table κ α)
    (k : κ)
    (f : α → α) : Table κ α :=
  match t.get? k with
  | none => t
  | some v => t.put k (f v)

/- Change the value of a key if a key is given. -/
def modify?
    (t : Table κ α)
    (k : Option κ)
    (f : α → α) : Table κ α :=
  match k with
  | none => t
  | some k => t.modify k f

/- Give a value to a key if a key is given. -/
def put?
    (t : Table κ α)
    (k : Option κ)
    (v : α) : Table κ α :=
  match k with
  | none => t
  | some k => t.put k v

/- Remove a key if one is given. -/
def erase?
    (t : Table κ α)
    (k : Option κ) : Table κ α :=
  match k with
  | none => t
  | some k => t.erase k

@[simp]
theorem get?_modify
    (t : Table κ α)
    (k k' : κ)
    (f : α → α) :
    (t.modify k f).get? k' =
      if k' = k then (t.get? k).map f else t.get? k' := by
  unfold modify
  cases hValue : t.get? k with
  | none =>
      by_cases hKey : k' = k
      · simp [hKey, hValue]
      · simp [hKey]
  | some v => simp

theorem get?_modify?_of_ne
    {k : Option κ}
    {k' : κ}
    (hOther : k ≠ some k')
    (t : Table κ α)
    (f : α → α) :
    (t.modify? k f).get? k' = t.get? k' := by
  cases k with
  | none => rfl
  | some k =>
      have hKey : k' ≠ k := fun h => hOther (congrArg _ h.symm)
      simp [modify?, hKey]

@[simp]
theorem get?_put?
    (t : Table κ α)
    (k : Option κ)
    (k' : κ)
    (v : α) :
    (t.put? k v).get? k' =
      if k = some k' then some v else t.get? k' := by
  cases k with
  | none => simp [put?]
  | some k =>
      by_cases hKey : k' = k
      · simp [put?, hKey]
      · have hOther : k ≠ k' := fun h => hKey h.symm
        simp [put?, hKey, hOther]

@[simp]
theorem get?_erase?
    (t : Table κ α)
    (k : Option κ)
    (k' : κ) :
    (t.erase? k).get? k' =
      if k = some k' then none else t.get? k' := by
  cases k with
  | none => simp [erase?]
  | some k =>
      by_cases hKey : k' = k
      · simp [erase?, hKey]
      · have hOther : k ≠ k' := fun h => hKey h.symm
        simp [erase?, hKey, hOther]

/- Changing a key that has a value gives it another one. -/
theorem modify_eq_put
    {t : Table κ α}
    {k : κ}
    {v : α}
    (f : α → α)
    (hValue : t.get? k = some v) :
    t.modify k f = t.put k (f v) := by
  simp [modify, hValue]

/- Changing a key that has no value changes nothing. -/
theorem modify_eq_self
    {t : Table κ α}
    {k : κ}
    (f : α → α)
    (hValue : t.get? k = none) :
    t.modify k f = t := by
  simp [modify, hValue]

/- Removing a key that has no value changes nothing. -/
theorem erase_eq_self
    {t : Table κ α}
    {k : κ}
    (hValue : t.get? k = none) :
    t.erase k = t := by
  rcases t with ⟨entries⟩
  have hAbsent : ∀ e ∈ entries, e.1 ≠ k := by
    simpa [get?] using hValue
  simp only [erase, mk.injEq, List.filter_eq_self]
  exact fun e hMember => decide_eq_true (hAbsent e hMember)

/- A value that is removed need not be given first. -/
@[simp]
theorem erase_put_self
    (t : Table κ α)
    (k : κ)
    (v : α) :
    (t.put k v).erase k = t.erase k := by
  simp [put, erase]

/- Only the last of two values of a key remains. -/
@[simp]
theorem put_put
    (t : Table κ α)
    (k : κ)
    (v v' : α) :
    (t.put k v).put k v' = t.put k v' := by
  simp [put, erase]

/- A value that is replaced need not be removed first. -/
@[simp]
theorem erase_put
    (t : Table κ α)
    (k : κ)
    (v : α) :
    (t.erase k).put k v = t.put k v := by
  simp [put, erase]

@[simp]
theorem contains_put
    (t : Table κ α)
    (k k' : κ)
    (v : α) :
    (t.put k v).contains k' =
      (decide (k' = k) || t.contains k') := by
  by_cases hKey : k' = k <;> simp [contains, hKey]

@[simp]
theorem contains_erase
    (t : Table κ α)
    (k k' : κ) :
    (t.erase k).contains k' =
      (decide (k' ≠ k) && t.contains k') := by
  by_cases hKey : k' = k <;> simp [contains, hKey]

/- A key that has a value keeps having one. -/
theorem contains_put_of_get?
    {t : Table κ α}
    {k : κ}
    {v : α}
    (v' : α)
    (hValue : t.get? k = some v)
    (k' : κ) :
    (t.put k v').contains k' = t.contains k' := by
  by_cases hKey : k' = k
  · subst hKey
    simp [contains, hValue]
  · simp [hKey]

theorem get?_put_eq_some
    {t : Table κ α}
    {k k' : κ}
    {v v' : α} :
    (t.put k v).get? k' = some v' ↔
      k' = k ∧ v = v' ∨ k' ≠ k ∧ t.get? k' = some v' := by
  by_cases hKey : k' = k <;> simp [hKey]

theorem get?_modify_eq_some
    {t : Table κ α}
    {k k' : κ}
    {v' : α}
    {f : α → α} :
    (t.modify k f).get? k' = some v' ↔
      (k' = k ∧ ∃ v, t.get? k' = some v ∧ f v = v') ∨
        k' ≠ k ∧ t.get? k' = some v' := by
  by_cases hKey : k' = k
  · subst hKey
    simp
  · simp [hKey]

theorem get?_erase_eq_some
    {t : Table κ α}
    {k k' : κ}
    {v : α} :
    (t.erase k).get? k' = some v ↔
      k' ≠ k ∧ t.get? k' = some v := by
  by_cases hKey : k' = k <;> simp [hKey]

end Table

------------------------------------------------------------
-- Worlds
------------------------------------------------------------

namespace World

variable {E : Engine}

/- A world in which one more call has been answered. -/
def heard
    (w : World E)
    (e : Event)
    (engine : E.State) : World E :=
  { w with engine, trace := e :: w.trace }

@[simp]
theorem modifyConnection_eq
    (c : ConnectionId)
    (f : Connection → Connection)
    (w : World E) :
    w.modifyConnection c f =
      { w with connections := w.connections.modify c f } := by
  unfold modifyConnection Table.modify
  cases w.connections.get? c <;> rfl

@[simp]
theorem modifyLinked_eq
    (c : Option ConnectionId)
    (f : Connection → Connection)
    (w : World E) :
    w.modifyLinked c f =
      { w with connections := w.connections.modify? c f } := by
  cases c with
  | none => rfl
  | some c => exact modifyConnection_eq c f w

@[simp]
theorem modifyStatement_eq
    (p : Place)
    (f : Statement → Statement)
    (w : World E) :
    w.modifyStatement p f =
      { w with statements := w.statements.modify p f } := by
  unfold modifyStatement Table.modify
  cases w.statements.get? p <;> rfl

@[simp]
theorem modifyTransaction_eq
    (p : Place)
    (f : Transaction → Transaction)
    (w : World E) :
    w.modifyTransaction p f =
      { w with
        transactions := w.transactions.modify p f } := by
  unfold modifyTransaction Table.modify
  cases w.transactions.get? p <;> rfl

@[simp]
theorem modifySavepoint_eq
    (p : Place)
    (f : Savepoint → Savepoint)
    (w : World E) :
    w.modifySavepoint p f =
      { w with savepoints := w.savepoints.modify p f } := by
  unfold modifySavepoint Table.modify
  cases w.savepoints.get? p <;> rfl

@[simp]
theorem modifyBackup_eq
    (p : Place)
    (f : Backup → Backup)
    (w : World E) :
    w.modifyBackup p f =
      { w with backups := w.backups.modify p f } := by
  unfold modifyBackup Table.modify
  cases w.backups.get? p <;> rfl

@[simp]
theorem setAnchor_eq
    (a : Option Anchor)
    (p : Place)
    (w : World E) :
    w.setAnchor a p =
      { w with anchors := w.anchors.put? a p } := by
  cases a <;> rfl

@[simp]
theorem dropAnchor_eq
    (a : Option Anchor)
    (w : World E) :
    w.dropAnchor a =
      { w with anchors := w.anchors.erase? a } := by
  cases a <;> rfl

/- The statement at a place where there is one. -/
theorem statement_of_get?
    {w : World E}
    {p : Place}
    {s : Statement}
    (hStatement : w.statements.get? p = some s) :
    w.statement p = s := by
  simp [statement, hStatement]

/- A statement that is changed where there is one. -/
theorem statement_modifyStatement
    {w : World E}
    {p : Place}
    {s : Statement}
    {f : Statement → Statement}
    (hStatement : w.statements.get? p = some s) :
    (w.modifyStatement p f).statement p = f s := by
  simp [statement, hStatement]

/- The connection with an identity that one has. -/
theorem connection_of_get?
    {w : World E}
    {c : ConnectionId}
    {conn : Connection}
    (hConnection : w.connections.get? c = some conn) :
    w.connection c = conn := by
  simp [connection, hConnection]

/- The backup at a place where there is one. -/
theorem backup_of_get?
    {w : World E}
    {p : Place}
    {b : Backup}
    (hBackup : w.backups.get? p = some b) :
    w.backup p = b := by
  simp [backup, hBackup]

/- A handle is only read from a statement that exists. -/
theorem get?_of_statement_handle
    {w : World E}
    {p : Place}
    {st : StatementHandle}
    (hHandle : (w.statement p).handle = some st) :
    ∃ s, w.statements.get? p = some s ∧
      s.handle = some st := by
  unfold statement at hHandle
  cases hStatement : w.statements.get? p with
  | none =>
      simp [hStatement, Statement.vacant] at hHandle
  | some s =>
      exact ⟨s, rfl, by simpa [hStatement] using hHandle⟩

/- A handle is only read from a connection that exists. -/
theorem get?_of_connection_handle
    {w : World E}
    {c : ConnectionId}
    {db : DatabaseHandle}
    (hHandle : (w.connection c).handle = some db) :
    ∃ conn, w.connections.get? c = some conn ∧
      conn.handle = some db := by
  unfold connection at hHandle
  cases hConnection : w.connections.get? c with
  | none =>
      simp [hConnection, Connection.vacant] at hHandle
  | some conn =>
      exact ⟨conn, rfl, by simpa [hConnection] using hHandle⟩

/- A handle is only read from a backup that exists. -/
theorem get?_of_backup_handle
    {w : World E}
    {p : Place}
    {bk : BackupHandle}
    (hHandle : (w.backup p).handle = some bk) :
    ∃ b, w.backups.get? p = some b ∧
      b.handle = some bk := by
  unfold backup at hHandle
  cases hBackup : w.backups.get? p with
  | none =>
      simp [hBackup, Backup.vacant] at hHandle
  | some b =>
      exact ⟨b, rfl, by simpa [hBackup] using hHandle⟩

end World

------------------------------------------------------------
-- Objects That Come and Go
------------------------------------------------------------

section Objects

variable {E : Engine}

@[simp]
theorem Statement.register_eq
    (c : ConnectionId)
    (p : Place)
    (s : Statement)
    (w : World E) :
    Statement.register c p s w =
      { w with
        issued.anchors := w.issued.anchors + 1
        anchors := w.anchors.put? s.anchor p
        statements := w.statements.put p s
        connections :=
          w.connections.modify c (·.addStatement p) } := by
  unfold Statement.register
  rw [World.modifyConnection_eq]
  cases s.anchor <;> rfl

@[simp]
theorem Statement.transfer_eq
    (source target : Place)
    (w : World E) :
    Statement.transfer source target w =
      { w with
        anchors :=
          (w.anchors.erase? (w.statement target).anchor).put?
            (w.statement source).anchor target
        connections :=
          w.connections.modify? (w.statement source).connection
            (·.replaceStatement source target)
        statements :=
          (w.statements.put target (w.statement source)).put
            source (w.statement source).emptied } := by
  simp only [Statement.transfer, World.modifyLinked_eq,
    World.setAnchor_eq, World.dropAnchor_eq]

@[simp]
theorem Backup.register_eq
    (p : Place)
    (bk : BackupHandle)
    (source destination : ConnectionId)
    (w : World E) :
    Backup.register p bk source destination w =
      { w with
        connections :=
          (w.connections.modify source (·.addBackup p)).modify
            destination (·.addBackup p)
        issued.backups := bk.number
        backups := w.backups.put p
          { handle := some bk
            source := some source
            destination := some destination
            complete := false } } := by
  simp only [Backup.register, World.modifyConnection_eq]

end Objects

end SqliteAccess
