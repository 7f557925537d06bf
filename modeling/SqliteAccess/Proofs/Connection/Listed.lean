import SqliteAccess.Proofs.Session.Custody

/-
  How connections keep lists of what is live on them.

  Key definitions include:
    * `SameHandles`

  The lists are characterized by:
    * `Listed.add`
    * `Listed.remove`
    * `Listed.replace`
    * `Listed.of_live`
-/

namespace SqliteAccess

------------------------------------------------------------
-- Handles of Connections
------------------------------------------------------------

/-
  Whether two tables have the same connections with the same
  handles.
-/
def SameHandles
    (connections connections' :
      Table ConnectionId Connection) : Prop :=
  ∀ c, (connections'.get? c).map (·.handle) =
    (connections.get? c).map (·.handle)

namespace SameHandles

variable {connections connections' connections'' :
  Table ConnectionId Connection}
variable {c : ConnectionId} {conn : Connection}

theorem refl
    (connections : Table ConnectionId Connection) :
    SameHandles connections connections :=
  fun _ => rfl

theorem trans
    (hFirst : SameHandles connections connections')
    (hSecond : SameHandles connections' connections'') :
    SameHandles connections connections'' :=
  fun c => (hSecond c).trans (hFirst c)

theorem symm
    (hSame : SameHandles connections connections') :
    SameHandles connections' connections :=
  fun c => (hSame c).symm

/- A connection is still there, with the handle it had. -/
theorem get?_eq_some
    (hSame : SameHandles connections connections')
    (hConnection : connections.get? c = some conn) :
    ∃ conn', connections'.get? c = some conn' ∧
      conn'.handle = conn.handle := by
  have hMap := hSame c
  rw [hConnection, Option.map_some] at hMap
  exact Option.map_eq_some_iff.mp hMap

theorem modify
    {f : Connection → Connection}
    (connections : Table ConnectionId Connection)
    (c : ConnectionId)
    (hHandle : ∀ conn, (f conn).handle = conn.handle) :
    SameHandles connections (connections.modify c f) := by
  intro c'
  rw [Table.get?_modify]
  by_cases hSame : c' = c
  · subst hSame
    cases connections.get? c' <;> simp [hHandle]
  · simp [hSame]

theorem modify?
    {f : Connection → Connection}
    (connections : Table ConnectionId Connection)
    (c : Option ConnectionId)
    (hHandle : ∀ conn, (f conn).handle = conn.handle) :
    SameHandles connections (connections.modify? c f) := by
  cases c with
  | none => exact refl connections
  | some c => exact modify connections c hHandle

end SameHandles

------------------------------------------------------------
-- Lists of Live Places
------------------------------------------------------------

namespace Listed

variable {connections : Table ConnectionId Connection}
variable {list : Connection → List Place}
variable {live live' : Place → ConnectionId → Prop}
variable {closing : Option ConnectionId}
variable {f : Connection → Connection}
variable {c : ConnectionId} {p : Place}

/- The lists depend only on what is live where. -/
theorem of_live
    (hListed : Listed connections list live closing)
    (hLive : ∀ p c, closing ≠ some c →
      (live' p c ↔ live p c)) :
    Listed connections list live' closing where
  mem_iff {c conn p} hConnection := by
    rw [hListed.mem_iff hConnection]
    constructor
    · rintro ⟨hClosing, hIs⟩
      exact ⟨hClosing, (hLive p c hClosing).mpr hIs⟩
    · rintro ⟨hClosing, hIs⟩
      exact ⟨hClosing, (hLive p c hClosing).mp hIs⟩
  nodup := hListed.nodup

/- A change of a connection that does not concern the list. -/
theorem modify
    (hListed : Listed connections list live closing)
    (c : ConnectionId)
    (hList : ∀ conn, list (f conn) = list conn) :
    Listed (connections.modify c f) list live closing := by
  have hOld : ∀ {c' conn'},
      (connections.modify c f).get? c' = some conn' →
        ∃ conn, connections.get? c' = some conn ∧
          list conn' = list conn := by
    intro c' conn' hConnection
    rcases Table.get?_modify_eq_some.mp hConnection with
      ⟨rfl, conn, hOld, rfl⟩ | ⟨_, hOld⟩
    · exact ⟨conn, hOld, hList conn⟩
    · exact ⟨conn', hOld, rfl⟩
  constructor
  · intro c' conn' p hConnection
    rcases hOld hConnection with ⟨conn, hBefore, hSame⟩
    rw [hSame]
    exact hListed.mem_iff hBefore
  · intro c' conn' hConnection
    rcases hOld hConnection with ⟨conn, hBefore, hSame⟩
    rw [hSame]
    exact hListed.nodup hBefore

theorem modify?
    (hListed : Listed connections list live closing)
    (c : Option ConnectionId)
    (hList : ∀ conn, list (f conn) = list conn) :
    Listed (connections.modify? c f) list live closing := by
  cases c with
  | none => exact hListed
  | some c => exact hListed.modify c hList

/- A place is entered. -/
theorem add
    (hListed : Listed connections list live closing)
    (hAdd : ∀ conn,
      list (f conn) = p :: (list conn).filter (· ≠ p))
    (hClosing : closing ≠ some c) :
    Listed (connections.modify c f) list
      (fun q c' => live q c' ∨ q = p ∧ c' = c) closing where
  mem_iff {c' conn' q} hConnection := by
    rcases Table.get?_modify_eq_some.mp hConnection with
      ⟨rfl, conn, hOld, rfl⟩ | ⟨hOther, hOld⟩
    · have hMember := hListed.mem_iff (p := q) hOld
      by_cases hPlace : q = p
      · simp [hAdd, hPlace, hClosing]
      · simp [hAdd, hPlace, hMember]
    · rw [hListed.mem_iff hOld]
      simp [hOther]
  nodup {c' conn'} hConnection := by
    rcases Table.get?_modify_eq_some.mp hConnection with
      ⟨rfl, conn, hOld, rfl⟩ | ⟨_, hOld⟩
    · rw [hAdd, List.nodup_cons]
      exact ⟨by simp, (hListed.nodup hOld).filter _⟩
    · exact hListed.nodup hOld

/- A place is struck out. -/
theorem remove
    (hListed : Listed connections list live closing)
    (hRemove : ∀ conn,
      list (f conn) = (list conn).filter (· ≠ p)) :
    Listed (connections.modify c f) list
      (fun q c' => live q c' ∧ ¬ (q = p ∧ c' = c))
      closing where
  mem_iff {c' conn' q} hConnection := by
    rcases Table.get?_modify_eq_some.mp hConnection with
      ⟨rfl, conn, hOld, rfl⟩ | ⟨hOther, hOld⟩
    · simp [hRemove, hListed.mem_iff hOld, and_assoc]
    · rw [hListed.mem_iff hOld]
      simp [hOther]
  nodup {c' conn'} hConnection := by
    rcases Table.get?_modify_eq_some.mp hConnection with
      ⟨rfl, conn, hOld, rfl⟩ | ⟨_, hOld⟩
    · rw [hRemove]
      exact (hListed.nodup hOld).filter _
    · exact hListed.nodup hOld

/- A place is struck out at a connection, if one is given. -/
theorem remove?
    {c : Option ConnectionId}
    (hListed : Listed connections list live closing)
    (hRemove : ∀ conn,
      list (f conn) = (list conn).filter (· ≠ p)) :
    Listed (connections.modify? c f) list
      (fun q c' => live q c' ∧ ¬ (q = p ∧ c = some c'))
      closing := by
  cases c with
  | none =>
      apply hListed.of_live
      intro q c' _
      simp
  | some c =>
      apply (hListed.remove hRemove).of_live
      intro q c' _
      simp [eq_comm]

/- A live statement is entered in the place of another. -/
theorem replace
    {old : Place}
    (new : Place)
    (hListed : Listed connections (·.statements) live closing)
    (hLive : live old c) :
    Listed
      (connections.modify c (·.replaceStatement old new))
      (·.statements)
      (fun q c' =>
        live q c' ∧ ¬ (q = old ∧ c' = c) ∨ q = new ∧ c' = c)
      closing where
  mem_iff {c' conn' q} hConnection := by
    rcases Table.get?_modify_eq_some.mp hConnection with
      ⟨rfl, conn, hBefore, rfl⟩ | ⟨hElse, hBefore⟩
    · have hOld := hListed.mem_iff (p := old) hBefore
      have hMember := hListed.mem_iff (p := q) hBefore
      by_cases hClosing : closing = some c'
      · have hAbsent : old ∉ conn.statements := by
          simp [hOld, hClosing]
        simp [Connection.replaceStatement, hAbsent, hMember,
          hClosing]
      · have hPresent : old ∈ conn.statements := by
          simp [hOld, hClosing, hLive]
        by_cases hNew : q = new
        · simp [Connection.replaceStatement, hPresent,
            Connection.addStatement, hNew, hClosing]
        · simp [Connection.replaceStatement, hPresent,
            Connection.addStatement,
            Connection.removeStatement, hNew, hMember,
            and_assoc]
    · rw [hListed.mem_iff hBefore]
      simp [hElse]
  nodup {c' conn'} hConnection := by
    rcases Table.get?_modify_eq_some.mp hConnection with
      ⟨rfl, conn, hBefore, rfl⟩ | ⟨_, hBefore⟩
    · have hNodup := hListed.nodup hBefore
      unfold Connection.replaceStatement
      split
      · simp only [Connection.addStatement,
          Connection.removeStatement, List.nodup_cons]
        exact ⟨by simp, (hNodup.filter _).filter _⟩
      · exact hNodup
    · exact hListed.nodup hBefore

/- A connection is made that lists nothing. -/
theorem put
    {conn : Connection}
    (hListed : Listed connections list live closing)
    (hList : list conn = [])
    (hLive : ∀ p, ¬ live p c) :
    Listed (connections.put c conn) list live closing where
  mem_iff {c' conn' p} hConnection := by
    rcases Table.get?_put_eq_some.mp hConnection with
      ⟨rfl, rfl⟩ | ⟨_, hOld⟩
    · simp [hList, hLive p]
    · exact hListed.mem_iff hOld
  nodup {c' conn'} hConnection := by
    rcases Table.get?_put_eq_some.mp hConnection with
      ⟨rfl, rfl⟩ | ⟨_, hOld⟩
    · simp [hList]
    · exact hListed.nodup hOld

theorem erase
    (hListed : Listed connections list live closing) :
    Listed (connections.erase c) list live closing where
  mem_iff hConnection :=
    hListed.mem_iff (Table.get?_erase_eq_some.mp hConnection).2
  nodup hConnection :=
    hListed.nodup (Table.get?_erase_eq_some.mp hConnection).2

/- The children of a connection are about to be released. -/
theorem disowned
    (hListed : Listed connections list live none)
    (hNone : ∀ conn, list (f conn) = []) :
    Listed (connections.modify c f) list live (some c) where
  mem_iff {c' conn' p} hConnection := by
    rcases Table.get?_modify_eq_some.mp hConnection with
      ⟨rfl, conn, hOld, rfl⟩ | ⟨hOther, hOld⟩
    · simp [hNone]
    · simp [hListed.mem_iff hOld, hOther.symm]
  nodup {c' conn'} hConnection := by
    rcases Table.get?_modify_eq_some.mp hConnection with
      ⟨rfl, conn, hOld, rfl⟩ | ⟨_, hOld⟩
    · simp [hNone]
    · exact hListed.nodup hOld

/- The children of a connection have been released. -/
theorem freed
    (hListed : Listed connections list live (some c))
    (hNone : ∀ p, ¬ live p c) :
    Listed connections list live none where
  mem_iff {c' conn p} hConnection := by
    rw [hListed.mem_iff hConnection]
    by_cases hSame : c = c'
    · subst hSame
      simp [hNone p]
    · simp [hSame]
  nodup := hListed.nodup

/- A connection that lists nothing has nothing live. -/
theorem not_live_of_nil
    {conn : Connection}
    (hListed : Listed connections list live closing)
    (hConnection : connections.get? c = some conn)
    (hClosing : closing ≠ some c)
    (hNil : list conn = []) :
    ¬ live p c := by
  intro hLive
  have hMember :=
    (hListed.mem_iff hConnection).mpr ⟨hClosing, hLive⟩
  simp [hNil] at hMember

end Listed

end SqliteAccess
