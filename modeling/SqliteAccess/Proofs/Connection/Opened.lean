import SqliteAccess.Connection.Opening
import SqliteAccess.Proofs.Connection.Listed

/-
  How the handles of databases stay accounted for.

  The changes are characterized by:
    * `Opened.heard`
    * `Opened.created`
    * `Opened.settled`
    * `Opened.givenBack`
    * `Housed.put`
    * `Housed.erase`
-/

namespace SqliteAccess

/- A call does not concern databases that it does not name. -/
theorem Lifetime.spared_of_not_mem
    {e : Event}
    {db : DatabaseHandle}
    (t : Trace)
    (hOther : db ∉ e.call.databases) :
    (Lifetime.database db).Spared t e := by
  apply spared_of_not_names
  simpa [Lifetime.database] using hOther

/- Only a call that names a database can leave it. -/
theorem Lifetime.leaves_eq_false
    {e : Event}
    {db : DatabaseHandle}
    (hOther : db ∉ e.call.databases) :
    Lifetime.leaves db e = false := by
  rcases e with ⟨call, answer⟩
  cases call <;> try rfl
  simp_all [Lifetime.leaves, Call.databases, eq_comm]

/- What a failed opening has left was created by it. -/
theorem Lifetime.born_of_leaves
    {e : Event}
    {db : DatabaseHandle}
    (hLeaves : Lifetime.leaves db e) :
    (Lifetime.database db).born e := by
  rcases e with ⟨call, answer⟩
  cases call <;> try cases hLeaves
  case openDatabase =>
    simp_all [Lifetime.leaves, Lifetime.database]

/- What was never created was not left either. -/
theorem Lifetime.any_leaves_eq_false
    {t : Trace}
    {db : DatabaseHandle}
    (hBirths : (Lifetime.database db).births t = 0) :
    t.any (Lifetime.leaves db) = false := by
  rw [List.any_eq_false]
  intro e hMember hLeaves
  exact List.countP_eq_zero.mp hBirths e hMember
    (born_of_leaves hLeaves)

namespace Opened

variable {connections : Table ConnectionId Connection}
variable {t : Trace} {arriving : Option DatabaseHandle}
variable {issued issuedConnections : Nat}
variable {e : Event} {c : ConnectionId} {conn : Connection}
variable {db : DatabaseHandle}

/- A handle that was just numbered was never created. -/
theorem births_eq_zero
    (hOpened :
      Opened connections t arriving issued issuedConnections)
    (hNumber : db.number = issued + 1) :
    (Lifetime.database db).births t = 0 := by
  by_cases hBirths : (Lifetime.database db).births t = 0
  · exact hBirths
  · have hOld := hOpened.numbered hBirths
    omega

/- What the connections have open is alive. -/
theorem alive_of_arriving
    (hOpened :
      Opened connections t arriving issued issuedConnections)
    (hIs : (∃ c conn, connections.get? c = some conn ∧
      conn.handle = some db) ∨ arriving = some db) :
    (Lifetime.database db).alive t := by
  rcases hIs with ⟨c, conn, hConnection, hHandle⟩ | hIs
  · exact (hOpened.alive hConnection hHandle).1
  · exact hOpened.fresh hIs

/- A call that leaves every handle as it is. -/
theorem heard
    (hOpened :
      Opened connections t arriving issued issuedConnections)
    (hSpared : ∀ db, (Lifetime.database db).Spared t e)
    (hLeaves : ∀ db, Lifetime.leaves db e = false) :
    Opened connections (e :: t) arriving issued
      issuedConnections where
  alive hConnection hHandle := by
    rcases hOpened.alive hConnection hHandle with
      ⟨hAlive, hNone⟩
    rw [(hSpared _).alive_cons]
    exact ⟨hAlive, by simp [hLeaves, hNone]⟩
  kept := hOpened.kept
  unique := hOpened.unique
  fresh hArriving := by
    rw [(hSpared _).alive_cons]
    exact hOpened.fresh hArriving
  custody hAlive := by
    rw [(hSpared _).alive_cons] at hAlive
    exact hOpened.custody hAlive
  numbered hBirths := by
    rw [(hSpared _).births_cons] at hBirths
    exact hOpened.numbered hBirths
  identified := hOpened.identified

------------------------------------------------------------
-- Opening
------------------------------------------------------------

/- A database is opened. -/
theorem created
    {path : Bytes}
    {flags : Int32}
    {answer : OpenAnswer}
    (hOpened :
      Opened connections t none issued issuedConnections)
    (hNumber : db.number = issued + 1)
    (hCreated : answer.created) :
    Opened connections
      (⟨.openDatabase path flags db, answer⟩ :: t) (some db)
      db.number issuedConnections := by
  have hNew := hOpened.births_eq_zero hNumber
  have hOther : ∀ {db'},
      (Lifetime.database db').births t ≠ 0 → db ≠ db' := by
    intro db' hBirths hSame
    subst hSame
    exact hBirths hNew
  have hHeld : ∀ {c conn db'}, connections.get? c = some conn →
      conn.handle = some db' → db ≠ db' := by
    intro c conn db' hConnection hHandle
    exact hOther
      (Lifetime.births_ne_zero_of_alive
        (hOpened.alive hConnection hHandle).1)
  have hSpared : ∀ {db'}, db ≠ db' →
      (Lifetime.database db').Spared t
        ⟨.openDatabase path flags db, answer⟩ := by
    intro db' hSame
    apply Lifetime.spared_of_not_mem
    simpa [Call.databases] using hSame.symm
  constructor
  case alive =>
    intro c conn db' hConnection hHandle
    have hSame := hHeld hConnection hHandle
    rcases hOpened.alive hConnection hHandle with
      ⟨hAlive, hNone⟩
    rw [(hSpared hSame).alive_cons]
    exact ⟨hAlive, by simp [Lifetime.leaves, hSame, hNone]⟩
  case kept =>
    intro c conn db' hConnection hHandle hSame
    exact hHeld hConnection hHandle (Option.some.inj hSame)
  case unique => exact hOpened.unique
  case fresh =>
    intro db' hArriving
    cases hArriving
    apply Lifetime.alive_of_born
    simp [Lifetime.database, hCreated]
  case custody =>
    intro db' hAlive
    by_cases hSame : db = db'
    · exact .inl (congrArg some hSame)
    · rw [(hSpared hSame).alive_cons] at hAlive
      rcases hOpened.custody hAlive with h | h
      · cases h
      · exact .inr h
  case numbered =>
    intro db' hBirths
    by_cases hSame : db = db'
    · subst hSame
      exact Nat.le_refl _
    · rw [(hSpared hSame).births_cons] at hBirths
      have hOld := hOpened.numbered hBirths
      omega
  case identified => exact hOpened.identified

/- A database that was opened gets its connection. -/
theorem settled
    (hOpened :
      Opened connections t (some db) issued
        issuedConnections)
    (hSuccess : t.any (Lifetime.leaves db) = false)
    (hNumber : c.number = issuedConnections + 1)
    (hHandle : conn.handle = some db) :
    Opened (connections.put c conn) t none issued c.number := by
  have hPlace : ∀ {c' conn'}, connections.get? c' = some conn' →
      c' ≠ c := by
    intro c' conn' hConnection hSame
    subst hSame
    have hOld := hOpened.identified hConnection
    omega
  constructor
  case alive =>
    intro c' conn' db' hConnection hOwn
    rcases Table.get?_put_eq_some.mp hConnection with
      ⟨rfl, rfl⟩ | ⟨_, hOld⟩
    · cases hHandle.symm.trans hOwn
      exact ⟨hOpened.fresh rfl, hSuccess⟩
    · exact hOpened.alive hOld hOwn
  case kept =>
    intro c' conn' db' _ _
    simp
  case unique =>
    intro c₁ c₂ conn₁ conn₂ db' hFirst hOwn₁ hSecond hOwn₂
    rcases Table.get?_put_eq_some.mp hFirst with
      ⟨rfl, rfl⟩ | ⟨_, hOld₁⟩
    · rcases Table.get?_put_eq_some.mp hSecond with
        ⟨rfl, rfl⟩ | ⟨_, hOld₂⟩
      · rfl
      · exact absurd (hHandle.symm.trans hOwn₁)
          (hOpened.kept hOld₂ hOwn₂)
    · rcases Table.get?_put_eq_some.mp hSecond with
        ⟨rfl, rfl⟩ | ⟨_, hOld₂⟩
      · exact absurd (hHandle.symm.trans hOwn₂)
          (hOpened.kept hOld₁ hOwn₁)
      · exact hOpened.unique hOld₁ hOwn₁ hOld₂ hOwn₂
  case fresh =>
    intro db' hArriving
    cases hArriving
  case custody =>
    intro db' hAlive
    rcases hOpened.custody hAlive with h | h
    · exact .inr ⟨c, conn, by simp, hHandle.trans h⟩
    · rcases h with ⟨c', conn', hOld, hOwn⟩
      exact .inr
        ⟨c', conn', by simp [hPlace hOld, hOld], hOwn⟩
  case numbered => exact hOpened.numbered
  case identified =>
    intro c' conn' hConnection
    rcases Table.get?_put_eq_some.mp hConnection with
      ⟨rfl, rfl⟩ | ⟨_, hOld⟩
    · exact Nat.le_refl _
    · have hBefore := hOpened.identified hOld
      omega

------------------------------------------------------------
-- Closing
------------------------------------------------------------

/-
  A handle is given back, and whoever had it forgets it; all
  other connections keep their handles.
-/
theorem givenBack
    {connections' : Table ConnectionId Connection}
    {arriving' : Option DatabaseHandle}
    (hOpened :
      Opened connections t arriving issued issuedConnections)
    (hNames : e.call.databases = [db])
    (hEnds : (Lifetime.database db).ends t e)
    (hLeaves : ∀ db, Lifetime.leaves db e = false)
    (hOld : ∀ {c conn'}, connections'.get? c = some conn' →
      ∃ conn, connections.get? c = some conn ∧
        ∀ db', conn'.handle = some db' →
          conn.handle = some db' ∧ db ≠ db')
    (hStays : ∀ {c conn db'},
      connections.get? c = some conn →
        conn.handle = some db' → db ≠ db' →
          ∃ conn', connections'.get? c = some conn' ∧
            conn'.handle = some db')
    (hArriving : ∀ {db'}, arriving' = some db' ↔
      arriving = some db' ∧ db ≠ db') :
    Opened connections' (e :: t) arriving' issued
      issuedConnections := by
  have hSpared : ∀ {db'}, db ≠ db' →
      (Lifetime.database db').Spared t e := by
    intro db' hSame
    apply Lifetime.spared_of_not_mem
    simpa [hNames] using hSame.symm
  have hBorn : ∀ db', (Lifetime.database db').born e = false := by
    intro db'
    by_cases hSame : db = db'
    · subst hSame
      exact Lifetime.born_eq_false
        ((Lifetime.database db).not_makes_of_ends t e hEnds)
    · exact (hSpared hSame).born
  constructor
  case alive =>
    intro c conn' db' hConnection hOwn
    rcases hOld hConnection with ⟨conn, hBefore, hHandles⟩
    rcases hHandles db' hOwn with ⟨hHandle, hSame⟩
    rcases hOpened.alive hBefore hHandle with
      ⟨hAlive, hNone⟩
    rw [(hSpared hSame).alive_cons]
    exact ⟨hAlive, by simp [hLeaves, hNone]⟩
  case kept =>
    intro c conn' db' hConnection hOwn hIs
    rcases hOld hConnection with ⟨conn, hBefore, hHandles⟩
    rcases hHandles db' hOwn with ⟨hHandle, _⟩
    exact hOpened.kept hBefore hHandle (hArriving.mp hIs).1
  case unique =>
    intro c₁ c₂ conn₁ conn₂ db' hFirst hOwn₁ hSecond hOwn₂
    rcases hOld hFirst with ⟨_, hBefore₁, hHandles₁⟩
    rcases hOld hSecond with ⟨_, hBefore₂, hHandles₂⟩
    exact hOpened.unique hBefore₁ (hHandles₁ db' hOwn₁).1
      hBefore₂ (hHandles₂ db' hOwn₂).1
  case fresh =>
    intro db' hIs
    rcases hArriving.mp hIs with ⟨hBefore, hSame⟩
    rw [(hSpared hSame).alive_cons]
    exact hOpened.fresh hBefore
  case custody =>
    intro db' hAlive
    by_cases hSame : db = db'
    · subst hSame
      rw [Lifetime.not_alive_of_ends hEnds] at hAlive
      cases hAlive
    · rw [(hSpared hSame).alive_cons] at hAlive
      rcases hOpened.custody hAlive with h | h
      · exact .inl (hArriving.mpr ⟨h, hSame⟩)
      · rcases h with ⟨c, conn, hBefore, hOwn⟩
        rcases hStays hBefore hOwn hSame with
          ⟨conn', hAfter, hOwn'⟩
        exact .inr ⟨c, conn', hAfter, hOwn'⟩
  case numbered =>
    intro db' hBirths
    simp only [Lifetime.births_cons, hBorn] at hBirths
    exact hOpened.numbered hBirths
  case identified =>
    intro c conn' hConnection
    rcases hOld hConnection with ⟨_, hBefore, _⟩
    exact hOpened.identified hBefore

/- What a failed opening has left is closed. -/
theorem abandoned
    (hOpened :
      Opened connections t (some db) issued
        issuedConnections)
    (hLeft : t.any (Lifetime.leaves db))
    (code : ResultCode) :
    Opened connections (⟨.close db, code⟩ :: t) none issued
      issuedConnections := by
  have hNames :
      (Event.call ⟨.close db, code⟩).databases = [db] :=
    rfl
  apply hOpened.givenBack hNames
  case hEnds => simp [Lifetime.database, hLeft]
  case hLeaves => simp [Lifetime.leaves]
  case hOld =>
    intro c conn hConnection
    refine ⟨conn, hConnection, fun db' hOwn => ⟨hOwn, ?_⟩⟩
    intro hSame
    exact hOpened.kept hConnection hOwn (hSame ▸ rfl)
  case hStays =>
    intro c conn db' hConnection hOwn _
    exact ⟨conn, hConnection, hOwn⟩
  case hArriving => simp

/- The handle of a connection is released. -/
theorem released
    (hOpened :
      Opened connections t arriving issued issuedConnections)
    (hConnection : connections.get? c = some conn)
    (hHandle : conn.handle = some db)
    (hReleases : e = ⟨.close db, ResultCode.ok⟩ ∨
      e = ⟨.closeLater db, ()⟩) :
    Opened
      (connections.modify c Connection.withoutHandle)
      (e :: t) arriving issued issuedConnections := by
  have hNames : e.call.databases = [db] := by
    rcases hReleases with rfl | rfl <;> rfl
  have hEnds : (Lifetime.database db).ends t e := by
    rcases hReleases with rfl | rfl <;>
      simp [Lifetime.database]
  have hLeaves : ∀ db', Lifetime.leaves db' e = false := by
    rcases hReleases with rfl | rfl <;>
      simp [Lifetime.leaves]
  apply hOpened.givenBack hNames hEnds hLeaves
  case hOld =>
    intro c' conn' hAfter
    rcases Table.get?_modify_eq_some.mp hAfter with
      ⟨rfl, conn₀, hBefore, rfl⟩ | ⟨hElse, hBefore⟩
    · refine ⟨conn₀, hBefore, fun db' hOwn => ?_⟩
      cases hOwn
    · refine ⟨conn', hBefore, fun db' hOwn => ⟨hOwn, ?_⟩⟩
      intro hSame
      subst hSame
      exact hElse
        (hOpened.unique hBefore hOwn hConnection hHandle)
  case hStays =>
    intro c' conn' db' hBefore hOwn hSame
    refine ⟨conn', Table.get?_modify_eq_some.mpr
      (.inr ⟨?_, hBefore⟩), hOwn⟩
    intro hPlace
    subst hPlace
    cases hConnection.symm.trans hBefore
    exact hSame (Option.some.inj (hHandle.symm.trans hOwn))
  case hArriving =>
    intro db'
    refine ⟨fun h => ⟨h, fun hSame => ?_⟩, And.left⟩
    exact hOpened.kept hConnection hHandle (hSame ▸ h)

------------------------------------------------------------
-- Changes Without Calls
------------------------------------------------------------

/- The connections keep their handles. -/
theorem of_sameHandles
    {connections' : Table ConnectionId Connection}
    (hOpened :
      Opened connections t arriving issued issuedConnections)
    (hSame : SameHandles connections connections') :
    Opened connections' t arriving issued
      issuedConnections where
  alive hConnection hHandle := by
    rcases hSame.symm.get?_eq_some hConnection with
      ⟨conn, hBefore, hOwn⟩
    exact hOpened.alive hBefore (hOwn.trans hHandle)
  kept hConnection hHandle := by
    rcases hSame.symm.get?_eq_some hConnection with
      ⟨conn, hBefore, hOwn⟩
    exact hOpened.kept hBefore (hOwn.trans hHandle)
  unique hFirst hOwn₁ hSecond hOwn₂ := by
    rcases hSame.symm.get?_eq_some hFirst with
      ⟨_, hBefore₁, hSame₁⟩
    rcases hSame.symm.get?_eq_some hSecond with
      ⟨_, hBefore₂, hSame₂⟩
    exact hOpened.unique hBefore₁ (hSame₁.trans hOwn₁)
      hBefore₂ (hSame₂.trans hOwn₂)
  fresh := hOpened.fresh
  custody hAlive := by
    rcases hOpened.custody hAlive with h | h
    · exact .inl h
    · rcases h with ⟨c, conn, hBefore, hOwn⟩
      rcases hSame.get?_eq_some hBefore with
        ⟨conn', hAfter, hOwn'⟩
      exact .inr ⟨c, conn', hAfter, hOwn'.trans hOwn⟩
  numbered := hOpened.numbered
  identified hConnection := by
    rcases hSame.symm.get?_eq_some hConnection with
      ⟨_, hBefore, _⟩
    exact hOpened.identified hBefore

/- A connection without a handle is forgotten. -/
theorem forgotten
    (hOpened :
      Opened connections t arriving issued issuedConnections)
    (hClosed : ∀ conn, connections.get? c = some conn →
      conn.handle = none) :
    Opened (connections.erase c) t arriving issued
      issuedConnections where
  alive hConnection :=
    hOpened.alive
      (Table.get?_erase_eq_some.mp hConnection).2
  kept hConnection :=
    hOpened.kept (Table.get?_erase_eq_some.mp hConnection).2
  unique hFirst hOwn₁ hSecond hOwn₂ :=
    hOpened.unique
      (Table.get?_erase_eq_some.mp hFirst).2 hOwn₁
      (Table.get?_erase_eq_some.mp hSecond).2 hOwn₂
  fresh := hOpened.fresh
  custody hAlive := by
    rcases hOpened.custody hAlive with h | h
    · exact .inl h
    · rcases h with ⟨c', conn, hBefore, hOwn⟩
      refine .inr ⟨c', conn, Table.get?_erase_eq_some.mpr
        ⟨fun hPlace => ?_, hBefore⟩, hOwn⟩
      subst hPlace
      rw [hClosed conn hBefore] at hOwn
      cases hOwn
  numbered := hOpened.numbered
  identified hConnection :=
    hOpened.identified
      (Table.get?_erase_eq_some.mp hConnection).2

end Opened

------------------------------------------------------------
-- Slots
------------------------------------------------------------

namespace Housed

variable {connections : Table ConnectionId Connection}
variable {plain serialized : Table Nat ConnectionId}
variable {homeless : Option ConnectionId}
variable {c : ConnectionId} {conn : Connection}

theorem of_sameHandles
    {connections' : Table ConnectionId Connection}
    (hHoused : Housed connections plain serialized homeless)
    (hSame : SameHandles connections connections') :
    Housed connections' plain serialized homeless := by
  intro c conn' hConnection
  rcases hSame.symm.get?_eq_some hConnection with
    ⟨conn, hBefore, _⟩
  exact hHoused c conn hBefore

/- A connection changes, and stays in its slots. -/
theorem modify
    (hHoused : Housed connections plain serialized homeless)
    (c : ConnectionId)
    (f : Connection → Connection) :
    Housed (connections.modify c f) plain serialized
      homeless := by
  intro c' conn' hConnection
  rcases Table.get?_modify_eq_some.mp hConnection with
    ⟨_, conn, hBefore, _⟩ | ⟨_, hBefore⟩
  · exact hHoused c' conn hBefore
  · exact hHoused c' conn' hBefore

/- A new connection has no slot yet. -/
theorem put
    (hHoused : Housed connections plain serialized none) :
    Housed (connections.put c conn) plain serialized
      (some c) := by
  intro c' conn' hConnection
  rcases Table.get?_put_eq_some.mp hConnection with
    ⟨rfl, rfl⟩ | ⟨_, hOld⟩
  · exact .inl rfl
  · rcases hHoused c' conn' hOld with h | h
    · cases h
    · exact .inr h

/- A connection without a slot is forgotten. -/
theorem erase
    (hHoused :
      Housed connections plain serialized (some c)) :
    Housed (connections.erase c) plain serialized none := by
  intro c' conn' hConnection
  rcases Table.get?_erase_eq_some.mp hConnection with
    ⟨hElse, hOld⟩
  rcases hHoused c' conn' hOld with h | h
  · exact absurd (Option.some.inj h).symm hElse
  · exact .inr h

/- A connection loses the slot that is vacated. -/
theorem vacated
    {n : Nat}
    (hHoused : Housed connections plain serialized none)
    (hSlot : plain.get? n = some c) :
    Housed connections (plain.erase n) serialized
      (some c) := by
  intro c' conn' hConnection
  rcases hHoused c' conn' hConnection with h | ⟨m, h⟩ | h
  · cases h
  · by_cases hSame : m = n
    · subst hSame
      exact .inl (hSlot.symm.trans h)
    · exact .inr (.inl ⟨m, by simp [hSame, h]⟩)
  · exact .inr (.inr h)

/- The same of the slots of serialized connections. -/
theorem vacatedSerialized
    {n : Nat}
    (hHoused : Housed connections plain serialized none)
    (hSlot : serialized.get? n = some c) :
    Housed connections plain (serialized.erase n)
      (some c) := by
  intro c' conn' hConnection
  rcases hHoused c' conn' hConnection with h | h | ⟨m, h⟩
  · cases h
  · exact .inr (.inl h)
  · by_cases hSame : m = n
    · subst hSame
      exact .inl (hSlot.symm.trans h)
    · exact .inr (.inr ⟨m, by simp [hSame, h]⟩)

/- A connection without a slot gets a free one. -/
theorem housed
    {n : Nat}
    (hHoused : Housed connections plain serialized (some c))
    (hFree : plain.get? n = none) :
    Housed connections (plain.put n c) serialized none := by
  intro c' conn' hConnection
  rcases hHoused c' conn' hConnection with h | ⟨m, h⟩ | h
  · cases h
    exact .inr (.inl ⟨n, by simp⟩)
  · have hOther : m ≠ n := by
      rintro rfl
      simp [hFree] at h
    exact .inr (.inl ⟨m, by simp [hOther, h]⟩)
  · exact .inr (.inr h)

/- A connection goes from its slot to one for serialized. -/
theorem serialize
    {n z : Nat}
    (hHoused : Housed connections plain serialized none)
    (hSlot : plain.get? n = some c)
    (hFree : serialized.get? z = none) :
    Housed connections (plain.erase n) (serialized.put z c)
      none := by
  intro c' conn' hConnection
  rcases hHoused.vacated hSlot c' conn' hConnection with
    h | h | ⟨m, h⟩
  · cases h
    exact .inr (.inr ⟨z, by simp⟩)
  · exact .inr (.inl h)
  · have hOther : m ≠ z := by
      rintro rfl
      simp [hFree] at h
    exact .inr (.inr ⟨m, by simp [hOther, h]⟩)

end Housed

end SqliteAccess
