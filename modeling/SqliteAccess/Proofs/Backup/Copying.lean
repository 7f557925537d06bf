import SqliteAccess.Proofs.Connection.Listed

/-
  How the handles of backups stay accounted for.

  The changes are characterized by:
    * `Copying.heard`
    * `Copying.started`
    * `Copying.finished`
    * `Copying.of_connections`
-/

namespace SqliteAccess

/- A call does not concern backups that it does not name. -/
theorem Lifetime.spared_of_ne_backup
    {e : Event}
    {bk : BackupHandle}
    (t : Trace)
    (hOther : e.call.backup? ≠ some bk) :
    (Lifetime.backup bk).Spared t e := by
  apply spared_of_not_names
  simpa [Lifetime.backup] using hOther

/- Only a call that names a backup starts it. -/
theorem Event.copies_of_ne
    {e : Event}
    {bk : BackupHandle}
    (hOther : e.call.backup? ≠ some bk) :
    e.copies bk = none := by
  rcases e with ⟨c, a⟩
  cases c <;> try rfl
  case startBackup =>
    simp_all [Call.backup?, Event.copies]

theorem Trace.between_cons
    (e : Event)
    (t : Trace)
    (bk : BackupHandle) :
    Trace.between (e :: t) bk =
      (e.copies bk).or (t.between bk) := by
  simp only [Trace.between, List.findSome?_cons]
  cases e.copies bk <;> rfl

namespace Copying

variable {backups : Table Place Backup}
variable {connections : Table ConnectionId Connection}
variable {t : Trace} {issued : Nat}
variable {e : Event} {p : Place} {b b' : Backup}
variable {bk : BackupHandle}

/- A handle that was just numbered was never created. -/
theorem births_eq_zero
    (hCopying : Copying backups connections t issued)
    (hNumber : bk.number = issued + 1) :
    (Lifetime.backup bk).births t = 0 := by
  by_cases hBirths : (Lifetime.backup bk).births t = 0
  · exact hBirths
  · have hOld := hCopying.numbered hBirths
    omega

/- A call that leaves every handle as it is. -/
theorem heard
    (hCopying : Copying backups connections t issued)
    (hSpared : ∀ bk, (Lifetime.backup bk).Spared t e)
    (hCopies : ∀ bk, e.copies bk = none) :
    Copying backups connections (e :: t) issued where
  alive hBackup hHandle := by
    rw [(hSpared _).alive_cons]
    exact hCopying.alive hBackup hHandle
  between {p b bk} hBackup hHandle := by
    rw [Trace.between_cons, hCopies bk, Option.none_or]
    exact hCopying.between hBackup hHandle
  unique := hCopying.unique
  custody hAlive := by
    rw [(hSpared _).alive_cons] at hAlive
    exact hCopying.custody hAlive
  numbered hBirths := by
    rw [(hSpared _).births_cons] at hBirths
    exact hCopying.numbered hBirths

/- A backup is started at a place that is free. -/
theorem started
    {source destination : ConnectionId}
    {sourceConn conn : Connection}
    {sourceDb db : DatabaseHandle}
    (hCopying : Copying backups connections t issued)
    (hVacant : backups.get? p = none)
    (hOther : source ≠ destination)
    (hSource : connections.get? source = some sourceConn)
    (hSourceDb : sourceConn.handle = some sourceDb)
    (hDestination :
      connections.get? destination = some conn)
    (hDb : conn.handle = some db)
    (hNumber : bk.number = issued + 1)
    (hHandle : b.handle = some bk)
    (hFrom : b.source = some source)
    (hTo : b.destination = some destination)
    (sourceSchema dbSchema : Bytes) :
    Copying (backups.put p b) connections
      (⟨.startBackup db dbSchema sourceDb sourceSchema bk,
        true⟩ :: t) bk.number := by
  have hNew := hCopying.births_eq_zero hNumber
  have hHeld : ∀ {q b bk'}, backups.get? q = some b →
      b.handle = some bk' → some bk ≠ some bk' := by
    intro q b bk' hBackup hOwn hSame
    cases hSame
    exact Lifetime.births_ne_zero_of_alive
      (hCopying.alive hBackup hOwn) hNew
  have hSpared : ∀ {bk'}, some bk ≠ some bk' →
      (Lifetime.backup bk').Spared t
        ⟨.startBackup db dbSchema sourceDb sourceSchema bk,
          true⟩ :=
    fun hSame => Lifetime.spared_of_ne_backup t hSame
  have hCopies : ∀ {bk'}, some bk ≠ some bk' →
      Event.copies bk'
        ⟨.startBackup db dbSchema sourceDb sourceSchema bk,
          true⟩ = none :=
    fun hSame => Event.copies_of_ne hSame
  constructor
  case alive =>
    intro q r bk' hMember hOwn
    rcases Table.get?_put_eq_some.mp hMember with
      ⟨rfl, rfl⟩ | ⟨_, hOld⟩
    · cases hHandle.symm.trans hOwn
      apply Lifetime.alive_of_born
      simp [Lifetime.backup]
    · rw [(hSpared (hHeld hOld hOwn)).alive_cons]
      exact hCopying.alive hOld hOwn
  case between =>
    intro q r bk' hMember hOwn
    rcases Table.get?_put_eq_some.mp hMember with
      ⟨rfl, rfl⟩ | ⟨_, hOld⟩
    · cases hHandle.symm.trans hOwn
      refine ⟨source, destination, sourceConn, conn, hFrom,
        hTo, hOther, hSource, hDestination, sourceDb, db,
        hSourceDb, hDb, ?_⟩
      simp [Trace.between_cons, Event.copies]
    · rw [Trace.between_cons, hCopies (hHeld hOld hOwn),
        Option.none_or]
      exact hCopying.between hOld hOwn
  case unique =>
    intro q q' r r' bk' hFirst hOwn₁ hSecond hOwn₂
    rcases Table.get?_put_eq_some.mp hFirst with
      ⟨rfl, rfl⟩ | ⟨_, hOld₁⟩
    · rcases Table.get?_put_eq_some.mp hSecond with
        ⟨rfl, rfl⟩ | ⟨_, hOld₂⟩
      · rfl
      · exact absurd (hHandle.symm.trans hOwn₁)
          (hHeld hOld₂ hOwn₂)
    · rcases Table.get?_put_eq_some.mp hSecond with
        ⟨rfl, rfl⟩ | ⟨_, hOld₂⟩
      · exact absurd (hHandle.symm.trans hOwn₂)
          (hHeld hOld₁ hOwn₁)
      · exact hCopying.unique hOld₁ hOwn₁ hOld₂ hOwn₂
  case custody =>
    intro bk' hAlive
    by_cases hSame : some bk = some bk'
    · exact ⟨p, b, by simp, hHandle.trans hSame⟩
    · rw [(hSpared hSame).alive_cons] at hAlive
      rcases hCopying.custody hAlive with ⟨q, r, hOld, hOwn⟩
      refine ⟨q, r, Table.get?_put_eq_some.mpr
        (.inr ⟨fun hPlace => ?_, hOld⟩), hOwn⟩
      rw [hPlace, hVacant] at hOld
      cases hOld
  case numbered =>
    intro bk' hBirths
    by_cases hSame : some bk = some bk'
    · cases hSame
      exact Nat.le_refl _
    · rw [(hSpared hSame).births_cons] at hBirths
      have hOld := hCopying.numbered hBirths
      omega

/- A backup gives its handle back. -/
theorem finished
    (hCopying : Copying backups connections t issued)
    (hBackup : backups.get? p = some b)
    (hHandle : b.handle = some bk)
    (code : ResultCode)
    (hHandle' : b'.handle = none) :
    Copying (backups.put p b') connections
      (⟨.finishBackup bk, code⟩ :: t) issued := by
  have hSpared : ∀ {bk'}, some bk ≠ some bk' →
      (Lifetime.backup bk').Spared t
        ⟨.finishBackup bk, code⟩ :=
    fun hSame => Lifetime.spared_of_ne_backup t hSame
  have hCopies : ∀ bk',
      Event.copies bk' ⟨.finishBackup bk, code⟩ = none :=
    fun _ => rfl
  -- every backup with a handle was there before
  have hOld : ∀ {q r bk'}, (backups.put p b').get? q = some r →
      r.handle = some bk' →
        backups.get? q = some r ∧ some bk ≠ some bk' := by
    intro q r bk' hMember hOwn
    rcases Table.get?_put_eq_some.mp hMember with
      ⟨rfl, rfl⟩ | ⟨hPlace, hBefore⟩
    · rw [hHandle'] at hOwn
      cases hOwn
    · refine ⟨hBefore, fun hSame => ?_⟩
      cases hSame
      exact hPlace
        (hCopying.unique hBefore hOwn hBackup hHandle)
  constructor
  case alive =>
    intro q r bk' hMember hOwn
    rcases hOld hMember hOwn with ⟨hBefore, hSame⟩
    rw [(hSpared hSame).alive_cons]
    exact hCopying.alive hBefore hOwn
  case between =>
    intro q r bk' hMember hOwn
    rcases hOld hMember hOwn with ⟨hBefore, hSame⟩
    rw [Trace.between_cons, hCopies, Option.none_or]
    exact hCopying.between hBefore hOwn
  case unique =>
    intro q q' r r' bk' hFirst hOwn₁ hSecond hOwn₂
    exact hCopying.unique (hOld hFirst hOwn₁).1 hOwn₁
      (hOld hSecond hOwn₂).1 hOwn₂
  case custody =>
    intro bk' hAlive
    by_cases hSame : some bk = some bk'
    · cases hSame
      rw [Lifetime.not_alive_of_ends
        (by simp [Lifetime.backup])] at hAlive
      cases hAlive
    · rw [(hSpared hSame).alive_cons] at hAlive
      rcases hCopying.custody hAlive with
        ⟨q, r, hBefore, hOwn⟩
      refine ⟨q, r, Table.get?_put_eq_some.mpr
        (.inr ⟨fun hPlace => ?_, hBefore⟩), hOwn⟩
      subst hPlace
      cases hBackup.symm.trans hBefore
      exact hSame (hHandle.symm.trans hOwn)
  case numbered =>
    intro bk' hBirths
    apply hCopying.numbered
    simpa [Lifetime.births_cons, Lifetime.backup]
      using hBirths

/- A backup changes in what nothing else depends on. -/
theorem changed
    (hCopying : Copying backups connections t issued)
    (hBackup : backups.get? p = some b)
    (hHandle : b'.handle = b.handle)
    (hSource : b'.source = b.source)
    (hDestination : b'.destination = b.destination) :
    Copying (backups.put p b') connections t issued := by
  have hOld : ∀ {q r}, (backups.put p b').get? q = some r →
      ∃ r', backups.get? q = some r' ∧
        r.handle = r'.handle ∧ r.source = r'.source ∧
          r.destination = r'.destination := by
    intro q r hMember
    rcases Table.get?_put_eq_some.mp hMember with
      ⟨rfl, rfl⟩ | ⟨_, hBefore⟩
    · exact ⟨b, hBackup, hHandle, hSource, hDestination⟩
    · exact ⟨r, hBefore, rfl, rfl, rfl⟩
  constructor
  case alive =>
    intro q r bk' hMember hOwn
    rcases hOld hMember with ⟨r', hBefore, hSame, _⟩
    exact hCopying.alive hBefore (hSame.symm.trans hOwn)
  case between =>
    intro q r bk' hMember hOwn
    rcases hOld hMember with
      ⟨r', hBefore, hSame, hFrom, hTo⟩
    rw [hFrom, hTo]
    exact hCopying.between hBefore (hSame.symm.trans hOwn)
  case unique =>
    intro q q' r r' bk' hFirst hOwn₁ hSecond hOwn₂
    rcases hOld hFirst with ⟨_, hBefore₁, hSame₁, _⟩
    rcases hOld hSecond with ⟨_, hBefore₂, hSame₂, _⟩
    exact hCopying.unique hBefore₁ (hSame₁.symm.trans hOwn₁)
      hBefore₂ (hSame₂.symm.trans hOwn₂)
  case custody =>
    intro bk' hAlive
    rcases hCopying.custody hAlive with
      ⟨q, r, hBefore, hOwn⟩
    by_cases hPlace : q = p
    · subst hPlace
      cases hBackup.symm.trans hBefore
      exact ⟨q, b', by simp, hHandle.trans hOwn⟩
    · exact ⟨q, r, by simp [hPlace, hBefore], hOwn⟩
  case numbered => exact hCopying.numbered

/- A backup without a handle is removed. -/
theorem dropped
    (hCopying : Copying backups connections t issued)
    (hEnded : ∀ b, backups.get? p = some b →
      b.handle = none) :
    Copying (backups.erase p) connections t issued where
  alive hMember :=
    hCopying.alive (Table.get?_erase_eq_some.mp hMember).2
  between hMember :=
    hCopying.between (Table.get?_erase_eq_some.mp hMember).2
  unique hFirst hOwn₁ hSecond hOwn₂ :=
    hCopying.unique
      (Table.get?_erase_eq_some.mp hFirst).2 hOwn₁
      (Table.get?_erase_eq_some.mp hSecond).2 hOwn₂
  custody hAlive := by
    rcases hCopying.custody hAlive with
      ⟨q, r, hBefore, hOwn⟩
    refine ⟨q, r, Table.get?_erase_eq_some.mpr
      ⟨fun hPlace => ?_, hBefore⟩, hOwn⟩
    subst hPlace
    rw [hEnded r hBefore] at hOwn
    cases hOwn
  numbered := hCopying.numbered

/- The connections of backups keep their handles. -/
theorem of_connections
    {connections' : Table ConnectionId Connection}
    (hCopying : Copying backups connections t issued)
    (hStays : ∀ {p c conn}, LiveBackup backups p c →
      connections.get? c = some conn →
        ∃ conn', connections'.get? c = some conn' ∧
          conn'.handle = conn.handle) :
    Copying backups connections' t issued where
  alive := hCopying.alive
  between {p b bk} hBackup hHandle := by
    rcases hCopying.between hBackup hHandle with
      ⟨source, destination, sourceConn, conn, hFrom, hTo,
       hOther, hSource, hDestination, sourceDb, db,
       hSourceDb, hDb, hBetween⟩
    have hLive : b.handle ≠ none := by simp [hHandle]
    rcases
        hStays (p := p) ⟨b, hBackup, hLive, .inl hFrom⟩
          hSource with
      ⟨sourceConn', hSource', hSame⟩
    rcases
        hStays (p := p) ⟨b, hBackup, hLive, .inr hTo⟩
          hDestination with
      ⟨conn', hDestination', hSame'⟩
    exact ⟨source, destination, sourceConn', conn', hFrom,
      hTo, hOther, hSource', hDestination', sourceDb, db,
      hSame.trans hSourceDb, hSame'.trans hDb, hBetween⟩
  unique := hCopying.unique
  custody := hCopying.custody
  numbered := hCopying.numbered

theorem of_sameHandles
    {connections' : Table ConnectionId Connection}
    (hCopying : Copying backups connections t issued)
    (hSame : SameHandles connections connections') :
    Copying backups connections' t issued :=
  hCopying.of_connections
    fun _ hConnection => hSame.get?_eq_some hConnection

end Copying

end SqliteAccess
