import SqliteAccess.Proofs.Connection.Listed

/-
  How changes of statements are entered at connections.

  The changes are characterized by:
    * `liveStatement_put`
    * `Registered.entered`
    * `Registered.finalized`
    * `Registered.transferred`
-/

namespace SqliteAccess

variable {statements : Table Place Statement}
variable {p q : Place} {s s' : Statement} {c : ConnectionId}

------------------------------------------------------------
-- Live Statements
------------------------------------------------------------

theorem liveStatement_put :
    LiveStatement (statements.put p s) q c ↔
      q = p ∧ s.IsLiveOn c ∨
        q ≠ p ∧ LiveStatement statements q c := by
  unfold LiveStatement
  by_cases hPlace : q = p
  · simp [hPlace]
  · simp [hPlace]

theorem liveStatement_erase :
    LiveStatement (statements.erase p) q c ↔
      q ≠ p ∧ LiveStatement statements q c := by
  unfold LiveStatement
  by_cases hPlace : q = p
  · simp [hPlace]
  · simp [hPlace]

/- What is live after a change was live before it. -/
theorem liveStatement_of_modify
    {f : Statement → Statement}
    (hKeeps : ∀ s, (f s).IsLiveOn c → s.IsLiveOn c)
    (hLive : LiveStatement (statements.modify p f) q c) :
    LiveStatement statements q c := by
  rcases hLive with ⟨s', hStatement, hOn⟩
  rcases Table.get?_modify_eq_some.mp hStatement with
    ⟨rfl, s, hBefore, rfl⟩ | ⟨_, hSame⟩
  · exact ⟨s, hBefore, hKeeps s hOn⟩
  · exact ⟨s', hSame, hOn⟩

theorem liveStatement_of_get?
    (hStatement : statements.get? p = some s) :
    LiveStatement statements p c ↔ s.IsLiveOn c := by
  simp [LiveStatement, hStatement]

/- Without a handle no statement is live. -/
theorem Statement.not_isLiveOn
    (hHandle : s.handle = none) :
    ¬ s.IsLiveOn c :=
  fun hLive => hLive.1 hHandle

/- A place without a handle has no live statement. -/
theorem not_liveStatement
    (hEnded : ∀ s, statements.get? p = some s →
      s.handle = none) :
    ¬ LiveStatement statements p c := by
  rintro ⟨s, hStatement, hLive⟩
  exact Statement.not_isLiveOn (hEnded s hStatement) hLive

------------------------------------------------------------
-- Registries
------------------------------------------------------------

namespace Registered

variable {connections : Table ConnectionId Connection}
variable {backups : Table Place Backup}
variable {closing : Option ConnectionId}

/- A statement with a handle is entered at its connection. -/
theorem entered
    (hRegistered :
      Registered connections statements backups none)
    (hVacant : statements.get? p = none)
    (hHandle : s.handle ≠ none)
    (hOwner : s.connection = some c) :
    Registered (connections.modify c (·.addStatement p))
      (statements.put p s) backups none where
  statements := by
    have hAdded := hRegistered.statements.add
      (f := (·.addStatement p)) (c := c) (fun _ => rfl)
      (by simp)
    apply hAdded.of_live
    intro q c' _
    rw [liveStatement_put]
    have hNone : ¬ LiveStatement statements p c' := by
      apply not_liveStatement
      simp [hVacant]
    by_cases hPlace : q = p
    · subst hPlace
      simp [hNone, Statement.IsLiveOn, hHandle, hOwner,
        eq_comm]
    · simp [hPlace]
  backups := hRegistered.backups.modify c fun _ => rfl

/- A statement changes and stays live where it was. -/
theorem changed
    (hRegistered :
      Registered connections statements backups closing)
    (hStatement : statements.get? p = some s)
    (hHandle : s'.handle = s.handle)
    (hOwner : s'.connection = s.connection) :
    Registered connections (statements.put p s') backups
      closing where
  statements := by
    apply hRegistered.statements.of_live
    intro q c _
    rw [liveStatement_put]
    by_cases hPlace : q = p
    · subst hPlace
      rw [liveStatement_of_get? hStatement]
      simp [Statement.IsLiveOn, hHandle, hOwner]
    · simp [hPlace]
  backups := hRegistered.backups

/- A finalized statement is struck out at its connection. -/
theorem finalized
    (hRegistered :
      Registered connections statements backups closing)
    (hStatement : statements.get? p = some s)
    (hHandle' : s'.handle = none) :
    Registered
      (connections.modify? s.connection (·.removeStatement p))
      (statements.put p s') backups closing where
  statements := by
    have hRemoved := hRegistered.statements.remove?
      (p := p) (f := (·.removeStatement p))
      (c := s.connection) fun _ => rfl
    apply hRemoved.of_live
    intro q c _
    rw [liveStatement_put]
    by_cases hPlace : q = p
    · subst hPlace
      rw [liveStatement_of_get? hStatement]
      have hGone := Statement.not_isLiveOn (c := c) hHandle'
      have hStruck : ¬ (s.IsLiveOn c ∧
          ¬ s.connection = some c) :=
        fun h => h.2 h.1.2
      simpa [hGone] using hStruck
    · simp [hPlace]
  backups := hRegistered.backups.modify? _ fun _ => rfl

/-
  A statement on a connection whose children are released
  needs no striking out.
-/
theorem detached
    (hRegistered :
      Registered connections statements backups (some c))
    (hStatement : statements.get? p = some s)
    (hLive : s.IsLiveOn c)
    (hHandle' : s'.handle = none) :
    Registered connections (statements.put p s') backups
      (some c) where
  statements := by
    apply hRegistered.statements.of_live
    intro q c' hOther
    rw [liveStatement_put]
    by_cases hPlace : q = p
    · subst hPlace
      have hElse : ¬ s.IsLiveOn c' := by
        intro hLive'
        exact hOther (hLive.2.symm.trans hLive'.2)
      simp [liveStatement_of_get? hStatement, hElse,
        Statement.not_isLiveOn hHandle']
    · simp [hPlace]
  backups := hRegistered.backups

/- What is not live can be removed. -/
theorem removed
    (hRegistered :
      Registered connections statements backups closing)
    (hEnded : ∀ s, statements.get? p = some s →
      s.handle = none) :
    Registered connections (statements.erase p) backups
      closing where
  statements := by
    apply hRegistered.statements.of_live
    intro q c _
    rw [liveStatement_erase]
    by_cases hPlace : q = p
    · subst hPlace
      simp [not_liveStatement hEnded]
    · simp [hPlace]
  backups := hRegistered.backups

/- A statement is entered in the place of where it was. -/
theorem transferred
    {target : Place}
    (hRegistered :
      Registered connections statements backups closing)
    (hStatement : statements.get? p = some s)
    (hTied : s.connection = none ↔ s.handle = none)
    (hOther : p ≠ target)
    (hEnded : ∀ s, statements.get? target = some s →
      s.handle = none) :
    Registered
      (connections.modify? s.connection
        (·.replaceStatement p target))
      ((statements.put target s).put p s.emptied) backups
      closing where
  statements := by
    have hTarget : ∀ c,
        ¬ LiveStatement statements target c :=
      fun _ => not_liveStatement hEnded
    have hEmptied : ∀ c, ¬ s.emptied.IsLiveOn c :=
      fun _ => Statement.not_isLiveOn rfl
    cases hOwner : s.connection with
    | none =>
        have hNone := hTied.mp hOwner
        apply hRegistered.statements.of_live
        intro q c _
        rw [liveStatement_put, liveStatement_put]
        by_cases hSource : q = p
        · subst hSource
          simp [hEmptied c, liveStatement_of_get? hStatement,
            Statement.not_isLiveOn hNone]
        · by_cases hPlace : q = target
          · subst hPlace
            simp [hTarget c, hSource,
              Statement.not_isLiveOn hNone]
          · simp [hSource, hPlace]
    | some c =>
        have hHandle : s.handle ≠ none := by
          rw [ne_eq, ← hTied, hOwner]
          simp
        have hLive : LiveStatement statements p c :=
          ⟨s, hStatement, hHandle, hOwner⟩
        have hReplaced :=
          hRegistered.statements.replace target hLive
        apply hReplaced.of_live
        intro q c' _
        rw [liveStatement_put, liveStatement_put]
        have hIs : s.IsLiveOn c' ↔ c' = c := by
          simp [Statement.IsLiveOn, hHandle, hOwner, eq_comm]
        by_cases hSource : q = p
        · subst hSource
          simp [hEmptied c', hIs, hOther,
            liveStatement_of_get? hStatement]
        · by_cases hPlace : q = target
          · subst hPlace
            simp [hTarget c', hIs, hSource]
          · simp [hSource, hPlace]
  backups := by
    apply hRegistered.backups.modify?
    intro conn
    unfold Connection.replaceStatement
    split <;> rfl

end Registered

end SqliteAccess
