import SqliteAccess.Proofs.Connection.Listed

/-
  How changes of backups are entered at connections.

  The changes are characterized by:
    * `liveBackup_put`
    * `Registered.started`
    * `Registered.finished`
-/

namespace SqliteAccess

variable {backups : Table Place Backup}
variable {p q : Place} {b b' : Backup} {c : ConnectionId}

------------------------------------------------------------
-- Unfinished Backups
------------------------------------------------------------

theorem liveBackup_put :
    LiveBackup (backups.put p b) q c ↔
      q = p ∧ b.IsLiveOn c ∨
        q ≠ p ∧ LiveBackup backups q c := by
  unfold LiveBackup
  by_cases hPlace : q = p
  · simp [hPlace]
  · simp [hPlace]

theorem liveBackup_erase :
    LiveBackup (backups.erase p) q c ↔
      q ≠ p ∧ LiveBackup backups q c := by
  unfold LiveBackup
  by_cases hPlace : q = p
  · simp [hPlace]
  · simp [hPlace]

/- What is unfinished after a change was so before it. -/
theorem liveBackup_of_modify
    {f : Backup → Backup}
    (hKeeps : ∀ b, (f b).IsLiveOn c → b.IsLiveOn c)
    (hLive : LiveBackup (backups.modify p f) q c) :
    LiveBackup backups q c := by
  rcases hLive with ⟨b', hBackup, hOn⟩
  rcases Table.get?_modify_eq_some.mp hBackup with
    ⟨rfl, b, hBefore, rfl⟩ | ⟨_, hSame⟩
  · exact ⟨b, hBefore, hKeeps b hOn⟩
  · exact ⟨b', hSame, hOn⟩

theorem liveBackup_of_get?
    (hBackup : backups.get? p = some b) :
    LiveBackup backups p c ↔ b.IsLiveOn c := by
  simp [LiveBackup, hBackup]

/- Without a handle no backup is unfinished. -/
theorem Backup.not_isLiveOn
    (hHandle : b.handle = none) :
    ¬ b.IsLiveOn c :=
  fun hLive => hLive.1 hHandle

/- A place without a handle has no unfinished backup. -/
theorem not_liveBackup
    (hEnded : ∀ b, backups.get? p = some b →
      b.handle = none) :
    ¬ LiveBackup backups p c := by
  rintro ⟨b, hBackup, hLive⟩
  exact Backup.not_isLiveOn (hEnded b hBackup) hLive

------------------------------------------------------------
-- Registries
------------------------------------------------------------

namespace Registered

variable {connections : Table ConnectionId Connection}
variable {statements : Table Place Statement}
variable {closing : Option ConnectionId}

/- A backup is entered at both of its connections. -/
theorem started
    {source destination : ConnectionId}
    (hRegistered :
      Registered connections statements backups none)
    (hVacant : backups.get? p = none)
    (hHandle : b.handle ≠ none)
    (hSource : b.source = some source)
    (hDestination : b.destination = some destination) :
    Registered
      ((connections.modify source (·.addBackup p)).modify
        destination (·.addBackup p))
      statements (backups.put p b) none where
  statements := by
    refine Listed.modify ?_ destination ?_
    · exact hRegistered.statements.modify source fun _ => rfl
    · exact fun _ => rfl
  backups := by
    have hAdded := hRegistered.backups.add
      (f := (·.addBackup p)) (c := source) (fun _ => rfl)
      (by simp)
    have hTwice := hAdded.add
      (f := (·.addBackup p)) (c := destination)
      (fun _ => rfl) (by simp)
    apply hTwice.of_live
    intro q c _
    rw [liveBackup_put]
    have hNone : ¬ LiveBackup backups p c := by
      apply not_liveBackup
      simp [hVacant]
    by_cases hPlace : q = p
    · subst hPlace
      simp [hNone, Backup.IsLiveOn, hHandle, hSource,
        hDestination, eq_comm]
    · simp [hPlace]

/- A backup changes and stays live where it was. -/
theorem backupChanged
    (hRegistered :
      Registered connections statements backups closing)
    (hBackup : backups.get? p = some b)
    (hHandle : b'.handle = b.handle)
    (hSource : b'.source = b.source)
    (hDestination : b'.destination = b.destination) :
    Registered connections statements (backups.put p b')
      closing where
  statements := hRegistered.statements
  backups := by
    apply hRegistered.backups.of_live
    intro q c _
    rw [liveBackup_put]
    by_cases hPlace : q = p
    · subst hPlace
      rw [liveBackup_of_get? hBackup]
      simp [Backup.IsLiveOn, hHandle, hSource, hDestination]
    · simp [hPlace]

/-
  A finished backup is struck out at its connections.  That
  of a connection whose children are released may have been
  left out already.
-/
theorem finished
    {source destination : Option ConnectionId}
    (hRegistered :
      Registered connections statements backups closing)
    (hBackup : backups.get? p = some b)
    (hSource : ∀ c, closing ≠ some c →
      b.source = some c → source = some c)
    (hDestination : ∀ c, closing ≠ some c →
      b.destination = some c → destination = some c)
    (hHandle' : b'.handle = none) :
    Registered
      ((connections.modify? source
        (·.removeBackup p)).modify? destination
          (·.removeBackup p))
      statements (backups.put p b') closing where
  statements := by
    refine Listed.modify? ?_ destination ?_
    · exact hRegistered.statements.modify? source fun _ => rfl
    · exact fun _ => rfl
  backups := by
    have hRemoved := hRegistered.backups.remove?
      (p := p) (f := (·.removeBackup p))
      (c := source) fun _ => rfl
    have hTwice := hRemoved.remove?
      (p := p) (f := (·.removeBackup p))
      (c := destination) fun _ => rfl
    apply hTwice.of_live
    intro q c hOther
    rw [liveBackup_put]
    by_cases hPlace : q = p
    · subst hPlace
      rw [liveBackup_of_get? hBackup]
      have hGone := Backup.not_isLiveOn (c := c) hHandle'
      have hStruck : ¬ ((b.IsLiveOn c ∧
          ¬ source = some c) ∧ ¬ destination = some c) := by
        rintro ⟨⟨⟨_, hFrom | hTo⟩, hNotFrom⟩, hNotTo⟩
        · exact hNotFrom (hSource c hOther hFrom)
        · exact hNotTo (hDestination c hOther hTo)
      simpa [hGone] using hStruck
    · simp [hPlace]

/- A backup without a handle can be removed. -/
theorem dropped
    (hRegistered :
      Registered connections statements backups closing)
    (hEnded : ∀ b, backups.get? p = some b →
      b.handle = none) :
    Registered connections statements (backups.erase p)
      closing where
  statements := hRegistered.statements
  backups := by
    apply hRegistered.backups.of_live
    intro q c _
    rw [liveBackup_erase]
    by_cases hPlace : q = p
    · subst hPlace
      simp [not_liveBackup hEnded]
    · simp [hPlace]

end Registered

end SqliteAccess
