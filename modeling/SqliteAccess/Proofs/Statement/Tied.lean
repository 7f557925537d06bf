import SqliteAccess.Proofs.Session.Steps

/-
  How a token of rows stays with the cursor of a statement.

  A statement that is moved takes its token and its cursor
  along.  So the two stay together for as long as the cursor
  lives, and afterwards the token belongs to a statement
  without a cursor, or to none.

  Key definitions include:
    * `Tied`
    * `Stage.Ties`

  The tie is characterized by:
    * `Sound.ties_of_get?`
    * `StatementStep.tied`
    * `Steps.ties`
-/

namespace SqliteAccess

variable {E : Engine} {A : Part → Prop} {g g' : Stage E}

------------------------------------------------------------
-- Tokens and Cursors
------------------------------------------------------------

/-
  Whether a token belongs to a cursor: a statement with the
  token has that cursor or none, and the cursor, while it is
  alive, is that of a statement with the token.
-/
structure Tied
    (statements : Table Place Statement)
    (t : Trace)
    (a : Anchor)
    (st : StatementHandle) : Prop where
  own : ∀ {p s}, statements.get? p = some s →
    s.anchor = some a →
      s.handle = some st ∨ s.handle = none
  held : (Lifetime.statement st).alive t →
    ∃ p s, statements.get? p = some s ∧
      s.handle = some st ∧ s.anchor = some a

namespace Tied

variable {statements : Table Place Statement} {t t' : Trace}
variable {a : Anchor} {st : StatementHandle}
variable {p : Place} {s s' : Statement}

/- A cursor that exists does not come to life again. -/
theorem later
    (hTied : Tied statements t a st)
    (hSuffix : t <:+ t')
    (hRespected : (Lifetime.statement st).Respected t')
    (hBirths : (Lifetime.statement st).births t ≠ 0) :
    Tied statements t' a st where
  own := hTied.own
  held hAlive := by
    rcases hSuffix with ⟨later, rfl⟩
    exact hTied.held
      (Lifetime.alive_of_append hRespected hBirths hAlive)

/- A statement changes, but keeps its token and cursor. -/
theorem put_like
    (hTied : Tied statements t a st)
    (hStatement : statements.get? p = some s)
    (hAnchor : s'.anchor = s.anchor)
    (hHandle : s'.handle = s.handle) :
    Tied (statements.put p s') t a st where
  own hMember hOwn := by
    rcases Table.get?_put_eq_some.mp hMember with
      ⟨rfl, rfl⟩ | ⟨_, hOld⟩
    · rw [hHandle]
      exact hTied.own hStatement (hAnchor.symm.trans hOwn)
    · exact hTied.own hOld hOwn
  held hAlive := by
    rcases hTied.held hAlive with ⟨q, r, hOld, hOwn, hToken⟩
    by_cases hPlace : q = p
    · subst hPlace
      cases hStatement.symm.trans hOld
      exact ⟨q, s', by simp, hHandle.trans hOwn,
        hAnchor.trans hToken⟩
    · exact ⟨q, r, by simp [hPlace, hOld], hOwn, hToken⟩

/- A statement loses a cursor, which does not live on. -/
theorem put_ended
    (hTied : Tied statements t a st)
    (hStatement : statements.get? p = some s)
    (hNone : s'.handle = none)
    (hDead : s.handle = some st →
      (Lifetime.statement st).alive t = false) :
    Tied (statements.put p s') t a st where
  own hMember hOwn := by
    rcases Table.get?_put_eq_some.mp hMember with
      ⟨rfl, rfl⟩ | ⟨_, hOld⟩
    · exact .inr hNone
    · exact hTied.own hOld hOwn
  held hAlive := by
    rcases hTied.held hAlive with ⟨q, r, hOld, hOwn, hToken⟩
    have hPlace : q ≠ p := by
      rintro rfl
      cases hStatement.symm.trans hOld
      rw [hDead hOwn] at hAlive
      cases hAlive
    exact ⟨q, r, by simp [hPlace, hOld], hOwn, hToken⟩

/- A statement with another token is put at a free place. -/
theorem entered
    (hTied : Tied statements t a st)
    (hVacant : statements.get? p = none)
    (hAnchor : s.anchor ≠ some a) :
    Tied (statements.put p s) t a st where
  own hMember hOwn := by
    rcases Table.get?_put_eq_some.mp hMember with
      ⟨rfl, rfl⟩ | ⟨_, hOld⟩
    · exact absurd hOwn hAnchor
    · exact hTied.own hOld hOwn
  held hAlive := by
    rcases hTied.held hAlive with ⟨q, r, hOld, hOwn, hToken⟩
    have hPlace : q ≠ p := by
      rintro rfl
      rw [hVacant] at hOld
      cases hOld
    exact ⟨q, r, by simp [hPlace, hOld], hOwn, hToken⟩

/- A statement without a cursor is removed. -/
theorem erase
    (hTied : Tied statements t a st)
    (hEnded : ∀ s, statements.get? p = some s →
      s.handle = none) :
    Tied (statements.erase p) t a st where
  own hMember :=
    hTied.own (Table.get?_erase_eq_some.mp hMember).2
  held hAlive := by
    rcases hTied.held hAlive with ⟨q, r, hOld, hOwn, hToken⟩
    have hPlace : q ≠ p := by
      rintro rfl
      rw [hEnded r hOld] at hOwn
      cases hOwn
    exact ⟨q, r, Table.get?_erase_eq_some.mpr ⟨hPlace, hOld⟩,
      hOwn, hToken⟩

/- A statement takes its token and its cursor along. -/
theorem transferred
    {target : Place}
    (hTied : Tied statements t a st)
    (hStatement : statements.get? p = some s)
    (hOther : p ≠ target)
    (hEnded : ∀ s, statements.get? target = some s →
      s.handle = none) :
    Tied ((statements.put target s).put p s.emptied) t a
      st where
  own hMember hOwn := by
    rcases Table.get?_put_eq_some.mp hMember with
      ⟨rfl, rfl⟩ | ⟨_, hRest⟩
    · exact .inr rfl
    · rcases Table.get?_put_eq_some.mp hRest with
        ⟨rfl, rfl⟩ | ⟨_, hOld⟩
      · exact hTied.own hStatement hOwn
      · exact hTied.own hOld hOwn
  held hAlive := by
    rcases hTied.held hAlive with ⟨q, r, hOld, hOwn, hToken⟩
    have hNotTarget : q ≠ target := by
      rintro rfl
      rw [hEnded r hOld] at hOwn
      cases hOwn
    by_cases hPlace : q = p
    · subst hPlace
      cases hStatement.symm.trans hOld
      exact ⟨target, s, by simp [hOther.symm], hOwn, hToken⟩
    · exact ⟨q, r, by simp [hPlace, hNotTarget, hOld], hOwn,
        hToken⟩

end Tied

------------------------------------------------------------
-- Steps
------------------------------------------------------------

/-
  Whether at a stage a token belongs to a cursor, after both
  have been made.
-/
structure Stage.Ties
    (g : Stage E)
    (a : Anchor)
    (st : StatementHandle) : Prop where
  tied : Tied g.world.statements g.world.trace a st
  issued : a.number ≤ g.world.issued.anchors
  born : (Lifetime.statement st).births g.world.trace ≠ 0

variable {a : Anchor} {st : StatementHandle}

/- The token of a statement belongs to its cursor. -/
theorem Sound.ties_of_get?
    {p : Place}
    {s : Statement}
    (hSound : Sound g)
    (hStatement : g.world.statements.get? p = some s)
    (hCursor : s.handle = some st)
    (hToken : s.anchor = some a) :
    g.Ties a st where
  tied.own := by
    intro q r hOther hToken'
    cases hSound.anchored.unique hStatement hToken hOther
      hToken'
    cases hStatement.symm.trans hOther
    exact .inl hCursor
  tied.held _ := ⟨p, s, hStatement, hCursor, hToken⟩
  issued :=
    hSound.anchored.numbered
      (hSound.anchored.pointed hStatement hToken)
  born :=
    Lifetime.births_ne_zero_of_alive
      (hSound.linked.alive hStatement hCursor)

/- A token belongs to the cursor when only calls are made. -/
theorem Stage.Ties.later
    (hTies : g.Ties a st)
    (hSuffix : g.world.trace <:+ g'.world.trace)
    (hSound : Sound g') :
    Tied g.world.statements g'.world.trace a st :=
  hTies.tied.later hSuffix (hSound.lawful.statements st)
    hTies.born

/- Steps on statements keep tokens and cursors together. -/
theorem StatementStep.tied
    (hSound : Sound g)
    (hTies : g.Ties a st)
    (hStep : StatementStep A g g') :
    Tied g'.world.statements g'.world.trace a st := by
  have hLater :=
    hTies.later hStep.trace_suffix (hStep.sound hSound)
  cases hStep with
  | compiled => exact hLater
  | discarded => exact hLater
  | handedOver => exact hLater
  | evicted => exact hLater
  | entered _ _ hVacant _ _ _ _ _ hAnchor =>
      rw [Statement.register_eq] at hLater ⊢
      apply hLater.entered hVacant
      rw [hAnchor]
      rintro ⟨⟩
      exact absurd hTies.issued (Nat.not_succ_le_self _)
  | @advanced p s st' code engine _ hStatement hHandle =>
      rw [World.modifyStatement_eq] at hLater ⊢
      have hStepped := Statement.stepped_eq s code
      show Tied (g.world.statements.modify p _) _ a st
      rw [Table.modify_eq_put _ hStatement]
      exact hLater.put_like hStatement (by simp [hStepped])
        (by simp [hStepped])
  | rewound _ hStatement =>
      rw [World.modifyStatement_eq] at hLater ⊢
      show Tied (g.world.statements.modify _ _) _ a st
      rw [Table.modify_eq_put _ hStatement]
      exact hLater.put_like hStatement rfl rfl
  | @finalized p s st' code engine _ hStatement hHandle =>
      simp only [World.modifyStatement_eq,
        World.modifyLinked_eq, World.heard] at hLater ⊢
      rw [Table.modify_eq_put _ hStatement]
      apply hLater.put_ended hStatement rfl
      intro hOwn
      cases hHandle.symm.trans hOwn
      exact Lifetime.not_alive_of_ends
        (by simp [Lifetime.statement])
  | @detached c p s st' code engine _ _ hStatement _
      hHandle =>
      have hUntied :
          (g.world.statements.put p
              { s with connection := none }).get? p =
            some { s with connection := none } := by
        simp
      simp only [World.modifyStatement_eq,
        World.heard] at hLater ⊢
      rw [Table.modify_eq_put _ hStatement,
        Table.modify_eq_put _ hUntied, Table.put_put]
      apply hLater.put_ended hStatement rfl
      intro hOwn
      cases hHandle.symm.trans hOwn
      exact Lifetime.not_alive_of_ends
        (by simp [Lifetime.statement])
  | @confirmed p _ hEnded =>
      rw [World.modifyStatement_eq] at hLater ⊢
      show Tied (g.world.statements.modify p _) _ a st
      cases hStatement : g.world.statements.get? p with
      | none =>
          rw [Table.modify_eq_self _ hStatement]
          exact hLater
      | some s =>
          rw [Table.modify_eq_put _ hStatement]
          exact hLater.put_like hStatement rfl rfl
  | removed _ hEnded =>
      rw [World.dropAnchor_eq] at hLater ⊢
      exact hLater.erase (Sound.ended_of_statement hEnded)
  | transferred _ _ hStatement hOther _ hEnded =>
      rw [Statement.transfer_eq,
        World.statement_of_get? hStatement] at hLater ⊢
      exact hLater.transferred hStatement hOther
        (Sound.ended_of_statement hEnded)

/- A step keeps tokens and cursors together. -/
theorem Step.ties
    (hSound : Sound g)
    (hTies : g.Ties a st)
    (hStep : Step A g g') :
    g'.Ties a st where
  tied := by
    have hLater :=
      hTies.later hStep.trace_suffix (hStep.sound hSound)
    cases hStep with
    | ask => exact hLater
    | aside => exact hLater
    | rehoused => exact hLater
    | statement hStep => exact hStep.tied hSound hTies
    | backup hStep =>
        rw [hStep.keeps_statements]
        exact hLater
    | connection hStep =>
        rw [hStep.keeps_statements]
        exact hLater
  issued := Nat.le_trans hTies.issued hStep.issued_le
  born :=
    Lifetime.births_ne_zero_of_suffix hStep.trace_suffix
      hTies.born

/- A run keeps tokens and cursors together. -/
theorem Steps.ties
    (hSound : Sound g)
    (hTies : g.Ties a st)
    (hSteps : Steps A g g') :
    g'.Ties a st := by
  induction hSteps with
  | refl => exact hTies
  | tail hBefore hStep ih =>
      exact hStep.ties (Steps.sound hSound hBefore) ih

end SqliteAccess
