import SqliteAccess.Proofs.Session.Custody

/-
  How statements stay tied to their connections and to the
  tokens of their rows.

  The changes are characterized by:
    * `Owned.put`
    * `Owned.of_connections`
    * `Anchored.changed`
    * `Anchored.entered`
    * `Anchored.removed`
    * `Anchored.transferred`
-/

namespace SqliteAccess

------------------------------------------------------------
-- Connections of Statements
------------------------------------------------------------

namespace Owned

variable {statements : Table Place Statement}
variable {connections : Table ConnectionId Connection}
variable {p : Place} {s : Statement}

/- A statement is put down that is tied as it should be. -/
theorem put
    (hOwned : Owned statements connections)
    (hNone : s.connection = none ↔ s.handle = none)
    (hOpen : ∀ {c st}, s.connection = some c →
      s.handle = some st →
        ∃ conn, connections.get? c = some conn ∧
          conn.handle = some st.database) :
    Owned (statements.put p s) connections where
  none_iff hMember := by
    rcases Table.get?_put_eq_some.mp hMember with
      ⟨rfl, rfl⟩ | ⟨_, hOld⟩
    · exact hNone
    · exact hOwned.none_iff hOld
  opened hMember hOwner hHandle := by
    rcases Table.get?_put_eq_some.mp hMember with
      ⟨rfl, rfl⟩ | ⟨_, hOld⟩
    · exact hOpen hOwner hHandle
    · exact hOwned.opened hOld hOwner hHandle

/- A statement that is tied to nothing is put down. -/
theorem put_untied
    (hOwned : Owned statements connections)
    (hConnection : s.connection = none)
    (hHandle : s.handle = none) :
    Owned (statements.put p s) connections := by
  apply hOwned.put
  · simp [hConnection, hHandle]
  · intro c st hOwner _
    rw [hConnection] at hOwner
    cases hOwner

/- A statement takes over what another one is tied to. -/
theorem put_like
    {q : Place}
    {r : Statement}
    (hOwned : Owned statements connections)
    (hStatement : statements.get? q = some r)
    (hConnection : s.connection = r.connection)
    (hHandle : s.handle = r.handle) :
    Owned (statements.put p s) connections := by
  apply hOwned.put
  · rw [hConnection, hHandle]
    exact hOwned.none_iff hStatement
  · intro c st hOwner hOwn
    rw [hConnection] at hOwner
    rw [hHandle] at hOwn
    exact hOwned.opened hStatement hOwner hOwn

theorem erase
    (hOwned : Owned statements connections) :
    Owned (statements.erase p) connections where
  none_iff hMember :=
    hOwned.none_iff (Table.get?_erase_eq_some.mp hMember).2
  opened hMember :=
    hOwned.opened (Table.get?_erase_eq_some.mp hMember).2

/- The connections of statements keep their handles. -/
theorem of_connections
    {connections' : Table ConnectionId Connection}
    (hOwned : Owned statements connections)
    (hStays : ∀ {p s c conn}, statements.get? p = some s →
      s.connection = some c →
        connections.get? c = some conn →
          ∃ conn', connections'.get? c = some conn' ∧
            conn'.handle = conn.handle) :
    Owned statements connections' where
  none_iff := hOwned.none_iff
  opened hStatement hOwner hHandle := by
    rcases hOwned.opened hStatement hOwner hHandle with
      ⟨conn, hConnection, hOpen⟩
    rcases hStays hStatement hOwner hConnection with
      ⟨conn', hConnection', hSame⟩
    exact ⟨conn', hConnection', hSame.trans hOpen⟩

end Owned

------------------------------------------------------------
-- Tokens of Rows
------------------------------------------------------------

namespace Anchored

variable {statements : Table Place Statement}
variable {anchors : Table Anchor Place} {issued : Nat}
variable {p : Place} {s s' : Statement}

/- Two statements do not share a token. -/
theorem unique
    {q : Place}
    {r : Statement}
    {a : Anchor}
    (hAnchored : Anchored statements anchors issued)
    (hFirst : statements.get? p = some s)
    (hAnchor : s.anchor = some a)
    (hSecond : statements.get? q = some r)
    (hAnchor' : r.anchor = some a) :
    p = q := by
  have hHere := hAnchored.pointed hFirst hAnchor
  have hThere := hAnchored.pointed hSecond hAnchor'
  exact Option.some.inj (hHere.symm.trans hThere)

/- A statement changes and keeps its token. -/
theorem changed
    (hAnchored : Anchored statements anchors issued)
    (hStatement : statements.get? p = some s)
    (hAnchor : s'.anchor = s.anchor)
    (hHandle : s'.handle ≠ none → s.handle ≠ none) :
    Anchored (statements.put p s') anchors issued where
  pointed hMember hOwn := by
    rcases Table.get?_put_eq_some.mp hMember with
      ⟨rfl, rfl⟩ | ⟨_, hOld⟩
    · exact hAnchored.pointed hStatement
        (hAnchor.symm.trans hOwn)
    · exact hAnchored.pointed hOld hOwn
  owned {q a} hPointed := by
    rcases hAnchored.owned hPointed with ⟨r, hOld, hOwn⟩
    by_cases hPlace : q = p
    · subst hPlace
      cases hStatement.symm.trans hOld
      exact ⟨s', by simp, hAnchor.trans hOwn⟩
    · exact ⟨r, by simp [hPlace, hOld], hOwn⟩
  present hMember hLive := by
    rcases Table.get?_put_eq_some.mp hMember with
      ⟨rfl, rfl⟩ | ⟨_, hOld⟩
    · rw [hAnchor]
      exact hAnchored.present hStatement (hHandle hLive)
    · exact hAnchored.present hOld hLive
  numbered := hAnchored.numbered

/- A statement with a new token is put at a free place. -/
theorem entered
    (hAnchored : Anchored statements anchors issued)
    (hVacant : statements.get? p = none)
    (hAnchor : s.anchor = some ⟨issued + 1⟩) :
    Anchored (statements.put p s)
      (anchors.put? s.anchor p) (issued + 1) := by
  rw [hAnchor]
  -- a token in use is an older one
  have hOlder : ∀ {q a}, anchors.get? a = some q →
      a ≠ ⟨issued + 1⟩ ∧ q ≠ p := by
    intro q a hPointed
    constructor
    · intro hSame
      subst hSame
      exact absurd (hAnchored.numbered hPointed)
        (Nat.not_succ_le_self issued)
    · intro hSame
      subst hSame
      rcases hAnchored.owned hPointed with ⟨r, hOld, _⟩
      rw [hVacant] at hOld
      cases hOld
  constructor
  case pointed =>
    intro q r a hMember hOwn
    rcases Table.get?_put_eq_some.mp hMember with
      ⟨rfl, rfl⟩ | ⟨_, hOld⟩
    · cases hAnchor.symm.trans hOwn
      simp
    · have hPointed := hAnchored.pointed hOld hOwn
      have hOther : ⟨issued + 1⟩ ≠ a :=
        (hOlder hPointed).1.symm
      simp [hOther, hPointed]
  case owned =>
    intro q a hPointed
    by_cases hSame : some ⟨issued + 1⟩ = some a
    · cases hSame
      simp only [Table.get?_put?, if_true] at hPointed
      cases hPointed
      exact ⟨s, by simp, hAnchor⟩
    · simp only [Table.get?_put?, hSame, if_false]
        at hPointed
      rcases hAnchored.owned hPointed with ⟨r, hOld, hOwn⟩
      exact ⟨r, by simp [(hOlder hPointed).2, hOld], hOwn⟩
  case present =>
    intro q r hMember hLive
    rcases Table.get?_put_eq_some.mp hMember with
      ⟨rfl, rfl⟩ | ⟨_, hOld⟩
    · simp [hAnchor]
    · exact hAnchored.present hOld hLive
  case numbered =>
    intro a q hPointed
    by_cases hSame : some ⟨issued + 1⟩ = some a
    · cases hSame
      exact Nat.le_refl _
    · simp only [Table.get?_put?, hSame, if_false]
        at hPointed
      have hNumber := hAnchored.numbered hPointed
      omega

/- A statement is removed, and its token expires. -/
theorem removed
    (hAnchored : Anchored statements anchors issued) :
    Anchored (statements.erase p)
      (anchors.erase?
        ((statements.get? p).getD .vacant).anchor)
      issued where
  pointed {q r a} hMember hOwn := by
    rcases Table.get?_erase_eq_some.mp hMember with
      ⟨hPlace, hOld⟩
    have hPointed := hAnchored.pointed hOld hOwn
    rw [Table.get?_erase?, if_neg]
    · exact hPointed
    · intro hSame
      cases hStatement : statements.get? p with
      | none =>
          simp [hStatement, Statement.vacant] at hSame
      | some s =>
          simp only [hStatement, Option.getD_some] at hSame
          exact hPlace
            (hAnchored.unique hOld hOwn hStatement hSame)
  owned {q a} hPointed := by
    rw [Table.get?_erase?] at hPointed
    split at hPointed
    case isTrue => cases hPointed
    case isFalse hExpired =>
      rcases hAnchored.owned hPointed with ⟨r, hOld, hOwn⟩
      refine ⟨r, Table.get?_erase_eq_some.mpr
        ⟨fun hPlace => hExpired ?_, hOld⟩, hOwn⟩
      subst hPlace
      simpa [hOld] using hOwn
  present hMember :=
    hAnchored.present (Table.get?_erase_eq_some.mp hMember).2
  numbered {a q} hPointed := by
    rw [Table.get?_erase?] at hPointed
    split at hPointed
    case isTrue => cases hPointed
    case isFalse => exact hAnchored.numbered hPointed

/- A statement and its token are taken to a free place. -/
theorem moved
    {target : Place}
    (hAnchored : Anchored statements anchors issued)
    (hStatement : statements.get? p = some s)
    (hVacant : statements.get? target = none) :
    Anchored ((statements.put target s).put p s.emptied)
      (anchors.put? s.anchor target) issued := by
  have hOther : target ≠ p := by
    intro hSame
    rw [hSame, hStatement] at hVacant
    cases hVacant
  -- where a statement with a token came from
  have hFrom : ∀ {q r a},
      ((statements.put target s).put p s.emptied).get? q =
          some r →
        r.anchor = some a →
          q = target ∧ r = s ∨
            q ≠ p ∧ q ≠ target ∧
              statements.get? q = some r := by
    intro q r a hMember hOwn
    rcases Table.get?_put_eq_some.mp hMember with
      ⟨rfl, rfl⟩ | ⟨hNotSource, hRest⟩
    · cases hOwn
    · rcases Table.get?_put_eq_some.mp hRest with
        ⟨rfl, rfl⟩ | ⟨hNotTarget, hOld⟩
      · exact .inl ⟨rfl, rfl⟩
      · exact .inr ⟨hNotSource, hNotTarget, hOld⟩
  constructor
  case pointed =>
    intro q r a hMember hOwn
    rcases hFrom hMember hOwn with
      ⟨rfl, rfl⟩ | ⟨hNotSource, _, hOld⟩
    · simp [hOwn]
    · have hNotMoved : s.anchor ≠ some a := by
        intro hSame
        exact hNotSource
          (hAnchored.unique hOld hOwn hStatement hSame)
      simp [hNotMoved, hAnchored.pointed hOld hOwn]
  case owned =>
    intro q a hPointed
    by_cases hMoved : s.anchor = some a
    · simp only [Table.get?_put?, hMoved, if_true]
        at hPointed
      cases hPointed
      exact ⟨s, by simp [hOther], hMoved⟩
    · simp only [Table.get?_put?, hMoved, if_false]
        at hPointed
      rcases hAnchored.owned hPointed with ⟨r, hOld, hOwn⟩
      refine ⟨r, ?_, hOwn⟩
      have hNotSource : q ≠ p := by
        intro hSame
        subst hSame
        cases hStatement.symm.trans hOld
        exact hMoved hOwn
      have hNotTarget : q ≠ target := by
        intro hSame
        rw [hSame, hVacant] at hOld
        cases hOld
      simp [hNotSource, hNotTarget, hOld]
  case present =>
    intro q r hMember hLive
    rcases Table.get?_put_eq_some.mp hMember with
      ⟨rfl, rfl⟩ | ⟨_, hRest⟩
    · exact absurd rfl hLive
    · rcases Table.get?_put_eq_some.mp hRest with
        ⟨rfl, rfl⟩ | ⟨_, hOld⟩
      · exact hAnchored.present hStatement hLive
      · exact hAnchored.present hOld hLive
  case numbered =>
    intro a q hPointed
    by_cases hMoved : s.anchor = some a
    · exact hAnchored.numbered
        (hAnchored.pointed hStatement hMoved)
    · simp only [Table.get?_put?, hMoved, if_false]
        at hPointed
      exact hAnchored.numbered hPointed

/-
  A statement and its token are taken to another place; the
  token of the statement there expires.
-/
theorem transferred
    {target : Place}
    (hAnchored : Anchored statements anchors issued)
    (hStatement : statements.get? p = some s)
    (hOther : p ≠ target) :
    Anchored ((statements.put target s).put p s.emptied)
      ((anchors.erase?
        ((statements.get? target).getD .vacant).anchor).put?
          s.anchor target)
      issued := by
  have hRemoved := hAnchored.removed (p := target)
  have hStill :
      (statements.erase target).get? p = some s := by
    simp [hOther, hStatement]
  have hVacant :
      (statements.erase target).get? target = none := by
    simp
  have hMoved := hRemoved.moved hStill hVacant
  simpa using hMoved

end Anchored

end SqliteAccess
