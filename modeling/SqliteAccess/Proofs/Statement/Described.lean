import SqliteAccess.Proofs.Session.Steps

/-
  What a statement tells about itself stays with its token.

  The text of a statement and the names of its columns are
  taken when it is compiled.  A statement that is moved takes
  them along with its token, and no other statement ever gets
  that token.

  Key definitions include:
    * `Statement.Alike`
    * `World.Describes`

  The descriptions are characterized by:
    * `StatementStep.describes`
    * `Steps.describes`
-/

namespace SqliteAccess

variable {E : Engine} {A : Part → Prop} {g g' : Stage E}
variable {a : Anchor} {d : Statement}

------------------------------------------------------------
-- Descriptions
------------------------------------------------------------

/- Whether two statements tell the same about themselves. -/
structure Statement.Alike (s s' : Statement) : Prop where
  sql : s'.sql = s.sql
  columnNames : s'.columnNames = s.columnNames

/-
  Whether the statement with a token, wherever it is, tells
  the same as a given one.
-/
def Table.Describes
    (statements : Table Place Statement)
    (a : Anchor)
    (d : Statement) : Prop :=
  ∀ p s, statements.get? p = some s →
    s.anchor = some a → d.Alike s

namespace Table.Describes

variable {statements : Table Place Statement}
variable {p : Place} {s : Statement}

/- A statement is put somewhere. -/
theorem put
    (h : Describes statements a d)
    (hAlike : s.anchor = some a → d.Alike s) :
    Describes (statements.put p s) a d := by
  intro q r hMember hToken
  rcases Table.get?_put_eq_some.mp hMember with
    ⟨rfl, rfl⟩ | ⟨_, hOld⟩
  · exact hAlike hToken
  · exact h q r hOld hToken

/- A statement changes, but neither its token nor its text. -/
theorem modify
    {f : Statement → Statement}
    (h : Describes statements a d)
    (hToken : ∀ s, (f s).anchor = s.anchor)
    (hAlike : ∀ s : Statement, s.Alike (f s)) :
    Describes (statements.modify p f) a d := by
  intro q r hMember hOwn
  rcases Table.get?_modify_eq_some.mp hMember with
    ⟨rfl, s, hBefore, rfl⟩ | ⟨_, hSame⟩
  · have hTold := h q s hBefore ((hToken s).symm.trans hOwn)
    exact ⟨(hAlike s).sql.trans hTold.sql,
      (hAlike s).columnNames.trans hTold.columnNames⟩
  · exact h q r hSame hOwn

theorem erase
    (h : Describes statements a d) :
    Describes (statements.erase p) a d :=
  fun p s hMember =>
    h p s (Table.get?_erase_eq_some.mp hMember).2

end Table.Describes

------------------------------------------------------------
-- Steps
------------------------------------------------------------

/-
  Whether a token has been issued, and the statement with it
  tells the same as a given one.
-/
structure World.Describes
    (w : World E)
    (a : Anchor)
    (d : Statement) : Prop where
  issued : a.number ≤ w.issued.anchors
  told : w.statements.Describes a d

/- Steps on statements leave them with what they tell. -/
theorem StatementStep.describes
    (h : g.world.Describes a d)
    (hStep : StatementStep A g g') :
    g'.world.statements.Describes a d := by
  have hTold := h.told
  cases hStep with
  | compiled => exact hTold
  | discarded => exact hTold
  | handedOver => exact hTold
  | evicted => exact hTold
  | entered _ _ _ _ _ _ _ _ hAnchor =>
      rw [Statement.register_eq]
      apply hTold.put
      rw [hAnchor]
      rintro ⟨⟩
      exact absurd h.issued (Nat.not_succ_le_self _)
  | advanced =>
      rw [World.modifyStatement_eq]
      exact hTold.modify
        (fun s => by rw [Statement.stepped_eq])
        (fun s => by
          rw [Statement.stepped_eq]
          exact ⟨rfl, rfl⟩)
  | rewound =>
      rw [World.modifyStatement_eq]
      exact hTold.modify (fun _ => rfl) fun _ => ⟨rfl, rfl⟩
  | finalized =>
      rw [World.modifyStatement_eq, World.modifyLinked_eq]
      exact hTold.modify (fun _ => rfl) fun _ => ⟨rfl, rfl⟩
  | detached =>
      simp only [World.modifyStatement_eq]
      apply Table.Describes.modify
      · exact hTold.modify (fun _ => rfl) fun _ => ⟨rfl, rfl⟩
      · exact fun _ => rfl
      · exact fun _ => ⟨rfl, rfl⟩
  | confirmed =>
      rw [World.modifyStatement_eq]
      exact hTold.modify (fun _ => rfl) fun _ => ⟨rfl, rfl⟩
  | removed =>
      rw [World.dropAnchor_eq]
      exact hTold.erase
  | transferred _ _ hStatement =>
      rw [Statement.transfer_eq,
        World.statement_of_get? hStatement]
      apply Table.Describes.put
      · exact hTold.put (hTold _ _ hStatement)
      · -- What is left at the source has no token any more.
        exact nofun

/- A step leaves statements with what they tell. -/
theorem Step.describes
    (h : g.world.Describes a d)
    (hStep : Step A g g') :
    g'.world.Describes a d where
  issued := Nat.le_trans h.issued hStep.issued_le
  told := by
    cases hStep with
    | ask => exact h.told
    | aside => exact h.told
    | rehoused => exact h.told
    | statement hStep => exact hStep.describes h
    | backup hStep =>
        rw [hStep.keeps_statements]
        exact h.told
    | connection hStep =>
        rw [hStep.keeps_statements]
        exact h.told

/- So does a run. -/
theorem Steps.describes
    (h : g.world.Describes a d)
    (hSteps : Steps A g g') :
    g'.world.Describes a d := by
  induction hSteps with
  | refl => exact h
  | tail _ hStep ih => exact hStep.describes ih

end SqliteAccess
