import SqliteAccess.Proofs.Transaction.Founding
import SqliteAccess.Proofs.Transaction.Stacking

/-
  What callers write into generated SQL.

  Pragmas and savepoints are the only calls that put a text
  of the caller into SQL without quotes.  Whatever that text
  is, the statement is made of fixed words, of a name and of
  a literal, and neither of these can be anything else.

  Key definitions include:
    * `Session.ShapesSql`

  The statements are characterized by:
    * `Connection.setPragma_shaped`
    * `Deed.ended_by_name`
    * `Session.sql_shaped`
-/

namespace SqliteAccess

variable {E : Engine}

------------------------------------------------------------
-- Calls
------------------------------------------------------------

/- A pragma is set to the literal of a value, or not at all. -/
theorem Connection.setPragma_shaped
    (s : Session E)
    (c : ConnectionId)
    (name : Bytes)
    (v : Value) :
    ∃ literal,
      (v.IsSettable → Pragma.literal? v = some literal ∧
        (literal.IsIdentifier ∨ literal.IsNumber)) ∧
      s.Submits
        (((s.world.connection c).handle ≠ none ∧
          name.IsPragmaName) ∧ v.IsSettable)
        (Bytes.ascii "PRAGMA " ++ name ++
          Bytes.ascii " = " ++ literal)
        (setPragma c name v) := by
  have hSettable := Pragma.literal?_ne_none_iff (v := v)
  cases hLiteral : Pragma.literal? v with
  | none =>
      have hNot : ¬ v.IsSettable :=
        fun hIs => hSettable.mpr hIs hLiteral
      refine ⟨[], fun hIs => absurd hIs hNot, ?_, ?_⟩
      · exact fun hIs _ => absurd hIs.2 hNot
      · exact fun _ => setPragma_objects hLiteral
  | some literal =>
      have hIs : v.IsSettable := by
        apply hSettable.mp
        rw [hLiteral]
        nofun
      refine ⟨literal, fun _ =>
        ⟨rfl, Pragma.literal?_eq_some hLiteral⟩, ?_⟩
      exact (setPragma_submits hLiteral).congr
        (and_iff_left hIs).symm

/-
  What the guard of a savepoint sends was founded on a name,
  if it sends anything.
-/
theorem Deed.ended_by_name
    {d : Deed E}
    {earlier : List (Deed E)}
    {call : GuardCall}
    {p : Place}
    (hTitled : Titled earlier d.before.world)
    (hAct : d.act = .guard call)
    (hSpeaker : call.speaker? = some (.savepoint, p)) :
    d.sent = [] ∨
      ∃ m founder name,
        lineages earlier .savepoint p = some m ∧
        Numbered earlier m founder ∧
        founder.Names name ∧
        ∀ sql ∈ d.sent, sql = Savepoint.releaseSql name ∨
          sql = Savepoint.rollbackSql name := by
  cases hActive : d.before.world.active .savepoint p with
  | none => exact .inl (silent_of_inactive hAct hSpeaker hActive)
  | some g =>
      rcases hTitled p g hActive with
        ⟨m, founder, name, hLabel, hNumbered, hNames, hBears⟩
      refine .inr ⟨m, founder, name, hLabel, hNumbered,
        hNames, fun sql hMem => ?_⟩
      exact GuardCall.texts_of_bears hSpeaker hActive hBears
        ((sent_sublist hAct).subset hMem)

------------------------------------------------------------
-- Whole Sessions
------------------------------------------------------------

/-
  How texts of callers become part of SQL, where some deeds
  are given, the latest first:

    * `pragma`, `setPragma`, `savepoint`, `nested`: a call on
      an open connection hands over one text, which is made
      of its words, the name and the literal; a call with
      another name or value, on another connection, or with a
      text that is too long breaks a rule of use, and nothing
      else has happened
    * `ended`: what the guard of a savepoint sends afterwards
      releases the savepoint or rolls back to it, by the name
      that its lineage was founded with
    * `names`: savepoints and the values of pragmas are named
      by identifiers, pragmas by one or two of them
    * `numbers`: numbers are written with few characters
    * `harmless`: names and numbers are harmless
-/
structure Session.ShapesSql
    (journal : List (Deed E)) : Prop where
  pragma : ∀ (s : Session E) (c : ConnectionId) (name : Bytes),
    s.Submits
      ((s.world.connection c).handle ≠ none ∧
        name.IsPragmaName)
      (Bytes.ascii "PRAGMA " ++ name)
      (Connection.pragma c name)
  setPragma : ∀ (s : Session E) (c : ConnectionId)
      (name : Bytes) (v : Value),
    ∃ literal,
      (v.IsSettable → Pragma.literal? v = some literal ∧
        (literal.IsIdentifier ∨ literal.IsNumber)) ∧
      s.Submits
        (((s.world.connection c).handle ≠ none ∧
          name.IsPragmaName) ∧ v.IsSettable)
        (Bytes.ascii "PRAGMA " ++ name ++
          Bytes.ascii " = " ++ literal)
        (Connection.setPragma c name v)
  savepoint : ∀ (s : Session E) (c : ConnectionId) (p : Place)
      (name : Bytes),
    s.Submits
      ((s.world.connection c).handle ≠ none ∧
        name.IsIdentifier)
      (Bytes.ascii "SAVEPOINT " ++ name)
      (Savepoint.start c p name)
  nested : ∀ (s : Session E) (q p : Place) (name : Bytes),
    s.Submits
      ((∃ g, s.world.active .transaction q = some g ∧
          s.world.handleOf g.connection ≠ none) ∧
        name.IsIdentifier)
      (Bytes.ascii "SAVEPOINT " ++ name)
      (Transaction.savepoint q p name)
  ended : ∀ later d earlier call p,
    journal = later ++ d :: earlier →
    d.act = .guard call →
    call.speaker? = some (.savepoint, p) →
      d.sent = [] ∨
        ∃ m founder name,
          lineages earlier .savepoint p = some m ∧
          Numbered earlier m founder ∧
          founder.Names name ∧
          ∀ sql ∈ d.sent,
            sql = Bytes.ascii "RELEASE SAVEPOINT " ++ name ∨
            sql =
              Bytes.ascii "ROLLBACK TO SAVEPOINT " ++ name
  names : ∀ t : Bytes,
    (Identifier.isValid t = true ↔ t.IsIdentifier) ∧
    (Savepoint.acceptsName t = true ↔ t.IsIdentifier) ∧
    (Identifier.isQualified t = true ↔ t.IsPragmaName)
  numbers : ∀ t : Bytes, t.IsNumber →
    ∀ b ∈ t, b ∈ Bytes.ascii "0123456789+-.e"
  harmless : ∀ t : Bytes,
    t.IsIdentifier ∨ t.IsPragmaName ∨ t.IsNumber →
      t.IsHarmless

namespace Session

/-
  In any session, whatever the engine answers, callers do not
  change the shape of the SQL that is generated.
-/
theorem sql_shaped
    (engine : E.State)
    (patience : Nat)
    (log : Log)
    (ops : List Operation) :
    ShapesSql
      ((start engine patience log).journal ops) where
  pragma _ _ _ := Connection.pragma_submits
  setPragma := Connection.setPragma_shaped
  savepoint _ _ _ _ := Savepoint.start_submits
  nested _ _ _ _ := Transaction.savepoint_submits
  ended := by
    intro later d earlier call p hJournal hAct hSpeaker
    have hChained :=
      journal_chained (start engine patience log) ops
    rw [hJournal] at hChained
    refine Deed.ended_by_name (titled ?_ hChained.split.1)
      hAct hSpeaker
    rintro (_ | _) p <;> rfl
  names t := by
    refine ⟨Identifier.isValid_iff, ?_,
      Identifier.isQualified_iff⟩
    rw [Savepoint.acceptsName_eq, Identifier.isValid_iff]
  numbers t hNumber := hNumber.characters
  harmless := by
    rintro t (hName | hName | hNumber)
    · exact hName.isHarmless
    · exact hName.isHarmless
    · exact hNumber.isHarmless

/- Roll back to a savepoint in a transaction. -/
def rolledBackOps : List Operation :=
  stackedOps ++ [.askSavepoint 0 .rollback]

/- The deeds of a session that does so. -/
def rolledBackJournal : List (Deed Engine.scripted) :=
  (start idleEngine 10 {}).journal rolledBackOps

/-
  There a number is written into a pragma, a second statement
  is not, and the guard of the savepoint ends it by the name
  that it was given.
-/
theorem sql_shaped_rolledBack :
    ((Connection.setPragma ⟨1⟩ (Bytes.ascii "main.cache_size")
        (.integer (-1))).run stacked).2.sent =
      Bytes.ascii "PRAGMA main.cache_size = -1" ::
        stacked.sent ∧
    stacked.Objects (Connection.pragma ⟨1⟩
      (Bytes.ascii "a; DROP TABLE t")) ∧
    ∃ later d earlier m founder,
      rolledBackJournal = later ++ d :: earlier ∧
        d.act = .guard (.rollback .savepoint (.slot 0)) ∧
        d.sent =
          [Bytes.ascii "RELEASE SAVEPOINT a",
            Bytes.ascii "ROLLBACK TO SAVEPOINT a"] ∧
        lineages earlier .savepoint (.slot 0) = some m ∧
        Numbered earlier m founder ∧
        founder.Names (Bytes.ascii "a") := by
  have hShapes :=
    sql_shaped idleEngine 10 {} rolledBackOps
  refine ⟨?number, ?objects, ?ended⟩
  case number =>
    rcases hShapes.setPragma stacked ⟨1⟩
        (Bytes.ascii "main.cache_size") (.integer (-1)) with
      ⟨literal, hLiteral, hSubmits⟩
    have hOpen :
        (stacked.world.connection ⟨1⟩).handle ≠ none := by
      decide +kernel
    have hName :
        (Bytes.ascii "main.cache_size").IsPragmaName :=
      Identifier.isQualified_iff.mp (by decide)
    have hIs : Pragma.literal? (.integer (-1)) =
        some (Bytes.ascii "-1") := by
      decide
    cases hIs.symm.trans (hLiteral trivial).1
    exact hSubmits.sends ⟨⟨hOpen, hName⟩, trivial⟩
      (by decide)
  case objects =>
    apply (hShapes.pragma stacked ⟨1⟩ _).objects
    rintro ⟨⟨_, hName⟩, _⟩
    have hNot := Identifier.isQualified_iff.mpr hName
    exact absurd hNot (by decide)
  case ended =>
    have hCall : rolledBackJournal[5]?.bind
        (·.act.guard?) =
          some (.rollback .savepoint (.slot 0)) := by
      decide +kernel
    have hSent : rolledBackJournal[5]?.map Deed.sent =
        some [Bytes.ascii "RELEASE SAVEPOINT a",
          Bytes.ascii "ROLLBACK TO SAVEPOINT a"] := by
      decide +kernel
    have hEnded := hShapes.ended
    rw [← rolledBackJournal] at hEnded
    revert hEnded hCall hSent
    generalize rolledBackJournal = journal
    intro hCall hSent hEnded
    rcases Option.map_eq_some_iff.mp hSent with
      ⟨d, hFound, hTexts⟩
    rw [hFound] at hCall
    have hAct := Act.eq_of_guard? hCall
    have hSplit := split_of_getElem? hFound
    rcases hEnded _ d _ _ _ hSplit hAct rfl with hNone |
      ⟨m, founder, name, hLabel, hNumbered, hNames, hAll⟩
    · rw [hTexts] at hNone
      cases hNone
    · rw [hTexts] at hAll
      rcases hAll _ (List.mem_cons_self) with hSame | hSame
      · have hName : Bytes.ascii "a" = name :=
          (List.append_right_inj
            (Bytes.ascii "RELEASE SAVEPOINT ")).mp hSame
        rw [← hName] at hNames
        exact ⟨_, d, _, m, founder, hSplit, hAct, hTexts,
          hLabel, hNumbered, hNames⟩
      · cases hSame

end Session

end SqliteAccess
