import SqliteAccess.Proofs.Operation.Journal
import SqliteAccess.Proofs.Operation.Naming
import SqliteAccess.Proofs.Session.Consistency
import SqliteAccess.Proofs.Transaction.Sparing

/-
  What operations spare.

  Guards are spared unless they are named.  Statements and
  backups are spared unless they are named or lost together
  with a connection.  A connection that an operation does not
  concern is spared with all that is on it.

  Key definitions include:
    * `Plan.Spares`
    * `Session.after`
    * `Session.Concerns`
    * `Session.Destroys`

  The operations are characterized by:
    * `Operation.run_spares`
    * `Session.statement_cases`
    * `Session.backup_cases`
    * `Session.keeps_connection`
    * `Session.statements_of_other`
    * `Session.backups_of_other`
-/

namespace SqliteAccess

variable {E : Engine} {G : GuardKind → Place → Prop}

------------------------------------------------------------
-- Guards
------------------------------------------------------------

/- The guards that an act may change. -/
def Act.alters : Act E → GuardKind → Place → Prop
  | guard call => call.alters
  | _ => fun _ _ => False

/- An act spares the guards that it may not change. -/
theorem Act.perform_spares
    (a : Act E)
    (hMay : ∀ k p, a.alters k p → G k p) :
    Attempt.Spares G a.perform := by
  cases a with
  | guard call => exact call.perform_spares hMay
  | library call =>
      exact .of_affects (A := (· ≠ .guard)) (by simp)
        (call.perform_affects (A := (· ≠ .guard)) nofun)
  | connection call =>
      exact .of_affects (A := (· ≠ .guard)) (by simp)
        (call.perform_affects (A := (· ≠ .guard)) nofun nofun)
  | other x hOther =>
      exact .of_affects (A := (· = .compile)) (by simp) hOther

namespace Plan

/- Whether the acts of a plan spare the guards. -/
def Spares (G : GuardKind → Place → Prop) : Plan E → Prop
  | done => True
  | look next => ∀ s, (next s).Spares G
  | act a next =>
      (∀ k p, a.alters k p → G k p) ∧
        ∀ ok, (next ok).Spares G

/- What a plan spares is as it was in the end. -/
theorem last_spares
    {p : Plan E}
    (hSpares : p.Spares G)
    (s : Session E) :
    World.Spares G s.world (p.last s).world := by
  induction p generalizing s with
  | done => exact .refl s.world
  | look next ih => exact ih s (hSpares s) s
  | act a next ih =>
      exact (a.perform_spares hSpares.1 s).trans
        (ih _ (hSpares.2 _) _)

theorem only_spares
    {a : Act E}
    (hMay : ∀ k p, a.alters k p → G k p) :
    (only a).Spares G :=
  ⟨hMay, fun _ => trivial⟩

/- An act without a guard spares them all. -/
theorem silent_spares
    {a : Act E}
    (hNone : ∀ k p, ¬ a.alters k p) :
    (only a).Spares G :=
  only_spares fun k p hMay => absurd hMay (hNone k p)

/- It spares what the rest of a plan spares. -/
theorem act_spares
    {a : Act E}
    {next : Bool → Plan E}
    (hNext : ∀ ok, (next ok).Spares G)
    (hNone : ∀ k p, ¬ a.alters k p) :
    (act a next).Spares G :=
  ⟨fun k p hMay => absurd hMay (hNone k p), hNext⟩

/- A plan that is carried out under a condition. -/
theorem ite_spares
    {c : Session E → Prop}
    [∀ s, Decidable (c s)]
    {p : Plan E}
    (hSpares : p.Spares G) :
    (look fun s => if c s then p else done).Spares G := by
  intro s
  by_cases hHolds : c s
  · simpa [hHolds] using hSpares
  · simp [hHolds, Spares]

theorem followedBy_spares
    {p q : Plan E}
    (hFirst : p.Spares G)
    (hSecond : q.Spares G) :
    (p.followedBy q).Spares G := by
  induction p with
  | done => exact hSecond
  | look next ih => exact fun s => ih s (hFirst s)
  | act a next ih =>
      exact ⟨hFirst.1, fun ok => ih ok (hFirst.2 ok)⟩

end Plan

namespace Operation

/- The guards that an operation may change. -/
def mayAlter
    (op : Operation)
    (k : GuardKind)
    (p : Place) : Prop :=
  p = .scratch ∨ ∃ n, p = .slot n ∧ .guard k n ∈ op.names

theorem ifFound_spares
    {α : Type}
    {found : Session E → Option α}
    {next : α → Plan E}
    (hNext : ∀ a, (next a).Spares G) :
    (ifFound found next).Spares G := by
  intro s
  cases hFound : found s with
  | none => simp [hFound, Plan.Spares]
  | some a => simpa [hFound] using hNext a

theorem onGuard_spares
    {k : GuardKind}
    {n : Nat}
    {next : Plan E}
    (hNext : next.Spares G) :
    (onGuard k n next).Spares G :=
  Plan.ite_spares hNext

/- Emptying a slot of a connection spares every guard. -/
theorem vacatePlan_spares (c : Nat) :
    (vacatePlan (E := E) c).Spares G := by
  apply ifFound_spares
  intro id
  apply Plan.act_spares
  case hNone => exact fun _ _ hMay => hMay
  exact fun _ => Plan.silent_spares fun _ _ hMay => hMay

theorem vacateSerializedPlan_spares (z : Nat) :
    (vacateSerializedPlan (E := E) z).Spares G := by
  apply ifFound_spares
  intro id
  apply Plan.act_spares
  case hNone => exact fun _ _ hMay => hMay
  exact fun _ => Plan.silent_spares fun _ _ hMay => hMay

theorem openPlan_spares
    (c : Nat)
    (path : Bytes)
    (options : ConnectionOptions) :
    (openPlan (E := E) c path options).Spares G := by
  apply Plan.followedBy_spares (vacatePlan_spares c)
  apply Plan.act_spares
  case hNone => exact fun _ _ hMay => hMay
  intro held
  cases held with
  | false => trivial
  | true =>
      apply Plan.act_spares
      case hNone => exact fun _ _ hMay => hMay
      intro opened
      cases opened with
      | true => trivial
      | false => exact Plan.silent_spares fun _ _ hMay => hMay

/- A transaction body has the temporary guard only. -/
theorem bodyPlan_spares
    {next : Bool → Plan E}
    (hGuard : G .transaction .scratch)
    (hNext : ∀ ok, (next ok).Spares G)
    (c : ConnectionId)
    (body : List TransactionItem) :
    (bodyPlan c next body).Spares G := by
  have hAct : ∀ {a : Act E} {r : List TransactionItem},
      (∀ k p, a.alters k p → k = .transaction ∧ p = .scratch) →
      (bodyPlan c next r).Spares G →
        (Plan.act a fun ok =>
          if ok then bodyPlan c next r else next false).Spares
            G := by
    intro a r hMay hRest
    constructor
    · intro k p hAlters
      rcases hMay k p hAlters with ⟨rfl, rfl⟩
      exact hGuard
    · intro ok
      cases ok with
      | true => exact hRest
      | false => exact hNext false
  induction body with
  | nil => exact hNext true
  | cons item r ih =>
      cases item with
      | execute sql =>
          exact hAct (fun _ _ hMay => absurd hMay id) ih
      | raise message => exact hNext false
      | commit => exact hAct (fun _ _ hMay => hMay) ih
      | rollback => exact hAct (fun _ _ hMay => hMay) ih

theorem withinPlan_spares
    (hGuard : G .transaction .scratch)
    (c : ConnectionId)
    (body : List TransactionItem) :
    (withinPlan (E := E) c body).Spares G := by
  have hOwn : ∀ k p, k = .transaction ∧ p = .scratch →
      G k p := by
    rintro _ _ ⟨rfl, rfl⟩
    exact hGuard
  refine ⟨hOwn, fun begun => ?_⟩
  cases begun with
  | false => trivial
  | true =>
      apply bodyPlan_spares hGuard
      intro ok
      cases ok with
      | true => exact ⟨hOwn, fun _ => Plan.only_spares hOwn⟩
      | false => exact Plan.only_spares hOwn

section Moves

variable {k : GuardKind} {source target : Nat}

theorem relocatePlan_spares
    (hSource : G k (.slot source))
    (hTarget : G k (.slot target)) :
    (relocatePlan (E := E) k source target).Spares G := by
  apply Plan.ite_spares
  constructor
  · rintro _ _ ⟨rfl, rfl⟩
    exact hTarget
  · intro _
    apply Plan.only_spares
    rintro _ _ ⟨rfl, rfl | rfl⟩
    · exact hSource
    · exact hTarget

theorem overwritePlan_spares
    (hSource : G k (.slot source))
    (hTarget : G k (.slot target)) :
    (overwritePlan (E := E) k source target).Spares G := by
  apply Plan.ite_spares
  apply Plan.only_spares
  rintro _ _ ⟨rfl, rfl | rfl⟩
  · exact hSource
  · exact hTarget

end Moves

/- The plan of an operation spares what it does not name. -/
theorem plan_spares (op : Operation) :
    (op.plan (E := E)).Spares op.mayAlter := by
  unfold plan
  split
  case isTrue =>
    exact Plan.silent_spares fun _ _ hMay => hMay
  case isFalse =>
    have hNamed : ∀ {k : GuardKind} {n : Nat},
        .guard k n ∈ op.names → op.mayAlter k (.slot n) :=
      fun hMem => .inr ⟨_, rfl, hMem⟩
    have hOne : ∀ {k : GuardKind} {n : Nat},
        .guard k n ∈ op.names →
          ∀ k' p, k' = k ∧ p = .slot n → op.mayAlter k' p := by
      rintro k n hMem _ _ ⟨rfl, rfl⟩
      exact hNamed hMem
    cases op with
    | library r =>
        cases r with
        | start =>
            exact Plan.silent_spares fun _ _ hMay => hMay
        | stop =>
            exact Plan.silent_spares fun _ _ hMay => hMay
        | _ => trivial
    | openConnection c path options =>
        exact openPlan_spares c path options
    | dropConnection c => exact vacatePlan_spares c
    | connection c r =>
        cases r with
        | withTransaction body returns =>
            apply ifFound_spares
            intro id
            exact withinPlan_spares (.inl rfl) id body
        | _ => trivial
    | begin c t type =>
        apply ifFound_spares
        intro id
        exact ⟨hOne (by simp [names]), fun _ =>
          Plan.only_spares (hOne (by simp [names]))⟩
    | moveTransaction source target =>
        exact relocatePlan_spares (hNamed (by simp [names]))
          (hNamed (by simp [names]))
    | assignTransaction source target =>
        exact overwritePlan_spares (hNamed (by simp [names]))
          (hNamed (by simp [names]))
    | dropTransaction t =>
        exact onGuard_spares
          (Plan.only_spares (hOne (by simp [names])))
    | transaction t r =>
        cases r with
        | commit =>
            exact onGuard_spares
              (Plan.only_spares (hOne (by simp [names])))
        | rollback =>
            exact onGuard_spares
              (Plan.only_spares (hOne (by simp [names])))
        | info => trivial
    | savepoint t p name =>
        apply onGuard_spares
        exact ⟨hOne (by simp [names]), fun _ =>
          Plan.only_spares (hOne (by simp [names]))⟩
    | savepointOn c p name =>
        apply ifFound_spares
        intro id
        exact ⟨hOne (by simp [names]), fun _ =>
          Plan.only_spares (hOne (by simp [names]))⟩
    | moveSavepoint source target =>
        exact relocatePlan_spares (hNamed (by simp [names]))
          (hNamed (by simp [names]))
    | assignSavepoint source target =>
        exact overwritePlan_spares (hNamed (by simp [names]))
          (hNamed (by simp [names]))
    | dropSavepoint p =>
        exact onGuard_spares
          (Plan.only_spares (hOne (by simp [names])))
    | askSavepoint p r =>
        cases r with
        | release =>
            exact onGuard_spares
              (Plan.only_spares (hOne (by simp [names])))
        | rollback =>
            exact onGuard_spares
              (Plan.only_spares (hOne (by simp [names])))
        | info => trivial
    | serialize z c =>
        cases c with
        | none => exact vacateSerializedPlan_spares z
        | some c =>
            apply ifFound_spares
            intro id
            apply Plan.followedBy_spares
              (vacateSerializedPlan_spares z)
            exact Plan.silent_spares fun _ _ hMay => hMay
    | dropSerialized z => exact vacateSerializedPlan_spares z
    | _ => trivial

/- An operation spares the guards that it does not name. -/
theorem run_spares
    (op : Operation)
    (s : Session E) :
    World.Spares op.mayAlter s.world (s.run op).2.world := by
  rw [← op.plan_last]
  exact Plan.last_spares op.plan_spares s

end Operation

------------------------------------------------------------
-- What an Operation Has to Do With
------------------------------------------------------------

namespace Session

/- The world that an operation leaves. -/
def after
    (s : Session E)
    (op : Operation) : World E :=
  (s.run op).2.world

/-
  Whether an operation names a connection or an object that
  the connection owns.
-/
def Concerns
    (s : Session E)
    (op : Operation)
    (c : ConnectionId) : Prop :=
  ∃ o ∈ op.names, s.world.Owns c o

/- Whether an operation destroys a connection. -/
def Destroys
    (s : Session E)
    (op : Operation)
    (c : ConnectionId) : Prop :=
  s.world.connections.get? c ≠ none ∧
    (s.after op).connections.get? c = none

end Session

------------------------------------------------------------
-- Objects at Rest
------------------------------------------------------------

namespace Sound

variable {g : Stage E} {p : Place} {c : ConnectionId}

/- A connection on which a statement is live is there. -/
theorem exists_of_liveStatement
    (hSound : Sound g)
    (hLive : LiveStatement g.world.statements p c) :
    g.world.connections.get? c ≠ none :=
  Option.ne_none_iff_exists'.mpr
    (hSound.exists_of_child fun hNone =>
      hNone.statements p hLive)

theorem exists_of_liveBackup
    (hSound : Sound g)
    (hLive : LiveBackup g.world.backups p c) :
    g.world.connections.get? c ≠ none :=
  Option.ne_none_iff_exists'.mpr
    (hSound.exists_of_child fun hNone => hNone.backups p hLive)

/- A connection lists the statements that are live on it. -/
theorem mem_statements_iff
    (hSound : Sound g)
    (hClosing : g.custody.closing = none) :
    p ∈ (g.world.connection c).statements ↔
      LiveStatement g.world.statements p c := by
  cases hConnection : g.world.connections.get? c with
  | none =>
      have hNot : ¬ LiveStatement g.world.statements p c :=
        fun hLive =>
          hSound.exists_of_liveStatement hLive hConnection
      simp [World.connection, hConnection, Connection.vacant,
        hNot]
  | some conn =>
      rw [World.connection_of_get? hConnection]
      simpa [hClosing] using
        hSound.registered.statements.mem_iff hConnection

/- It lists the backups that are live on it. -/
theorem mem_backups_iff
    {conn : Connection}
    (hSound : Sound g)
    (hClosing : g.custody.closing = none)
    (hConnection : g.world.connections.get? c = some conn) :
    p ∈ conn.backups ↔ LiveBackup g.world.backups p c := by
  simpa [hClosing] using
    hSound.registered.backups.mem_iff hConnection

/- Nothing is in the scratch place if nothing is under way. -/
theorem not_live_scratch
    (hSound : Sound g)
    (hScratch : g.custody.scratch = false) :
    ¬ LiveStatement g.world.statements .scratch c := by
  rintro ⟨s, hStatement, _⟩
  have hContains := hSound.scratch
  rw [hScratch] at hContains
  simp [Table.contains, hStatement] at hContains

theorem not_liveBackup_scratch
    (hSound : Sound g)
    (hCopying : g.custody.copying = false) :
    ¬ LiveBackup g.world.backups .scratch c := by
  rintro ⟨b, hBackup, _⟩
  have hContains := hSound.scratchBackup
  rw [hCopying] at hContains
  simp [Table.contains, hBackup] at hContains

end Sound

/- What has come to its end is not live anywhere. -/
theorem World.not_live_of_ended
    {w : World E}
    {p : Place}
    (hEnded : (w.statement p).handle = none)
    (c : ConnectionId) :
    ¬ LiveStatement w.statements p c := by
  apply not_liveStatement
  intro x hFound
  rwa [World.statement_of_get? hFound] at hEnded

theorem World.not_liveBackup_of_ended
    {w : World E}
    {p : Place}
    (hEnded : (w.backup p).handle = none)
    (c : ConnectionId) :
    ¬ LiveBackup w.backups p c := by
  apply not_liveBackup
  intro x hFound
  rwa [World.backup_of_get? hFound] at hEnded

/- A statement is live on one connection only. -/
theorem LiveStatement.unique
    {statements : Table Place Statement}
    {p : Place}
    {c d : ConnectionId}
    (hLive : LiveStatement statements p c)
    (hLive' : LiveStatement statements p d) :
    c = d := by
  rcases hLive with ⟨s, hFound, _, hOwner⟩
  rcases hLive' with ⟨s', hFound', _, hOwner'⟩
  cases hFound.symm.trans hFound'
  exact Option.some.inj (hOwner.symm.trans hOwner')

------------------------------------------------------------
-- Steps of an Operation
------------------------------------------------------------

namespace Session

variable {s : Session E} {h : List StatementHandle}
variable {op : Operation} {c d : ConnectionId}

/-
  A session at rest in which an operation is free to do what
  it may, and nothing else.
-/
def poised
    (s : Session E)
    (op : Operation)
    (h : List StatementHandle) : Stage E :=
  { custody :=
      { hosted := h
        expendable := op.mayEnd s.world
        enlists := op.mayEnlist s.world
        drives := op.mayDrive }
    world := s.world }

theorem poised_sound
    (hSound : Sound (s.rest h)) :
    Sound (s.poised op h) :=
  { hSound with }

theorem poised_steps
    (op : Operation)
    (hSound : Sound (s.rest h)) :
    ∃ k, Steps op.mayChange (s.poised op h)
      ⟨k, s.after op⟩ :=
  ⟨_, run_steps_of op (poised_sound hSound)
    ⟨⟨rfl, rfl, rfl, rfl, rfl⟩, rfl⟩
    (fun _ hMay => hMay) (fun _ hMay => hMay)
    fun _ hMay => hMay⟩

/- Every handle is accounted for after an operation. -/
theorem after_sound
    (hSound : Sound (s.rest h)) :
    Sound
      (⟨{ hosted := s.given op ++ h }, s.after op⟩ :
        Stage E) :=
  (run_steps op hSound).sound hSound

/-
  What an operation that may destroy a connection changes is
  lost with it.
-/
theorem run_sheds
    (hDestroys : op.mayDestroyConnection = true)
    (hSound : Sound (s.rest h)) :
    s.world.Sheds
      (fun c => (s.after op).connections.get? c = none)
      (s.after op) := by
  have hLeads := op.perform_outlived (g := s.rest h)
    hDestroys (Custody.atRest_of_hosted h)
    fun _ _ => trivial
  rcases hLeads hSound s.log with ⟨k, _, hEnd⟩
  have hOutlived :
      (s.rest h).Outlived ⟨k, s.after op⟩ := hEnd.elim
  exact hOutlived.sheds

/- A connection that is not to be closed keeps its handle. -/
theorem keeps_handle
    {conn : Connection}
    (hSound : Sound (s.rest h))
    (hConnection : s.world.connections.get? c = some conn)
    (hNeeded : ¬ op.mayEnd s.world c) :
    ∃ conn', (s.after op).connections.get? c = some conn' ∧
      conn'.handle = conn.handle := by
  rcases poised_steps op hSound with ⟨k, hSteps⟩
  have hOld : c.number ≤
      (s.poised op h).world.issued.connections :=
    hSound.opened.identified hConnection
  have hKept := hSteps.keeps_handle hOld hNeeded
  have hBefore :
      (s.poised op h).world.connections.get? c = some conn :=
    hConnection
  rw [hBefore] at hKept
  exact Option.map_eq_some_iff.mp hKept

/- One that is destroyed was to be closed. -/
theorem mayEnd_of_destroys
    (hSound : Sound (s.rest h))
    (hDestroyed : s.Destroys op c) :
    op.mayEnd s.world c ∧
      c.number ≤ s.world.issued.connections := by
  rcases Option.ne_none_iff_exists'.mp hDestroyed.1 with
    ⟨conn, hConnection⟩
  refine ⟨?_, hSound.opened.identified hConnection⟩
  apply Classical.byContradiction
  intro hNeeded
  rcases keeps_handle hSound hConnection hNeeded with
    ⟨conn', hKept, _⟩
  rw [hDestroyed.2] at hKept
  cases hKept

/- What an operation does not concern is not to be closed. -/
theorem keeps_connection
    {conn : Connection}
    (hSound : Sound (s.rest h))
    (hConnection : s.world.connections.get? c = some conn)
    (hOther : ¬ s.Concerns op c) :
    ∃ conn', (s.after op).connections.get? c = some conn' ∧
      conn'.handle = conn.handle := by
  apply keeps_handle hSound hConnection
  intro hMay
  rcases Operation.owned_of_mayEnd hMay with hOwned | hNew
  · exact hOther hOwned
  · have hOld := hSound.opened.identified hConnection
    exact absurd hNew (Nat.not_lt.mpr hOld)

/-
  A statement is as before, is named, or had its end with its
  connection.
-/
theorem statement_cases
    (op : Operation)
    (hSound : Sound (s.rest h))
    (n : Nat) :
    (s.after op).statements.get? (.slot n) =
        s.world.statements.get? (.slot n) ∨
      .statement n ∈ op.names ∨
      ((s.after op).statement (.slot n)).handle = none ∧
        ∃ c, s.Destroys op c ∧
          LiveStatement s.world.statements (.slot n) c := by
  cases hDestroys : op.mayDestroyConnection with
  | true =>
      apply ((run_sheds hDestroys hSound).statements
        (.slot n)).imp_right
      rintro ⟨hEnded, c, hGone, hLive⟩
      exact .inr ⟨hEnded, c,
        ⟨hSound.exists_of_liveStatement hLive, hGone⟩, hLive⟩
  | false =>
      have hNamed := (Operation.named_of_mayChange hDestroys).1
      by_cases hPart : op.mayChange (.statement (.slot n))
      · exact .inr (.inl (hNamed n hPart))
      · exact .inl
          ((run_steps op hSound).keeps_statement hPart)

/- So is a backup. -/
theorem backup_cases
    (op : Operation)
    (hSound : Sound (s.rest h))
    (n : Nat) :
    (s.after op).backups.get? (.slot n) =
        s.world.backups.get? (.slot n) ∨
      .backup n ∈ op.names ∨
      ((s.after op).backup (.slot n)).handle = none ∧
        ∃ c, s.Destroys op c ∧
          LiveBackup s.world.backups (.slot n) c := by
  cases hDestroys : op.mayDestroyConnection with
  | true =>
      apply ((run_sheds hDestroys hSound).backups
        (.slot n)).imp_right
      rintro ⟨hEnded, c, hGone, hLive⟩
      exact .inr ⟨hEnded, c,
        ⟨hSound.exists_of_liveBackup hLive, hGone⟩, hLive⟩
  | false =>
      have hNamed := (Operation.named_of_mayChange hDestroys).2
      by_cases hPart : op.mayChange (.backup (.slot n))
      · exact .inr (.inl (hNamed n hPart))
      · exact .inl ((run_steps op hSound).keeps_backup hPart)

/-
  A statement that is live in a slot that is named was live
  on the same connection in one that is named, or else the
  connection may have got a new one.
-/
theorem named_before
    {n : Nat}
    (hSound : Sound (s.rest h))
    (hNamed : .statement n ∈ op.names)
    (hLive :
      LiveStatement (s.after op).statements (.slot n) c) :
    op.mayEnlist s.world c ∨
      ∃ m, .statement m ∈ op.names ∧
        LiveStatement s.world.statements (.slot m) c := by
  have hStays := (Operation.spares_of_named (w := s.world)
    hNamed).1
  rcases poised_steps op hSound with ⟨k, hSteps⟩
  rcases hSteps.statement_before (by simp) hLive with
    hMay | ⟨q, hSlot, hBefore, hMoved⟩
  · exact .inl hMay
  · cases q with
    | scratch => exact absurd rfl hSlot
    | slot m =>
        refine .inr ⟨m, ?_, hBefore⟩
        rcases hMoved with hSame | ⟨hPart, _⟩
        · cases hSame
          exact hNamed
        · exact (Operation.named_of_mayChange hStays).1 m hPart

/-
  What an operation does not concern has the same statements
  as before, if it is still there.
-/
theorem statements_of_other
    (hSound : Sound (s.rest h))
    (hOther : ¬ s.Concerns op c)
    (hKept : (s.after op).connections.get? c ≠ none)
    (p : Place) :
    LiveStatement (s.after op).statements p c ↔
      LiveStatement s.world.statements p c := by
  cases p with
  | scratch =>
      exact iff_of_false
        ((after_sound hSound).not_live_scratch rfl)
        (hSound.not_live_scratch rfl)
  | slot n =>
      rcases statement_cases op hSound n with
        hSame | hNamed | ⟨hEnded, d, hGone, hLive⟩
      · unfold LiveStatement
        rw [hSame]
      · apply iff_of_false
        · intro hLive
          rcases named_before hSound hNamed hLive with
            hMay | ⟨m, hNamed', hBefore⟩
          · exact hOther (Operation.owned_of_mayEnlist hMay)
          · exact hOther ⟨_, hNamed',
              World.owns_of_liveStatement hBefore⟩
        · intro hLive
          exact hOther ⟨_, hNamed,
            World.owns_of_liveStatement hLive⟩
      · apply iff_of_false
        · exact World.not_live_of_ended hEnded c
        · intro hLive'
          cases hLive.unique hLive'
          exact hKept hGone.2

/-
  It has the same backups, except for those whose other
  connection is destroyed.
-/
theorem backups_of_other
    (hSound : Sound (s.rest h))
    (hOther : ¬ s.Concerns op c)
    (p : Place) :
    LiveBackup (s.after op).backups p c ↔
      LiveBackup s.world.backups p c ∧
        ∀ d, LiveBackup s.world.backups p d →
          ¬ s.Destroys op d := by
  cases p with
  | scratch =>
      apply iff_of_false
      · exact (after_sound hSound).not_liveBackup_scratch rfl
      · exact fun hBoth =>
          hSound.not_liveBackup_scratch rfl hBoth.1
  | slot n =>
      rcases backup_cases op hSound n with
        hSame | hNamed | ⟨hEnded, d, hGone, hLive⟩
      · have hIff : ∀ e,
            LiveBackup (s.after op).backups (.slot n) e ↔
              LiveBackup s.world.backups (.slot n) e := by
          intro e
          unfold LiveBackup
          rw [hSame]
        refine ⟨fun hLive => ⟨(hIff c).mp hLive, ?_⟩,
          fun hBoth => (hIff c).mpr hBoth.1⟩
        intro d hLive' hGone
        exact (after_sound hSound).exists_of_liveBackup
          ((hIff d).mpr hLive') hGone.2
      · apply iff_of_false
        · intro hLive
          rcases poised_steps op hSound with
            ⟨k, hSteps⟩
          rcases hSteps.backup_before (by simp) hLive with
            hMay | hBefore
          · exact hOther (Operation.owned_of_mayEnlist hMay)
          · exact hOther ⟨_, hNamed,
              World.owns_of_liveBackup hBefore⟩
        · intro hBoth
          exact hOther ⟨_, hNamed,
            World.owns_of_liveBackup hBoth.1⟩
      · apply iff_of_false
        · exact World.not_liveBackup_of_ended hEnded c
        · exact fun hBoth => hBoth.2 d hLive hGone

/- What is listed is live, before an operation and after it. -/
theorem listed_iff
    (hSound : Sound (s.rest h))
    (c : ConnectionId)
    (p : Place) :
    p ∈ (s.world.connection c).statements ↔
      LiveStatement s.world.statements p c :=
  hSound.mem_statements_iff rfl

theorem listed_after_iff
    (op : Operation)
    (hSound : Sound (s.rest h))
    (c : ConnectionId)
    (p : Place) :
    p ∈ ((s.after op).connection c).statements ↔
      LiveStatement (s.after op).statements p c :=
  (after_sound hSound).mem_statements_iff rfl

end Session

end SqliteAccess
