import SqliteAccess.Proofs.Connection.Settings
import SqliteAccess.Proofs.Session.Keeping
import SqliteAccess.Statement.Lifecycle

/-
  Compiling, finalizing and moving statements, step by step.

  Key definitions include:
    * `Stage.Compiled`
    * `Stage.Describes`

  The programs are characterized by:
    * `Statement.finalize_leads`
    * `Statement.destroy_leads`
    * `Statement.prepare_leads`
    * `Statement.move_leads`
    * `Statement.assign_leads`
    * `Statement.within_keeps`
-/

namespace SqliteAccess

variable {E : Engine} {α : Type} {A : Part → Prop}
variable {g g' g'' : Stage E} {p : Place}
variable {c : ConnectionId} {conn : Connection}
variable {db : DatabaseHandle} {st : StatementHandle}
variable {sql : Bytes}

namespace Statement

open Attempt

------------------------------------------------------------
-- Finalizing
------------------------------------------------------------

/- Afterwards a statement has no handle. -/
theorem finalize_leads
    (hPart : A (.statement p)) :
    Quiet.Leads A g g.world (finalize p)
      fun _ g' => g'.custody = g.custody ∧
        (g'.world.statement p).handle = none := by
  unfold finalize
  apply Quiet.Leads.read
  cases hHandle : (g.world.statement p).handle with
  | none =>
      apply Quiet.Leads.last
      apply Quiet.Leads.update
      apply Quiet.Leads.commit
        (.single (.statement (.confirmed hPart hHandle)))
      apply Quiet.Leads.pure
      refine ⟨rfl, ?_⟩
      cases hStatement : g.world.statements.get? p with
      | none => simp [World.statement, hStatement, vacant]
      | some s =>
          rw [World.statement_of_get? hStatement] at hHandle
          rw [World.statement_modifyStatement hStatement]
          exact hHandle
  | some st =>
      rcases World.get?_of_statement_handle hHandle with
        ⟨s, hStatement, hOwn⟩
      rw [World.statement_of_get? hStatement]
      apply Quiet.Leads.update
      apply Quiet.Leads.update
      apply Quiet.Leads.invoke
      intro code engine
      apply Quiet.Leads.commit
        (.single (.statement
          (.finalized hPart hStatement hOwn)))
      have hEnded :
          ((((g.world.modifyLinked s.connection
              (·.removeStatement p)).modifyStatement p ended)
                |>.heard ⟨.finalize st, code⟩ engine).statement
                  p).handle = none := by
        simp [World.statement, World.heard, hStatement, ended]
      exact .noteIf ⟨rfl, hEnded⟩

theorem finalize_keeps
    {P : Custody → Prop}
    (hPart : A (.statement p)) :
    Quiet.Keeps (E := E) A P (finalize p) := by
  intro g _
  apply (finalize_leads hPart).mono
  exact fun _ g' _ _ hFinalized => hFinalized.1

/-
  A statement that is live on a connection that goes away is
  finalized, without being struck out there.
-/
theorem detach_leads
    (hPart : A (.statement p))
    (hClosing : g.custody.closing = some c)
    (hLive : LiveStatement g.world.statements p c) :
    Quiet.Leads A g g.world (detach p)
      fun _ g' => g'.custody = g.custody ∧
        (g'.world.statement p).handle = none := by
  rcases hLive with ⟨s, hStatement, hOwner⟩
  rcases Option.ne_none_iff_exists'.mp hOwner.1 with
    ⟨st, hHandle⟩
  unfold detach
  apply Quiet.Leads.update
  unfold finalize
  apply Quiet.Leads.read
  rw [World.statement_modifyStatement hStatement]
  simp only [hHandle]
  apply Quiet.Leads.update
  apply Quiet.Leads.update
  apply Quiet.Leads.invoke
  intro code engine
  apply Quiet.Leads.commit
    (.single (.statement
      (.detached hPart hClosing hStatement hOwner hHandle)))
  have hEnded :
      ((((g.world.modifyStatement p
          fun s => { s with connection := none })
            |>.modifyStatement p ended)
            |>.heard ⟨.finalize st, code⟩ engine).statement
              p).handle = none := by
    simp [World.statement, World.heard, hStatement, ended]
  exact .noteIf ⟨rfl, hEnded⟩

/- Afterwards there is no statement. -/
theorem destroy_leads
    (hPart : A (.statement p)) :
    Quiet.Leads A g g.world (destroy p)
      fun _ g' =>
        g'.custody =
          { g.custody with
            scratch := p ≠ .scratch && g.custody.scratch } ∧
        g'.world.statements.get? p = none := by
  unfold destroy
  apply Quiet.Leads.bind
  apply (finalize_leads hPart).mono
  intro _ g₁ _ _ hFinalized
  rcases hFinalized with ⟨hCustody, hEnded⟩
  apply Quiet.Leads.last
  apply Quiet.Leads.update
  have hStep := StatementStep.removed hPart hEnded
  simp only [World.dropAnchor_eq] at hStep ⊢
  apply Quiet.Leads.commit (.single (.statement hStep))
  apply Quiet.Leads.pure
  rw [← hCustody]
  exact ⟨rfl, by simp⟩

/- Statements in slots are destroyed with nothing under way. -/
theorem destroy_slot_leads
    {n : Nat}
    (hPart : A (.statement (.slot n))) :
    Quiet.Leads A g g.world (destroy (.slot n))
      fun _ g' => g'.custody = g.custody ∧
        g'.world.statements.get? (.slot n) = none := by
  apply (destroy_leads hPart).mono
  intro _ g' _ _ hDestroyed
  exact ⟨by simpa using hDestroyed.1, hDestroyed.2⟩

end Statement

------------------------------------------------------------
-- Statements Under Way
------------------------------------------------------------

/- Whether a stage comes after another by compiling. -/
structure Stage.Compiled
    (st : StatementHandle)
    (g g' : Stage E) : Prop where
  custody :
    g'.custody = { g.custody with pending := some st }
  statements : g'.world.statements = g.world.statements
  connections : g'.world.connections = g.world.connections

/-
  Whether a statement that is not kept yet agrees with what
  its handle has told.
-/
structure Stage.Describes
    (st : StatementHandle)
    (g : Stage E)
    (s : Statement) : Prop where
  handle : s.handle = some st
  state : s.state = .ready
  generation : s.generation = 0
  parameters :
    g.world.trace.parameters st = some s.parameterCount
  columns :
    g.world.trace.columns st = some s.columnNames.length
  unfailed : s.stepFailed = false

namespace Statement

open Attempt

/- A text that compiles leaves a statement under way. -/
theorem compile_leads
    (hPending : g.custody.pending = none)
    (hOpen : g.world.Opens db) :
    Quiet.Leads A g g.world (compile db sql)
      fun found g' => found.1.database = db ∧
        if found.2.created then g.Compiled found.1 g'
        else g.Asked g' := by
  unfold compile
  apply Quiet.Leads.read
  apply Quiet.Leads.invoke
  intro answer engine
  apply Quiet.Leads.ite
  · intro hCreated
    apply Quiet.Leads.update
    apply Quiet.Leads.commit
      (.single (.statement
        (.compiled hPending hOpen rfl hCreated)))
    apply Quiet.Leads.pure
    refine ⟨rfl, ?_⟩
    rw [if_pos hCreated]
    exact ⟨rfl, rfl, rfl⟩
  · intro hCreated
    have hAllowed : g.Allows
        ⟨.prepare sql ⟨g.world.issued.statements + 1, db⟩,
          answer⟩ :=
      .notCompiled hOpen rfl (Bool.eq_false_iff.mpr hCreated)
    apply Quiet.Leads.commit
      (.single (.ask hAllowed engine))
    apply Quiet.Leads.pure
    refine ⟨rfl, ?_⟩
    rw [if_neg hCreated]
    exact (Stage.Asked.refl g).heard _ _

/- The columns of a statement under way. -/
theorem describeColumns_leads
    (first n : Nat)
    (hPending : g.custody.pending = some st) :
    Quiet.Leads A g g.world (describeColumns st first n)
      fun described g' => g.Asked g' ∧
        g'.world.trace.parameters st =
          g.world.trace.parameters st ∧
        g'.world.trace.columns st =
          g.world.trace.columns st ∧
        described.1.length = n := by
  induction n generalizing g first with
  | zero => exact .pure ⟨.refl g, rfl, rfl, rfl⟩
  | succ n ih =>
      unfold describeColumns
      apply Quiet.Leads.ask
      · exact fun _ => .newStatement rfl hPending
      intro name engine
      apply Quiet.Leads.ask
      · exact fun _ => .newStatement rfl hPending
      intro type engine'
      apply Quiet.Leads.bind
      apply Quiet.Leads.mono
        (ih (g := (g.heard _ engine).heard _ engine')
          (first + 1) hPending)
      intro described g' _ _ hRest
      rcases hRest with
        ⟨hAsked, hParameters, hColumns, hLength⟩
      apply Quiet.Leads.pure
      refine ⟨?_, hParameters, hColumns, by simp [hLength]⟩
      exact (((Stage.Asked.refl g).heard _ _).heard _ _).trans
        hAsked

/- A statement under way is as it describes itself. -/
theorem describe_leads
    {anchor : Anchor}
    {tail : Option Nat}
    (hPending : g.custody.pending = some st) :
    Quiet.Leads A g g.world (describe c anchor sql st tail)
      fun s g' => g.Asked g' ∧ g'.Describes st s ∧
        s.anchor = some anchor ∧ s.connection = some c := by
  unfold describe
  apply Quiet.Leads.ask
  · exact fun _ => .newStatement rfl hPending
  intro text engine₁
  apply Quiet.Leads.ask
  · exact fun _ => .newStatement rfl hPending
  intro parameters engine₂
  apply Quiet.Leads.ask
  · exact fun _ => .newStatement rfl hPending
  intro columns engine₃
  have hAsked := (((Stage.Asked.refl g).heard
    ⟨.statementText st, text⟩ engine₁).heard
    ⟨.parameterCount st, parameters⟩ engine₂).heard
    ⟨.columnCount st, columns⟩ engine₃
  apply Quiet.Leads.bind
  apply Quiet.Leads.mono
    (describeColumns_leads
      (g := ((g.heard _ engine₁).heard _ engine₂).heard _
        engine₃)
      0 columns hPending)
  intro described g' _ _ hDescribed
  rcases hDescribed with
    ⟨hRest, hParameters, hColumns, hLength⟩
  apply Quiet.Leads.pure
  refine ⟨hAsked.trans hRest, ?_, rfl, rfl⟩
  constructor
  case handle => rfl
  case state => rfl
  case generation => rfl
  case parameters =>
    rw [hParameters]
    simp [Stage.heard, World.heard, Trace.parameters_cons,
      Event.parametersTold]
  case columns =>
    rw [hColumns]
    simp [Stage.heard, World.heard, Trace.columns_cons,
      Event.columnsTold, hLength]
  case unfailed => rfl

------------------------------------------------------------
-- Preparing
------------------------------------------------------------

/- What has failed to compile leaves nothing under way. -/
theorem reject_leads
    {β : Type}
    {Q : β → Stage E → Prop}
    {answer : PrepareAnswer}
    (hPending : g.custody.pending = none)
    (hOpen : g.world.Opens st.database)
    (hCompiled :
      if answer.created then g.Compiled st g'
      else g.Asked g') :
    Leads A g' g'.world
      (do
        let e ← lift (handleError st.database answer.code
          .preparing sql)
        if answer.created then
          let _ ← lift (Quiet.invoke (.finalize st))
        fail e)
      Q (fun g'' => g''.custody = g.custody) := by
  have hOpen' : g'.world.Opens st.database := by
    unfold World.Opens
    split at hCompiled
    · rw [hCompiled.connections]
      exact hOpen
    · rcases hCompiled with ⟨_, _, rfl⟩
      exact hOpen
  apply Leads.lift
  apply (handleError_leads (.inl hOpen')).mono
  intro e g₁ _ _ hAsked
  cases hCreated : answer.created with
  | true =>
      rw [if_pos hCreated] at hCompiled
      have hUnder : g₁.custody.pending = some st := by
        rw [hAsked.custody, hCompiled.custody]
      apply Leads.invoke
      intro code engine
      apply Leads.commit
        (.single (.statement (.discarded hUnder)))
      apply Leads.fail
      rw [hAsked.custody, hCompiled.custody, ← hPending]
  | false =>
      rw [if_neg (by simp [hCreated])] at hCompiled
      apply Leads.fail
      rw [hAsked.custody, hCompiled.custody]

/- What has been compiled is kept at its place. -/
theorem enter_leads
    {F : Stage E → Prop}
    {tail : Option Nat}
    (hPart : A (.statement p))
    (hEnlists : p = .scratch ∨ g.custody.enlists c)
    (hPending : g.custody.pending = some st)
    (hClosing : g.custody.closing = none)
    (hVacant : g.world.statements.get? p = none)
    (hConnection : g.world.connections.get? c = some conn)
    (hOpen : conn.handle = some st.database) :
    Leads A g g.world
      (do
        let number :=
          (← lift (Quiet.read (·.issued.anchors))) + 1
        let s ← lift (describe c { number } sql st tail)
        lift (Quiet.update (register c p s)))
      (fun _ g' =>
        g'.custody =
          { g.custody with
            pending := none
            scratch := p = .scratch || g.custody.scratch } ∧
        (g'.world.statement p).connection = some c)
      F := by
  apply Leads.read
  apply Leads.lift
  apply (describe_leads hPending).mono
  intro s g' _ _ hDescribed
  rcases hDescribed with
    ⟨⟨trace, engine, rfl⟩, hTold, hAnchor, hOwner⟩
  apply Leads.last
  apply Leads.update
  apply Leads.commit
    (.single (.statement
      (.entered
        (g := { g with
                world := { g.world with trace, engine } })
        hPart hPending hVacant hConnection hOpen hClosing
        hTold.handle hOwner hAnchor hTold.state
        hTold.generation hTold.parameters hTold.columns
        hTold.unfailed hEnlists)))
  apply Leads.pure
  refine ⟨rfl, ?_⟩
  rw [register_eq]
  simpa [World.statement] using hOwner

/- A statement that is prepared is kept at its place. -/
theorem prepare_leads
    (hPart : A (.statement p))
    (hPending : g.custody.pending = none)
    (hClosing : g.custody.closing = none)
    (hVacant : g.world.statements.get? p = none)
    (hEnlists : p = .scratch ∨ g.custody.enlists c) :
    Leads A g g.world (prepare c p sql)
      (fun _ g' =>
        g'.custody =
          { g.custody with
            scratch := p = .scratch || g.custody.scratch } ∧
        (g'.world.statement p).connection = some c)
      (fun g' => g'.custody = g.custody) := by
  unfold prepare
  apply Leads.requireOpen
  case hClosed => rfl
  intro conn db hConnection hHandle
  have hOpen : g.world.Opens db :=
    ⟨c, conn, hConnection, hHandle⟩
  apply Leads.accept
  case hError => rfl
  intro _ _
  apply Leads.lift
  apply (compile_leads hPending hOpen).mono
  rintro ⟨st, answer⟩ g₁ _ _ ⟨hDatabase, hCompiled⟩
  subst hDatabase
  apply Leads.ite
  · intro _
    exact reject_leads hPending hOpen hCompiled
  · intro _
    apply Leads.require
    case hFalse =>
      intro hCreated
      rw [if_neg (by simp [hCreated])] at hCompiled
      exact hCompiled.custody
    intro hCreated
    rw [if_pos hCreated] at hCompiled
    have hCustody := hCompiled.custody
    apply Leads.mono
      (enter_leads (g := g₁) hPart
        (by rw [hCustody]; exact hEnlists)
        (by rw [hCustody])
        (by rw [hCustody, hClosing])
        (by rw [hCompiled.statements, hVacant])
        (by rw [hCompiled.connections, hConnection]) hHandle)
    · intro _ g' _ _ hEntered
      refine ⟨?_, hEntered.2⟩
      rw [hEntered.1, hCustody, ← hPending]
    · intro g' _ _ hSame
      exact hSame

------------------------------------------------------------
-- Moving
------------------------------------------------------------

/- A statement moves to a place without one that is live. -/
theorem move_leads
    {source target : Place}
    {s : Statement}
    (hSource : A (.statement source))
    (hTarget : A (.statement target))
    (hStatement : g.world.statements.get? source = some s)
    (hOther : source ≠ target)
    (hSlot : target ≠ .scratch)
    (hEnded : (g.world.statement target).handle = none)
    (hEnlists : source = .scratch →
      ∀ c, s.connection = some c → g.custody.enlists c) :
    Quiet.Leads A g g.world (move source target)
      fun _ g' => g'.custody = g.custody := by
  apply Quiet.Leads.last
  apply Quiet.Leads.update
  apply Quiet.Leads.commit
    (.single (.statement
      (.transferred hSource hTarget hStatement hOther hSlot
        hEnded hEnlists)))
  exact .pure rfl

/- A statement moves over another one, which is finalized. -/
theorem assign_leads
    {source target : Place}
    {s : Statement}
    (hSource : A (.statement source))
    (hTarget : A (.statement target))
    (hStatement : g.world.statements.get? source = some s)
    (hSlot : target ≠ .scratch)
    (hEnlists : source = .scratch →
      ∀ c, s.connection = some c → g.custody.enlists c) :
    Quiet.Leads A g g.world (assign source target)
      fun _ g' => g'.custody = g.custody := by
  unfold assign
  apply Quiet.Leads.ite
  · exact fun _ => .pure rfl
  · intro hOther
    apply Quiet.Leads.bind
    apply Quiet.Leads.widen (A := (· = .statement target))
    · rintro _ rfl
      exact hTarget
    apply Quiet.Leads.mono
      (finalize_leads (A := (· = .statement target)) rfl)
    intro _ g₁ hSteps _ hFinalized
    rcases hFinalized with ⟨hCustody, hEnded⟩
    have hStatement₁ :
        g₁.world.statements.get? source = some s := by
      rw [hSteps.keeps_statement (by simp [hOther]), hStatement]
    apply (move_leads hSource hTarget hStatement₁ hOther hSlot
      hEnded (hCustody ▸ hEnlists)).mono
    intro _ g₂ _ _ hMoved
    rw [hMoved, hCustody]

------------------------------------------------------------
-- Temporary Statements
------------------------------------------------------------

/-
  Work with a temporary statement, which is there for the
  work and gone after it.
-/
theorem within_leads
    {work : Place → Attempt E α}
    (hPart : A (.statement .scratch))
    (hIdle : g.custody.Idle)
    (hWork : ∀ g₁ : Stage E,
      g₁.custody = { g.custody with scratch := true } →
        (g₁.world.statement .scratch).connection = some c →
          Leads A g₁ g₁.world (work .scratch)
            (fun _ g₂ => g₂.custody = g₁.custody)
            (fun g₂ => g₂.custody = g₁.custody)) :
    Leads A g g.world (within c sql work)
      (fun _ g' => g'.custody = g.custody)
      (fun g' => g'.custody = g.custody) := by
  apply Leads.sound
  intro hSound
  have hVacant :
      g.world.statements.get? .scratch = none := by
    have hNone := hSound.scratch
    rw [hIdle.scratch] at hNone
    simpa [Table.contains] using hNone
  have hDestroy : ∀ g₁ : Stage E,
      g₁.custody = { g.custody with scratch := true } →
        Quiet.Leads A g₁ g₁.world (destroy .scratch)
          fun _ g₂ => g₂.custody = g.custody := by
    intro g₁ hCustody
    apply (destroy_leads hPart).mono
    intro _ g₂ _ _ hDestroyed
    rw [hDestroyed.1, hCustody]
    exact Custody.scratch_eq hIdle.scratch
  unfold within
  apply Leads.bind
  apply (prepare_leads hPart hIdle.pending hIdle.closing
    hVacant (.inl rfl)).mono
  case hFail =>
    intro g' _ _ hSame
    exact hSame
  intro _ g₁ _ _ hPrepared
  have hCustody :
      g₁.custody = { g.custody with scratch := true } := by
    simpa using hPrepared.1
  apply Leads.ensuring
  apply (hWork g₁ hCustody hPrepared.2).mono
  · intro a g₂ _ _ hSame
    exact hDestroy g₂ (hSame.trans hCustody)
  · intro g₂ _ _ hSame
    exact hDestroy g₂ (hSame.trans hCustody)

theorem within_keeps
    {work : Place → Attempt E α}
    (hPart : A (.statement .scratch))
    (hWork : Keeps A (·.scratch = true) (work .scratch)) :
    Keeps A Custody.Idle (within c sql work) := by
  intro g hIdle
  apply within_leads hPart hIdle
  intro g₁ hCustody _
  exact hWork g₁ (by rw [hCustody])

end Statement

end SqliteAccess
