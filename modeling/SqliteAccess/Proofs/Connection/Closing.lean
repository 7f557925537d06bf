import SqliteAccess.Connection.Opening
import SqliteAccess.Proofs.Backup.Lifecycle
import SqliteAccess.Proofs.Session.Library
import SqliteAccess.Proofs.Statement.Lifecycle

/-
  Closing and destroying connections, step by step.

  Key definitions include:
    * `Stage.SameObjects`
    * `World.Sheds`

  The programs are characterized by:
    * `Connection.close_keeps`
    * `Connection.releaseHandle_leads`
    * `Connection.releaseChildren_leads`
    * `Connection.destroy_leads`
-/

namespace SqliteAccess

variable {E : Engine} {β : Type} {A : Part → Prop}
variable {g g' : Stage E} {c : ConnectionId}
variable {conn : Connection} {db : DatabaseHandle}

/- Whether two stages have the same objects under way. -/
structure Stage.SameObjects (g g' : Stage E) : Prop where
  custody : g'.custody = g.custody
  connections : g'.world.connections = g.world.connections
  statements : g'.world.statements = g.world.statements
  backups : g'.world.backups = g.world.backups

/- What is live depends on the objects only. -/
theorem World.Childless.of_sameObjects
    (hChildless : g.world.Childless c)
    (hSame : g.SameObjects g') :
    g'.world.Childless c := by
  constructor
  · rw [hSame.statements]
    exact hChildless.statements
  · rw [hSame.backups]
    exact hChildless.backups

/-
  Whether the statements and the backups that differ between
  two worlds were live on certain connections, and have come
  to their end.
-/
structure World.Sheds
    (w : World E)
    (gone : ConnectionId → Prop)
    (w' : World E) : Prop where
  statements : ∀ p,
    w'.statements.get? p = w.statements.get? p ∨
      (w'.statement p).handle = none ∧
        ∃ c, gone c ∧ LiveStatement w.statements p c
  backups : ∀ p,
    w'.backups.get? p = w.backups.get? p ∨
      (w'.backup p).handle = none ∧
        ∃ c, gone c ∧ LiveBackup w.backups p c

namespace World.Sheds

variable {w w' : World E} {gone gone' : ConnectionId → Prop}
variable {p : Place}

theorem refl
    (w : World E)
    (gone : ConnectionId → Prop) :
    w.Sheds gone w :=
  ⟨fun _ => .inl rfl, fun _ => .inl rfl⟩

/- Only connections count on which something was live. -/
theorem mono
    (hMore : ∀ c, ¬ w.Childless c → gone c → gone' c)
    (hSheds : w.Sheds gone w') :
    w.Sheds gone' w' where
  statements p := by
    apply (hSheds.statements p).imp_right
    rintro ⟨hEnded, c, hGone, hLive⟩
    have hChild : ¬ w.Childless c :=
      fun hNone => hNone.statements p hLive
    exact ⟨hEnded, c, hMore c hChild hGone, hLive⟩
  backups p := by
    apply (hSheds.backups p).imp_right
    rintro ⟨hEnded, c, hGone, hLive⟩
    have hChild : ¬ w.Childless c :=
      fun hNone => hNone.backups p hLive
    exact ⟨hEnded, c, hMore c hChild hGone, hLive⟩

/- Steps on neither statements nor backups may follow. -/
theorem steps
    (hStatements : ∀ p, ¬ A (.statement p))
    (hBackups : ∀ p, ¬ A (.backup p))
    (hSteps : Steps A g g')
    (hSheds : w.Sheds gone g.world) :
    w.Sheds gone g'.world where
  statements p := by
    unfold World.statement
    rw [hSteps.keeps_statement (hStatements p)]
    exact hSheds.statements p
  backups p := by
    unfold World.backup
    rw [hSteps.keeps_backup (hBackups p)]
    exact hSheds.backups p

/- One more statement has come to its end. -/
theorem statement
    (hSheds : w.Sheds gone g.world)
    (hGone : gone c)
    (hLive : LiveStatement g.world.statements p c)
    (hSteps : Steps (· = .statement p) g g')
    (hEnded : (g'.world.statement p).handle = none) :
    w.Sheds gone g'.world where
  statements q := by
    by_cases hSame : q = p
    · subst hSame
      refine .inr ⟨hEnded, c, hGone, ?_⟩
      rcases hSheds.statements q with hKept | ⟨hNone, _⟩
      · unfold LiveStatement
        rw [← hKept]
        exact hLive
      · rcases hLive with ⟨s, hStatement, hHandle, _⟩
        rw [World.statement_of_get? hStatement] at hNone
        exact absurd hNone hHandle
    · unfold World.statement
      rw [hSteps.keeps_statement (by simp [hSame])]
      exact hSheds.statements q
  backups q := by
    unfold World.backup
    rw [hSteps.keeps_backup (by simp)]
    exact hSheds.backups q

/- One more backup has come to its end. -/
theorem backup
    (hSheds : w.Sheds gone g.world)
    (hGone : gone c)
    (hLive : LiveBackup g.world.backups p c)
    (hSteps : Steps (· = .backup p) g g')
    (hEnded : (g'.world.backup p).handle = none) :
    w.Sheds gone g'.world where
  statements q := by
    unfold World.statement
    rw [hSteps.keeps_statement (by simp)]
    exact hSheds.statements q
  backups q := by
    by_cases hSame : q = p
    · subst hSame
      refine .inr ⟨hEnded, c, hGone, ?_⟩
      rcases hSheds.backups q with hKept | ⟨hNone, _⟩
      · unfold LiveBackup
        rw [← hKept]
        exact hLive
      · rcases hLive with ⟨b, hBackup, hHandle, _⟩
        rw [World.backup_of_get? hBackup] at hNone
        exact absurd hNone hHandle
    · unfold World.backup
      rw [hSteps.keeps_backup (by simp [hSame])]
      exact hSheds.backups q

end World.Sheds

/- A connection on which something is live is there. -/
theorem Sound.exists_of_child
    (hSound : Sound g)
    (hChild : ¬ g.world.Childless c) :
    ∃ conn, g.world.connections.get? c = some conn := by
  apply Option.ne_none_iff_exists'.mp
  intro hNone
  apply hChild
  apply hSound.childless_of_closed
  simp [World.connection, hNone, Connection.vacant]

/- It is not a new one. -/
theorem Sound.issued_of_child
    (hSound : Sound g)
    (hChild : ¬ g.world.Childless c) :
    c.number ≤ g.world.issued.connections := by
  rcases hSound.exists_of_child hChild with
    ⟨conn, hConnection⟩
  exact hSound.opened.identified hConnection

/- Nothing is live on a connection that lists nothing. -/
theorem Sound.childless_of_nil
    (hSound : Sound g)
    (hClosing : g.custody.closing = none)
    (hConnection : g.world.connections.get? c = some conn)
    (hNil : conn.hasChildren = false) :
    g.world.Childless c := by
  simp only [Connection.hasChildren, Bool.not_eq_false',
    Bool.and_eq_true, List.isEmpty_iff] at hNil
  constructor
  · intro p
    exact hSound.registered.statements.not_live_of_nil
      hConnection (by simp [hClosing]) hNil.1
  · intro p
    exact hSound.registered.backups.not_live_of_nil
      hConnection (by simp [hClosing]) hNil.2

namespace Connection

open Attempt

------------------------------------------------------------
-- Releasing the Handle
------------------------------------------------------------

/-
  The statements that are left on a database belong to the
  host, and are finalized in turn.
-/
theorem finalizeLeft_leads
    (n : Nat)
    (hPending : g.custody.pending = none)
    (hConnection : g.world.connections.get? c = some conn)
    (hHandle : conn.handle = some db)
    (hChildless : g.world.Childless c) :
    Quiet.Leads A g g.world (finalizeLeft db n)
      fun _ g' => g.SameObjects g' := by
  induction n generalizing g with
  | zero => exact .pure ⟨rfl, rfl, rfl, rfl⟩
  | succ n ih =>
      apply Quiet.Leads.read
      apply Quiet.Leads.ask
      case hAllowed =>
        exact fun _ =>
          .database rfl (.inl ⟨c, conn, hConnection, hHandle⟩)
      intro next engine
      rcases next with ⟨_ | st, hNext⟩
      · exact .pure ⟨rfl, rfl, rfl, rfl⟩
      apply Quiet.Leads.sound
      intro hSound
      rcases List.mem_filter.mp hNext with ⟨hLeft, hOn⟩
      have hAlive := ((Lifetime.mem_unfinalized_iff
        hSound.lawful.statements).1 st).mp hLeft
      have hHosted := (hSound.clear_of_childless hPending
        hConnection hHandle (hChildless.of_sameObjects
          ⟨rfl, rfl, rfl, rfl⟩)).statements st
            (of_decide_eq_true hOn) hAlive
      apply Quiet.Leads.invoke
      intro code engine'
      apply Quiet.Leads.commit
        (.single (.statement (.evicted hHosted hAlive)))
      apply Quiet.Leads.mono
        (ih (g := (g.heard _ engine).heard
            ⟨.finalize st, code⟩ engine')
          hPending hConnection
          (hChildless.of_sameObjects ⟨rfl, rfl, rfl, rfl⟩))
      intro _ g' _ _ hSame
      exact ⟨hSame.custody, hSame.connections,
        hSame.statements, hSame.backups⟩

/-
  However often it takes, the last call of a stubborn closing
  is one to close the database, and it gives the result.
-/
theorem closeStubborn_leads
    {path : Bytes}
    {k : ResultCode → Quiet E β}
    {Q : β → Stage E → Prop}
    (hPending : g.custody.pending = none)
    (hConnection : g.world.connections.get? c = some conn)
    (hHandle : conn.handle = some db)
    (hChildless : g.world.Childless c)
    (h : ∀ g₁ (code : ResultCode) engine, g.SameObjects g₁ →
      Quiet.Leads A g₁
        (g₁.world.heard ⟨.close db, code⟩ engine) (k code) Q) :
    Quiet.Leads A g g.world
      (closeStubborn db path >>= k) Q := by
  unfold closeStubborn
  rw [bind_assoc]
  apply Quiet.Leads.invoke
  intro code engine
  split
  case isTrue =>
    rw [pure_bind]
    exact h g code engine ⟨rfl, rfl, rfl, rfl⟩
  case isFalse hBusy =>
    have hFailed : code ≠ ResultCode.ok := by
      intro hOk
      exact hBusy (by simp [hOk, ResultCode.ok, ResultCode.busy])
    have hAllowed : g.Allows ⟨.close db, code⟩ :=
      .notClosed hConnection hHandle hChildless hPending
        hFailed
    apply Quiet.Leads.commit (.single (.ask hAllowed engine))
    simp only [bind_assoc]
    apply Quiet.Leads.note
    apply Quiet.Leads.read
    apply Quiet.Leads.bind
    apply Quiet.Leads.mono
      (finalizeLeft_leads
        (g := g.heard ⟨.close db, code⟩ engine) _ hPending
        hConnection hHandle
        (hChildless.of_sameObjects ⟨rfl, rfl, rfl, rfl⟩))
    intro _ g₁ _ _ hSame
    apply Quiet.Leads.invoke
    intro code' engine'
    exact h g₁ code' engine'
      ⟨hSame.custody, hSame.connections, hSame.statements,
        hSame.backups⟩

/-
  A connection on which nothing is live loses its handle, be
  it that the engine closes it later.
-/
theorem releaseHandle_leads
    (hPending : g.custody.pending = none)
    (hChildless : g.world.Childless c)
    (hExpendable : g.custody.expendable c) :
    Quiet.Leads A g g.world (releaseHandle c)
      fun _ g' => g'.custody = g.custody ∧
        (g'.world.connection c).handle = none := by
  unfold releaseHandle
  apply Quiet.Leads.read
  cases hHandle : (g.world.connection c).handle with
  | none => exact .pure ⟨rfl, hHandle⟩
  | some db =>
      rcases World.get?_of_connection_handle hHandle with
        ⟨conn, hConnection, hOwn⟩
      apply closeStubborn_leads hPending hConnection hOwn
        hChildless
      intro g₁ code engine hSame
      have hPending₁ : g₁.custody.pending = none := by
        rw [hSame.custody, hPending]
      have hExpendable₁ : g₁.custody.expendable c := by
        rw [hSame.custody]
        exact hExpendable
      have hConnection₁ :
          g₁.world.connections.get? c = some conn := by
        rw [hSame.connections, hConnection]
      have hChildless₁ := hChildless.of_sameObjects hSame
      have hRest : ∀ g₂ : Stage E, ∀ (e : Event) engine',
          g₁.SameObjects g₂ → e.Releases db →
          Quiet.Leads A g₂ (g₂.world.heard e engine')
            (do
              Quiet.update
                (World.modifyConnection c withoutHandle)
              noteClosed c)
            fun _ g' => g'.custody = g.custody ∧
              (g'.world.connection c).handle = none := by
        intro g₂ e engine' hSame₂ hReleases
        apply Quiet.Leads.update
        apply Quiet.Leads.commit
          (.single (.connection
            (.released (by rw [hSame₂.custody, hPending₁])
              (by rw [hSame₂.connections, hConnection₁]) hOwn
              (hChildless₁.of_sameObjects hSame₂) hReleases
              (hSame₂.custody ▸ hExpendable₁))))
        apply Quiet.Leads.read
        apply Quiet.Leads.last
        apply Quiet.Leads.note
        apply Quiet.Leads.pure
        constructor
        · rw [← hSame.custody, ← hSame₂.custody]
        · have hBefore := hConnection₁
          rw [← hSame₂.connections] at hBefore
          simp [World.connection, World.heard, hBefore,
            withoutHandle]
      apply Quiet.Leads.ite
      · intro hFailed
        apply Quiet.Leads.commit
          (.single (.ask
            (.notClosed hConnection₁ hOwn hChildless₁ hPending₁
              hFailed)
            engine))
        apply Quiet.Leads.note
        apply Quiet.Leads.invoke
        intro answer engine'
        exact hRest (g₁.heard ⟨.close db, code⟩ engine)
          ⟨.closeLater db, answer⟩ engine' ⟨rfl, rfl, rfl, rfl⟩
          (.inr rfl)
      · intro hOk
        cases Decidable.not_not.mp hOk
        exact hRest g₁ ⟨.close db, ResultCode.ok⟩ engine
          ⟨rfl, rfl, rfl, rfl⟩ (.inl rfl)

------------------------------------------------------------
-- Closing
------------------------------------------------------------

/- Only a connection on which nothing is live is closed. -/
theorem close_keeps :
    Keeps (E := E) A
      (fun k => k.Idle ∧ k.expendable c) (close c) := by
  intro g hMay
  rcases hMay with ⟨hIdle, hExpendable⟩
  apply Leads.sound
  intro hSound
  unfold close
  apply Leads.read
  cases hHandle : (g.world.connection c).handle with
  | none => exact .pure rfl
  | some db =>
      rcases World.get?_of_connection_handle hHandle with
        ⟨conn, hConnection, hOwn⟩
      rw [World.connection_of_get? hConnection]
      apply Leads.require
      case hFalse => exact fun _ => rfl
      intro hNil
      have hChildless := hSound.childless_of_nil
        hIdle.closing hConnection (by simpa using hNil)
      have hOpen : g.world.Opens db :=
        ⟨c, conn, hConnection, hOwn⟩
      apply Leads.invoke
      intro code engine
      by_cases hCode : code = ResultCode.ok
      · subst hCode
        rw [check_ok, pure_bind]
        apply Leads.update
        apply Leads.commit
          (.single (.connection
            (.released hIdle.pending hConnection hOwn
              hChildless (.inl rfl) hExpendable)))
        apply Leads.last
        apply Leads.lift
        apply Quiet.Leads.read
        apply Quiet.Leads.last
        apply Quiet.Leads.note
        apply Quiet.Leads.pure
        exact .pure rfl
      · rw [check_of_ne hCode, bind_assoc]
        apply Leads.commit
          (.single (.ask
            (.notClosed hConnection hOwn hChildless
              hIdle.pending hCode)
            engine))
        apply Leads.lift
        apply Quiet.Leads.mono
          (handleError_leads
            (g := g.heard ⟨.close db, code⟩ engine)
            (.inl hOpen))
        intro e g' _ _ hAsked
        apply Leads.bind
        exact .fail hAsked.custody

------------------------------------------------------------
-- Releasing Children
------------------------------------------------------------

/-
  A loop over the places where something is live, whose body
  makes nothing else live or dead.
-/
theorem exhaust_leads
    {f : Place → Quiet E Unit}
    (live : Stage E → Place → Prop)
    (R : Stage E → Prop)
    {l : List Place}
    (hBody : ∀ p g, R g → live g p →
      Quiet.Leads A g g.world (f p) fun _ g' =>
        R g' ∧ ¬ live g' p ∧
          ∀ q, q ≠ p → (live g' q ↔ live g q))
    (hNodup : l.Nodup)
    (hLive : ∀ p, live g p ↔ p ∈ l)
    (hR : R g) :
    Quiet.Leads A g g.world (Quiet.each f l) fun _ g' =>
      R g' ∧ ∀ p, ¬ live g' p := by
  have hLoop := Quiet.Leads.each (A := A)
    (fun l g => R g ∧ l.Nodup ∧ ∀ p, live g p ↔ p ∈ l)
    (f := f) ?_ l ⟨hR, hNodup, hLive⟩
  · apply hLoop.mono
    intro _ g' _ _ hEnd
    exact ⟨hEnd.1, fun p hIs => by
      simpa using (hEnd.2.2 p).mp hIs⟩
  · intro p l g₁ hInvariant
    rcases hInvariant with ⟨hR₁, hNodup₁, hLive₁⟩
    rcases List.nodup_cons.mp hNodup₁ with ⟨hNew, hNodup₂⟩
    apply (hBody p g₁ hR₁ ((hLive₁ p).mpr (by simp))).mono
    intro _ g₂ _ _ hDone
    rcases hDone with ⟨hR₂, hDead, hOthers⟩
    refine ⟨hR₂, hNodup₂, ?_⟩
    intro q
    by_cases hSame : q = p
    · subst hSame
      exact iff_of_false hDead hNew
    · rw [hOthers q hSame, hLive₁ q]
      simp [hSame]

/- The backups of a connection are finished in turn. -/
theorem detachBackups_leads
    {l : List Place}
    {k : Custody}
    {w : World E}
    {statements : Place → Option Statement}
    (hParts : ∀ p, A (.backup p))
    (hClosing : k.closing = some c)
    (hNodup : l.Nodup)
    (hLive : ∀ p, LiveBackup g.world.backups p c ↔ p ∈ l)
    (hCustody : g.custody = k)
    (hStatements : ∀ p,
      g.world.statements.get? p = statements p)
    (hSheds : w.Sheds (· = c) g.world) :
    Quiet.Leads A g g.world (Quiet.each (Backup.detach c) l)
      fun _ g' =>
        (g'.custody = k ∧
          (∀ p, g'.world.statements.get? p = statements p) ∧
          w.Sheds (· = c) g'.world) ∧
        ∀ p, ¬ LiveBackup g'.world.backups p c := by
  apply exhaust_leads
    (fun g p => LiveBackup g.world.backups p c)
    (fun g => g.custody = k ∧
      (∀ p, g.world.statements.get? p = statements p) ∧
      w.Sheds (· = c) g.world)
    ?_ hNodup hLive ⟨hCustody, hStatements, hSheds⟩
  intro p g₁ hBefore hIs
  rcases hBefore with ⟨hCustody₁, hStatements₁, hSheds₁⟩
  apply Quiet.Leads.widen (A := (· = .backup p))
  · rintro _ rfl
    exact hParts p
  apply Quiet.Leads.mono
    (Backup.detach_leads (A := (· = .backup p)) rfl
      (by rw [hCustody₁, hClosing]) hIs)
  intro _ g₂ hSteps _ hDetached
  rcases hDetached with ⟨hCustody₂, hEnded⟩
  refine ⟨⟨by rw [hCustody₂, hCustody₁], ?_,
    hSheds₁.backup rfl hIs hSteps hEnded⟩, ?_, ?_⟩
  · intro q
    rw [hSteps.keeps_statement (by simp), hStatements₁]
  · rintro ⟨b, hBackup, hHandle, _⟩
    rw [World.backup_of_get? hBackup] at hEnded
    exact hHandle hEnded
  · intro q hOther
    unfold LiveBackup
    rw [hSteps.keeps_backup (by simp [hOther])]

/- The statements of a connection are finalized in turn. -/
theorem detachStatements_leads
    {l : List Place}
    {k : Custody}
    {w : World E}
    {backups : Place → Option Backup}
    (hParts : ∀ p, A (.statement p))
    (hClosing : k.closing = some c)
    (hNodup : l.Nodup)
    (hLive : ∀ p,
      LiveStatement g.world.statements p c ↔ p ∈ l)
    (hCustody : g.custody = k)
    (hBackups : ∀ p, g.world.backups.get? p = backups p)
    (hSheds : w.Sheds (· = c) g.world) :
    Quiet.Leads A g g.world (Quiet.each Statement.detach l)
      fun _ g' =>
        (g'.custody = k ∧
          (∀ p, g'.world.backups.get? p = backups p) ∧
          w.Sheds (· = c) g'.world) ∧
        ∀ p, ¬ LiveStatement g'.world.statements p c := by
  apply exhaust_leads
    (fun g p => LiveStatement g.world.statements p c)
    (fun g => g.custody = k ∧
      (∀ p, g.world.backups.get? p = backups p) ∧
      w.Sheds (· = c) g.world)
    ?_ hNodup hLive ⟨hCustody, hBackups, hSheds⟩
  intro p g₁ hBefore hIs
  rcases hBefore with ⟨hCustody₁, hBackups₁, hSheds₁⟩
  apply Quiet.Leads.widen (A := (· = .statement p))
  · rintro _ rfl
    exact hParts p
  apply Quiet.Leads.mono
    (Statement.detach_leads (A := (· = .statement p)) rfl
      (by rw [hCustody₁, hClosing]) hIs)
  intro _ g₂ hSteps _ hDetached
  rcases hDetached with ⟨hCustody₂, hEnded⟩
  refine ⟨⟨by rw [hCustody₂, hCustody₁], ?_,
    hSheds₁.statement rfl hIs hSteps hEnded⟩, ?_, ?_⟩
  · intro q
    rw [hSteps.keeps_backup (by simp), hBackups₁]
  · rintro ⟨s, hStatement, hHandle, _⟩
    rw [World.statement_of_get? hStatement] at hEnded
    exact hHandle hEnded
  · intro q hOther
    unfold LiveStatement
    rw [hSteps.keeps_statement (by simp [hOther])]

/-
  Afterwards nothing is live on a connection, and what was
  has come to its end.
-/
theorem releaseChildren_leads
    (hStatements : ∀ p, A (.statement p))
    (hBackups : ∀ p, A (.backup p))
    (hClosing : g.custody.closing = none)
    (hConnection : g.world.connections.get? c = some conn) :
    Quiet.Leads A g g.world (releaseChildren c)
      fun _ g' => g'.custody = g.custody ∧
        g'.world.Childless c ∧
        g.world.Sheds (· = c) g'.world := by
  apply Quiet.Leads.sound
  intro hSound
  have hRegistered := hSound.registered
  have hListed : ∀ p,
      (p ∈ conn.statements ↔
        LiveStatement g.world.statements p c) ∧
      (p ∈ conn.backups ↔
        LiveBackup g.world.backups p c) := by
    intro p
    rw [hRegistered.statements.mem_iff hConnection,
      hRegistered.backups.mem_iff hConnection, hClosing]
    simp
  have hSorted := Ascending.sort_perm Place.rank
  unfold releaseChildren
  apply Quiet.Leads.read
  rw [World.connection_of_get? hConnection]
  apply Quiet.Leads.update
  rw [World.modifyConnection_eq]
  have hStep :=
    ConnectionStep.disowned (g := g) (c := c) hClosing
  rw [World.modifyConnection_eq] at hStep
  apply Quiet.Leads.commit (.single (.connection hStep))
  apply Quiet.Leads.bind
  apply Quiet.Leads.mono
    (detachBackups_leads hBackups
      (k := { g.custody with closing := some c }) rfl
      ((hSorted conn.backups).nodup_iff.mpr
        (hRegistered.backups.nodup hConnection))
      (fun p => by
        rw [(hSorted conn.backups).mem_iff]
        exact (hListed p).2.symm)
      rfl (fun _ => rfl) (w := g.world) ?hSheds)
  case hSheds => exact ⟨fun _ => .inl rfl, fun _ => .inl rfl⟩
  intro _ g₁ _ _ hFirst
  rcases hFirst with
    ⟨⟨hCustody₁, hStatements₁, hSheds₁⟩, hNoBackups⟩
  apply Quiet.Leads.last
  apply Quiet.Leads.bind
  apply Quiet.Leads.mono
    (detachStatements_leads hStatements
      (k := { g.custody with closing := some c }) rfl
      ((hSorted conn.statements).nodup_iff.mpr
        (hRegistered.statements.nodup hConnection))
      (fun p => by
        rw [(hSorted conn.statements).mem_iff]
        unfold LiveStatement
        rw [hStatements₁]
        exact (hListed p).1.symm)
      hCustody₁ (fun _ => rfl) hSheds₁)
  intro _ g₂ _ _ hSecond
  rcases hSecond with
    ⟨⟨hCustody₂, hBackups₂, hSheds₂⟩, hNoStatements⟩
  have hChildless : g₂.world.Childless c := by
    refine ⟨hNoStatements, ?_⟩
    intro p
    unfold LiveBackup
    rw [hBackups₂]
    exact hNoBackups p
  apply Quiet.Leads.commit
    (.single (.connection
      (.freed (by rw [hCustody₂]) hChildless)))
  apply Quiet.Leads.pure
  refine ⟨?_, hChildless, hSheds₂⟩
  rw [hCustody₂, ← hClosing]

------------------------------------------------------------
-- Destroying
------------------------------------------------------------

/-
  Afterwards a connection is closed, and what was live on it
  has come to its end.
-/
theorem shut_leads
    (hStatements : ∀ p, A (.statement p))
    (hBackups : ∀ p, A (.backup p))
    (hPending : g.custody.pending = none)
    (hClosing : g.custody.closing = none)
    (hExpendable : g.custody.expendable c) :
    Quiet.Leads A g g.world (shut c)
      fun _ g' => g'.custody = g.custody ∧
        (g'.world.connection c).handle = none ∧
        g.world.Sheds (· = c) g'.world := by
  apply Quiet.Leads.sound
  intro hSound
  unfold shut
  apply Quiet.Leads.read
  apply Quiet.Leads.ite
  case hElse =>
    intro hClosed
    apply Quiet.Leads.pure
    exact ⟨rfl, by simpa [isOpen] using hClosed, .refl _ _⟩
  intro hIs
  rcases Option.isSome_iff_exists.mp hIs with ⟨db, hHandle⟩
  rcases World.get?_of_connection_handle hHandle with
    ⟨conn, hConnection, _⟩
  rw [World.connection_of_get? hConnection]
  have hRest : ∀ g₁ : Stage E, g₁.custody = g.custody →
      g₁.world.Childless c →
      g.world.Sheds (· = c) g₁.world →
        Quiet.Leads A g₁ g₁.world (releaseHandle c)
          fun _ g' => g'.custody = g.custody ∧
            (g'.world.connection c).handle = none ∧
            g.world.Sheds (· = c) g'.world := by
    intro g₁ hSame hChildless hSheds
    apply Quiet.Leads.widen (A := fun _ => False)
    · exact fun _ hNone => hNone.elim
    apply (releaseHandle_leads (by rw [hSame, hPending])
      hChildless (hSame ▸ hExpendable)).mono
    intro _ g₂ hSteps _ hReleased
    rw [← hSame]
    exact ⟨hReleased.1, hReleased.2,
      .steps (fun _ => id) (fun _ => id) hSteps hSheds⟩
  apply Quiet.Leads.ite
  · intro _
    apply Quiet.Leads.note
    apply Quiet.Leads.bind
    apply (releaseChildren_leads hStatements hBackups hClosing
      hConnection).mono
    intro _ g₁ _ _ hFreed
    exact hRest g₁ hFreed.1 hFreed.2.1 hFreed.2.2
  · intro hNone
    exact hRest g rfl
      (hSound.childless_of_nil hClosing hConnection
        (Bool.eq_false_iff.mpr hNone))
      (.refl _ _)

/-
  A connection that has left its slot is destroyed, together
  with what was live on it.
-/
theorem destroy_leads
    (hStatements : ∀ p, A (.statement p))
    (hBackups : ∀ p, A (.backup p))
    (hIdle : g.custody.Idle)
    (hHomeless : g.custody.homeless = some c)
    (hExpendable : g.custody.expendable c) :
    Quiet.Leads A g g.world (destroy c)
      fun _ g' =>
        g'.custody = { g.custody with homeless := none } ∧
        (c.number ≤ g.world.issued.connections →
          g'.world.connections.get? c = none) ∧
        g.world.Sheds (· = c) g'.world := by
  unfold destroy
  apply Quiet.Leads.bind
  apply (shut_leads hStatements hBackups hIdle.pending
    hIdle.closing hExpendable).mono
  intro _ g₁ hSteps₁ _ hShut
  rcases hShut with ⟨hCustody, hClosed, hSheds₁⟩
  apply Quiet.Leads.update
  apply Quiet.Leads.commit
    (.single (.connection
      (.forgotten (by rw [hCustody, hHomeless]) hClosed
        (hCustody ▸ hExpendable))))
  apply Quiet.Leads.widen (A := fun _ => False)
  · exact fun _ hNone => hNone.elim
  apply Quiet.Leads.mono
    (Library.release_keeps (P := fun _ => True) _ trivial)
  intro _ g₂ hSteps₂ _ hReleased
  refine ⟨by rw [hReleased, hCustody], fun hOld => ?_, ?_⟩
  · apply hSteps₂.keeps_gone
    · exact Nat.le_trans hOld hSteps₁.connections_issued_le
    · simp [forget]
  · exact .steps (fun _ => id) (fun _ => id) hSteps₂
      ⟨hSheds₁.statements, hSheds₁.backups⟩

end Connection

end SqliteAccess
