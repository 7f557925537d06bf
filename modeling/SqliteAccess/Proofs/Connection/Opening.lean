import SqliteAccess.Proofs.Connection.Closing
import SqliteAccess.Proofs.Connection.Execution

/-
  Opening connections, step by step.

  The programs are characterized by:
    * `Connection.openHandle_leads`
    * `Connection.applyOptions_keeps`
    * `Connection.establish_leads`
    * `Connection.openAt_leads`
-/

namespace SqliteAccess

variable {E : Engine} {A : Part → Prop} {g g' : Stage E}
variable {c : ConnectionId} {db : DatabaseHandle}

/-
  On a connection on which nothing is live, nothing stays
  live that used the scratch place only.
-/
theorem World.Childless.of_scratch
    (hChildless : g.world.Childless c)
    (hSteps : Steps (· = .statement .scratch) g g')
    (hSound : Sound g')
    (hScratch : g'.custody.scratch = false) :
    g'.world.Childless c where
  statements p := by
    by_cases hIs : p = .scratch
    · subst hIs
      rintro ⟨s, hStatement, _⟩
      have hNone := hSound.scratch
      rw [hScratch] at hNone
      simp [Table.contains, hStatement] at hNone
    · unfold LiveStatement
      rw [hSteps.keeps_statement (by simp [hIs])]
      exact hChildless.statements p
  backups p := by
    unfold LiveBackup
    rw [hSteps.keeps_backup (by simp)]
    exact hChildless.backups p

namespace Connection

open Attempt

------------------------------------------------------------
-- Handles
------------------------------------------------------------

/- A handle that a failed opening has left is closed. -/
theorem openingError_leads
    {path : Bytes}
    {answer : OpenAnswer}
    (hPending : g.custody.pending = none)
    (hLeft : answer.created →
      g.custody.arriving = some db ∧
        g.world.trace.any (Lifetime.leaves db))
    (hNone : answer.created = false →
      g.custody.arriving = none) :
    Quiet.Leads A g g.world (openingError db path answer)
      fun _ g' =>
        g'.custody = { g.custody with arriving := none } := by
  unfold openingError
  apply Quiet.Leads.ite
  · intro hCreated
    rcases hLeft hCreated with ⟨hArriving, hAny⟩
    apply Quiet.Leads.ask
    · exact fun _ => .database rfl (.inr hArriving)
    intro code engine
    apply Quiet.Leads.ask
    · exact fun _ => .database rfl (.inr hArriving)
    intro reason engine'
    apply Quiet.Leads.invoke
    intro result engine''
    apply Quiet.Leads.commit
      (.single (.connection
        (.abandoned
          (g := (g.heard ⟨.extendedErrorCode db, code⟩
            engine).heard ⟨.errorMessage db, reason⟩ engine')
          hPending hArriving ?_)))
    · exact .pure rfl
    · simp [Stage.heard, World.heard, List.any_cons, hAny]
  · intro hCreated
    apply Quiet.Leads.pure
    rw [← hNone (Bool.eq_false_iff.mpr hCreated)]

/- A handle that is opened is under way. -/
theorem openHandle_leads
    {path : Bytes}
    {flags : OpenFlags}
    (hPending : g.custody.pending = none)
    (hArriving : g.custody.arriving = none) :
    Leads A g g.world (openHandle path flags)
      (fun db g' =>
        g'.custody = { g.custody with arriving := some db } ∧
        g'.world.trace.any (Lifetime.leaves db) = false)
      (fun g' => g'.custody = g.custody) := by
  apply Leads.sound
  intro hSound
  unfold openHandle
  apply Leads.read
  apply Leads.invoke
  intro answer engine
  have hNew :
      (Lifetime.database
        ⟨g.world.issued.databases + 1⟩).births
          g.world.trace = 0 :=
    hSound.opened.births_eq_zero rfl
  have hNotLeft := Lifetime.any_leaves_eq_false hNew
  apply Leads.ite
  · intro hCreated
    apply Leads.update
    apply Leads.commit
      (.single (.connection
        (.opened hArriving rfl hCreated)))
    apply Leads.ite
    · intro hFailed
      have hCode : answer.code ≠ ResultCode.ok := by
        simpa [hCreated] using hFailed
      apply Leads.lift
      apply Quiet.Leads.mono
        (openingError_leads ?hPending ?hLeft ?hNone)
      case hPending => exact hPending
      case hLeft =>
        intro _
        refine ⟨rfl, ?_⟩
        simp [World.heard, Lifetime.leaves, hCreated, hCode]
      case hNone =>
        intro hNone
        simp [hCreated] at hNone
      intro e g' _ _ hSame
      apply Leads.bind
      apply Leads.fail
      rw [hSame, ← hArriving]
    · intro hSuccess
      apply Leads.pure
      refine ⟨rfl, ?_⟩
      have hCode : answer.code = ResultCode.ok := by
        simp only [not_or, Decidable.not_not] at hSuccess
        exact hSuccess.1
      simp [World.heard, Lifetime.leaves, hCode, hNotLeft]
  · intro hCreated
    have hNone := Bool.eq_false_iff.mpr hCreated
    have hAllowed : g.Allows
        ⟨.openDatabase path flags.bits
          ⟨g.world.issued.databases + 1⟩, answer⟩ :=
      .notOpened rfl hNone
    apply Leads.commit (.single (.ask hAllowed engine))
    apply Leads.ite
    · intro _
      apply Leads.lift
      apply Quiet.Leads.mono
        (openingError_leads ?hPending ?hLeft ?hNone)
      case hPending => exact hPending
      case hLeft =>
        intro hIs
        simp [hNone] at hIs
      case hNone => exact fun _ => hArriving
      intro e g' _ _ hSame
      apply Leads.bind
      apply Leads.fail
      rw [hSame, ← hArriving]
      rfl
    · intro hSuccess
      simp [hNone] at hSuccess

------------------------------------------------------------
-- Options
------------------------------------------------------------

theorem applyOptions_keeps
    (hPart : A (.statement .scratch))
    (options : ConnectionOptions) :
    Keeps (E := E) A Custody.Idle (applyOptions c options) := by
  apply Keeps.bind
    (.of_asked fun _ => setExtendedCodes_leads _)
  intro _
  have hRest : Keeps (E := E) A Custody.Idle
      (do
        if options.strictQuoting then
          setConfig c .quotedStringsInData false
          setConfig c .quotedStringsInDefinitions false
        if options.foreignKeys then
          let _ ←
            execute c (Bytes.ascii "PRAGMA foreign_keys = ON")
        if options.writeAheadLog then
          setPragma c (Bytes.ascii "journal_mode")
            (.text (Bytes.ascii "WAL"))) := by
    apply Keeps.optional
    case hFirst =>
      intro hRest
      apply Keeps.bind (.of_asked fun _ => setConfig_leads _ _)
      intro _
      apply Keeps.bind (.of_asked fun _ => setConfig_leads _ _)
      exact fun _ => hRest
    apply Keeps.optional
    case hFirst =>
      intro hRest
      apply Keeps.bind (execute_keeps hPart _)
      exact fun _ => hRest
    apply Keeps.optional
    case hFirst => exact fun _ => setPragma_keeps hPart _ _
    exact .pure _
  cases options.busyTimeout with
  | none => exact hRest
  | some milliseconds =>
      apply Keeps.bind
        (.of_asked fun _ => setBusyTimeout_leads _)
      exact fun _ => hRest

------------------------------------------------------------
-- Connections
------------------------------------------------------------

/-
  A connection that could not be configured is closed and
  forgotten again.
-/
theorem configure_leads
    {options : ConnectionOptions}
    (hPart : A (.statement .scratch))
    (hIdle : g.custody.Idle)
    (hHomeless : g.custody.homeless = some c)
    (hChildless : g.world.Childless c)
    (hExpendable : g.custody.expendable c) :
    Leads A g g.world
      (onFailure (applyOptions c options)
        (do
          releaseHandle c
          Quiet.update (forget c)))
      (fun _ g' => g'.custody = g.custody)
      (fun g' =>
        g'.custody = { g.custody with homeless := none }) := by
  apply Leads.onFailure
  apply Leads.widen (A := (· = .statement .scratch))
  · rintro _ rfl
    exact hPart
  have hKeeps := applyOptions_keeps (c := c)
    (A := (· = .statement .scratch)) rfl options g hIdle
  apply hKeeps.mono
  · exact fun _ g' _ _ hSame => hSame
  intro g₁ hSteps hSound₁ hSame
  apply Quiet.Leads.bind
  apply (releaseHandle_leads
    (by rw [hSame, hIdle.pending])
    (hChildless.of_scratch hSteps hSound₁
      (by rw [hSame, hIdle.scratch]))
    (hSame ▸ hExpendable)).mono
  intro _ g₂ _ _ hReleased
  rcases hReleased with ⟨hSame₂, hClosed⟩
  apply Quiet.Leads.last
  apply Quiet.Leads.update
  apply Quiet.Leads.commit
    (.single (.connection
      (.forgotten (by rw [hSame₂, hSame, hHomeless])
        hClosed (by rw [hSame₂, hSame]; exact hExpendable))))
  apply Quiet.Leads.pure
  rw [hSame₂, hSame]

/- A connection that is established has no slot yet. -/
theorem establish_leads
    {path : Bytes}
    {options : ConnectionOptions}
    (hPart : A (.statement .scratch))
    (hIdle : g.custody.Idle)
    (hHomeless : g.custody.homeless = none)
    (hNew : ∀ c : ConnectionId,
      g.world.issued.connections < c.number →
        g.custody.expendable c) :
    Leads A g g.world (establish path options)
      (fun c g' =>
        g'.custody = { g.custody with homeless := some c })
      (fun g' => g'.custody = g.custody) := by
  unfold establish
  apply Leads.accept
  case hError => rfl
  intro flags _
  apply Leads.bind
  apply (openHandle_leads hIdle.pending hIdle.arriving).mono
  case hFail =>
    intro g' _ _ hSame
    exact hSame
  intro db g₁ hSteps _ hOpened
  rcases hOpened with ⟨hCustody₁, hSuccess⟩
  apply Leads.read
  apply Leads.update
  apply Leads.commit
    (.single (.connection
      (.settled (by rw [hCustody₁]) hSuccess
        (by rw [hCustody₁, hHomeless]) rfl)))
  have hCustody₂ :
      ({ g₁.custody with
          arriving := none
          homeless :=
            some ⟨g₁.world.issued.connections + 1⟩ } :
          Custody) =
        { g.custody with
          homeless :=
            some ⟨g₁.world.issued.connections + 1⟩ } := by
    rw [hCustody₁, ← hIdle.arriving]
  rw [hCustody₂]
  apply Leads.sound
  intro hSound₂
  have hChildless := hSound₂.childless_of_nil hIdle.closing
    (by
      simp only [register]
      rw [Table.get?_put, if_pos rfl])
    rfl
  apply Leads.bind
  apply Leads.mono
    (configure_leads hPart ?hIdle rfl hChildless ?hNew)
  case hIdle =>
    exact ⟨hIdle.pending, hIdle.arriving, hIdle.closing,
      hIdle.scratch, hIdle.copying⟩
  case hNew =>
    exact hNew _
      (Nat.lt_succ_of_le hSteps.connections_issued_le)
  · intro _ g₃ _ _ hSame
    apply Leads.note
    exact .pure hSame
  · intro g₃ _ _ hSame
    rw [hSame]
    simp [← hHomeless]

/- A connection that is opened has no slot yet. -/
theorem openAt_leads
    {path : Bytes}
    {options : ConnectionOptions}
    (hPart : A (.statement .scratch))
    (hIdle : g.custody.Idle)
    (hHomeless : g.custody.homeless = none)
    (hNew : ∀ c : ConnectionId,
      g.world.issued.connections < c.number →
        g.custody.expendable c) :
    Leads A g g.world (openAt path options)
      (fun c g' =>
        g'.custody = { g.custody with homeless := some c })
      (fun g' => g'.custody = g.custody) := by
  unfold openAt
  apply Leads.bind
  apply Leads.mono
    (Library.hold_keeps (P := fun _ => True) g trivial)
  case hFail =>
    intro g' _ _ hSame
    exact hSame
  intro _ g₁ hSteps _ hSame
  have hNew₁ : ∀ c : ConnectionId,
      g₁.world.issued.connections < c.number →
        g₁.custody.expendable c := by
    intro c hLater
    rw [hSame]
    exact hNew c (Nat.lt_of_le_of_lt
      hSteps.connections_issued_le hLater)
  apply Leads.onFailure
  apply (establish_leads hPart (hSame ▸ hIdle)
    (by rw [hSame, hHomeless]) hNew₁).mono
  · intro c g₂ _ _ hEstablished
    rw [hEstablished, hSame]
  · intro g₂ _ _ hSame₂
    apply Quiet.Leads.mono
      (Library.release_keeps (P := fun _ => True) g₂ trivial)
    intro _ g₃ _ _ hSame₃
    rw [hSame₃, hSame₂, hSame]

end Connection

end SqliteAccess
