import SqliteAccess.Operation.Run
import SqliteAccess.Proofs.Operation.Perform

/-
  Runs of operations, and the end of a session, as steps.

  Key definitions include:
    * `Event.compiled?`
    * `Session.given`
    * `Session.hosted`
    * `Session.rest`

  The runs are characterized by:
    * `Session.run_steps`
    * `Session.runAll_steps`
    * `Session.reachable_sound`
    * `Session.dismantle_steps`
-/

namespace SqliteAccess

variable {E : Engine} {α : Type} {A : Part → Prop}
variable {g : Stage E}

------------------------------------------------------------
-- Statements of the Host
------------------------------------------------------------

/- The statement that a call has compiled. -/
def Event.compiled? : Event → Option StatementHandle
  | ⟨.prepare _ st, answer⟩ =>
      if answer.created then some st else none
  | _ => none

namespace Session

/- The statements that an operation compiles for the host. -/
def given
    (s : Session E)
    (op : Operation) : List StatementHandle :=
  if op.isForHost then
    (Report.since (s.run op).2.world.trace
      s.world.trace.length).filterMap Event.compiled?
  else []

/-
  The statements that operations compile for the host, the
  latest first.
-/
def hosted
    (s : Session E) :
    List Operation → List StatementHandle
  | [] => []
  | op :: r => hosted (s.run op).2 r ++ s.given op

/-
  A session between two operations, where some statements
  have been given to the host.
-/
def rest
    (s : Session E)
    (hosted : List StatementHandle) : Stage E :=
  { custody := { hosted }, world := s.world }

end Session

/-
  A statement compiled behind the back of a connection is
  given to the host.
-/
theorem Connection.compileByHost_leads
    {c : ConnectionId}
    {sql : Bytes}
    (hPending : g.custody.pending = none) :
    Quiet.Leads A g g.world (compileByHost c sql)
      fun _ g' =>
        g'.custody =
          { g.custody with
            hosted :=
              (Report.since g'.world.trace
                g.world.trace.length).filterMap
                  Event.compiled? ++ g.custody.hosted } := by
  unfold compileByHost
  apply Quiet.Leads.read
  cases hHandle : (g.world.connection c).handle with
  | none =>
      apply Quiet.Leads.pure
      simp [Report.since]
  | some db =>
      have hOpen : g.world.Opens db :=
        ⟨c, World.get?_of_connection_handle hHandle⟩
      unfold Statement.compile
      simp only [bind_assoc]
      apply Quiet.Leads.read
      apply Quiet.Leads.invoke
      intro answer engine
      split
      case isTrue hCreated =>
        simp only [bind_assoc, pure_bind]
        apply Quiet.Leads.update
        apply Quiet.Leads.commit
          (.single (.statement
            (.compiled hPending hOpen rfl hCreated)))
        apply Quiet.Leads.commit
          (.single (.statement (.handedOver rfl)))
        apply Quiet.Leads.pure
        simp [Report.since, World.heard, Event.compiled?,
          hCreated, ← hPending]
      case isFalse hCreated =>
        simp only [pure_bind]
        have hAllowed : g.Allows
            ⟨.prepare sql ⟨g.world.issued.statements + 1, db⟩,
              answer⟩ :=
          .notCompiled hOpen rfl
            (Bool.eq_false_iff.mpr hCreated)
        apply Quiet.Leads.commit
          (.single (.ask hAllowed engine))
        apply Quiet.Leads.pure
        simp [Stage.heard, Report.since, World.heard,
          Event.compiled?, hCreated]

/- An operation for the host gives it what is compiled. -/
theorem Operation.perform_forHost_leads
    (op : Operation)
    (hHost : op.isForHost = true)
    (hPending : g.custody.pending = none) :
    Attempt.Leads A g g.world op.perform
      (fun _ g' =>
        g'.custody =
          { g.custody with
            hosted :=
              (Report.since g'.world.trace
                g.world.trace.length).filterMap
                  Event.compiled? ++ g.custody.hosted })
      (fun g' =>
        g'.custody =
          { g.custody with
            hosted :=
              (Report.since g'.world.trace
                g.world.trace.length).filterMap
                  Event.compiled? ++ g.custody.hosted }) := by
  cases op <;> try cases hHost
  case connection c r =>
    cases r <;> cases hHost
    case compileByHost sql =>
      apply Attempt.Leads.needed
      case hNone => simp [Report.since]
      intro id _
      apply Attempt.Leads.bind
      apply Attempt.Leads.last
      apply Attempt.Leads.lift
      apply (Connection.compileByHost_leads hPending).mono
      intro _ g' _ _ hGiven
      exact .pure (.pure hGiven)

namespace Session

open Operation

------------------------------------------------------------
-- Runs
------------------------------------------------------------

variable {s : Session E} {h : List StatementHandle}
variable {k : Custody}

/- The steps of an operation, whether it succeeds or fails. -/
theorem steps_of_leads
    {op : Operation}
    (custody : World E → Custody)
    (hSound : Sound ⟨k, s.world⟩)
    (hLeads : Attempt.Leads A ⟨k, s.world⟩ s.world op.perform
      (fun _ g' => g'.custody = custody g'.world)
      (fun g' => g'.custody = custody g'.world)) :
    Steps A ⟨k, s.world⟩
      { custody := custody (s.run op).2.world
        world := (s.run op).2.world } := by
  rcases hLeads hSound s.log with ⟨k', hSteps, hEnd⟩
  have hCustody : k' = custody (s.run op).2.world := hEnd.elim
  rw [← hCustody]
  exact hSteps

/-
  An operation takes a session from rest to rest, if it is
  free to do what it may.
-/
theorem run_steps_of
    (op : Operation)
    (hSound : Sound ⟨k, s.world⟩)
    (hRest : k.AtRest)
    (hMay : ∀ c, op.mayEnd s.world c → k.expendable c)
    (hNew : ∀ c, op.mayEnlist s.world c → k.enlists c)
    (hDrive : ∀ p, op.mayDrive p → k.drives p) :
    Steps op.mayChange ⟨k, s.world⟩
      { custody := { k with hosted := s.given op ++ k.hosted }
        world := (s.run op).2.world } := by
  cases hHost : op.isForHost with
  | false =>
      have hKeeps := op.perform_leads (g := ⟨k, s.world⟩) hHost
        hRest hMay hNew hDrive
      have hNone : s.given op = [] := by simp [given, hHost]
      rw [hNone]
      exact steps_of_leads (fun _ => k) hSound hKeeps
  | true =>
      have hGiven : s.given op =
          (Report.since (s.run op).2.world.trace
            s.world.trace.length).filterMap
              Event.compiled? := by
        simp [given, hHost]
      rw [hGiven]
      exact steps_of_leads
        (fun w =>
          { k with
            hosted :=
              (Report.since w.trace
                s.world.trace.length).filterMap
                  Event.compiled? ++ k.hosted })
        hSound (perform_forHost_leads op hHost hRest.pending)

theorem run_steps
    (op : Operation)
    (hSound : Sound (s.rest h)) :
    Steps op.mayChange (s.rest h)
      ((s.run op).2.rest (s.given op ++ h)) :=
  run_steps_of op hSound (Custody.atRest_of_hosted h)
    (fun _ _ => trivial) (fun _ _ => trivial)
    (fun _ _ => trivial)

/- A run takes a session from rest to rest. -/
theorem runAll_steps
    (ops : List Operation)
    (hSound : Sound (s.rest h)) :
    Steps (fun _ => True) (s.rest h)
      ((s.runAll ops).2.rest (s.hosted ops ++ h)) := by
  induction ops generalizing s h with
  | nil => exact .refl
  | cons op r ih =>
      have hFirst := run_steps op hSound
      have hRest := ih (hFirst.sound hSound)
      rw [← List.append_assoc] at hRest
      exact (hFirst.mono fun _ _ => trivial).trans hRest

------------------------------------------------------------
-- The Start of a Session
------------------------------------------------------------

variable (engine : E.State) (patience : Nat) (log : Log)

/- Nothing is there at the start of a session. -/
theorem start_sound :
    Sound ((start engine patience log : Session E).rest []) where
  lawful := trivial
  linked := by
    constructor <;>
      simp [rest, start, Lifetime.alive, Lifetime.births]
  owned := by
    constructor <;> simp [rest, start]
  anchored := by
    constructor <;> simp [rest, start]
  opened := by
    constructor <;>
      simp [rest, start, Lifetime.alive, Lifetime.births]
  copying := by
    constructor <;>
      simp [rest, start, Lifetime.alive, Lifetime.births]
  registered := by
    refine ⟨⟨?_, ?_⟩, ⟨?_, ?_⟩⟩ <;> simp [rest, start]
  housed := by
    simp [Housed, rest, start]
  scratch := rfl
  scratchBackup := rfl

/- Every handle is accounted for between operations. -/
theorem reachable_sound
    (ops : List Operation) :
    Sound (((start engine patience log).runAll ops).2.rest
      ((start engine patience log).hosted ops)) := by
  have hStart := start_sound engine patience log
  have hSteps := runAll_steps ops hStart
  rw [List.append_nil] at hSteps
  exact hSteps.sound hStart

------------------------------------------------------------
-- The End of a Session
------------------------------------------------------------

/- The slots that are left to be vacated. -/
theorem mem_slots_iff
    {t : Table Nat α}
    {n : Nat} :
    n ∈ slots t ↔ t.get? n ≠ none := by
  unfold slots
  rw [Ascending.mem_sort, Table.mem_keys_iff]

/- Every serialized connection is destroyed in turn. -/
theorem vacateAllSerialized_leads
    {l : List Nat}
    (hRest : g.custody.AtRest)
    (hMay : ∀ c, g.custody.expendable c)
    (hLeft : ∀ n, g.world.serialized.get? n ≠ none → n ∈ l) :
    Quiet.Leads (fun _ => True) g g.world
      (Quiet.each vacateSerialized l)
      fun _ g' => g'.custody = g.custody ∧
        ∀ n, g'.world.serialized.get? n = none := by
  have hLoop := Quiet.Leads.each (A := fun _ => True)
    (f := vacateSerialized)
    (fun l (g' : Stage E) => g'.custody = g.custody ∧
      ∀ n, g'.world.serialized.get? n ≠ none → n ∈ l)
    ?_ l ⟨rfl, hLeft⟩
  · apply hLoop.mono
    intro _ g' _ _ hEnd
    refine ⟨hEnd.1, fun n => ?_⟩
    have hNone := hEnd.2 n
    simpa using hNone
  · intro n l g₁ hInvariant
    rcases hInvariant with ⟨hCustody₁, hLeft₁⟩
    apply (vacateSerialized_leads (fun _ => trivial)
      (fun _ => trivial) trivial (hCustody₁ ▸ hRest)
      (fun _ _ => hCustody₁ ▸ hMay _)).mono
    intro _ g₂ _ _ hVacated
    rcases hVacated with ⟨hOutlived₂, _, hSlots⟩
    refine ⟨hOutlived₂.custody.trans hCustody₁,
      fun m hIs => ?_⟩
    rw [hSlots] at hIs
    split at hIs
    case isTrue => exact absurd rfl hIs
    case isFalse hOther =>
      have hMember := hLeft₁ m hIs
      simpa [hOther] using hMember

/- Every other connection is destroyed in turn. -/
theorem vacateAll_leads
    {l : List Nat}
    (hRest : g.custody.AtRest)
    (hMay : ∀ c, g.custody.expendable c)
    (hNone : ∀ n, g.world.serialized.get? n = none)
    (hLeft : ∀ n, g.world.plain.get? n ≠ none → n ∈ l) :
    Quiet.Leads (fun _ => True) g g.world
      (Quiet.each vacateConnection l)
      fun _ g' => g'.custody = g.custody ∧
        (∀ n, g'.world.serialized.get? n = none) ∧
        ∀ n, g'.world.plain.get? n = none := by
  have hLoop := Quiet.Leads.each (A := fun _ => True)
    (f := vacateConnection)
    (fun l (g' : Stage E) => g'.custody = g.custody ∧
      (∀ n, g'.world.serialized.get? n = none) ∧
      ∀ n, g'.world.plain.get? n ≠ none → n ∈ l)
    ?_ l ⟨rfl, hNone, hLeft⟩
  · apply hLoop.mono
    intro _ g' _ _ hEnd
    refine ⟨hEnd.1, hEnd.2.1, fun n => ?_⟩
    have hEmpty := hEnd.2.2 n
    simpa using hEmpty
  · intro n l g₁ hInvariant
    rcases hInvariant with ⟨hCustody₁, hNone₁, hLeft₁⟩
    apply (vacateConnection_leads (fun _ => trivial)
      (fun _ => trivial) trivial (hCustody₁ ▸ hRest)
      (fun _ _ => hCustody₁ ▸ hMay _)).mono
    intro _ g₂ _ _ hVacated
    rcases hVacated with ⟨hOutlived₂, hSerialized, hSlots⟩
    refine ⟨hOutlived₂.custody.trans hCustody₁, ?_,
      fun m hIs => ?_⟩
    · rw [hSerialized]
      exact hNone₁
    · rw [hSlots] at hIs
      split at hIs
      case isTrue => exact absurd rfl hIs
      case isFalse hOther =>
        have hMember := hLeft₁ m hIs
        simpa [hOther] using hMember

/- Destroy what is in the way of closing connections. -/
def destroyObjects : Quiet E Unit := do
  Quiet.each Savepoint.destroy
    (← Quiet.read (places ·.savepoints))
  Quiet.each Transaction.destroy
    (← Quiet.read (places ·.transactions))
  Quiet.update fun w => { w with rows := {} }
  Quiet.each Backup.destroy (← Quiet.read (places ·.backups))
  Quiet.each Statement.destroy
    (← Quiet.read (places ·.statements))

/- A session ends with its objects, then its connections. -/
theorem dismantleAll_eq :
    dismantleAll (E := E) =
      (do
        destroyObjects
        Quiet.each vacateSerialized
          (← Quiet.read (slots ·.serialized))
        Quiet.each vacateConnection
          (← Quiet.read (slots ·.plain))) := by
  simp only [dismantleAll, destroyObjects, bind_assoc]

theorem destroyObjects_keeps :
    Quiet.Keeps (E := E) (fun _ => True)
      (fun k => k.AtRest ∧ ∀ p, k.drives p)
      destroyObjects := by
  apply Quiet.Keeps.bind (.read _)
  intro savepoints
  apply Quiet.Keeps.bind
  · apply Quiet.Keeps.each
    intro p
    apply (Savepoint.destroy_keeps trivial).weaken
    exact fun _ hRest => hRest.1.toIdle
  intro _
  apply Quiet.Keeps.bind (.read _)
  intro transactions
  apply Quiet.Keeps.bind
  · apply Quiet.Keeps.each
    intro p
    apply (Transaction.destroy_keeps trivial).weaken
    exact fun _ hRest => hRest.1.toIdle
  intro _
  apply Quiet.Keeps.bind
  · exact .aside fun w =>
      ⟨w.transactions, w.savepoints, {}, w.library, rfl⟩
  intro _
  apply Quiet.Keeps.bind (.read _)
  intro backups
  apply Quiet.Keeps.bind
  · apply Quiet.Keeps.each
    intro p g hMay
    rcases hMay with ⟨hRest, hDrives⟩
    apply (Backup.destroy_leads trivial
      (.inr (hDrives p))).mono
    intro _ g' _ _ hDestroyed
    rw [hDestroyed.1, hRest.copying, Bool.and_false]
    exact Custody.copying_eq hRest.copying
  intro _
  apply Quiet.Keeps.bind (.read _)
  intro statements
  apply Quiet.Keeps.each
  intro p g hMay
  have hRest := hMay.1
  apply (Statement.destroy_leads trivial).mono
  intro _ g' _ _ hDestroyed
  rw [hDestroyed.1, hRest.scratch, Bool.and_false]
  exact Custody.scratch_eq hRest.scratch

/- At its end a session has no slot occupied. -/
theorem dismantleAll_leads
    (hRest : g.custody.AtRest)
    (hDrives : ∀ p, g.custody.drives p)
    (hMay : ∀ c, g.custody.expendable c) :
    Quiet.Leads (fun _ => True) g g.world dismantleAll
      fun _ g' => g'.custody = g.custody ∧
        (∀ n, g'.world.serialized.get? n = none) ∧
        ∀ n, g'.world.plain.get? n = none := by
  rw [dismantleAll_eq]
  apply Quiet.Leads.bind
  apply (destroyObjects_keeps g ⟨hRest, hDrives⟩).mono
  intro _ g₁ _ _ hCustody₁
  have hRest₁ : g₁.custody.AtRest := hCustody₁ ▸ hRest
  apply Quiet.Leads.read
  apply Quiet.Leads.bind
  apply (vacateAllSerialized_leads hRest₁ (hCustody₁ ▸ hMay)
    fun _ => mem_slots_iff.mpr).mono
  intro _ g₂ _ _ hSerialized
  rcases hSerialized with ⟨hCustody₂, hNone⟩
  apply Quiet.Leads.read
  apply (vacateAll_leads (hCustody₂ ▸ hRest₁)
    (by rw [hCustody₂, hCustody₁]; exact hMay) hNone
    fun _ => mem_slots_iff.mpr).mono
  intro _ g₃ _ _ hPlain
  exact ⟨by rw [hPlain.1, hCustody₂, hCustody₁], hPlain.2⟩

/- The steps of a program that cannot fail. -/
theorem steps_of_quiet
    {x : Quiet E Unit}
    {R : World E → Prop}
    (hSound : Sound (s.rest h))
    (hLeads : Quiet.Leads A (s.rest h) (s.rest h).world x
      fun _ g' => g'.custody = { hosted := h } ∧ R g'.world) :
    Steps A (s.rest h) ((x.run s).2.rest h) ∧
      R (x.run s).2.world := by
  rcases hLeads hSound s.log with ⟨k, hSteps, hCustody, hR⟩
  cases hCustody
  exact ⟨hSteps, hR⟩

/- At its end a session has no connection left. -/
theorem dismantle_steps
    (hSound : Sound (s.rest h)) :
    Steps (fun _ => True) (s.rest h) (s.dismantle.rest h) ∧
      ∀ c, s.dismantle.world.connections.get? c = none := by
  have hRest : (s.rest h).custody.AtRest :=
    Custody.atRest_of_hosted h
  unfold dismantle
  rcases steps_of_quiet (R := fun w => (∀ n,
      w.serialized.get? n = none) ∧ ∀ n, w.plain.get? n =
      none) hSound
      (dismantleAll_leads hRest (fun _ => trivial)
        fun _ => trivial) with
    ⟨hSteps, hSerialized, hPlain⟩
  refine ⟨hSteps, fun c => ?_⟩
  have hHoused := (hSteps.sound hSound).housed c
  revert hHoused hSerialized hPlain
  generalize (dismantleAll.run s).2 = s'
  intro hSerialized hPlain hHoused
  cases hConnection : s'.world.connections.get? c with
  | none => rfl
  | some conn =>
      rcases hHoused conn hConnection with
        hHas | ⟨n, hHas⟩ | ⟨n, hHas⟩
      · cases hHas
      · exact absurd hHas (by
          show s'.world.plain.get? n ≠ some c
          simp [hPlain n])
      · exact absurd hHas (by
          show s'.world.serialized.get? n ≠ some c
          simp [hSerialized n])

end Session

end SqliteAccess
