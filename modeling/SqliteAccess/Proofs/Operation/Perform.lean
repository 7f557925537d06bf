import SqliteAccess.Operation.Perform
import SqliteAccess.Proofs.Operation.Requests
import SqliteAccess.Proofs.Session.Running

/-
  Operations, step by step.

  Key definitions include:
    * `Operation.isForHost`
    * `Operation.mayChange`
    * `Operation.mayEnd`
    * `Stage.Outlived`

  The operations are characterized by:
    * `Operation.vacateConnection_leads`
    * `Operation.fetchIn_leads`
    * `Operation.perform_outlived`
    * `Operation.perform_leads`
-/

namespace SqliteAccess

variable {E : Engine} {α β : Type} {A B : Part → Prop}
variable {P : Custody → Prop} {g : Stage E}

open Attempt

------------------------------------------------------------
-- Finding Objects
------------------------------------------------------------

namespace Attempt.Leads

variable {Q : β → Stage E → Prop} {F : Stage E → Prop}

/- What an operation needs, or a failure for want of it. -/
theorem needed
    {f : World E → Option α}
    {k : α → Attempt E β}
    (hSome : ∀ a, f g.world = some a →
      Leads A g g.world (k a) Q F)
    (hNone : F g) :
    Leads A g g.world
      (Operation.needed (Quiet.read f) >>= k) Q F := by
  apply bind
  unfold Operation.needed
  apply read
  cases hFound : f g.world with
  | none => exact throw hNone
  | some a => exact pure (hSome a hFound)

/- A slot with something in it, or a failure. -/
theorem occupied
    {table : World E → Table Place α}
    {n : Nat}
    {k : Place → Attempt E β}
    (hSome : ∀ a, (table g.world).get? (.slot n) = some a →
      Leads A g g.world (k (.slot n)) Q F)
    (hNone : F g) :
    Leads A g g.world
      (Operation.occupied table n >>= k) Q F := by
  apply bind
  unfold Operation.occupied
  apply needed
  · exact fun a hFound => pure (hSome a hFound)
  · exact hNone

end Attempt.Leads

namespace Operation

/- What is there is found. -/
theorem run_needed
    {f : World E → Option α}
    {a : α}
    {s : Session E}
    (hFound : f s.world = some a) :
    (needed (Quiet.read f)).run s = (.ok a, s) := by
  unfold needed
  rw [run_read, hFound]
  rfl

theorem needed_keeps (f : World E → Option α) :
    Keeps A P (needed (Quiet.read f)) := by
  intro g _
  apply Leads.last
  apply Leads.needed
  · exact fun _ _ => .pure rfl
  · rfl

theorem occupied_keeps
    (table : World E → Table Place α)
    (n : Nat) :
    Keeps A P (occupied table n) := by
  intro g _
  apply Leads.last
  apply Leads.occupied
  · exact fun _ _ => .pure rfl
  · rfl

/- What works on a slot works on any that is found. -/
theorem inSlot_keeps
    {table : World E → Table Place α}
    {n : Nat}
    {k : Place → Attempt E β}
    (h : Keeps A P (k (.slot n))) :
    Keeps A P (occupied table n >>= k) := by
  intro g hP
  apply Leads.occupied
  · exact fun _ _ => h g hP
  · rfl

------------------------------------------------------------
-- Emptying Slots
------------------------------------------------------------

end Operation

/-
  Whether as much is under way as before, and only what was
  live on connections that are gone has changed.
-/
structure Stage.Outlived (g g' : Stage E) : Prop where
  custody : g'.custody = g.custody
  sheds :
    g.world.Sheds (fun c => g'.world.connections.get? c = none)
      g'.world

theorem Stage.Outlived.refl (g : Stage E) : g.Outlived g :=
  ⟨rfl, .refl _ _⟩

namespace Operation

/- A connection that has left its slot is destroyed. -/
theorem destroy_homeless_leads
    {c : ConnectionId}
    {plain serialized : Table Nat ConnectionId}
    (hStatements : ∀ p, A (.statement p))
    (hBackups : ∀ p, A (.backup p))
    (hSlots : A .slots)
    (hRest : g.custody.AtRest)
    (hExpendable : g.custody.expendable c)
    (hHoused :
      Housed g.world.connections plain serialized (some c)) :
    Quiet.Leads A g { g.world with plain, serialized }
      (Connection.destroy c)
      fun _ g' => g.Outlived g' ∧
        g'.world.plain = plain ∧
          g'.world.serialized = serialized := by
  apply Quiet.Leads.sound
  intro hSound
  apply Quiet.Leads.commit (.single (.rehoused hSlots hHoused))
  apply Quiet.Leads.widen (A := (· ≠ .slots))
  · intro part hOther
    cases part with
    | statement p => exact hStatements p
    | backup p => exact hBackups p
    | slots => exact absurd rfl hOther
  apply Quiet.Leads.mono
    (Connection.destroy_leads (A := (· ≠ .slots))
      ?hStatements ?hBackups ?hIdle rfl ?hMay)
  case hStatements => simp
  case hBackups => simp
  case hMay => exact hExpendable
  case hIdle =>
    exact ⟨hRest.pending, hRest.arriving, hRest.closing,
      hRest.scratch, hRest.copying⟩
  intro _ g' hSteps _ hDestroyed
  rcases hDestroyed with ⟨hCustody, hGone, hSheds⟩
  rcases hSteps.keeps_slots (by simp) with
    ⟨hPlain, hSerialized⟩
  refine ⟨⟨?_, ?_⟩, hPlain, hSerialized⟩
  · rw [hCustody, ← hRest.homeless]
  · have hSheds' : g.world.Sheds (· = c) g'.world :=
      ⟨hSheds.statements, hSheds.backups⟩
    apply hSheds'.mono
    rintro _ hChild rfl
    exact hGone (hSound.issued_of_child hChild)

/- Afterwards a slot is empty, and the others are as before. -/
theorem vacateConnection_leads
    {n : Nat}
    (hStatements : ∀ p, A (.statement p))
    (hBackups : ∀ p, A (.backup p))
    (hSlots : A .slots)
    (hRest : g.custody.AtRest)
    (hMay : ∀ c, g.world.plain.get? n = some c →
      g.custody.expendable c) :
    Quiet.Leads A g g.world (vacateConnection n)
      fun _ g' => g.Outlived g' ∧
        g'.world.serialized = g.world.serialized ∧
        ∀ m, g'.world.plain.get? m =
          if m = n then none else g.world.plain.get? m := by
  apply Quiet.Leads.sound
  intro hSound
  unfold vacateConnection
  apply Quiet.Leads.read
  cases hSlot : g.world.plain.get? n with
  | none =>
      apply Quiet.Leads.pure
      refine ⟨.refl g, rfl, fun m => ?_⟩
      split
      case isTrue h => rw [h, hSlot]
      case isFalse => rfl
  | some c =>
      have hHoused := hSound.housed
      rw [hRest.homeless] at hHoused
      apply Quiet.Leads.update
      apply (destroy_homeless_leads hStatements hBackups
        hSlots hRest (hMay c hSlot)
        (hHoused.vacated hSlot)).mono
      intro _ g' _ _ hDestroyed
      rcases hDestroyed with
        ⟨hOutlived, hPlain, hSerialized⟩
      refine ⟨hOutlived, hSerialized, fun m => ?_⟩
      rw [hPlain, Table.get?_erase]

/- The same of the slots of serialized connections. -/
theorem vacateSerialized_leads
    {n : Nat}
    (hStatements : ∀ p, A (.statement p))
    (hBackups : ∀ p, A (.backup p))
    (hSlots : A .slots)
    (hRest : g.custody.AtRest)
    (hMay : ∀ c, g.world.serialized.get? n = some c →
      g.custody.expendable c) :
    Quiet.Leads A g g.world (vacateSerialized n)
      fun _ g' => g.Outlived g' ∧
        g'.world.plain = g.world.plain ∧
        ∀ m, g'.world.serialized.get? m =
          if m = n then none
          else g.world.serialized.get? m := by
  apply Quiet.Leads.sound
  intro hSound
  unfold vacateSerialized
  apply Quiet.Leads.read
  cases hSlot : g.world.serialized.get? n with
  | none =>
      apply Quiet.Leads.pure
      refine ⟨.refl g, rfl, fun m => ?_⟩
      split
      case isTrue h => rw [h, hSlot]
      case isFalse => rfl
  | some c =>
      have hHoused := hSound.housed
      rw [hRest.homeless] at hHoused
      apply Quiet.Leads.update
      apply (destroy_homeless_leads hStatements hBackups
        hSlots hRest (hMay c hSlot)
        (hHoused.vacatedSerialized hSlot)).mono
      intro _ g' _ _ hDestroyed
      rcases hDestroyed with
        ⟨hOutlived, hPlain, hSerialized⟩
      refine ⟨hOutlived, hPlain, fun m => ?_⟩
      rw [hSerialized, Table.get?_erase]

------------------------------------------------------------
-- Moving Objects
------------------------------------------------------------

theorem relocate_keeps
    {find : Nat → Attempt E Place}
    {destroy : Place → Quiet E Unit}
    {move : Place → Place → Quiet E Unit}
    {source target : Nat}
    (hFind : ∀ n, Keeps A P (find n))
    (hDestroy : ∀ p, Quiet.Keeps A P (destroy p))
    (hMove : ∀ p q, Quiet.Keeps A P (move p q)) :
    Keeps A P (relocate find destroy move source target) := by
  apply Keeps.bind (hFind source)
  intro old
  apply Keeps.ite
  · intro _
    apply Keeps.bind (.lift (hDestroy _))
    intro _
    exact (Keeps.lift (hMove _ _)).map
  · exact fun _ => .pure _

theorem overwrite_keeps
    {find : Nat → Attempt E Place}
    {assign : Place → Place → Quiet E Unit}
    {source target : Nat}
    (hFind : ∀ n, Keeps A P (find n))
    (hAssign : ∀ p q, Quiet.Keeps A P (assign p q)) :
    Keeps A P (overwrite find assign source target) := by
  apply Keeps.bind (hFind target)
  intro old
  apply Keeps.bind (hFind source)
  intro new
  exact (Keeps.lift (hAssign _ _)).map

/- What destroys a slot that is occupied. -/
theorem discard_keeps
    {table : World E → Table Place α}
    {destroy : Place → Quiet E Unit}
    {n : Nat}
    (hDestroy : Quiet.Keeps A P (destroy (.slot n))) :
    Keeps A P (discard (occupied table) destroy n) :=
  inSlot_keeps (Keeps.lift hDestroy).map

/- A statement moves to a slot whose statement is destroyed. -/
theorem moveStatement_keeps
    {source target : Nat}
    (hSource : A (.statement (.slot source)))
    (hTarget : A (.statement (.slot target))) :
    Keeps (E := E) A P
      (relocate statementIn Statement.destroy Statement.move
        source target) := by
  intro g _
  apply Leads.occupied
  case hNone => rfl
  intro s hStatement
  apply Leads.ite
  case hElse => exact fun _ => .pure rfl
  intro hOther
  apply Leads.lift
  apply Quiet.Leads.widen
    (A := (· = .statement (.slot target)))
  · rintro _ rfl
    exact hTarget
  apply Quiet.Leads.mono
    (Statement.destroy_slot_leads
      (A := (· = .statement (.slot target))) rfl)
  intro _ g₁ hSteps _ hDestroyed
  rcases hDestroyed with ⟨hCustody, hNone⟩
  have hStatement₁ :
      g₁.world.statements.get? (.slot source) = some s := by
    rw [hSteps.keeps_statement (by simp [hOther]), hStatement]
  apply Leads.lift
  apply (Statement.move_leads hSource hTarget hStatement₁
    (by simp [hOther]) (by simp)
    (by simp [World.statement, hNone, Statement.vacant])
    nofun).mono
  intro _ g₂ _ _ hMoved
  apply Leads.pure
  rw [hMoved, hCustody]

/- A statement moves over the one in another slot. -/
theorem assignStatement_keeps
    {source target : Nat}
    (hSource : A (.statement (.slot source)))
    (hTarget : A (.statement (.slot target))) :
    Keeps (E := E) A P
      (overwrite statementIn Statement.assign
        source target) := by
  intro g _
  apply Leads.occupied
  case hNone => rfl
  intro _ _
  apply Leads.occupied
  case hNone => rfl
  intro s hStatement
  apply Leads.lift
  apply (Statement.assign_leads hSource hTarget hStatement
    (by simp) nofun).mono
  exact fun _ _ _ _ hSame => .pure hSame

------------------------------------------------------------
-- Creating Objects
------------------------------------------------------------

/- Afterwards a temporary statement may come and go. -/
theorem outlived_of_scratch
    {g₁ g₂ : Stage E}
    (hSound : Sound g)
    (hSteps₁ : Steps B g g₁)
    (hOutlived : g.Outlived g₁)
    (hSteps₂ : Steps (· = .statement .scratch) g₁ g₂)
    (hSound₂ : Sound g₂)
    (hBefore : g.custody.scratch = false)
    (hAfter : g₂.custody.scratch = false) :
    g.world.Sheds
      (fun c => g₂.world.connections.get? c = none)
      g₂.world := by
  have hSheds : g.world.Sheds
      (fun c => g₂.world.connections.get? c = none)
      g₁.world := by
    apply hOutlived.sheds.mono
    intro c hChild hGone
    exact hSteps₂.keeps_gone
      (Nat.le_trans (hSound.issued_of_child hChild)
        hSteps₁.connections_issued_le) hGone
  have hNone : ∀ {g' : Stage E}, Sound g' →
      g'.custody.scratch = false →
        g'.world.statements.get? .scratch = none := by
    intro g' hSound' hIs
    have hContains := hSound'.scratch
    rw [hIs] at hContains
    simpa [Table.contains] using hContains
  constructor
  · intro p
    by_cases hScratch : p = .scratch
    · rw [hScratch, hNone hSound hBefore,
        hNone hSound₂ hAfter]
      exact .inl rfl
    · unfold World.statement
      rw [hSteps₂.keeps_statement (by simp [hScratch])]
      exact hSheds.statements p
  · intro p
    unfold World.backup
    rw [hSteps₂.keeps_backup (by simp)]
    exact hSheds.backups p

/- A connection is opened in a slot that is vacated first. -/
theorem openIn_leads
    {n : Nat}
    {path : Bytes}
    {options : ConnectionOptions}
    (hAll : ∀ part, A part)
    (hRest : g.custody.AtRest)
    (hMay : ∀ c, g.world.plain.get? n = some c ∨
      g.world.issued.connections < c.number →
        g.custody.expendable c) :
    Leads A g g.world (openIn n path options)
      (fun _ g' => g.Outlived g') (fun g' => g.Outlived g') := by
  apply Leads.sound
  intro hSound
  unfold openIn
  apply Leads.lift
  apply (vacateConnection_leads (fun _ => hAll _)
    (fun _ => hAll _) (hAll _) hRest
    fun c hSlot => hMay c (.inl hSlot)).mono
  intro _ g₁ hSteps₁ hSound₁ hVacated
  rcases hVacated with ⟨hOutlived₁, _, hSlots⟩
  have hCustody₁ := hOutlived₁.custody
  have hRest₁ : g₁.custody.AtRest := hCustody₁ ▸ hRest
  have hNew : ∀ c : ConnectionId,
      g₁.world.issued.connections < c.number →
        g₁.custody.expendable c := by
    intro c hLater
    rw [hCustody₁]
    exact hMay c (.inr (Nat.lt_of_le_of_lt
      hSteps₁.connections_issued_le hLater))
  apply Leads.bind
  apply Leads.widen (A := (· = .statement .scratch))
  · exact fun part _ => hAll part
  apply Leads.mono
    (Connection.openAt_leads (A := (· = .statement .scratch))
      rfl hRest₁.toIdle hRest₁.homeless hNew)
  case hFail =>
    intro g₂ hSteps₂ hSound₂ hSame
    have hCustody₂ := hSame.trans hCustody₁
    exact ⟨hCustody₂,
      outlived_of_scratch hSound hSteps₁ hOutlived₁ hSteps₂
        hSound₂ hRest.scratch (hCustody₂ ▸ hRest.scratch)⟩
  intro c g₂ hSteps₂ hSound₂ hOpened
  have hSheds := outlived_of_scratch hSound hSteps₁ hOutlived₁
    hSteps₂ hSound₂ hRest.scratch
    (by rw [hOpened]; exact hRest₁.scratch)
  have hHoused := hSound₂.housed
  rw [hOpened] at hHoused
  have hFree : g₂.world.plain.get? n = none := by
    rw [(hSteps₂.keeps_slots (by simp)).1, hSlots, if_pos rfl]
  apply Leads.last
  apply Leads.update
  apply Leads.commit
    (.single (.rehoused (hAll _) (hHoused.housed hFree)))
  apply Leads.pure
  refine ⟨?_, hSheds.statements, hSheds.backups⟩
  rw [hOpened, ← hCustody₁, ← hRest₁.homeless]

/- A statement is prepared in a slot that is vacated first. -/
theorem prepareIn_leads
    {c : ConnectionId}
    {n : Nat}
    {sql : Bytes}
    (hPart : A (.statement (.slot n)))
    (hRest : g.custody.AtRest)
    (hEnlists : g.custody.enlists c) :
    Leads A g g.world (prepareIn c n sql)
      (fun _ g' => g'.custody = g.custody)
      (fun g' => g'.custody = g.custody) := by
  unfold prepareIn
  apply Leads.lift
  apply (Statement.destroy_slot_leads hPart).mono
  intro _ g₁ _ _ hDestroyed
  rcases hDestroyed with ⟨hCustody₁, hVacant⟩
  apply (Statement.prepare_leads hPart
    (by rw [hCustody₁, hRest.pending])
    (by rw [hCustody₁, hRest.closing]) hVacant
    (.inr (by rw [hCustody₁]; exact hEnlists))).mono
  · intro _ g₂ _ _ hPrepared
    rw [hPrepared.1, hCustody₁]
    simp
  · intro g₂ _ _ hSame
    rw [hSame, hCustody₁]

/- A temporary statement moves over the one in a slot. -/
theorem assignPreparedIn_leads
    {n s : Nat}
    {sql : Bytes}
    (hScratch : A (.statement .scratch))
    (hPart : A (.statement (.slot s)))
    (hIdle : g.custody.Idle)
    (hEnlists : ∀ c, g.world.plain.get? n = some c →
      g.custody.enlists c) :
    Leads A g g.world (assignPreparedIn n s sql)
      (fun _ g' => g'.custody = g.custody)
      (fun g' => g'.custody = g.custody) := by
  apply Leads.needed
  case hNone => rfl
  intro c hSlot
  apply Statement.within_leads hScratch hIdle
  intro g₁ hCustody hOwner
  apply Leads.sound
  intro hSound
  have hContains := hSound.scratch
  rw [hCustody] at hContains
  rcases Option.isSome_iff_exists.mp hContains with
    ⟨temporary, hStatement⟩
  rw [World.statement_of_get? hStatement] at hOwner
  apply Leads.occupied
  case hNone => rfl
  intro _ _
  apply Leads.last
  apply Leads.lift
  apply (Statement.assign_leads hScratch hPart hStatement
    (by simp) ?hMay).mono
  case hMay =>
    intro _ c' hOwner'
    cases hOwner.symm.trans hOwner'
    rw [hCustody]
    exact hEnlists c hSlot
  exact fun _ _ _ _ hSame => .pure hSame

/-
  A row is kept in its slot together with the token of the
  statement that stands on it.
-/
theorem fetchIn_leads
    {n r : Nat}
    (hPart : A (.statement (.slot n))) :
    Leads A g g.world (fetchIn n r)
      (fun found g' => g'.custody = g.custody ∧
        (found = true → ∃ row,
          g'.world.rows.get? r = some row ∧
            (g'.world.statement (.slot n)).handle ≠ none ∧
            row.anchor =
              (g'.world.statement (.slot n)).anchor ∧
            row.matches (g'.world.statement (.slot n))))
      (fun g' => g'.custody = g.custody) := by
  unfold fetchIn
  apply Leads.occupied
  case hNone => rfl
  intro _ _
  apply Leads.bind
  apply (Statement.fetch_leads hPart).mono
  case hFail =>
    intro g' _ _ hDrives
    exact hDrives.custody
  intro found g' _ _ hFetched
  rcases hFetched with ⟨hDrives, hRow⟩
  have hAside := fun rows : Table Nat Row =>
    Step.aside (A := A) (g := g') g'.world.transactions
      g'.world.savepoints rows g'.world.library
  cases found with
  | none =>
      apply Leads.update
      apply Leads.commit (.single (hAside _))
      apply Leads.pure
      exact ⟨hDrives.custody, by simp⟩
  | some row =>
      rcases hRow row rfl with ⟨hHandle, hAnchor, hMatches⟩
      apply Leads.update
      apply Leads.commit (.single (hAside _))
      apply Leads.pure
      exact ⟨hDrives.custody, fun _ =>
        ⟨row, by simp, hHandle, hAnchor, hMatches⟩⟩

theorem fetchIn_keeps
    {n r : Nat}
    (hPart : A (.statement (.slot n))) :
    Keeps (E := E) A P (fetchIn n r) := by
  intro g _
  apply (fetchIn_leads hPart).mono
  · exact fun _ g' _ _ hFetched => hFetched.1
  · exact fun g' _ _ hSame => hSame

/- A backup is started in a slot that is vacated first. -/
theorem backupBetween_leads
    {n source destination : Nat}
    {first second : Bytes}
    (hPart : A (.backup (.slot n)))
    (hRest : g.custody.AtRest)
    (hEnlists : ∀ c,
      g.world.plain.get? source = some c ∨
        g.world.plain.get? destination = some c →
          g.custody.enlists c)
    (hDrives : g.custody.drives (.slot n)) :
    Leads A g g.world
      (backupBetween n source destination first second)
      (fun _ g' => g'.custody = g.custody)
      (fun g' => g'.custody = g.custody) := by
  apply Leads.needed
  case hNone => rfl
  intro from_ hSource
  apply Leads.needed
  case hNone => rfl
  intro to_ hDestination
  apply Leads.lift
  apply (Backup.destroy_slot_leads hPart hDrives).mono
  intro _ g₁ _ _ hDestroyed
  rcases hDestroyed with ⟨hCustody₁, hVacant⟩
  apply (Backup.start_leads hPart
    (by rw [hCustody₁, hRest.closing]) hVacant ?hMay
    ?hDrives).mono
  case hMay =>
    rw [hCustody₁]
    exact .inr ⟨hEnlists _ (.inl hSource),
      hEnlists _ (.inr hDestination)⟩
  case hDrives =>
    rw [hCustody₁]
    exact .inr hDrives
  · intro _ g₂ _ _ hStarted
    rw [hStarted, hCustody₁]
    simp
  · intro g₂ _ _ hSame
    rw [hSame, hCustody₁]

/- A connection goes to a slot that is vacated first. -/
theorem serializeIn_leads
    {z : Nat}
    {n : Option Nat}
    (hAll : ∀ part, A part)
    (hRest : g.custody.AtRest)
    (hMay : ∀ c, g.world.serialized.get? z = some c →
      g.custody.expendable c) :
    Leads A g g.world (serializeIn z n)
      (fun _ g' => g.Outlived g') (fun g' => g.Outlived g') := by
  have hVacate := vacateSerialized_leads (g := g) (n := z)
    (fun _ => hAll _) (fun _ => hAll _) (hAll _) hRest hMay
  cases n with
  | none =>
      apply Leads.lift
      apply hVacate.mono
      intro _ g₁ _ _ hVacated
      exact .refuse hVacated.1
  | some n =>
      apply Leads.needed
      case hNone => exact .refl g
      intro c hSlot
      apply Leads.lift
      apply hVacate.mono
      intro _ g₁ _ hSound₁ hVacated
      rcases hVacated with ⟨hOutlived, hPlain, hSerialized⟩
      have hHoused := hSound₁.housed
      rw [hOutlived.custody, hRest.homeless] at hHoused
      have hSlot₁ : g₁.world.plain.get? n = some c := by
        rw [hPlain, hSlot]
      have hFree : g₁.world.serialized.get? z = none := by
        rw [hSerialized, if_pos rfl]
      apply Leads.last
      apply Leads.update
      apply Leads.commit
        (.single (.rehoused (hAll _)
          (hHoused.serialize hSlot₁ hFree)))
      apply Leads.pure
      have hSheds := hOutlived.sheds
      refine ⟨?_, hSheds.statements, hSheds.backups⟩
      rw [← hOutlived.custody]
      show { g₁.custody with homeless := none } = g₁.custody
      rw [hOutlived.custody, ← hRest.homeless]

/- A connection in a slot is destroyed. -/
theorem dropConnection_leads
    {n : Nat}
    (hAll : ∀ part, A part)
    (hRest : g.custody.AtRest)
    (hMay : ∀ c, g.world.plain.get? n = some c →
      g.custody.expendable c) :
    Leads A g g.world (dropConnection n).perform
      (fun _ g' => g.Outlived g') (fun g' => g.Outlived g') := by
  apply Leads.needed
  case hNone => exact .refl g
  intro _ _
  apply Leads.lift
  apply (vacateConnection_leads (fun _ => hAll _)
    (fun _ => hAll _) (hAll _) hRest hMay).mono
  exact fun _ _ _ _ hVacated => .pure hVacated.1

/- So is a serialized one. -/
theorem dropSerialized_leads
    {z : Nat}
    (hAll : ∀ part, A part)
    (hRest : g.custody.AtRest)
    (hMay : ∀ c, g.world.serialized.get? z = some c →
      g.custody.expendable c) :
    Leads A g g.world (dropSerialized z).perform
      (fun _ g' => g.Outlived g') (fun g' => g.Outlived g') := by
  apply Leads.needed
  case hNone => exact .refl g
  intro _ _
  apply Leads.lift
  apply (vacateSerialized_leads (fun _ => hAll _)
    (fun _ => hAll _) (hAll _) hRest hMay).mono
  exact fun _ _ _ _ hVacated => .pure hVacated.1

------------------------------------------------------------
-- All Operations
------------------------------------------------------------

/- Whether an operation compiles a statement for the host. -/
def isForHost : Operation → Bool
  | connection _ r => r.isForHost
  | _ => false

/-
  What an operation may change: all, if a connection may be
  destroyed, and otherwise the objects that it names, or the
  scratch place.
-/
def mayChange
    (op : Operation)
    (part : Part) : Prop :=
  match op with
  | library _ => False
  | log _ => False
  | row .. => False
  | openConnection .. => True
  | dropConnection _ => True
  | serialize .. => True
  | dropSerialized _ => True
  | copyAll .. => part = .backup .scratch
  | prepare _ s _ => part = .statement (.slot s)
  | prepareSerialized _ s _ => part = .statement (.slot s)
  | dropStatement s => part = .statement (.slot s)
  | fetch s _ => part = .statement (.slot s)
  | statement s _ => part = .statement (.slot s)
  | assignPrepared _ s _ =>
      part = .statement (.slot s) ∨
        part = .statement .scratch
  | moveStatement source target =>
      part = .statement (.slot source) ∨
        part = .statement (.slot target)
  | assignStatement source target =>
      part = .statement (.slot source) ∨
        part = .statement (.slot target)
  | startBackup b .. => part = .backup (.slot b)
  | dropBackup b => part = .backup (.slot b)
  | backup b _ => part = .backup (.slot b)
  | _ => part = .statement .scratch

/-
  Whether an operation may close or forget a connection, be
  it one that it has just made.
-/
def mayEnd
    (op : Operation)
    (w : World E)
    (c : ConnectionId) : Prop :=
  match op with
  | openConnection n _ _ =>
      w.plain.get? n = some c ∨
        w.issued.connections < c.number
  | dropConnection n => w.plain.get? n = some c
  | connection n .close => w.plain.get? n = some c
  | serialize z _ => w.serialized.get? z = some c
  | dropSerialized z => w.serialized.get? z = some c
  | serialized z .close => w.serialized.get? z = some c
  | _ => False

/- Whether an operation may destroy a connection. -/
def mayDestroyConnection : Operation → Bool
  | openConnection .. => true
  | dropConnection _ => true
  | serialize .. => true
  | dropSerialized _ => true
  | _ => false

/-
  An operation that may destroy a connection changes nothing
  but what is lost with it.
-/
theorem perform_outlived
    (op : Operation)
    (hDestroys : op.mayDestroyConnection = true)
    (hRest : g.custody.AtRest)
    (hMay : ∀ c, op.mayEnd g.world c →
      g.custody.expendable c) :
    Leads op.mayChange g g.world op.perform
      (fun _ g' => g.Outlived g') (fun g' => g.Outlived g') := by
  cases op with
  | openConnection n path options =>
      exact Reply.after_leads
        (openIn_leads (fun _ => trivial) hRest hMay)
  | dropConnection n =>
      exact dropConnection_leads (fun _ => trivial) hRest hMay
  | serialize z n =>
      exact Reply.after_leads
        (serializeIn_leads (fun _ => trivial) hRest hMay)
  | dropSerialized z =>
      exact dropSerialized_leads (fun _ => trivial) hRest hMay
  | _ => cases hDestroys

/- Whether an operation is to close a connection. -/
def closes : Operation → Bool
  | connection _ .close => true
  | serialized _ .close => true
  | _ => false

/- What closes a connection leaves nothing under way. -/
theorem perform_closes
    (op : Operation)
    (hCloses : op.closes = true)
    (hRest : g.custody.AtRest)
    (hMay : ∀ c, op.mayEnd g.world c →
      g.custody.expendable c) :
    Leads A g g.world op.perform
      (fun _ g' => g'.custody = g.custody)
      (fun g' => g'.custody = g.custody) := by
  have hClose : ∀ {c : ConnectionId},
      g.custody.expendable c →
        Leads A g g.world (Reply.after (Connection.close c))
          (fun _ g' => g'.custody = g.custody)
          (fun g' => g'.custody = g.custody) :=
    fun hExpendable =>
      Reply.after_keeps Connection.close_keeps g
        ⟨hRest.toIdle, hExpendable⟩
  cases op with
  | connection n r =>
      cases r with
      | close =>
          apply Leads.needed
          · exact fun c hSlot => hClose (hMay c hSlot)
          · rfl
      | _ => cases hCloses
  | serialized z r =>
      cases r with
      | close =>
          apply Leads.needed
          · exact fun c hSlot => hClose (hMay c hSlot)
          · rfl
      | _ => cases hCloses
  | _ => cases hCloses

/-
  Whether an operation may put a new statement or backup of a
  connection in a slot.
-/
def mayEnlist
    (op : Operation)
    (w : World E)
    (c : ConnectionId) : Prop :=
  match op with
  | prepare n _ _ => w.plain.get? n = some c
  | assignPrepared n _ _ => w.plain.get? n = some c
  | startBackup _ n m _ _ =>
      w.plain.get? n = some c ∨ w.plain.get? m = some c
  | prepareSerialized z _ _ => w.serialized.get? z = some c
  | _ => False

/-
  Whether an operation may start, advance or destroy a backup
  in a slot.
-/
def mayDrive
    (op : Operation)
    (p : Place) : Prop :=
  match op with
  | startBackup b .. => p = .slot b
  | dropBackup b => p = .slot b
  | backup b (.step _) => p = .slot b
  | _ => False

/- Whether an operation is about a backup that is there. -/
def drives : Operation → Bool
  | dropBackup _ => true
  | backup .. => true
  | _ => false

/- What is done to a backup leaves nothing under way. -/
theorem perform_drives
    (op : Operation)
    (hDrives : op.drives = true)
    (hMay : ∀ p, op.mayDrive p → g.custody.drives p) :
    Leads op.mayChange g g.world op.perform
      (fun _ g' => g'.custody = g.custody)
      (fun g' => g'.custody = g.custody) := by
  cases op with
  | dropBackup b =>
      have hPart :
          (Operation.dropBackup b).mayChange
            (.backup (.slot b)) := rfl
      refine discard_keeps (P := fun k => k.drives (.slot b))
        ?_ g (hMay (.slot b) rfl)
      intro g hAllowed
      apply (Backup.destroy_slot_leads hPart hAllowed).mono
      exact fun _ _ _ _ hDestroyed => hDestroyed.1
  | backup b r =>
      have hPart :
          (Operation.backup b r).mayChange
            (.backup (.slot b)) := rfl
      refine inSlot_keeps (r.perform_keeps hPart) g ?_
      intro hStep
      cases r with
      | step pages => exact .inr (hMay (.slot b) rfl)
      | _ => cases hStep
  | _ => cases hDrives

/- Whether an operation makes a new statement or backup. -/
def enlists : Operation → Bool
  | prepare .. => true
  | assignPrepared .. => true
  | startBackup .. => true
  | prepareSerialized .. => true
  | _ => false

/- What makes a new one leaves nothing under way. -/
theorem perform_enlists
    (op : Operation)
    (hEnlists : op.enlists = true)
    (hRest : g.custody.AtRest)
    (hMay : ∀ c, op.mayEnlist g.world c →
      g.custody.enlists c)
    (hDrive : ∀ p, op.mayDrive p → g.custody.drives p) :
    Leads op.mayChange g g.world op.perform
      (fun _ g' => g'.custody = g.custody)
      (fun g' => g'.custody = g.custody) := by
  cases op with
  | prepare n s sql =>
      apply Leads.needed
      case hNone => rfl
      intro c hSlot
      exact Reply.after_leads
        (prepareIn_leads rfl hRest (hMay c hSlot))
  | prepareSerialized z s sql =>
      apply Leads.needed
      case hNone => rfl
      intro c hSlot
      exact Reply.after_leads
        (prepareIn_leads rfl hRest (hMay c hSlot))
  | assignPrepared n s sql =>
      exact Reply.after_leads
        (assignPreparedIn_leads (.inr rfl) (.inl rfl)
          hRest.toIdle hMay)
  | startBackup b n m first second =>
      exact Reply.after_leads
        (backupBetween_leads rfl hRest hMay (hDrive _ rfl))
  | _ => cases hEnlists

/-
  Any other operation with nothing under way ends with
  nothing.
-/
theorem perform_keeps
    (op : Operation)
    (hHost : op.isForHost = false)
    (hStays : op.mayDestroyConnection = false)
    (hOpen : op.closes = false)
    (hOld : op.enlists = false)
    (hIdle : op.drives = false) :
    Keeps (E := E) op.mayChange Custody.AtRest
      op.perform := by
  have hRested : ∀ {A : Part → Prop} {β : Type}
      {x : Attempt E β},
      Keeps A Custody.Idle x → Keeps A Custody.AtRest x :=
    fun h => h.weaken fun _ hRest => hRest.toIdle
  have hQuiet : ∀ {A : Part → Prop} {β : Type}
      {x : Quiet E β},
      Quiet.Keeps A Custody.Idle x →
        Quiet.Keeps A Custody.AtRest x :=
    fun h => h.weaken fun _ hRest => hRest.toIdle
  cases op with
  | library r => exact r.perform_keeps
  | log r => exact r.perform_keeps
  | openConnection c path options => cases hStays
  | dropConnection c => cases hStays
  | connection c r =>
      apply Keeps.bind (needed_keeps _)
      intro id
      have hPart :
          (Operation.connection c r).mayChange
            (.statement .scratch) := rfl
      apply hRested
      apply r.perform_keeps hPart hHost
      rintro rfl
      cases hOpen
  | copyAll source destination =>
      apply Keeps.bind (needed_keeps _)
      intro from_
      apply Keeps.bind (needed_keeps _)
      intro to_
      exact Reply.after_keeps (hRested (Backup.copyAll_keeps rfl))
  | prepare c s sql => cases hOld
  | assignPrepared c s sql => cases hOld
  | moveStatement source target =>
      exact moveStatement_keeps (.inl rfl) (.inr rfl)
  | assignStatement source target =>
      exact assignStatement_keeps (.inl rfl) (.inr rfl)
  | dropStatement s =>
      have hPart :
          (Operation.dropStatement s).mayChange
            (.statement (.slot s)) := rfl
      apply discard_keeps
      intro g _
      apply (Statement.destroy_slot_leads hPart).mono
      exact fun _ _ _ _ hDestroyed => hDestroyed.1
  | fetch s r => exact Reply.of_keeps (fetchIn_keeps rfl)
  | statement s r =>
      have hPart :
          (Operation.statement s r).mayChange
            (.statement (.slot s)) := rfl
      exact inSlot_keeps (r.perform_keeps hPart)
  | row r q =>
      apply Keeps.bind (needed_keeps _)
      intro found
      apply Keeps.of_asked
      intro g
      apply (q.perform_leads found).mono
      · exact fun _ _ _ _ hReads => hReads.asked
      · exact fun _ _ _ hReads => hReads.asked
  | begin c t type =>
      have hPart :
          (Operation.begin c t type).mayChange
            (.statement .scratch) := rfl
      apply Reply.after_keeps
      apply Keeps.bind (needed_keeps _)
      intro id
      apply Keeps.bind
        (.lift (hQuiet (Transaction.destroy_keeps hPart)))
      exact fun _ => hRested (Transaction.start_keeps hPart type)
  | moveTransaction source target =>
      apply relocate_keeps (occupied_keeps _)
      · exact fun _ => hQuiet (Transaction.destroy_keeps rfl)
      · exact Transaction.move_keeps
  | assignTransaction source target =>
      apply overwrite_keeps (occupied_keeps _)
      exact fun _ _ => hQuiet (Transaction.assign_keeps rfl)
  | dropTransaction t =>
      exact discard_keeps
        (hQuiet (Transaction.destroy_keeps rfl))
  | transaction t r =>
      have hPart :
          (Operation.transaction t r).mayChange
            (.statement .scratch) := rfl
      exact inSlot_keeps (hRested (r.perform_keeps hPart))
  | savepoint t p name =>
      have hPart :
          (Operation.savepoint t p name).mayChange
            (.statement .scratch) := rfl
      apply Reply.after_keeps
      apply inSlot_keeps
      apply Keeps.bind
        (.lift (hQuiet (Savepoint.destroy_keeps hPart)))
      exact fun _ =>
        hRested (Transaction.savepoint_keeps hPart name)
  | savepointOn c p name =>
      have hPart :
          (Operation.savepointOn c p name).mayChange
            (.statement .scratch) := rfl
      apply Reply.after_keeps
      apply Keeps.bind (needed_keeps _)
      intro id
      apply Keeps.bind
        (.lift (hQuiet (Savepoint.destroy_keeps hPart)))
      exact fun _ => hRested (Savepoint.start_keeps hPart name)
  | moveSavepoint source target =>
      apply relocate_keeps (occupied_keeps _)
      · exact fun _ => hQuiet (Savepoint.destroy_keeps rfl)
      · exact Savepoint.move_keeps
  | assignSavepoint source target =>
      apply overwrite_keeps (occupied_keeps _)
      exact fun _ _ => hQuiet (Savepoint.assign_keeps rfl)
  | dropSavepoint p =>
      exact discard_keeps
        (hQuiet (Savepoint.destroy_keeps rfl))
  | askSavepoint p r =>
      have hPart :
          (Operation.askSavepoint p r).mayChange
            (.statement .scratch) := rfl
      exact inSlot_keeps (hRested (r.perform_keeps hPart))
  | startBackup b source destination first second => cases hOld
  | dropBackup b => cases hIdle
  | backup b r => cases hIdle
  | serialize z c => cases hStays
  | prepareSerialized z s sql => cases hOld
  | dropSerialized z => cases hStays
  | serialized z r =>
      apply Keeps.bind (needed_keeps _)
      intro id
      have hPart :
          (Operation.serialized z r).mayChange
            (.statement .scratch) := rfl
      apply hRested
      apply r.perform_keeps hPart
      rintro rfl
      cases hOpen

/- An operation with nothing under way ends with nothing. -/
theorem perform_leads
    (op : Operation)
    (hHost : op.isForHost = false)
    (hRest : g.custody.AtRest)
    (hMay : ∀ c, op.mayEnd g.world c →
      g.custody.expendable c)
    (hNew : ∀ c, op.mayEnlist g.world c →
      g.custody.enlists c)
    (hDrive : ∀ p, op.mayDrive p → g.custody.drives p) :
    Leads op.mayChange g g.world op.perform
      (fun _ g' => g'.custody = g.custody)
      (fun g' => g'.custody = g.custody) := by
  cases hDestroys : op.mayDestroyConnection with
  | true =>
      apply (op.perform_outlived hDestroys hRest hMay).mono
      · exact fun _ _ _ _ hOutlived => hOutlived.custody
      · exact fun _ _ _ hOutlived => hOutlived.custody
  | false =>
      cases hCloses : op.closes with
      | true => exact op.perform_closes hCloses hRest hMay
      | false =>
          cases hEnlists : op.enlists with
          | true =>
              exact op.perform_enlists hEnlists hRest hNew
                hDrive
          | false =>
              cases hDrives : op.drives with
              | true => exact op.perform_drives hDrives hDrive
              | false =>
                  exact op.perform_keeps hHost hDestroys
                    hCloses hEnlists hDrives g hRest

end Operation

end SqliteAccess
