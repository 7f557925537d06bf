import SqliteAccess.Proofs.Session.Custody

/-
  How the handles of statements stay accounted for.

  The changes of a statement are characterized by:
    * `Statement.Follows.stepped`
    * `Statement.Follows.rewound`

  The changes of all statements are characterized by:
    * `Linked.heard`
    * `Linked.compiled`
    * `Linked.entered`
    * `Linked.driven`
    * `Linked.givenBack`
    * `Linked.rearranged`
-/

namespace SqliteAccess

/- A call does not concern handles that it does not name. -/
theorem Lifetime.spared_of_ne
    {e : Event}
    {st : StatementHandle}
    (t : Trace)
    (hOther : e.call.statement? ≠ some st) :
    (Lifetime.statement st).Spared t e := by
  apply spared_of_not_names
  simpa [Lifetime.statement] using hOther

------------------------------------------------------------
-- One Statement
------------------------------------------------------------

namespace Statement

variable {s : Statement} {t : Trace} {e : Event}
variable {st : StatementHandle}

theorem stepped_eq
    (s : Statement)
    (code : ResultCode) :
    s.stepped code =
      { s with
        state :=
          if code = ResultCode.row then .row else .done
        stepFailed :=
          s.stepFailed ||
            (code ≠ ResultCode.row &&
              code ≠ ResultCode.done)
        generation := s.generation + 1 } := by
  unfold stepped
  by_cases hRow : code = ResultCode.row
  · simp [hRow]
  · by_cases hDone : code = ResultCode.done
    · rw [if_neg hRow, if_pos hDone, if_neg hRow]
      simp [hDone]
    · simp [hRow, hDone]

namespace Follows

theorem heard
    (hFollows : s.Follows t st)
    (hSilent : e.Silent st) :
    s.Follows (e :: t) st where
  state := hSilent.stateOf.trans hFollows.state
  notFinalized := hFollows.notFinalized
  failed := by
    rw [hSilent.hasFailed]
    exact hFollows.failed
  stuck := hFollows.stuck
  generation := by
    rw [hSilent.transitions]
    exact hFollows.generation
  parameters :=
    hSilent.parameters_cons.trans hFollows.parameters
  columns := hSilent.columns_cons.trans hFollows.columns

/- A statement that is not done has not failed. -/
theorem unfailed
    (hFollows : s.Follows t st)
    (hState : s.state ≠ .done) :
    s.stepFailed = false :=
  Bool.eq_false_iff.mpr fun hFailed =>
    hState (hFollows.stuck hFailed)

/- A statement that is stepped follows its handle. -/
theorem stepped
    (hFollows : s.Follows t st)
    (hState : s.state ≠ .done)
    (code : ResultCode) :
    (s.stepped code).Follows (⟨.step st, code⟩ :: t) st := by
  have hUnfailed := hFollows.unfailed hState
  have hBefore : t.hasFailed st = false :=
    hFollows.failed.symm.trans hUnfailed
  rw [Statement.stepped_eq]
  constructor
  · simp [Trace.stateOf_cons, Event.stateSet]
  · by_cases hRow : code = ResultCode.row <;> simp [hRow]
  · by_cases hRow : code = ResultCode.row <;>
      by_cases hDone : code = ResultCode.done <;>
        simp [Trace.hasFailed_cons, Event.failureSet,
          hUnfailed, hBefore, hRow, hDone]
  · by_cases hRow : code = ResultCode.row <;>
      simp [hUnfailed, hRow]
  · simp [Trace.transitions_cons, Event.isTransitionOf,
      hFollows.generation]
  · simpa [Trace.parameters_cons, Event.parametersTold]
      using hFollows.parameters
  · simpa [Trace.columns_cons, Event.columnsTold]
      using hFollows.columns

/- A statement that is reset follows its handle. -/
theorem rewound
    (hFollows : s.Follows t st)
    (code : ResultCode) :
    s.rewound.Follows (⟨.reset st, code⟩ :: t) st := by
  unfold Statement.rewound
  constructor
  · simp [Trace.stateOf_cons, Event.stateSet]
  · simp
  · simp [Trace.hasFailed_cons, Event.failureSet]
  · simp
  · simp [Trace.transitions_cons, Event.isTransitionOf,
      hFollows.generation]
  · simpa [Trace.parameters_cons, Event.parametersTold]
      using hFollows.parameters
  · simpa [Trace.columns_cons, Event.columnsTold]
      using hFollows.columns

end Follows

end Statement

------------------------------------------------------------
-- Calls
------------------------------------------------------------

namespace Linked

variable {statements : Table Place Statement} {t : Trace}
variable {pending : Option StatementHandle}
variable {hosted : List StatementHandle} {issued : Nat}
variable {e : Event} {p : Place} {s s' : Statement}
variable {st : StatementHandle}

/- A handle that was just numbered was never created. -/
theorem births_eq_zero
    (hLinked : Linked statements t pending hosted issued)
    (hNumber : st.number = issued + 1) :
    (Lifetime.statement st).births t = 0 := by
  by_cases hBirths : (Lifetime.statement st).births t = 0
  · exact hBirths
  · have hOld := hLinked.numbered hBirths
    omega

/- A call that leaves every handle as it is. -/
theorem heard
    (hLinked : Linked statements t pending hosted issued)
    (hSpared : ∀ st, (Lifetime.statement st).Spared t e)
    (hStill : ∀ st, e.Still st)
    (hSilent : ∀ st, pending ≠ some st → e.Silent st) :
    Linked statements (e :: t) pending hosted issued where
  alive hStatement hHandle := by
    rw [(hSpared _).alive_cons]
    exact hLinked.alive hStatement hHandle
  follows hStatement hHandle :=
    (hLinked.follows hStatement hHandle).heard
      (hSilent _ (hLinked.kept hStatement hHandle).1)
  kept := hLinked.kept
  unique := hLinked.unique
  ended := hLinked.ended
  fresh hPending := by
    rcases hLinked.fresh hPending with
      ⟨hAlive, hOwn, hReady, hNone⟩
    refine ⟨?_, hOwn, ?_, ?_⟩
    · rw [(hSpared _).alive_cons]
      exact hAlive
    · rw [(hStill _).stateOf]
      exact hReady
    · rw [(hStill _).transitions]
      exact hNone
  custody hAlive := by
    rw [(hSpared _).alive_cons] at hAlive
    exact hLinked.custody hAlive
  given hMember := by
    rw [(hSpared _).births_cons]
    exact hLinked.given hMember
  numbered hBirths := by
    rw [(hSpared _).births_cons] at hBirths
    exact hLinked.numbered hBirths

/- A statement is compiled. -/
theorem compiled
    (hLinked : Linked statements t none hosted issued)
    {sql : Bytes}
    {answer : PrepareAnswer}
    (hRespected : (Lifetime.statement st).Respected t)
    (hNumber : st.number = issued + 1)
    (hCreated : answer.created) :
    Linked statements (⟨.prepare sql st, answer⟩ :: t)
      (some st) hosted st.number := by
  have hNew := hLinked.births_eq_zero hNumber
  have hOther : ∀ {st'},
      (Lifetime.statement st').births t ≠ 0 →
        some st ≠ some st' := by
    intro st' hBirths hSame
    cases hSame
    exact hBirths hNew
  have hHeld : ∀ {p s st'}, statements.get? p = some s →
      s.handle = some st' → some st ≠ some st' := by
    intro p s st' hStatement hHandle
    exact hOther
      (Lifetime.births_ne_zero_of_alive
        (hLinked.alive hStatement hHandle))
  have hSpared : ∀ {st'}, some st ≠ some st' →
      (Lifetime.statement st').Spared t
        ⟨.prepare sql st, answer⟩ :=
    fun hSame => Lifetime.spared_of_ne t hSame
  constructor
  case alive =>
    intro p s st' hStatement hHandle
    rw [(hSpared (hHeld hStatement hHandle)).alive_cons]
    exact hLinked.alive hStatement hHandle
  case follows =>
    intro p s st' hStatement hHandle
    exact (hLinked.follows hStatement hHandle).heard
      (Event.silent_of_ne (hHeld hStatement hHandle))
  case kept =>
    intro p s st' hStatement hHandle
    exact ⟨hHeld hStatement hHandle,
      (hLinked.kept hStatement hHandle).2⟩
  case unique => exact hLinked.unique
  case ended => exact hLinked.ended
  case fresh =>
    intro st' hPending
    cases hPending
    refine ⟨?_, ?_, ?_, ?_⟩
    · apply Lifetime.alive_of_born
      simp [Lifetime.statement, hCreated]
    · intro hMember
      exact hLinked.given hMember hNew
    · simp [Trace.stateOf_cons, Event.stateSet, hCreated]
    · simp [Trace.transitions_cons, Event.isTransitionOf,
        Trace.transitions_eq_zero hRespected hNew]
  case custody =>
    intro st' hAlive
    by_cases hSame : some st = some st'
    · exact .inl hSame
    · rw [(hSpared hSame).alive_cons] at hAlive
      rcases hLinked.custody hAlive with h | h | h
      · cases h
      · exact .inr (.inl h)
      · exact .inr (.inr h)
  case given =>
    intro st' hMember
    have hBirths := hLinked.given hMember
    rw [(hSpared (hOther hBirths)).births_cons]
    exact hBirths
  case numbered =>
    intro st' hBirths
    by_cases hSame : some st = some st'
    · cases hSame
      exact Nat.le_refl _
    · rw [(hSpared hSame).births_cons] at hBirths
      have hOld := hLinked.numbered hBirths
      omega

------------------------------------------------------------
-- Statements Under Way
------------------------------------------------------------

/- A compiled statement is given to the host. -/
theorem handedOver
    (hLinked : Linked statements t (some st) hosted issued) :
    Linked statements t none (st :: hosted) issued := by
  rcases hLinked.fresh rfl with ⟨hFresh, hOwn, _, _⟩
  constructor
  case alive => exact hLinked.alive
  case follows => exact hLinked.follows
  case kept =>
    intro p s st' hStatement hHandle
    rcases hLinked.kept hStatement hHandle with
      ⟨hOther, hNotHosted⟩
    refine ⟨by simp, ?_⟩
    simp only [List.mem_cons, not_or]
    exact ⟨fun h => hOther (h ▸ rfl), hNotHosted⟩
  case unique => exact hLinked.unique
  case ended => exact hLinked.ended
  case fresh =>
    intro st' hPending
    cases hPending
  case custody =>
    intro st' hAlive
    rcases hLinked.custody hAlive with h | h | h
    · cases h
      exact .inr (.inl List.mem_cons_self)
    · exact .inr (.inl (List.mem_cons_of_mem _ h))
    · exact .inr (.inr h)
  case given =>
    intro st' hMember
    rcases List.mem_cons.mp hMember with rfl | h
    · exact Lifetime.births_ne_zero_of_alive hFresh
    · exact hLinked.given h
  case numbered => exact hLinked.numbered

/- A compiled statement is kept at a place that is free. -/
theorem entered
    (hLinked : Linked statements t (some st) hosted issued)
    (hVacant : statements.get? p = none)
    (hHandle : s.handle = some st)
    (hState : s.state = .ready)
    (hGeneration : s.generation = 0)
    (hParameters : t.parameters st = some s.parameterCount)
    (hColumns : t.columns st = some s.columnNames.length)
    (hUnfailed : s.stepFailed = false) :
    Linked (statements.put p s) t none hosted issued := by
  rcases hLinked.fresh rfl with
    ⟨hAlive, hOwn, hReady, hNone⟩
  constructor
  case alive =>
    intro q r st' hStatement hHandle'
    rcases Table.get?_put_eq_some.mp hStatement with
      ⟨rfl, rfl⟩ | ⟨_, hOld⟩
    · cases hHandle.symm.trans hHandle'
      exact hAlive
    · exact hLinked.alive hOld hHandle'
  case follows =>
    intro q r st' hStatement hHandle'
    rcases Table.get?_put_eq_some.mp hStatement with
      ⟨rfl, rfl⟩ | ⟨_, hOld⟩
    · cases hHandle.symm.trans hHandle'
      exact
        { state := hReady.trans hState.symm
          notFinalized := by simp [hState]
          failed := hUnfailed.trans
            (Trace.hasFailed_of_transitions hNone).symm
          stuck := by simp [hUnfailed]
          generation := by simp [hGeneration, hNone]
          parameters := hParameters
          columns := hColumns }
    · exact hLinked.follows hOld hHandle'
  case kept =>
    intro q r st' hStatement hHandle'
    rcases Table.get?_put_eq_some.mp hStatement with
      ⟨rfl, rfl⟩ | ⟨_, hOld⟩
    · cases hHandle.symm.trans hHandle'
      exact ⟨by simp, hOwn⟩
    · exact ⟨by simp, (hLinked.kept hOld hHandle').2⟩
  case unique =>
    intro q q' r r' st' hFirst hHandle₁ hSecond hHandle₂
    rcases Table.get?_put_eq_some.mp hFirst with
      ⟨rfl, rfl⟩ | ⟨_, hOld₁⟩
    · rcases Table.get?_put_eq_some.mp hSecond with
        ⟨rfl, rfl⟩ | ⟨_, hOld₂⟩
      · rfl
      · exact absurd (hHandle.symm.trans hHandle₁)
          (hLinked.kept hOld₂ hHandle₂).1
    · rcases Table.get?_put_eq_some.mp hSecond with
        ⟨rfl, rfl⟩ | ⟨_, hOld₂⟩
      · exact absurd (hHandle.symm.trans hHandle₂)
          (hLinked.kept hOld₁ hHandle₁).1
      · exact hLinked.unique hOld₁ hHandle₁ hOld₂ hHandle₂
  case ended =>
    intro q r hStatement hEnded
    rcases Table.get?_put_eq_some.mp hStatement with
      ⟨rfl, rfl⟩ | ⟨_, hOld⟩
    · rw [hHandle] at hEnded
      cases hEnded
    · exact hLinked.ended hOld hEnded
  case fresh =>
    intro st' hPending
    cases hPending
  case custody =>
    intro st' hAlive'
    rcases hLinked.custody hAlive' with h | h | h
    · refine .inr (.inr ⟨p, s, by simp, ?_⟩)
      rw [hHandle, h]
    · exact .inr (.inl h)
    · rcases h with ⟨q, r, hOld, hHandle'⟩
      refine .inr (.inr ⟨q, r, ?_, hHandle'⟩)
      refine Table.get?_put_eq_some.mpr (.inr ⟨?_, hOld⟩)
      intro hSame
      rw [hSame, hVacant] at hOld
      cases hOld
  case given => exact hLinked.given
  case numbered => exact hLinked.numbered

------------------------------------------------------------
-- Statements That Are Kept
------------------------------------------------------------

/- A statement and its handle are stepped or reset. -/
theorem driven
    (hLinked : Linked statements t pending hosted issued)
    (hStatement : statements.get? p = some s)
    (hHandle : s.handle = some st)
    (hNames : e.call.statement? = some st)
    (hSpared : (Lifetime.statement st).Spared t e)
    (hHandle' : s'.handle = some st)
    (hFollows : s'.Follows (e :: t) st) :
    Linked (statements.put p s') (e :: t) pending hosted
      issued := by
  have hAll : ∀ st', (Lifetime.statement st').Spared t e := by
    intro st'
    by_cases hSame : e.call.statement? = some st'
    · cases hNames.symm.trans hSame
      exact hSpared
    · exact Lifetime.spared_of_ne t hSame
  have hSilent : ∀ {st'}, st ≠ st' → e.Silent st' := by
    intro st' hOther
    apply Event.silent_of_ne
    rw [hNames]
    intro hSame
    exact hOther (Option.some.inj hSame)
  constructor
  case alive =>
    intro q r st' hMember hOwn
    rw [(hAll st').alive_cons]
    rcases Table.get?_put_eq_some.mp hMember with
      ⟨rfl, rfl⟩ | ⟨_, hOld⟩
    · cases hHandle'.symm.trans hOwn
      exact hLinked.alive hStatement hHandle
    · exact hLinked.alive hOld hOwn
  case follows =>
    intro q r st' hMember hOwn
    rcases Table.get?_put_eq_some.mp hMember with
      ⟨rfl, rfl⟩ | ⟨hPlace, hOld⟩
    · cases hHandle'.symm.trans hOwn
      exact hFollows
    · refine (hLinked.follows hOld hOwn).heard (hSilent ?_)
      intro hSame
      cases hSame
      exact hPlace
        (hLinked.unique hOld hOwn hStatement hHandle)
  case kept =>
    intro q r st' hMember hOwn
    rcases Table.get?_put_eq_some.mp hMember with
      ⟨rfl, rfl⟩ | ⟨_, hOld⟩
    · cases hHandle'.symm.trans hOwn
      exact hLinked.kept hStatement hHandle
    · exact hLinked.kept hOld hOwn
  case unique =>
    have hPlace : ∀ {q r st'},
        (statements.put p s').get? q = some r →
          r.handle = some st' →
            ∃ r', statements.get? q = some r' ∧
              r'.handle = some st' := by
      intro q r st' hMember hOwn
      rcases Table.get?_put_eq_some.mp hMember with
        ⟨rfl, rfl⟩ | ⟨_, hOld⟩
      · exact ⟨s, hStatement,
          hHandle.trans (hHandle'.symm.trans hOwn)⟩
      · exact ⟨r, hOld, hOwn⟩
    intro q q' r r' st' hFirst hOwn₁ hSecond hOwn₂
    rcases hPlace hFirst hOwn₁ with ⟨_, hOld₁, hSame₁⟩
    rcases hPlace hSecond hOwn₂ with ⟨_, hOld₂, hSame₂⟩
    exact hLinked.unique hOld₁ hSame₁ hOld₂ hSame₂
  case ended =>
    intro q r hMember hEnded
    rcases Table.get?_put_eq_some.mp hMember with
      ⟨rfl, rfl⟩ | ⟨_, hOld⟩
    · rw [hHandle'] at hEnded
      cases hEnded
    · exact hLinked.ended hOld hEnded
  case fresh =>
    intro st' hPending
    rcases hLinked.fresh hPending with
      ⟨hAlive, hOwn, hReady, hNone⟩
    have hOther : st ≠ st' := by
      intro hSame
      exact (hLinked.kept hStatement hHandle).1
        (hSame ▸ hPending)
    rw [(hAll st').alive_cons, (hSilent hOther).stateOf,
      (hSilent hOther).transitions]
    exact ⟨hAlive, hOwn, hReady, hNone⟩
  case custody =>
    intro st' hAlive
    rw [(hAll st').alive_cons] at hAlive
    rcases hLinked.custody hAlive with h | h | h
    · exact .inl h
    · exact .inr (.inl h)
    · rcases h with ⟨q, r, hOld, hOwn⟩
      by_cases hPlace : q = p
      · subst hPlace
        cases hStatement.symm.trans hOld
        cases hHandle.symm.trans hOwn
        exact .inr (.inr ⟨q, s', by simp, hHandle'⟩)
      · exact .inr (.inr ⟨q, r, by simp [hPlace, hOld], hOwn⟩)
  case given =>
    intro st' hMember
    rw [(hAll st').births_cons]
    exact hLinked.given hMember
  case numbered =>
    intro st' hBirths
    rw [(hAll st').births_cons] at hBirths
    exact hLinked.numbered hBirths

------------------------------------------------------------
-- Finalizing
------------------------------------------------------------

/-
  A handle is given back, and whoever had it forgets it; all
  other statements with a handle stay as they are.
-/
theorem givenBack
    {statements' : Table Place Statement}
    {pending' : Option StatementHandle}
    (hLinked : Linked statements t pending hosted issued)
    (code : ResultCode)
    (hOld : ∀ {q r st'}, statements'.get? q = some r →
      r.handle = some st' →
        statements.get? q = some r ∧ st ≠ st')
    (hStays : ∀ {q r st'}, statements.get? q = some r →
      r.handle = some st' → st ≠ st' →
        statements'.get? q = some r)
    (hEnded : ∀ {q r}, statements'.get? q = some r →
      r.handle = none → r.state = .finalized)
    (hPending : ∀ {st'}, pending' = some st' ↔
      pending = some st' ∧ st ≠ st') :
    Linked statements' (⟨.finalize st, code⟩ :: t) pending'
      hosted issued := by
  have hSpared : ∀ {st'}, st ≠ st' →
      (Lifetime.statement st').Spared t
        ⟨.finalize st, code⟩ := by
    intro st' hOther
    exact Lifetime.spared_of_ne t
      fun hSame => hOther (Option.some.inj hSame)
  have hSilent : ∀ {st'}, st ≠ st' →
      Event.Silent st' ⟨.finalize st, code⟩ := by
    intro st' hOther
    exact Event.silent_of_ne
      fun hSame => hOther (Option.some.inj hSame)
  have hBirths : ∀ st',
      (Lifetime.statement st').births
          (⟨.finalize st, code⟩ :: t) =
        (Lifetime.statement st').births t := by
    intro st'
    simp [Lifetime.births_cons, Lifetime.statement]
  constructor
  case alive =>
    intro q r st' hMember hOwn
    rcases hOld hMember hOwn with ⟨hBefore, hOther⟩
    rw [(hSpared hOther).alive_cons]
    exact hLinked.alive hBefore hOwn
  case follows =>
    intro q r st' hMember hOwn
    rcases hOld hMember hOwn with ⟨hBefore, hOther⟩
    exact (hLinked.follows hBefore hOwn).heard
      (hSilent hOther)
  case kept =>
    intro q r st' hMember hOwn
    rcases hOld hMember hOwn with ⟨hBefore, _⟩
    rcases hLinked.kept hBefore hOwn with
      ⟨hNotPending, hNotHosted⟩
    exact ⟨fun h => hNotPending (hPending.mp h).1,
      hNotHosted⟩
  case unique =>
    intro q q' r r' st' hFirst hOwn₁ hSecond hOwn₂
    exact hLinked.unique (hOld hFirst hOwn₁).1 hOwn₁
      (hOld hSecond hOwn₂).1 hOwn₂
  case ended => exact hEnded
  case fresh =>
    intro st' hIs
    rcases hPending.mp hIs with ⟨hBefore, hOther⟩
    rw [(hSpared hOther).alive_cons,
      (hSilent hOther).stateOf,
      (hSilent hOther).transitions]
    exact hLinked.fresh hBefore
  case custody =>
    intro st' hAlive
    by_cases hSame : st = st'
    · cases hSame
      rw [Lifetime.not_alive_of_ends
        (by simp [Lifetime.statement])] at hAlive
      cases hAlive
    · rw [(hSpared hSame).alive_cons] at hAlive
      rcases hLinked.custody hAlive with h | h | h
      · exact .inl (hPending.mpr ⟨h, hSame⟩)
      · exact .inr (.inl h)
      · rcases h with ⟨q, r, hBefore, hOwn⟩
        exact .inr (.inr
          ⟨q, r, hStays hBefore hOwn hSame, hOwn⟩)
  case given =>
    intro st' hMember
    rw [hBirths]
    exact hLinked.given hMember
  case numbered =>
    intro st' hBorn
    rw [hBirths] at hBorn
    exact hLinked.numbered hBorn

/- A compiled statement is finalized at once. -/
theorem discarded
    (hLinked : Linked statements t (some st) hosted issued)
    (code : ResultCode) :
    Linked statements (⟨.finalize st, code⟩ :: t) none hosted
      issued := by
  apply hLinked.givenBack code
  case hOld =>
    intro q r st' hStatement hHandle
    refine ⟨hStatement, fun hSame => ?_⟩
    exact (hLinked.kept hStatement hHandle).1 (hSame ▸ rfl)
  case hStays =>
    intro q r st' hStatement _ _
    exact hStatement
  case hEnded => exact hLinked.ended
  case hPending => simp

/- A statement of the host is finalized. -/
theorem evicted
    (hLinked : Linked statements t pending hosted issued)
    (hHosted : st ∈ hosted)
    (code : ResultCode) :
    Linked statements (⟨.finalize st, code⟩ :: t) pending
      hosted issued := by
  apply hLinked.givenBack code
  case hOld =>
    intro q r st' hStatement hHandle
    refine ⟨hStatement, fun hSame => ?_⟩
    exact (hLinked.kept hStatement hHandle).2
      (hSame ▸ hHosted)
  case hStays =>
    intro q r st' hStatement _ _
    exact hStatement
  case hEnded => exact hLinked.ended
  case hPending =>
    intro st'
    refine ⟨fun h => ⟨h, fun hSame => ?_⟩, And.left⟩
    exact (hLinked.fresh h).2.1 (hSame ▸ hHosted)

/- A statement that is kept gives its handle back. -/
theorem finalized
    (hLinked : Linked statements t pending hosted issued)
    (hStatement : statements.get? p = some s)
    (hHandle : s.handle = some st)
    (code : ResultCode)
    (hHandle' : s'.handle = none)
    (hState' : s'.state = .finalized) :
    Linked (statements.put p s') (⟨.finalize st, code⟩ :: t)
      pending hosted issued := by
  apply hLinked.givenBack code
  case hOld =>
    intro q r st' hMember hOwn
    rcases Table.get?_put_eq_some.mp hMember with
      ⟨rfl, rfl⟩ | ⟨hPlace, hOld⟩
    · rw [hHandle'] at hOwn
      cases hOwn
    · refine ⟨hOld, fun hSame => ?_⟩
      cases hSame
      exact hPlace
        (hLinked.unique hOld hOwn hStatement hHandle)
  case hStays =>
    intro q r st' hOld hOwn hOther
    refine Table.get?_put_eq_some.mpr (.inr ⟨?_, hOld⟩)
    intro hPlace
    subst hPlace
    cases hStatement.symm.trans hOld
    exact hOther (Option.some.inj (hHandle.symm.trans hOwn))
  case hEnded =>
    intro q r hMember hEnded
    rcases Table.get?_put_eq_some.mp hMember with
      ⟨rfl, rfl⟩ | ⟨_, hOld⟩
    · exact hState'
    · exact hLinked.ended hOld hEnded
  case hPending =>
    intro st'
    refine ⟨fun h => ⟨h, fun hSame => ?_⟩, And.left⟩
    exact (hLinked.kept hStatement hHandle).1 (hSame ▸ h)

------------------------------------------------------------
-- Changes Without Calls
------------------------------------------------------------

/-
  The same handles are held by other statements: each handle
  moves along with everything that follows it.
-/
theorem rearranged
    {statements' : Table Place Statement}
    (hLinked : Linked statements t pending hosted issued)
    (hOld : ∀ {q r st}, statements'.get? q = some r →
      r.handle = some st →
        ∃ q', statements.get? q' = some r)
    (hStays : ∀ {q r st}, statements.get? q = some r →
      r.handle = some st →
        ∃ q', statements'.get? q' = some r)
    (hUnique : ∀ {q q' r r' st},
      statements'.get? q = some r → r.handle = some st →
        statements'.get? q' = some r' →
          r'.handle = some st → q = q')
    (hEnded : ∀ {q r}, statements'.get? q = some r →
      r.handle = none → r.state = .finalized) :
    Linked statements' t pending hosted issued where
  alive hMember hOwn := by
    rcases hOld hMember hOwn with ⟨_, hBefore⟩
    exact hLinked.alive hBefore hOwn
  follows hMember hOwn := by
    rcases hOld hMember hOwn with ⟨_, hBefore⟩
    exact hLinked.follows hBefore hOwn
  kept hMember hOwn := by
    rcases hOld hMember hOwn with ⟨_, hBefore⟩
    exact hLinked.kept hBefore hOwn
  unique := hUnique
  ended := hEnded
  fresh := hLinked.fresh
  custody hAlive := by
    rcases hLinked.custody hAlive with h | h | h
    · exact .inl h
    · exact .inr (.inl h)
    · rcases h with ⟨q, r, hBefore, hOwn⟩
      rcases hStays hBefore hOwn with ⟨q', hMember⟩
      exact .inr (.inr ⟨q', r, hMember, hOwn⟩)
  given := hLinked.given
  numbered := hLinked.numbered

/- A statement without a handle is changed or put down. -/
theorem vacated
    (hLinked : Linked statements t pending hosted issued)
    (hEnded : ∀ s, statements.get? p = some s →
      s.handle = none)
    (hHandle' : s'.handle = none)
    (hState' : s'.state = .finalized) :
    Linked (statements.put p s') t pending hosted issued := by
  have hOther : ∀ {q r st},
      (statements.put p s').get? q = some r →
        r.handle = some st → statements.get? q = some r := by
    intro q r st hMember hOwn
    rcases Table.get?_put_eq_some.mp hMember with
      ⟨rfl, rfl⟩ | ⟨_, hOld⟩
    · rw [hHandle'] at hOwn
      cases hOwn
    · exact hOld
  apply hLinked.rearranged
  case hOld =>
    intro q r st hMember hOwn
    exact ⟨q, hOther hMember hOwn⟩
  case hStays =>
    intro q r st hOld hOwn
    refine ⟨q, Table.get?_put_eq_some.mpr
      (.inr ⟨fun hPlace => ?_, hOld⟩)⟩
    subst hPlace
    rw [hEnded r hOld] at hOwn
    cases hOwn
  case hUnique =>
    intro q q' r r' st hFirst hOwn₁ hSecond hOwn₂
    exact hLinked.unique (hOther hFirst hOwn₁) hOwn₁
      (hOther hSecond hOwn₂) hOwn₂
  case hEnded =>
    intro q r hMember hNone
    rcases Table.get?_put_eq_some.mp hMember with
      ⟨rfl, rfl⟩ | ⟨_, hOld⟩
    · exact hState'
    · exact hLinked.ended hOld hNone

/- A statement without a handle is removed. -/
theorem removed
    (hLinked : Linked statements t pending hosted issued)
    (hEnded : ∀ s, statements.get? p = some s →
      s.handle = none) :
    Linked (statements.erase p) t pending hosted issued := by
  apply hLinked.rearranged
  case hOld =>
    intro q r st hMember _
    exact ⟨q, (Table.get?_erase_eq_some.mp hMember).2⟩
  case hStays =>
    intro q r st hOld hOwn
    refine ⟨q, Table.get?_erase_eq_some.mpr
      ⟨fun hPlace => ?_, hOld⟩⟩
    subst hPlace
    rw [hEnded r hOld] at hOwn
    cases hOwn
  case hUnique =>
    intro q q' r r' st hFirst hOwn₁ hSecond hOwn₂
    exact hLinked.unique
      (Table.get?_erase_eq_some.mp hFirst).2 hOwn₁
      (Table.get?_erase_eq_some.mp hSecond).2 hOwn₂
  case hEnded =>
    intro q r hMember hNone
    exact hLinked.ended
      (Table.get?_erase_eq_some.mp hMember).2 hNone

/-
  A statement is taken to another place, where there is no
  statement with a handle.
-/
theorem transferred
    {target : Place}
    (hLinked : Linked statements t pending hosted issued)
    (hStatement : statements.get? p = some s)
    (hOther : p ≠ target)
    (hEnded : ∀ s, statements.get? target = some s →
      s.handle = none) :
    Linked ((statements.put target s).put p s.emptied) t
      pending hosted issued := by
  -- where a statement with a handle came from
  have hFrom : ∀ {q r st},
      ((statements.put target s).put p s.emptied).get? q =
          some r →
        r.handle = some st →
          q = target ∧ r = s ∨
            q ≠ p ∧ q ≠ target ∧
              statements.get? q = some r := by
    intro q r st hMember hOwn
    rcases Table.get?_put_eq_some.mp hMember with
      ⟨rfl, rfl⟩ | ⟨hNotSource, hRest⟩
    · cases hOwn
    · rcases Table.get?_put_eq_some.mp hRest with
        ⟨rfl, rfl⟩ | ⟨hNotTarget, hOld⟩
      · exact .inl ⟨rfl, rfl⟩
      · exact .inr ⟨hNotSource, hNotTarget, hOld⟩
  apply hLinked.rearranged
  case hOld =>
    intro q r st hMember hOwn
    rcases hFrom hMember hOwn with
      ⟨_, rfl⟩ | ⟨_, _, hOld⟩
    · exact ⟨p, hStatement⟩
    · exact ⟨q, hOld⟩
  case hStays =>
    intro q r st hOld hOwn
    by_cases hSource : q = p
    · subst hSource
      cases hStatement.symm.trans hOld
      exact ⟨target, by simp [hOther.symm]⟩
    · by_cases hTarget : q = target
      · subst hTarget
        rw [hEnded r hOld] at hOwn
        cases hOwn
      · exact ⟨q, by simp [hSource, hTarget, hOld]⟩
  case hUnique =>
    intro q q' r r' st hFirst hOwn₁ hSecond hOwn₂
    rcases hFrom hFirst hOwn₁ with
      ⟨rfl, rfl⟩ | ⟨hNot₁, _, hOld₁⟩
    · rcases hFrom hSecond hOwn₂ with
        ⟨rfl, rfl⟩ | ⟨hNot₂, _, hOld₂⟩
      · rfl
      · exact absurd
          (hLinked.unique hOld₂ hOwn₂ hStatement hOwn₁)
          hNot₂
    · rcases hFrom hSecond hOwn₂ with
        ⟨rfl, rfl⟩ | ⟨_, _, hOld₂⟩
      · exact absurd
          (hLinked.unique hOld₁ hOwn₁ hStatement hOwn₂)
          hNot₁
      · exact hLinked.unique hOld₁ hOwn₁ hOld₂ hOwn₂
  case hEnded =>
    intro q r hMember hNone
    rcases Table.get?_put_eq_some.mp hMember with
      ⟨rfl, rfl⟩ | ⟨_, hRest⟩
    · rfl
    · rcases Table.get?_put_eq_some.mp hRest with
        ⟨rfl, rfl⟩ | ⟨_, hOld⟩
      · exact hLinked.ended hStatement hNone
      · exact hLinked.ended hOld hNone

end Linked

end SqliteAccess
