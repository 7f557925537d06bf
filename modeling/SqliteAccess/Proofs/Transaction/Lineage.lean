import SqliteAccess.Proofs.Operation.Journal

/-
  Lineages of guards.

  The objects that a guard passes through when it is moved
  are of one lineage, which is known by the number of the
  deed that constructed the first of them.  At most one of
  them is active at a time, and none ever is again once the
  active one has ended itself or has gone away.

  Key definitions include:
    * `lineages`
    * `Traced`
    * `Deed.Ends`
    * `Session.GuardDiscipline`

  The lineages are characterized by:
    * `Traced.after`
    * `Inert.after`
    * `Session.guards_end_once`
-/

namespace SqliteAccess

variable {E : Engine}

open Attempt

------------------------------------------------------------
-- Lineages
------------------------------------------------------------

/- The lineage of each guard, if it is of one. -/
abbrev Lineages :=
  GuardKind → Place → Option Nat

namespace Deed

/- The guard that a deed has constructed. -/
def creates? (d : Deed E) : Option (GuardKind × Place) :=
  match d.act with
  | .guard call =>
      if d.result.isOk then call.creates? else none
  | _ => none

/- Where a guard was before a deed. -/
def origin (d : Deed E) (k : GuardKind) (q : Place) : Place :=
  match d.act with
  | .guard call => call.origin d.before.world k q
  | _ => q

/- Whether a guard was destroyed by a deed. -/
def Destroys
    (d : Deed E)
    (k : GuardKind)
    (q : Place) : Prop :=
  match d.act with
  | .guard call => call = .destroy k q
  | _ => False

instance
    (d : Deed E)
    (k : GuardKind)
    (q : Place) : Decidable (d.Destroys k q) := by
  unfold Destroys
  split <;> infer_instance

/-
  The lineages after a deed.  A guard that is constructed
  founds a lineage, and one that is moved takes its own along
  to its new place.
-/
def passOn
    (d : Deed E)
    (number : Nat)
    (L : Lineages) : Lineages :=
  fun k q =>
    if d.creates? = some (k, q) then some number
    else if d.Destroys k q then none
    else L k (d.origin k q)

end Deed

/-
  The lineages after some deeds, the latest of which comes
  first.
-/
def lineages : List (Deed E) → Lineages
  | [] => fun _ _ => none
  | d :: earlier =>
      d.passOn earlier.length (lineages earlier)

------------------------------------------------------------
-- What a Deed Does to Active Guards
------------------------------------------------------------

namespace Deed

variable {d : Deed E} {call : GuardCall} {L : Lineages}
variable {k k' : GuardKind} {p q q' : Place} {g g' : Guard}
variable {m n : Nat}

/-
  A guard that is active after a deed was constructed by it,
  or was active before it.
-/
theorem active_before
    (hActive : d.after.world.active k q = some g) :
    d.creates? = some (k, q) ∨
      d.before.world.active k (d.origin k q) = some g := by
  cases hAct : d.act with
  | guard call =>
      simp only [after, hAct] at hActive
      simp only [creates?, origin, result, hAct]
      have hCases := GuardCall.active_after hActive
      refine hCases.imp_left fun hCreated => ?_
      have hOk : (call.perform.run d.before).1.isOk := by
        rw [hCreated.2]
        rfl
      simp only [Act.perform, hOk, if_true]
      exact hCreated.1
  | _ =>
      right
      rw [d.keeps_guards (by simp [hAct])] at hActive
      simpa only [origin, hAct] using hActive

/- Active guards of a kind have come from different places. -/
theorem origin_injective
    (hActive : d.after.world.active k q = some g)
    (hActive' : d.after.world.active k q' = some g')
    (hSame : d.origin k q = d.origin k q') :
    q = q' := by
  cases hAct : d.act with
  | guard call =>
      simp only [after, hAct] at hActive hActive'
      simp only [origin, hAct] at hSame
      exact GuardCall.origin_injective hActive hActive' hSame
  | _ =>
      simp only [origin, hAct] at hSame
      exact hSame

/- A guard that is destroyed is not active. -/
theorem inactive_of_destroys
    (hDestroys : d.Destroys k q) :
    d.after.world.active k q = none := by
  cases hAct : d.act with
  | guard call =>
      simp only [Destroys, hAct] at hDestroys
      simp only [after, hAct]
      subst hDestroys
      exact GuardCall.removed rfl rfl
  | _ => simp only [Destroys, hAct] at hDestroys

/- A guard that is constructed founds a lineage. -/
theorem passOn_of_creates
    (hCreates : d.creates? = some (k, q)) :
    d.passOn n L k q = some n :=
  if_pos hCreates

/- A guard that is active otherwise is of its old lineage. -/
theorem passOn_of_active
    (hOld : d.creates? ≠ some (k, q))
    (hActive : d.after.world.active k q = some g) :
    d.passOn n L k q = L k (d.origin k q) := by
  unfold passOn
  rw [if_neg hOld, if_neg]
  intro hDestroys
  rw [inactive_of_destroys hDestroys] at hActive
  cases hActive

/-
  Whether a guard has ended itself by a deed, or was active
  and has gone away.
-/
def Ends
    (d : Deed E)
    (k : GuardKind)
    (p : Place) : Prop :=
  ∃ call, d.act = .guard call ∧
    (call.settles? = some (k, p) ∧ d.result = .ok () ∨
      call.removes? = some (k, p) ∧
        (d.before.world.active k p).isSome)

/- A guard that ends was active. -/
theorem Ends.active
    (hEnds : d.Ends k p) :
    (d.before.world.active k p).isSome := by
  rcases hEnds with ⟨call, hAct, ⟨hSettles, hDone⟩ | hRemoves⟩
  · simp only [result, hAct] at hDone
    exact (GuardCall.settled hSettles hDone).1
  · exact hRemoves.2

/- It constructs nothing, and is active nowhere afterwards. -/
theorem Ends.inactive
    (hEnds : d.Ends k p) :
    d.creates? = none ∧
      ∀ q, d.origin k q = p →
        d.after.world.active k q = none := by
  rcases hEnds with ⟨call, hAct, ⟨hSettles, hDone⟩ | hRemoves⟩
  · simp only [creates?, origin, after, result, hAct] at hDone ⊢
    have hSettled := GuardCall.settled hSettles hDone
    cases call <;> cases hSettles <;>
      exact ⟨ite_self none, fun q hSame => hSame ▸ hSettled.2⟩
  · simp only [creates?, origin, after, hAct]
    refine ⟨?_, fun q hSame =>
      GuardCall.removed hRemoves.1 hSame⟩
    cases call <;>
      first
        | exact ite_self none
        | cases hRemoves.1

end Deed

------------------------------------------------------------
-- Tracing Guards
------------------------------------------------------------

/-
  Whether each active guard is of a lineage that was founded
  so far, and the only active one of it.
-/
structure Traced
    (L : Lineages)
    (count : Nat)
    (w : World E) : Prop where
  known : ∀ {k p g}, w.active k p = some g →
    ∃ m, L k p = some m ∧ m < count
  single : ∀ {k p g k' p' g' m},
    w.active k p = some g →
    w.active k' p' = some g' →
    L k p = some m →
    L k' p' = some m →
    (k, p) = (k', p')

/- Whether no guard of a lineage is active. -/
def Inert
    (m : Nat)
    (L : Lineages)
    (w : World E) : Prop :=
  ∀ k p, L k p = some m → w.active k p = none

variable {d : Deed E} {L : Lineages} {n m : Nat}

/- A deed leaves guards of different lineages active. -/
theorem Traced.after
    (hTraced : Traced L n d.before.world) :
    Traced (d.passOn n L) (n + 1) d.after.world where
  known := by
    intro k q g hActive
    by_cases hNew : d.creates? = some (k, q)
    case pos =>
      exact ⟨n, Deed.passOn_of_creates hNew, Nat.lt_succ_self n⟩
    rw [Deed.passOn_of_active hNew hActive]
    rcases Deed.active_before hActive with hCreated | hBefore
    · exact absurd hCreated hNew
    · rcases hTraced.known hBefore with ⟨m, hLabel, hOld⟩
      exact ⟨m, hLabel, Nat.lt_succ_of_lt hOld⟩
  single := by
    -- an old guard is not of the lineage that is founded
    have hFounded : ∀ {k q g}, d.creates? ≠ some (k, q) →
        d.after.world.active k q = some g →
        d.passOn n L k q ≠ some n := by
      intro k q g hOld hActive hLabel
      rw [Deed.passOn_of_active hOld hActive] at hLabel
      rcases Deed.active_before hActive with hNew | hBefore
      · exact hOld hNew
      · rcases hTraced.known hBefore with ⟨m, hLabel', hLess⟩
        rw [hLabel] at hLabel'
        cases hLabel'
        exact Nat.lt_irrefl n hLess
    intro k q g k' q' g' m hActive hActive' hLabel hLabel'
    by_cases hNew : d.creates? = some (k, q)
    · rw [Deed.passOn_of_creates hNew] at hLabel
      cases hLabel
      by_cases hNew' : d.creates? = some (k', q')
      · rw [hNew] at hNew'
        exact Option.some.inj hNew'
      · exact absurd hLabel' (hFounded hNew' hActive')
    · by_cases hNew' : d.creates? = some (k', q')
      · rw [Deed.passOn_of_creates hNew'] at hLabel'
        cases hLabel'
        exact absurd hLabel (hFounded hNew hActive)
      · rw [Deed.passOn_of_active hNew hActive] at hLabel
        rw [Deed.passOn_of_active hNew' hActive'] at hLabel'
        have hSame := hTraced.single
          ((Deed.active_before hActive).resolve_left hNew)
          ((Deed.active_before hActive').resolve_left hNew')
          hLabel hLabel'
        cases congrArg Prod.fst hSame
        have hOrigin := congrArg Prod.snd hSame
        rw [Deed.origin_injective hActive hActive' hOrigin]

/- After any deeds, guards can be traced. -/
theorem traced
    {s s' : Session E}
    {journal : List (Deed E)}
    (hNone : ∀ k p, s.world.active k p = none)
    (hChained : Chained s journal s') :
    Traced (lineages journal) journal.length s'.world := by
  induction journal generalizing s' with
  | nil =>
      cases hChained
      refine ⟨?_, ?_⟩ <;>
        · intros
          simp_all
  | cons d earlier ih =>
      rw [← hChained.2]
      exact (ih hChained.1).after

/- No guard is active in a lineage that has ended. -/
theorem Inert.after
    (hInert : Inert m L d.before.world)
    (hOld : m < n) :
    Inert m (d.passOn n L) d.after.world := by
  intro k q hLabel
  cases hActive : d.after.world.active k q with
  | none => rfl
  | some g =>
      by_cases hNew : d.creates? = some (k, q)
      · rw [Deed.passOn_of_creates hNew] at hLabel
        cases hLabel
        exact absurd hOld (Nat.lt_irrefl n)
      · rw [Deed.passOn_of_active hNew hActive] at hLabel
        rcases Deed.active_before hActive with
          hCreated | hBefore
        · exact absurd hCreated hNew
        · rw [hInert _ _ hLabel] at hBefore
          cases hBefore

/- A lineage ends with its active guard. -/
theorem Deed.Ends.inert
    {k : GuardKind}
    {p : Place}
    (hEnds : d.Ends k p)
    (hTraced : Traced L n d.before.world)
    (hLabel : L k p = some m) :
    Inert m (d.passOn n L) d.after.world := by
  rcases hEnds.inactive with ⟨hNone, hGone⟩
  rcases Option.isSome_iff_exists.mp hEnds.active with
    ⟨g, hWas⟩
  intro k' q hLabel'
  cases hActive : d.after.world.active k' q with
  | none => rfl
  | some g' =>
      have hOld : d.creates? ≠ some (k', q) := by simp [hNone]
      rw [Deed.passOn_of_active hOld hActive] at hLabel'
      have hBefore :=
        (Deed.active_before hActive).resolve_left hOld
      have hSame :=
        hTraced.single hWas hBefore hLabel hLabel'
      cases congrArg Prod.fst hSame
      rw [hGone q (congrArg Prod.snd hSame).symm] at hActive
      cases hActive

/- A lineage that has ended stays so. -/
theorem inert_later
    {s s' : Session E}
    {later earlier : List (Deed E)}
    (hInert : Inert m (lineages earlier) s.world)
    (hOld : m < earlier.length)
    (hChained : Chained s later s') :
    Inert m (lineages (later ++ earlier)) s'.world := by
  induction later generalizing s' with
  | nil =>
      cases hChained
      exact hInert
  | cons d l ih =>
      rw [← hChained.2]
      refine (ih hChained.1).after ?_
      show m < (l ++ earlier).length
      rw [List.length_append]
      exact Nat.lt_add_left _ hOld

------------------------------------------------------------
-- What Guards Send
------------------------------------------------------------

namespace Deed

variable {call : GuardCall} {k : GuardKind} {p : Place}
variable {g : Guard}

/- A call on a guard sends the texts that it may. -/
theorem sent_sublist
    (hAct : d.act = .guard call) :
    d.sent.Sublist (call.texts d.before.world) := by
  rcases call.sends d.before with ⟨l, hSent, hSub⟩
  have hAfter : d.after.sent = l ++ d.before.sent := by
    simp only [after, hAct]
    exact hSent
  rw [d.sent_after] at hAfter
  rw [List.append_cancel_right hAfter]
  exact hSub

/- A guard that is not active sends nothing. -/
theorem silent_of_inactive
    (hAct : d.act = .guard call)
    (hSpeaker : call.speaker? = some (k, p))
    (hInactive : d.before.world.active k p = none) :
    d.sent = [] := by
  have hSub := sent_sublist hAct
  rw [GuardCall.texts_of_inactive hSpeaker hInactive] at hSub
  exact List.sublist_nil.mp hSub

/-
  What an active guard that goes away sends depends on what
  its connection says, and on whether it is too long.
-/
theorem leaves_sent
    (hAct : d.act = .guard call)
    (hRemoves : call.removes? = some (k, p))
    (hActive : d.before.world.active k p = some g) :
    d.result = .ok () ∧ g.Leaves d.before d.after ∧
      d.sent =
        if d.before.world.inTransaction g.connection = true ∧
            g.farewell.length ≤ Statement.longestText then
          [g.farewell]
        else [] := by
  rcases GuardCall.leaves hRemoves hActive with
    ⟨hDone, hLeaves⟩
  have hAfter : d.after = (call.perform.run d.before).2 := by
    simp only [after, hAct]
    rfl
  rw [← hAfter] at hLeaves
  refine ⟨?_, hLeaves, ?_⟩
  · simp only [result, hAct]
    exact hDone
  · rw [← List.append_left_inj d.before.sent, ← d.sent_after]
    cases hBusy :
        d.before.world.inTransaction g.connection with
    | true =>
        rw [hLeaves.sent_of_busy
          (GuardKind.farewell_not_blank hActive) hBusy]
        split
        case isTrue hFits => rw [if_pos ⟨rfl, hFits⟩]; rfl
        case isFalse hLong =>
          rw [if_neg fun hBoth => hLong hBoth.2]
          rfl
    | false =>
        rw [hLeaves.sent_of_not_busy hBusy]
        simp

end Deed

------------------------------------------------------------
-- Who Commits
------------------------------------------------------------

/- A text that starts in another way does not commit. -/
theorem Transaction.commit_ne_append
    {start : Bytes}
    {x : UInt8}
    (hFirst : start.head? = some x)
    (hOther : x ≠ 67)
    (rest : Bytes) :
    Bytes.ascii "COMMIT" ≠ start ++ rest := by
  intro hSame
  have hBoth := congrArg List.head? hSame
  have hC : (Bytes.ascii "COMMIT").head? = some 67 := by
    decide +kernel
  rw [List.head?_append, hFirst, hC] at hBoth
  exact hOther (Option.some.inj hBoth).symm

theorem Transaction.commit_ne_beginSql
    (type : TransactionType) :
    Bytes.ascii "COMMIT" ≠ beginSql type := by
  cases type <;> decide +kernel

theorem Savepoint.commit_ne_startSql (name : Bytes) :
    Bytes.ascii "COMMIT" ≠ startSql name :=
  Transaction.commit_ne_append (x := 83)
    (by decide +kernel) (by decide) name

theorem Savepoint.commit_ne_releaseSql (name : Bytes) :
    Bytes.ascii "COMMIT" ≠ releaseSql name :=
  Transaction.commit_ne_append (x := 82)
    (by decide +kernel) (by decide) name

theorem Savepoint.commit_ne_rollbackSql (name : Bytes) :
    Bytes.ascii "COMMIT" ≠ rollbackSql name :=
  Transaction.commit_ne_append (x := 82)
    (by decide +kernel) (by decide) name

/- No guard commits when it goes away or is to roll back. -/
theorem Guard.commit_not_mem
    {k : GuardKind}
    {p : Place}
    {g : Guard}
    {w : World E}
    (hActive : w.active k p = some g) :
    Bytes.ascii "COMMIT" ≠ g.farewell ∧
      Bytes.ascii "COMMIT" ∉ g.withdrawal := by
  cases k with
  | transaction =>
      rcases World.active_transaction hActive with
        ⟨t, _, _, rfl⟩
      have hRollback : Bytes.ascii "COMMIT" ≠
          Bytes.ascii "ROLLBACK" := by decide +kernel
      exact ⟨hRollback, by simpa [Transaction.guard]⟩
  | savepoint =>
      rcases World.active_savepoint hActive with
        ⟨t, _, _, rfl⟩
      exact ⟨Savepoint.commit_ne_releaseSql t.name, by
        simp [Savepoint.guard, Savepoint.commit_ne_rollbackSql,
          Savepoint.commit_ne_releaseSql]⟩

/- Only a guard of a transaction that is active commits. -/
theorem GuardCall.complete_of_commit
    {call : GuardCall}
    {w : World E}
    (hCommit : Bytes.ascii "COMMIT" ∈ call.texts w) :
    ∃ p, call = .complete .transaction p ∧
      (w.active .transaction p).isSome := by
  have hLeft : ∀ {k p}, Bytes.ascii "COMMIT" ∉
      ((w.active k p).map (·.farewell)).toList := by
    intro k p hMem
    cases hActive : w.active k p with
    | none => simp [hActive] at hMem
    | some g =>
        simp [hActive, (Guard.commit_not_mem hActive).1]
          at hMem
  cases call with
  | begin c p type =>
      exact absurd (List.mem_singleton.mp hCommit)
        (Transaction.commit_ne_beginSql type)
  | nest t p name =>
      simp only [texts] at hCommit
      split at hCommit
      · exact absurd (List.mem_singleton.mp hCommit)
          (Savepoint.commit_ne_startSql name)
      · cases hCommit
  | nestOn c p name =>
      exact absurd (List.mem_singleton.mp hCommit)
        (Savepoint.commit_ne_startSql name)
  | complete k p =>
      cases hActive : w.active k p with
      | none => simp [texts, hActive] at hCommit
      | some g =>
          cases k with
          | transaction => exact ⟨p, rfl, by rw [hActive]; rfl⟩
          | savepoint =>
              rcases World.active_savepoint hActive with
                ⟨t, _, _, rfl⟩
              simp [texts, hActive, Savepoint.guard,
                Savepoint.commit_ne_releaseSql] at hCommit
  | rollback k p =>
      cases hActive : w.active k p with
      | none => simp [texts, hActive] at hCommit
      | some g =>
          simp [texts, hActive,
            (Guard.commit_not_mem hActive).2] at hCommit
  | move k source target => cases hCommit
  | assign k source target =>
      simp only [texts] at hCommit
      split at hCommit
      · cases hCommit
      · exact absurd hCommit hLeft
  | destroy k p => exact absurd hCommit hLeft

------------------------------------------------------------
-- Whole Sessions
------------------------------------------------------------

/- A guard that was moved elsewhere is not active. -/
theorem World.inactive_moveGuard
    {w : World E}
    {k : GuardKind}
    {source target : Place} :
    (w.moveGuard k source target).active k source = none := by
  cases hSource : w.hasGuard k source with
  | true =>
      rw [active_moveGuard hSource]
      exact if_pos ⟨rfl, rfl⟩
  | false =>
      rw [moveGuard_of_missing hSource]
      cases hActive : w.active k source with
      | none => rfl
      | some g =>
          rw [hasGuard_of_active hActive] at hSource
          cases hSource

/-
  How guards behave in a session whose deeds are given, the
  latest first:

    * `single`: at any time at most one guard of a lineage is
      active, and every active guard is of a lineage.
    * `inactive`: a guard that is not active sends nothing,
      whatever call is made on it.
    * `moved`: a guard that was moved elsewhere is not active.
    * `commits`: only an active guard of a transaction that
      is asked to commit does so.
    * `finished`: once a guard has ended itself or has gone away,
      no guard of its lineage sends anything.
    * `leaving`: an active guard that is destroyed or
      overwritten makes one attempt to end what it guards if
      its connection exists, is open and says that a
      transaction is open, and sends nothing otherwise.  An
      attempt whose text is too long fails before it is sent.
      The guard itself never fails; the failure of the attempt
      is written to the log once.
    * `itself`: a guard that is moved over itself stays, and
      so does everything else.
-/
structure Session.GuardDiscipline
    (s : Session E)
    (journal : List (Deed E)) : Prop where
  single : ∀ later earlier t,
    journal = later ++ earlier →
    Chained s earlier t →
    ∀ k p, (t.world.active k p).isSome →
      ∃ m, lineages earlier k p = some m ∧
        ∀ k' p', lineages earlier k' p' = some m →
          (t.world.active k' p').isSome →
            k' = k ∧ p' = p
  inactive : ∀ d ∈ journal, ∀ call k p,
    d.act = .guard call →
    call.speaker? = some (k, p) →
    d.before.world.active k p = none →
      d.sent = []
  moved : ∀ d ∈ journal, ∀ k source target,
    d.act = .guard (.move k source target) ∨
      d.act = .guard (.assign k source target) ∧
        source ≠ target →
      d.after.world.active k source = none
  commits : ∀ d ∈ journal, ∀ call,
    d.act = .guard call →
    Bytes.ascii "COMMIT" ∈ d.sent →
      ∃ p, call = .complete .transaction p ∧
        (d.before.world.active .transaction p).isSome
  finished : ∀ later d earlier k p,
    journal = later ++ d :: earlier →
    d.Ends k p →
      ∃ m, lineages earlier k p = some m ∧
        ∀ l d' l' call k' q,
          later = l ++ d' :: l' →
          d'.act = .guard call →
          call.speaker? = some (k', q) →
          lineages (l' ++ d :: earlier) k' q = some m →
            d'.sent = []
  leaving : ∀ d ∈ journal, ∀ call k p g,
    d.act = .guard call →
    call.removes? = some (k, p) →
    d.before.world.active k p = some g →
      d.result = .ok () ∧ g.Leaves d.before d.after ∧
        d.sent =
          if d.before.world.inTransaction g.connection = true ∧
              g.farewell.length ≤ Statement.longestText then
            [g.farewell]
          else []
  itself : ∀ d ∈ journal, ∀ k p,
    d.act = .guard (.assign k p p) →
      d.result = .ok () ∧ d.after = d.before

namespace Session

variable {s s' : Session E} {journal : List (Deed E)}

/-
  Guards that are constructed in a session behave like this,
  whatever the deeds are.
-/
theorem guardDiscipline_of_chained
    (hNone : ∀ k p, s.world.active k p = none)
    (hChained : Chained s journal s') :
    s.GuardDiscipline journal where
  single := by
    rintro later earlier t rfl hEarlier k p hIs
    have hTraced := traced hNone hEarlier
    rcases Option.isSome_iff_exists.mp hIs with ⟨g, hActive⟩
    rcases hTraced.known hActive with ⟨m, hLabel, _⟩
    refine ⟨m, hLabel, fun k' p' hLabel' hIs' => ?_⟩
    rcases Option.isSome_iff_exists.mp hIs' with
      ⟨g', hActive'⟩
    have hSame :=
      hTraced.single hActive' hActive hLabel' hLabel
    exact Prod.mk.inj hSame
  inactive d _ call k p hAct hSpeaker hInactive :=
    Deed.silent_of_inactive hAct hSpeaker hInactive
  moved := by
    rintro d _ k source target (hAct | ⟨hAct, hOther⟩)
    · simp only [Deed.after, hAct]
      show (k.move source target d.before).2.world.active k
        source = none
      rw [GuardKind.move_eq]
      exact World.inactive_moveGuard
    · simp only [Deed.after, hAct]
      show (k.assign source target d.before).2.world.active k
        source = none
      rw [GuardKind.assign_run hOther]
      exact World.inactive_moveGuard
  commits d _ call hAct hCommit :=
    GuardCall.complete_of_commit
      ((Deed.sent_sublist hAct).subset hCommit)
  finished := by
    rintro later d earlier k p rfl hEnds
    rcases hChained.split with ⟨hEarlier, hLater⟩
    have hTraced := traced hNone hEarlier
    rcases Option.isSome_iff_exists.mp hEnds.active with
      ⟨g, hActive⟩
    rcases hTraced.known hActive with ⟨m, hLabel, hOld⟩
    refine ⟨m, hLabel, ?_⟩
    rintro l d' l' call k' q rfl hAct hSpeaker hLabel'
    have hOver : Inert m (lineages (d :: earlier))
        d.after.world := hEnds.inert hTraced hLabel
    have hInert := inert_later hOver
      (Nat.lt_succ_of_lt hOld) hLater.split.1
    exact Deed.silent_of_inactive hAct hSpeaker
      (hInert k' q hLabel')
  leaving d _ call k p g hAct hRemoves hActive :=
    Deed.leaves_sent hAct hRemoves hActive
  itself := by
    intro d _ k p hAct
    have hRun : (d.act.perform.run d.before) =
        (.ok (), d.before) := by
      rw [hAct]
      show (lift (k.assign p p)).run d.before = _
      rw [run_lift, GuardKind.assign_self]
    simp only [Deed.result, Deed.after, hRun, and_self]

/-
  Whatever the engine answers and whatever the operations
  are, guards end what they guard at most once.
-/
theorem guards_end_once
    (engine : E.State)
    (patience : Nat)
    (log : Log)
    (ops : List Operation) :
    Chained (start engine patience log)
        ((start engine patience log).journal ops)
        ((start engine patience log).runAll
          ops).2.dismantle ∧
      (start engine patience log).GuardDiscipline
        ((start engine patience log).journal ops) := by
  have hChained :=
    journal_chained (start engine patience log) ops
  refine ⟨hChained, guardDiscipline_of_chained ?_ hChained⟩
  rintro (_ | _) p <;> rfl

end Session

end SqliteAccess
