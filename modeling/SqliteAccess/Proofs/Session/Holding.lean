import SqliteAccess.Proofs.Connection.Counting
import SqliteAccess.Proofs.Operation.Journal
import SqliteAccess.Proofs.Session.Power

/-
  The library is held by as many connections as exist.

  While a connection is made or goes away, there is one
  holder more than there are connections.  A connection that
  exists keeps the engine up, and an engine that nobody holds
  has every database released.

  Key definitions include:
    * `World.Held`
    * `Act.surplus`
    * `Deed.Measured`
    * `Plan.Obeys`

  The holders are characterized by:
    * `Library.release_held`
    * `Operation.plan_obeys`
    * `Session.dismantlePlan_obeys`
-/

namespace SqliteAccess

variable {E : Engine}

open Quiet Attempt

------------------------------------------------------------
-- Holders
------------------------------------------------------------

/-
  Whether the library is held by all connections, and by some
  number more, and runs if it is held.
-/
structure World.Held (more : Nat) (w : World E) : Prop where
  orderly : w.housing.Orderly
  counted :
    w.library.holders = w.housing.living.card + more
  up : 0 < w.library.holders → w.library.started = true

/- Where nothing is held or housed anew, nothing changes. -/
theorem World.Held.of_same
    {n : Nat}
    {w w' : World E}
    (hHeld : w.Held n)
    (hLibrary : w'.library = w.library)
    (hHousing : w'.housing = w.housing) :
    w'.Held n := by
  constructor
  · rw [hHousing]
    exact hHeld.orderly
  · rw [hHousing, hLibrary]
    exact hHeld.counted
  · rw [hLibrary]
    exact hHeld.up

/-
  How many more holders than connections there are when
  something is done: one, if a connection is being made or
  has just gone away.
-/
def Act.surplus : Act E → Nat
  | connection (.establish ..) => 1
  | library .release => 1
  | _ => 0

/-
  What is known of a deed: how many holders there are.  When
  it may stop the engine and no connection is left, all
  databases have been released.
-/
structure Deed.Measured (d : Deed E) : Prop where
  held : d.before.world.Held d.act.surplus
  settled :
    d.act = .library .stop ∨ d.act = .library .release →
      d.after.world.housing.living = ∅ →
        d.after.world.trace.AllReleased

namespace Plan

variable {p q : Plan E} {s : Session E}
variable {Q Q' : Session E → Prop}

/-
  Whether all deeds of a plan are measured, and it leads to a
  certain session.
-/
def Obeys
    (p : Plan E)
    (s : Session E)
    (Q : Session E → Prop) : Prop :=
  (∀ d ∈ p.deeds s, d.Measured) ∧ Q (p.last s)

namespace Obeys

theorem done (hEnd : Q s) :
    Obeys (E := E) .done s Q :=
  ⟨fun _ hMember => absurd hMember List.not_mem_nil, hEnd⟩

theorem look
    {next : Session E → Plan E}
    (hNext : (next s).Obeys s Q) :
    (Plan.look next).Obeys s Q :=
  hNext

theorem act
    {a : Act E}
    {next : Bool → Plan E}
    (hFirst : Deed.Measured { act := a, before := s })
    (hRest :
      (next (a.perform.run s).1.isOk).Obeys
        (a.perform.run s).2 Q) :
    Obeys (.act a next) s Q := by
  refine ⟨fun d hMember => ?_, hRest.2⟩
  rcases List.mem_append.mp hMember with hLater | hThis
  · exact hRest.1 d hLater
  · cases List.mem_singleton.mp hThis
    exact hFirst

theorem only
    {a : Act E}
    (hFirst : Deed.Measured { act := a, before := s })
    (hEnd : Q (a.perform.run s).2) :
    Obeys (.only a) s Q :=
  .act hFirst (.done hEnd)

theorem followedBy
    (hFirst : p.Obeys s fun t => q.Obeys t Q) :
    (p.followedBy q).Obeys s Q := by
  refine ⟨fun d hMember => ?_, ?_⟩
  · rw [deeds_followedBy] at hMember
    rcases List.mem_append.mp hMember with hLater | hEarlier
    · exact hFirst.2.1 d hLater
    · exact hFirst.1 d hEarlier
  · rw [last_followedBy]
    exact hFirst.2.2

theorem mono
    (hMore : ∀ t, Q t → Q' t)
    (hObeys : p.Obeys s Q) :
    p.Obeys s Q' :=
  ⟨hObeys.1, hMore _ hObeys.2⟩

/- What is known of the last session of a plan. -/
theorem also
    (hObeys : p.Obeys s Q)
    (hEnd : Q' (p.last s)) :
    p.Obeys s fun t => Q t ∧ Q' t :=
  ⟨hObeys.1, hObeys.2, hEnd⟩

/- A loop that keeps an invariant. -/
theorem each
    {α : Type}
    {f : α → Plan E}
    (hBody : ∀ a t, Q t → (f a).Obeys t Q)
    (l : List α)
    (hInit : Q s) :
    (Plan.each f l).Obeys s Q := by
  induction l generalizing s with
  | nil => exact .done hInit
  | cons a l ih =>
      apply followedBy
      exact (hBody a s hInit).mono fun t hNext => ih hNext

end Obeys

------------------------------------------------------------
-- Plans That Neither Hold nor Connect
------------------------------------------------------------

/- Whether a plan makes calls on guards, and others, only. -/
inductive Aside : Plan E → Prop
  | done : Aside .done
  | look {next}
      (hNext : ∀ s, Aside (next s)) :
      Aside (.look next)
  | guard {call next}
      (hNext : ∀ ok, Aside (next ok)) :
      Aside (.act (.guard call) next)
  | other {x hOther next}
      (hNext : ∀ ok, Aside (next ok)) :
      Aside (.act (.other x hOther) next)

/- Such plans leave all holders and all connections. -/
theorem Aside.obeys
    (hAside : Aside p)
    (hHeld : s.world.Held 0) :
    p.Obeys s fun t => t.world.Held 0 := by
  have hKept : ∀ {A : Effect → Prop} {t : Session E}
      {x : Attempt E Unit},
      ¬ A .power → ¬ A .connect → x.Affects A →
        t.world.Held 0 → (x.run t).2.world.Held 0 := by
    intro A t x hPower hConnect hAffects hHeld
    exact hHeld.of_same
      ((hAffects t).keeps_library hPower)
      ((hAffects t).keeps_housing hConnect)
  induction hAside generalizing s with
  | done => exact .done hHeld
  | look hNext ih => exact ih s hHeld
  | @guard call next hNext ih =>
      refine .act ⟨hHeld, nofun⟩ (ih _ ?_)
      exact hKept
        (A := fun f => f = .compile ∨ f = .guard)
        (by simp) (by simp)
        (call.perform_affects (.inl rfl) (.inr rfl)) hHeld
  | @other x hOther next hNext ih =>
      refine .act ⟨hHeld, nofun⟩ (ih _ ?_)
      exact hKept (A := (· = .compile)) (by simp) (by simp)
        hOther hHeld

end Plan

------------------------------------------------------------
-- Calls on the Library
------------------------------------------------------------

namespace Library

variable {s : Session E} {n : Nat}

/- Starting the engine leaves its holders. -/
theorem start_held
    (hHeld : s.world.Held n) :
    (start.run s).2.world.Held n ∧
      ((start.run s).1 = .ok () →
        (start.run s).2.world.library.started = true) := by
  rcases start_starts s with ⟨hStarts, hHolders⟩
  have hHousing := (start_affects (A := (· = .power)) rfl
    s).keeps_housing (by simp)
  have hUp : 0 < s.world.library.holders →
      (start.run s).2.world.library.started = true := by
    intro hSome
    have hWas := hHeld.up hSome
    cases hStarts with
    | running _ _ hStill => exact hStill
    | refused _ _ hDown => rw [hWas] at hDown; cases hDown
    | done _ _ hDown => rw [hWas] at hDown; cases hDown
  refine ⟨⟨?_, ?_, ?_⟩, fun hOk => ?_⟩
  · rw [hHousing]
    exact hHeld.orderly
  · rw [hHousing, hHolders]
    exact hHeld.counted
  · rw [hHolders]
    exact hUp
  · cases hStarts with
    | running _ _ hStill => exact hStill
    | refused _ hResult => rw [hOk] at hResult; cases hResult
    | done _ _ _ hUp => exact hUp

/- Holding the library is one holder more, if it runs then. -/
theorem hold_held
    (hHeld : s.world.Held n) :
    (hold.run s).2.world.Held
      (if (hold.run s).1.isOk then n + 1 else n) := by
  rcases start_held hHeld with ⟨hStill, hUp⟩
  rcases hold_run s with ⟨hResult, hAfter⟩
  rw [hResult, hAfter]
  cases hRun : (start.run s).1 with
  | error e => exact hStill
  | ok _ =>
      exact
        { orderly := hStill.orderly
          counted := congrArg (· + 1) hStill.counted
          up := fun _ => hUp hRun }

/- Stopping the engine leaves its holders. -/
theorem stop_held
    (hHeld : s.world.Held n) :
    (stop s).2.world.Held n := by
  rcases stop_stops s with ⟨hStops, hHolders⟩
  have hHousing := (stop_affects (A := (· = .power)) rfl
    s).keeps_housing (by simp)
  constructor
  · rw [hHousing]
    exact hHeld.orderly
  · rw [hHousing, hHolders]
    exact hHeld.counted
  · rw [hHolders]
    intro hSome
    have hWas := hHeld.up hSome
    cases hStops with
    | down _ hDown => rw [hWas] at hDown; cases hDown
    | deferred _ _ _ hStill => exact hStill
    | refused _ _ _ _ hStill => exact hStill
    | done _ _ _ hFree => omega

/- Giving up a hold is one holder less. -/
theorem release_held
    (hHeld : s.world.Held (n + 1)) :
    (release s).2.world.Held n := by
  have hLess : (oneLess s.world).Held n :=
    { orderly := hHeld.orderly
      counted := by
        show s.world.library.holders - 1 = _
        rw [hHeld.counted]
        rfl
      up := by
        intro hSome
        have hMore : 0 < s.world.library.holders :=
          Nat.lt_of_lt_of_le hSome (Nat.sub_le _ 1)
        exact hHeld.up hMore }
  rw [release_run]
  split
  · exact stop_held (s := { s with world := oneLess s.world })
      hLess
  · exact hLess

end Library

------------------------------------------------------------
-- Plans That Hold and Connect
------------------------------------------------------------

/-
  Whether every connection holds the library, and all handles
  are accounted for.
-/
def Session.Accounted (s : Session E) : Prop :=
  s.world.Held 0 ∧ ∃ h, Sound (s.rest h)

/- Where all is accounted for, a closed database is released. -/
theorem Sound.allReleased
    {s : Session E}
    {h : List StatementHandle}
    (hSound : Sound (s.rest h))
    (hNone : s.world.housing.living = ∅) :
    s.world.trace.AllReleased := by
  intro path flags db answer hOpened hCreated hCode
  have hGone : ∀ c, s.world.connections.get? c = none := by
    intro c
    have hNot : c ∉ s.world.housing.living := by simp [hNone]
    simpa [Table.contains] using hNot
  rcases Session.dead_of_no_connections hSound hGone with
    ⟨_, _, hDead⟩
  have hOnce := (Trace.released_once hSound.lawful hOpened
    hCreated hCode (hDead db)).1
  have hSome : 0 < s.world.trace.countP (·.releases db) :=
    hOnce.symm ▸ Nat.one_pos
  exact List.countP_pos_iff.mp hSome

/- A call on a connection leaves the library as it is. -/
theorem ConnectionCall.keeps_library
    (call : ConnectionCall)
    (s : Session E) :
    (call.perform.run s).2.world.library =
      s.world.library :=
  (call.perform_affects
    (A := fun f => f = .compile ∨ f = .connect)
    (.inl rfl) (.inr rfl) s).keeps_library (by simp)

namespace Operation

variable {s : Session E} {h : List StatementHandle}

/-
  A connection that goes away gives up its hold, and the
  engine may be stopped if all is accounted for afterwards.
-/
theorem goAway_obeys
    {call : ConnectionCall}
    (hHeld : s.world.Held 0)
    (hCall : Act.surplus (E := E) (.connection call) = 0)
    (hGone :
      (call.perform.run s).2.world.housing.Orderly ∧
        (call.perform.run s).2.world.housing.living.card + 1 =
          s.world.housing.living.card)
    (hSound :
      Sound (((Plan.act (.connection call) fun _ =>
        .only (.library .release)).last s).rest h)) :
    (Plan.act (.connection call) fun _ =>
      .only (.library .release)).Obeys s
        Session.Accounted := by
  have hLibrary := call.keeps_library s
  have hMore : (call.perform.run s).2.world.Held 1 :=
    { orderly := hGone.1
      counted := by
        rw [hLibrary, hHeld.counted, hGone.2, Nat.add_zero]
      up := by
        rw [hLibrary]
        exact hHeld.up }
  have hBefore : s.world.Held
      (Act.surplus (E := E) (.connection call)) := by
    rw [hCall]
    exact hHeld
  refine .act ⟨hBefore, nofun⟩ ?_
  refine .only ⟨hMore, fun _ hNone => ?_⟩
    ⟨Library.release_held hMore, h, hSound⟩
  exact hSound.allReleased hNone

/-
  A step that cannot fail keeps everything accounted for.
-/
theorem sound_of_quiet
    {x : Quiet E Unit}
    {R : World E → Prop}
    (hSound : Sound (s.rest h))
    (hLeads : Quiet.Leads (fun _ => True) (s.rest h)
      (s.rest h).world x fun _ g =>
        g.custody = { hosted := h } ∧ R g.world) :
    Sound ((x s).2.rest h) ∧ R (x s).2.world := by
  rcases Session.steps_of_quiet hSound hLeads with
    ⟨hSteps, hR⟩
  exact ⟨hSteps.sound hSound, hR⟩

/- All is accounted for after a slot was vacated. -/
theorem vacateConnection_sound
    (n : Nat)
    (hSound : Sound (s.rest h)) :
    Sound ((vacateConnection n s).2.rest h) :=
  (sound_of_quiet
    (R := fun w => w.serialized = s.world.serialized ∧
      ∀ m, w.plain.get? m =
        if m = n then none else s.world.plain.get? m)
    hSound
    ((vacateConnection_leads (g := s.rest h)
      (fun _ => trivial) (fun _ => trivial) trivial
      (Custody.atRest_of_hosted h) fun _ _ => trivial).mono
        fun _ _ _ _ hVacated =>
          ⟨hVacated.1.custody, hVacated.2⟩)).1

theorem vacateSerialized_sound
    (z : Nat)
    (hSound : Sound (s.rest h)) :
    Sound ((vacateSerialized z s).2.rest h) ∧
      (vacateSerialized z s).2.world.plain =
        s.world.plain := by
  have hAfter := sound_of_quiet
    (R := fun w => w.plain = s.world.plain ∧
      ∀ m, w.serialized.get? m =
        if m = z then none else s.world.serialized.get? m)
    hSound
    ((vacateSerialized_leads (g := s.rest h)
      (fun _ => trivial) (fun _ => trivial) trivial
      (Custody.atRest_of_hosted h) fun _ _ => trivial).mono
        fun _ _ _ _ hVacated =>
          ⟨hVacated.1.custody, hVacated.2⟩)
  exact ⟨hAfter.1, hAfter.2.1⟩

/- What is looked for is found, or nothing is done. -/
theorem ifFound_obeys
    {α : Type}
    {found : Session E → Option α}
    {next : α → Plan E}
    {Q : Session E → Prop}
    (hNext : ∀ a, found s = some a → (next a).Obeys s Q)
    (hEnd : Q s) :
    (ifFound found next).Obeys s Q := by
  unfold ifFound
  apply Plan.Obeys.look
  cases hFound : found s with
  | none => exact .done hEnd
  | some a => exact hNext a hFound

/- Vacating a slot keeps everything accounted for. -/
theorem vacatePlan_obeys
    (n : Nat)
    (hAccounted : s.Accounted) :
    (vacatePlan n).Obeys s Session.Accounted := by
  refine ifFound_obeys (fun id hSlot => ?_) hAccounted
  rcases hAccounted with ⟨hHeld, h, hSound⟩
  have hAfter := vacateConnection_sound n hSound
  rw [← vacatePlan_last, vacatePlan, last_of_found hSlot]
    at hAfter
  exact goAway_obeys hHeld rfl
    (ConnectionCall.vacate_housing hHeld.orderly hSlot) hAfter

theorem vacateSerializedPlan_obeys
    (z : Nat)
    (hAccounted : s.Accounted) :
    (vacateSerializedPlan z).Obeys s Session.Accounted := by
  refine ifFound_obeys (fun id hSlot => ?_) hAccounted
  rcases hAccounted with ⟨hHeld, h, hSound⟩
  have hAfter := (vacateSerialized_sound z hSound).1
  rw [← vacateSerializedPlan_last, vacateSerializedPlan,
    last_of_found hSlot] at hAfter
  exact goAway_obeys hHeld rfl
    (ConnectionCall.vacateSerialized_housing hHeld.orderly
      hSlot) hAfter

/-
  A connection that is established keeps its hold, and one
  that is not gives it up.
-/
theorem establish_obeys
    (c : Nat)
    (path : Bytes)
    (options : ConnectionOptions)
    (hHeld : s.world.Held 1)
    (hSound :
      Sound (((Plan.act
        (.connection (.establish c path options)) fun ok =>
          if ok then .done
          else .only (.library .release)).last s).rest h)) :
    (Plan.act (.connection (.establish c path options))
      fun ok =>
        if ok then .done
        else .only (.library .release)).Obeys s
          fun t => t.world.Held 0 := by
  let call : ConnectionCall := .establish c path options
  have hLibrary := call.keeps_library s
  have hHoused := ConnectionCall.establish_housing
    hHeld.orderly c path options
  have hMore : ∀ n,
      (call.perform.run s).2.world.housing.living.card + n =
        s.world.housing.living.card + 1 →
      (call.perform.run s).2.world.Held n := by
    intro n hCount
    constructor
    · exact hHoused.1
    · rw [hLibrary, hHeld.counted, hCount]
    · rw [hLibrary]
      exact hHeld.up
  have hLast : (Plan.act (.connection call) fun ok =>
      if ok then .done
      else .only (.library .release)).last s =
        (if (call.perform.run s).1.isOk then Plan.done
        else .only (.library .release)).last
          (call.perform.run s).2 := rfl
  rw [hLast] at hSound
  refine .act ⟨hHeld, nofun⟩ ?_
  show Plan.Obeys (if (call.perform.run s).1.isOk then _
    else _) (call.perform.run s).2 _
  have hCount : (call.perform.run s).2.world.housing.living.card =
      s.world.housing.living.card +
        if (call.perform.run s).1.isOk then 1 else 0 :=
    hHoused.2
  cases hOk : (call.perform.run s).1.isOk with
  | true =>
      rw [hOk] at hCount
      exact .done (hMore 0 hCount)
  | false =>
      rw [hOk] at hCount hSound
      have hStill := hMore 1 (congrArg (· + 1) hCount)
      refine .only ⟨hStill, fun _ hNone => ?_⟩
        (Library.release_held hStill)
      exact Sound.allReleased hSound hNone

/- Opening keeps everything accounted for. -/
theorem openPlan_obeys
    (c : Nat)
    (path : Bytes)
    (options : ConnectionOptions)
    (hAccounted : s.Accounted)
    (hSound : Sound (((openPlan c path options).last s).rest
      h)) :
    (openPlan c path options).Obeys s
      fun t => t.world.Held 0 := by
  unfold openPlan at hSound ⊢
  rw [Plan.last_followedBy] at hSound
  apply Plan.Obeys.followedBy
  have hVacated := vacatePlan_obeys c hAccounted
  refine ⟨hVacated.1, ?_⟩
  have hHeld := hVacated.2.1
  generalize (vacatePlan c).last s = t at hHeld hSound ⊢
  have hMore := Library.hold_held hHeld
  have hMeasured : Deed.Measured
      { act := .library .hold, before := t } :=
    ⟨hHeld, by rintro (hIs | hIs) <;> cases hIs⟩
  refine .act hMeasured ?_
  have hLast : (Plan.andThen (.library .hold) (.act
      (.connection (.establish c path options)) fun ok =>
        if ok then .done
        else .only (.library .release))).last t =
      (if (Library.hold.run t).1.isOk then Plan.act
        (.connection (.establish c path options)) fun ok =>
          if ok then .done
          else .only (.library .release)
      else .done).last (Library.hold.run t).2 := rfl
  rw [hLast] at hSound
  show Plan.Obeys (if (Library.hold.run t).1.isOk then _
    else _) (Library.hold.run t).2 _
  cases hOk : (Library.hold.run t).1.isOk with
  | false =>
      rw [hOk] at hMore
      exact .done hMore
  | true =>
      rw [hOk] at hMore hSound
      exact establish_obeys c path options hMore hSound

/- Serializing a connection keeps its hold. -/
theorem serializePlan_obeys
    {c : Nat}
    {id : ConnectionId}
    (z : Nat)
    (hAccounted : s.Accounted)
    (hSlot : s.world.plain.get? c = some id) :
    ((vacateSerializedPlan z).followedBy
      (.only (.connection (.serialize z c id)))).Obeys s
        fun t => t.world.Held 0 := by
  rcases hAccounted.2 with ⟨h, hSound⟩
  have hPlain := (vacateSerialized_sound z hSound).2
  rw [← vacateSerializedPlan_last] at hPlain
  apply Plan.Obeys.followedBy
  have hVacated := vacateSerializedPlan_obeys z hAccounted
  refine ⟨hVacated.1, ?_⟩
  have hHeld := hVacated.2.1
  generalize (vacateSerializedPlan z).last s = t at hHeld hPlain ⊢
  let call : ConnectionCall := .serialize z c id
  have hLibrary := call.keeps_library t
  have hHoused := ConnectionCall.serialize_housing (z := z)
    hHeld.orderly (hPlain ▸ hSlot)
  refine .only ⟨hHeld, nofun⟩ ?_
  exact
    { orderly := hHoused.1
      counted := hLibrary ▸ hHoused.2 ▸ hHeld.counted
      up := hLibrary ▸ hHeld.up }

------------------------------------------------------------
-- Plans of Operations
------------------------------------------------------------

open Plan (Aside)

theorem bodyPlan_aside
    {next : Bool → Plan E}
    (hNext : ∀ ok, Aside (next ok))
    (c : ConnectionId)
    (body : List TransactionItem) :
    Aside (bodyPlan c next body) := by
  induction body with
  | nil => exact hNext true
  | cons item r ih =>
      have hRest : ∀ ok : Bool, Aside
          (if ok then bodyPlan c next r else next false) := by
        intro ok
        cases ok with
        | true => exact ih
        | false => exact hNext false
      cases item with
      | execute sql => exact .other hRest
      | raise message => exact hNext false
      | commit => exact .guard hRest
      | rollback => exact .guard hRest

theorem withinPlan_aside
    (c : ConnectionId)
    (body : List TransactionItem) :
    Aside (E := E) (withinPlan c body) := by
  refine .guard fun ok => ?_
  cases ok with
  | false => exact .done
  | true =>
      refine bodyPlan_aside (fun ok => ?_) c body
      cases ok with
      | true => exact .guard fun _ => .guard fun _ => .done
      | false => exact .guard fun _ => .done

theorem ifFound_aside
    {α : Type}
    {found : Session E → Option α}
    {next : α → Plan E}
    (hNext : ∀ a, Aside (next a)) :
    Aside (ifFound found next) := by
  refine .look fun s => ?_
  cases found s with
  | none => exact .done
  | some a => exact hNext a

theorem onGuard_aside
    {next : Plan E}
    (hNext : Aside next)
    (k : GuardKind)
    (n : Nat) :
    Aside (onGuard k n next) := by
  refine .look fun s => ?_
  split
  · exact hNext
  · exact .done

theorem relocatePlan_aside
    (k : GuardKind)
    (source target : Nat) :
    Aside (E := E) (relocatePlan k source target) := by
  refine .look fun s => ?_
  split
  · exact .guard fun _ => .guard fun _ => .done
  · exact .done

theorem overwritePlan_aside
    (k : GuardKind)
    (source target : Nat) :
    Aside (E := E) (overwritePlan k source target) := by
  refine .look fun s => ?_
  split
  · exact .guard fun _ => .done
  · exact .done

/-
  Whether an operation has to do with the use of the engine
  or with connections that come and go.
-/
def housekeeps : Operation → Bool
  | library _ => true
  | openConnection .. => true
  | dropConnection _ => true
  | serialize .. => true
  | dropSerialized _ => true
  | _ => false

/- Other operations neither hold nor connect. -/
theorem specialPlan_aside
    {op : Operation}
    (hApart : op.housekeeps = false) :
    Aside (E := E) op.specialPlan := by
  have hOne : ∀ {call : GuardCall},
      Aside (E := E) (.only (.guard call)) := fun {_} =>
    .guard fun _ => .done
  have hBoth : ∀ {k : GuardKind} {p : Place}
      {call : GuardCall}, Aside (E := E)
        (.act (.guard (.destroy k p)) fun _ =>
          .only (.guard call)) := fun {_ _ _} =>
    .guard fun _ => hOne
  cases op with
  | connection c r =>
      cases r with
      | withTransaction body returns =>
          exact ifFound_aside fun id => withinPlan_aside id body
      | _ => exact .done
  | begin c t type => exact ifFound_aside fun id => hBoth
  | moveTransaction source target =>
      exact relocatePlan_aside _ _ _
  | assignTransaction source target =>
      exact overwritePlan_aside _ _ _
  | dropTransaction t => exact onGuard_aside hOne _ _
  | transaction t r =>
      cases r with
      | commit => exact onGuard_aside hOne _ _
      | rollback => exact onGuard_aside hOne _ _
      | info => exact .done
  | savepoint t p name => exact onGuard_aside hBoth _ _
  | savepointOn c p name => exact ifFound_aside fun id => hBoth
  | moveSavepoint source target =>
      exact relocatePlan_aside _ _ _
  | assignSavepoint source target =>
      exact overwritePlan_aside _ _ _
  | dropSavepoint p => exact onGuard_aside hOne _ _
  | askSavepoint p r =>
      cases r with
      | release => exact onGuard_aside hOne _ _
      | rollback => exact onGuard_aside hOne _ _
      | info => exact .done
  | library | openConnection | dropConnection | serialize
  | dropSerialized => cases hApart
  | _ => exact .done

theorem plan_aside
    {op : Operation}
    (hApart : op.housekeeps = false) :
    Aside (E := E) op.plan := by
  unfold plan
  split
  case isTrue => exact .other fun _ => .done
  case isFalse => exact specialPlan_aside hApart

/- A call on the library that only starts or stops. -/
theorem switch_obeys
    {call : LibraryCall}
    (hHeld : s.world.Held 0)
    (hSwitch : call = .start ∨ call = .stop)
    (hSound :
      Sound (((call.perform).run s).2.rest h)) :
    (Plan.only (.library call)).Obeys s
      fun t => t.world.Held 0 := by
  have hBefore : s.world.Held
      (Act.surplus (E := E) (.library call)) := by
    rcases hSwitch with rfl | rfl <;> exact hHeld
  refine .only ⟨hBefore, fun _ hNone => ?_⟩ ?_
  · exact Sound.allReleased hSound hNone
  · rcases hSwitch with rfl | rfl
    · exact (Library.start_held hHeld).1
    · exact Library.stop_held hHeld

/- The plan of an operation keeps everything accounted for. -/
theorem specialPlan_obeys
    {op : Operation}
    (hSpecial : op.isOrdinary = false)
    (hAccounted : s.Accounted)
    (hSound : Sound ((op.specialPlan.last s).rest h)) :
    op.specialPlan.Obeys s fun t => t.world.Held 0 := by
  have hHeld := hAccounted.1
  cases hApart : op.housekeeps with
  | false =>
      exact (specialPlan_aside hApart).obeys hHeld
  | true =>
      cases op with
      | library r =>
          cases r with
          | start => exact switch_obeys hHeld (.inl rfl) hSound
          | stop => exact switch_obeys hHeld (.inr rfl) hSound
          | _ => cases hSpecial
      | openConnection c path options =>
          exact openPlan_obeys c path options hAccounted hSound
      | dropConnection c =>
          exact (vacatePlan_obeys c hAccounted).mono
            fun t hEnd => hEnd.1
      | serialize z c =>
          cases c with
          | none =>
              exact (vacateSerializedPlan_obeys z
                hAccounted).mono fun t hEnd => hEnd.1
          | some c =>
              exact ifFound_obeys (fun id hSlot =>
                serializePlan_obeys z hAccounted hSlot) hHeld
      | dropSerialized z =>
          exact (vacateSerializedPlan_obeys z hAccounted).mono
            fun t hEnd => hEnd.1
      | _ => cases hApart

/- Between operations everything is accounted for. -/
theorem plan_obeys
    (op : Operation)
    (hAccounted : s.Accounted) :
    op.plan.Obeys s Session.Accounted := by
  rcases hAccounted.2 with ⟨h, hSound⟩
  have hAfter := (Session.run_steps op hSound).sound hSound
  rw [← plan_last] at hAfter
  have hHeld : op.plan.Obeys s fun t => t.world.Held 0 := by
    unfold plan at hAfter ⊢
    split
    case isTrue hOrdinary =>
      exact (Aside.other fun _ => .done).obeys hAccounted.1
    case isFalse hSpecial =>
      rw [dif_neg hSpecial] at hAfter
      exact specialPlan_obeys
        (Bool.eq_false_iff.mpr hSpecial) hAccounted hAfter
  exact hHeld.also ⟨_, hAfter⟩

end Operation

------------------------------------------------------------
-- The End of a Session
------------------------------------------------------------

namespace Session

variable {s : Session E}

/- Guards that are destroyed leave all connections. -/
theorem guardsPlan_obeys
    (k : GuardKind)
    (found : World E → List Place)
    (hHeld : s.world.Held 0) :
    (guardsPlan k found).Obeys s fun t => t.world.Held 0 :=
  Plan.Obeys.each
    (fun _ _ hHeld =>
      (Plan.Aside.guard fun _ => .done).obeys hHeld)
    _ hHeld

/- All but the connections is destroyed at first. -/
theorem objectsPlan_obeys
    (hAccounted : s.Accounted) :
    objectsPlan.Obeys s Session.Accounted := by
  rcases hAccounted with ⟨hHeld, h, hSound⟩
  have hAfter := Operation.sound_of_quiet
    (R := fun _ => True) hSound <|
      (destroyObjects_keeps (s.rest h)
        ⟨Custody.atRest_of_hosted h, fun _ => trivial⟩).mono
          fun _ _ _ _ hSame => ⟨hSame, trivial⟩
  have hStill : objectsPlan.Obeys s fun t =>
      t.world.Held 0 := by
    unfold objectsPlan
    apply Plan.Obeys.followedBy
    apply (guardsPlan_obeys _ _ hHeld).mono
    intro t hHeld
    apply Plan.Obeys.followedBy
    apply (guardsPlan_obeys _ _ hHeld).mono
    intro t hHeld
    exact (Plan.Aside.other fun _ => .done).obeys hHeld
  rw [← objectsPlan_last] at hAfter
  exact hStill.also ⟨h, hAfter.1⟩

/- The end of a session keeps everything accounted for. -/
theorem dismantlePlan_obeys
    (hAccounted : s.Accounted) :
    dismantlePlan.Obeys s Session.Accounted := by
  apply Plan.Obeys.followedBy
  apply (objectsPlan_obeys hAccounted).mono
  intro t hAccounted
  apply Plan.Obeys.followedBy
  have hSerialized := Plan.Obeys.each
    (fun z _ => Operation.vacateSerializedPlan_obeys z)
    (slots t.world.serialized) hAccounted
  apply Plan.Obeys.mono (p := .look fun s => .each
    Operation.vacateSerializedPlan (slots s.world.serialized))
    _ hSerialized
  intro t hAccounted
  exact Plan.Obeys.each
    (fun c _ => Operation.vacatePlan_obeys c)
    (slots t.world.plain) hAccounted

end Session

end SqliteAccess
