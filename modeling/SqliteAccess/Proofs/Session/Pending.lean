import SqliteAccess.Proofs.Session.Counted
import SqliteAccess.Proofs.Statement.Finalized

/-
  Who shuts the engine down that is not needed any more.

  A stop that comes too early is left to the last connection.
  It is forgotten when the library is started again, and so
  it is when somebody tries to open a connection, even if
  that fails.  What was requested last decides.

  Key definitions include:
    * `Deed.requests`
    * `World.Remembers`
    * `Plan.Asks`
    * `Session.ShutdownOwed`

  The shutdown is characterized by:
    * `Deed.Measured.remembers`
    * `Chained.remembers`
    * `Operation.plan_asks`
    * `Session.shutdown_owed`
-/

namespace SqliteAccess

variable {E : Engine}

open Quiet Attempt

------------------------------------------------------------
-- Requests
------------------------------------------------------------

/-
  What an act requests of the library: that it runs, for
  itself or for a connection that is to be opened, or that it
  stops.
-/
def Act.request? : Act E → Option LibraryCall
  | library .release => none
  | library call => some call
  | _ => none

/- What deeds request, the latest first. -/
def Deed.requests (l : List (Deed E)) : List LibraryCall :=
  l.filterMap (·.act.request?)

/-
  Whether the library remembers to stop, while somebody holds
  it, if that was requested last.
-/
def World.Remembers
    (requests : List LibraryCall)
    (w : World E) : Prop :=
  0 < w.library.holders →
    (w.library.shutdownPending = true ↔
      requests.head? = some .stop)

/- What is requested of the library is kept with it. -/
theorem World.Remembers.of_same
    {requests : List LibraryCall}
    {w w' : World E}
    (hRemembers : w.Remembers requests)
    (hLibrary : w'.library = w.library) :
    w'.Remembers requests := by
  unfold Remembers
  rw [hLibrary]
  exact hRemembers

namespace Library

variable {s : Session E}

/- To start the library is to forget that it was to stop. -/
theorem start_forgets (s : Session E) :
    (start.run s).2.world.library.shutdownPending =
      false := by
  rw [start_run s]
  split
  case isFalse => rfl
  case isTrue =>
    rw [run_bind_of_ok (run_lift _ _)]
    unfold answered
    split <;> rfl

theorem hold_forgets (s : Session E) :
    (hold.run s).2.world.library.shutdownPending =
      false := by
  rw [(hold_run s).2]
  split
  · exact start_forgets s
  · exact start_forgets s

/- To stop it while it is held is to remember that. -/
theorem stop_of_held
    (hUp : s.world.library.started = true)
    (hHeld : 0 < s.world.library.holders) :
    stop s =
      (false,
        { s with
          world := s.world.modifyLibrary fun l =>
            { l with shutdownPending := true } }) := by
  rw [stop_run, hUp, if_neg Bool.noConfusion, if_pos hHeld]

/- To stop it when it is free is to ask the engine. -/
theorem stop_of_free
    (hUp : s.world.library.started = true)
    (hFree : s.world.library.holders = 0) :
    ∃ code, (stop s).2.world.trace =
      ⟨.shutdown, code⟩ :: s.world.trace := by
  cases (stop_stops s).1 with
  | down _ hDown =>
      rw [hUp] at hDown
      cases hDown
  | deferred _ _ hHeld =>
      rw [hFree] at hHeld
      cases hHeld
  | refused _ _ _ _ _ hTrace => exact ⟨_, hTrace⟩
  | done _ _ _ _ _ hTrace => exact ⟨_, hTrace⟩

end Library

------------------------------------------------------------
-- Deeds and Requests
------------------------------------------------------------

namespace Deed

variable {d : Deed E} {earlier : List (Deed E)}

/- Deeds that have nothing to do with the library leave it. -/
theorem keeps_library
    (hOther : ∀ call, d.act ≠ .library call) :
    d.after.world.library = d.before.world.library := by
  rcases d with ⟨act, before⟩
  cases act with
  | library call => exact absurd rfl (hOther call)
  | guard call =>
      exact (call.perform_affects
        (A := fun f => f = .compile ∨ f = .guard)
        (.inl rfl) (.inr rfl) before).keeps_library (by simp)
  | connection call => exact call.keeps_library before
  | other x hAffects =>
      exact (hAffects before).keeps_library (by simp)

theorem requests_append (l l' : List (Deed E)) :
    requests (l ++ l') = requests l ++ requests l' :=
  List.filterMap_append

/- A deed adds its request to those before. -/
theorem requests_cons :
    requests (d :: earlier) =
      d.act.request?.toList ++ requests earlier := by
  unfold requests
  rw [List.filterMap_cons]
  cases d.act.request? <;> rfl

/- The library remembers what a deed requests. -/
theorem Measured.remembers
    (hMeasured : d.Measured)
    (hRemembers : d.before.world.Remembers
      (requests earlier)) :
    d.after.world.Remembers (requests (d :: earlier)) := by
  rw [requests_cons]
  rcases d with ⟨act, s⟩
  have hForgotten : ∀ {w : World E} {call : LibraryCall},
      call ≠ .stop → w.library.shutdownPending = false →
        w.Remembers ([call] ++ requests earlier) := by
    intro w call hOther hNone _
    simp [hNone, hOther]
  cases act with
  | library call =>
      cases call with
      | start =>
          exact hForgotten nofun (Library.start_forgets s)
      | hold => exact hForgotten nofun (Library.hold_forgets s)
      | stop =>
          -- a stop that is not remembered leaves no holder
          intro hHeld
          have hBefore : 0 < s.world.library.holders := by
            rw [← (Library.stop_stops s).2]
            exact hHeld
          have hRun := Library.stop_of_held
            (hMeasured.held.up hBefore) hBefore
          have hAfter : (Library.stop
              s).2.world.library.shutdownPending = true := by
            rw [hRun]
            rfl
          exact ⟨fun _ => rfl, fun _ => hAfter⟩
      | release =>
          intro hHeld
          have hRun := Library.release_run s
          have hAfter : 0 <
              (Library.release s).2.world.library.holders :=
            hHeld
          show (Library.release
            s).2.world.library.shutdownPending = true ↔ _
          rw [hRun] at hAfter ⊢
          split at hAfter
          case isTrue hDue =>
            rw [(Library.stop_stops _).2, hDue.1] at hAfter
            cases hAfter
          case isFalse hNotDue =>
            rw [if_neg hNotDue]
            have hBefore : 0 < s.world.library.holders :=
              Nat.lt_of_lt_of_le hAfter (Nat.sub_le _ 1)
            exact hRemembers hBefore
  | _ =>
      exact hRemembers.of_same (keeps_library (by simp))

/-
  The last connection that goes away stops the engine if that
  was requested last, and calls nothing otherwise.
-/
theorem Measured.release_last
    (hMeasured : d.Measured)
    (hAct : d.act = .library .release)
    (hLast : d.before.world.housing.living = ∅)
    (hRemembers : d.before.world.Remembers
      (requests earlier)) :
    if (requests earlier).head? = some .stop then
      ∃ code, d.events = [⟨.shutdown, code⟩]
    else d.events = [] := by
  rcases d with ⟨act, s⟩
  cases hAct
  have hOne : s.world.library.holders = 1 := by
    have hCount := hMeasured.held.counted
    rw [hLast] at hCount
    exact hCount
  have hHeld : 0 < s.world.library.holders := by
    rw [hOne]
    exact Nat.one_pos
  have hFree : (Library.oneLess
      s.world).library.holders = 0 := by
    show s.world.library.holders - 1 = 0
    rw [hOne]
  have hUp : (Library.oneLess
      s.world).library.started = true :=
    hMeasured.held.up hHeld
  have hRun := Library.release_run s
  split
  case isTrue hStop =>
    rw [if_pos ⟨hFree, (hRemembers hHeld).mpr hStop⟩] at hRun
    rcases Library.stop_of_free
      (s := { s with world := Library.oneLess s.world })
      hUp hFree with ⟨code, hTrace⟩
    refine ⟨code, events_eq ?_⟩
    show (Library.release s).2.world.trace = _
    rw [hRun]
    exact hTrace
  case isFalse hOther =>
    rw [if_neg fun hDue =>
      hOther ((hRemembers hHeld).mp hDue.2)] at hRun
    apply events_eq
    show (Library.release s).2.world.trace = _
    rw [hRun]
    rfl

/- A stop is put off while there are connections. -/
theorem Measured.stop_deferred
    (hMeasured : d.Measured)
    (hAct : d.act = .library .stop)
    (hLiving : d.before.world.housing.living ≠ ∅) :
    (Library.stop d.before).1 = false ∧ d.events = [] := by
  rcases d with ⟨act, s⟩
  cases hAct
  have hHeld : 0 < s.world.library.holders := by
    rw [hMeasured.held.counted]
    exact Nat.add_pos_left
      (Finset.card_pos.mpr
        (Finset.nonempty_iff_ne_empty.mpr hLiving)) _
  have hRun := Library.stop_of_held
    (hMeasured.held.up hHeld) hHeld
  refine ⟨by rw [hRun], events_eq ?_⟩
  show (Library.stop s).2.world.trace = _
  rw [hRun]
  rfl

end Deed

namespace Chained

variable {s s' : Session E} {l : List (Deed E)}

/- The library remembers what was requested last. -/
theorem remembers
    (hMeasured : ∀ d ∈ l, d.Measured)
    (hFree : s.world.library.holders = 0)
    (hChained : Chained s l s') :
    s'.world.Remembers (Deed.requests l) := by
  induction l generalizing s' with
  | nil =>
      cases hChained
      intro hHeld
      rw [hFree] at hHeld
      cases hHeld
  | cons d earlier ih =>
      have hBefore := ih (fun d hMember =>
        hMeasured d (List.mem_cons_of_mem _ hMember))
        hChained.1
      rw [← hChained.2]
      exact (hMeasured d (List.mem_cons_self ..)).remembers
        hBefore

end Chained

------------------------------------------------------------
-- Requests of Plans
------------------------------------------------------------

/- Whether a plan makes certain requests, whatever happens. -/
def Plan.Asks (l : List LibraryCall) (p : Plan E) : Prop :=
  ∀ s, Deed.requests (p.deeds s) = l

namespace Plan.Asks

variable {p q : Plan E} {l : List LibraryCall}

theorem done : Asks (E := E) [] .done :=
  fun _ => rfl

theorem look
    {next : Session E → Plan E}
    (hNext : ∀ s, (next s).Asks l) :
    (Plan.look next).Asks l :=
  fun s => hNext s s

theorem act
    {a : Act E}
    {next : Bool → Plan E}
    (hNext : ∀ ok, (next ok).Asks l) :
    (Plan.act a next).Asks (l ++ a.request?.toList) := by
  intro s
  have hFirst : Deed.requests
      [({ act := a, before := s } : Deed E)] =
        a.request?.toList := by
    rw [Deed.requests_cons]
    exact List.append_nil _
  have hLater := hNext (a.perform.run s).1.isOk
    (a.perform.run s).2
  show Deed.requests (_ ++ [_]) = _
  rw [Deed.requests_append, hFirst]
  exact congrArg (· ++ _) hLater

theorem followedBy
    (hFirst : p.Asks [])
    (hSecond : q.Asks l) :
    (p.followedBy q).Asks l := by
  intro s
  rw [deeds_followedBy, Deed.requests_append, hFirst s,
    hSecond (p.last s), List.append_nil]

theorem each
    {α : Type}
    {f : α → Plan E}
    (hEach : ∀ a, (f a).Asks [])
    (xs : List α) :
    (Plan.each f xs).Asks [] := by
  induction xs with
  | nil => exact done
  | cons a r ih => exact followedBy (hEach a) ih

/- Plans that leave the library alone request nothing. -/
theorem aside (hAside : Aside p) : p.Asks [] := by
  induction hAside with
  | done => exact done
  | look hNext ih => exact look ih
  | guard hNext ih => exact act ih
  | other hNext ih => exact act ih

end Plan.Asks

namespace Operation

/- What an operation requests of the library. -/
def request? : Operation → Option LibraryCall
  | library .start => some .start
  | library .stop => some .stop
  | openConnection .. => some .hold
  | _ => none

open Plan (Asks)

/- What is looked for is found, or nothing is requested. -/
theorem ifFound_asks
    {α : Type}
    {found : Session E → Option α}
    {next : α → Plan E}
    (hNext : ∀ a, (next a).Asks []) :
    (ifFound found next).Asks [] := by
  refine .look fun s => ?_
  cases found s with
  | none => exact .done
  | some a => exact hNext a

theorem vacatePlan_asks (c : Nat) :
    Asks (E := E) [] (vacatePlan c) :=
  ifFound_asks fun _ => .act fun _ => .act fun _ => .done

theorem vacateSerializedPlan_asks (z : Nat) :
    Asks (E := E) [] (vacateSerializedPlan z) :=
  ifFound_asks fun _ => .act fun _ => .act fun _ => .done

/- To open a connection is requested once, come what may. -/
theorem openPlan_asks
    (c : Nat)
    (path : Bytes)
    (options : ConnectionOptions) :
    Asks (E := E) [.hold] (openPlan c path options) := by
  refine .followedBy (vacatePlan_asks c) ?_
  refine .act (l := []) fun held => ?_
  cases held with
  | false => exact .done
  | true =>
      refine .act (l := []) fun opened => ?_
      cases opened with
      | true => exact .done
      | false => exact .act fun _ => .done

/- The plan of an operation requests what it does. -/
theorem plan_asks (op : Operation) :
    Asks (E := E) op.request?.toList op.plan := by
  cases hApart : op.housekeeps with
  | false =>
      have hNone : op.request? = none := by
        cases op <;> first | rfl | cases hApart
      rw [hNone]
      exact .aside (plan_aside hApart)
  | true =>
      cases op with
      | library r =>
          cases r with
          | start => exact .act (l := []) fun _ => .done
          | stop => exact .act (l := []) fun _ => .done
          | _ => exact .act (l := []) fun _ => .done
      | openConnection c path options =>
          exact openPlan_asks c path options
      | dropConnection c => exact vacatePlan_asks c
      | serialize z c =>
          cases c with
          | none => exact vacateSerializedPlan_asks z
          | some c =>
              exact ifFound_asks fun id =>
                .followedBy (vacateSerializedPlan_asks z)
                  (.act fun _ => .done)
      | dropSerialized z => exact vacateSerializedPlan_asks z
      | _ => cases hApart

end Operation

------------------------------------------------------------
-- Requests of Sessions
------------------------------------------------------------

namespace Session

variable {s : Session E}

/- The end of a session requests nothing. -/
theorem dismantlePlan_asks :
    Plan.Asks (E := E) [] dismantlePlan := by
  have hGuards : ∀ (k : GuardKind)
      (found : World E → List Place),
      (guardsPlan k found).Asks [] := fun k found =>
    .look fun s => .each
      (fun p => .aside (.guard fun _ => .done)) _
  have hObjects : Plan.Asks (E := E) [] objectsPlan :=
    .followedBy (hGuards _ _) <|
      .followedBy (hGuards _ _) <|
        .act fun _ => .done
  refine .followedBy hObjects ?_
  refine .followedBy ?_ ?_
  · exact .look fun s =>
      .each Operation.vacateSerializedPlan_asks _
  · exact .look fun s => .each Operation.vacatePlan_asks _

/- A session requests what its operations do. -/
theorem journal_requests
    (s : Session E)
    (ops : List Operation) :
    Deed.requests (s.journal ops) =
      (ops.filterMap (·.request?)).reverse := by
  induction ops generalizing s with
  | nil => exact dismantlePlan_asks s
  | cons op r ih =>
      show Deed.requests ((s.run op).2.journal r ++
        op.plan.deeds s) = _
      rw [Deed.requests_append, op.plan_asks s, ih,
        List.filterMap_cons]
      cases op.request? <;> simp

/-
  Who shuts the engine down in a session that carries out
  operations and is destroyed then:

    * `asked`: every call on the library to start or to stop
      is a request, and so is every attempt to open a
      connection, whether it succeeds or not.
    * `deferred`: a stop while there are connections tells
      that the library runs on, and calls nothing.
    * `owed`: the last connection that goes away shuts the
      engine down if a stop was requested last, and calls
      nothing otherwise.
-/
structure ShutdownOwed
    (s : Session E)
    (ops : List Operation) : Prop where
  asked :
    Deed.requests (s.journal ops) =
      (ops.filterMap (·.request?)).reverse
  deferred : ∀ d ∈ s.journal ops, d.act = .library .stop →
    d.before.world.housing.living ≠ ∅ →
      (Library.stop d.before).1 = false ∧ d.events = []
  owed : ∀ later d earlier,
    s.journal ops = later ++ d :: earlier →
    d.act = .library .release →
    d.before.world.housing.living = ∅ →
      if (Deed.requests earlier).head? = some .stop then
        ∃ code, d.events = [⟨.shutdown, code⟩]
      else d.events = []

/-
  Whatever the engine answers and whatever the operations
  are, what was requested last decides whether the last
  connection shuts the engine down.
-/
theorem shutdown_owed
    (engine : E.State)
    (patience : Nat)
    (log : Log)
    (ops : List Operation) :
    (start engine patience log).ShutdownOwed ops := by
  have hMeasured := (journal_measured
    (start_accounted engine patience log) ops).1
  constructor
  case asked => exact journal_requests _ ops
  case deferred =>
    exact fun d hMember => (hMeasured d hMember).stop_deferred
  case owed =>
    intro later d earlier hJournal hAct hLast
    have hChained :=
      journal_chained (start engine patience log) ops
    rw [hJournal] at hChained hMeasured
    have hEarlier : ∀ d' ∈ earlier, d'.Measured :=
      fun d' hMember => hMeasured d' (List.mem_append_right _
        (List.mem_cons_of_mem _ hMember))
    have hThis : d.Measured := hMeasured d
      (List.mem_append_right _ (List.mem_cons_self ..))
    exact hThis.release_last hAct hLast
      (hChained.split.1.remembers hEarlier rfl)

/-
  Whether a shutdown that was put off is carried out when the
  last connection is dropped, if nothing was done in between
  but to try, in vain, to open connections.
-/
def KeepsShutdown (s : Session E) : Prop :=
  ∀ (tries : List Operation) (c : Nat),
    let tried := (s.run (.library .stop)).2.runAll tries
    (Library.stop s).1 = false →
    (∀ op ∈ tries, op.request? = some .hold) →
    (∀ reply ∈ tried.1, reply.isOk = false) →
    tried.2.world.housing.living.card = 1 →
    (tried.2.world.plain.get? c).isSome →
      ∃ code, ⟨.shutdown, code⟩ ∈
        (tried.2.run (.dropConnection c)).2.world.trace

/- Open a connection. -/
def openOne : List Operation :=
  [.openConnection 0 []
    { foreignKeys := false, strictQuoting := false }]

/- Try to open another one, to read only and to write. -/
def openInVain : List Operation :=
  [.openConnection 1 []
    { flags := .ofList [.readOnly, .readWrite] }]

/-
  A shutdown that was put off is not always carried out: it
  is lost when a connection cannot be opened.
-/
theorem failed_open_forgets_shutdown :
    ¬ ∀ (engine : Engine.scripted.State)
        (patience : Nat)
        (log : Log)
        (ops : List Operation),
      ((start engine patience log).runAll
        ops).2.KeepsShutdown := by
  intro hAll
  have hShut := hAll idleEngine 10 {} openOne openInVain 0
    (by decide +kernel) (by decide) (by decide +kernel)
    (by decide +kernel) (by decide +kernel)
  have hNever : ((((((start idleEngine 10 {}).runAll
      openOne).2.run (.library .stop)).2.runAll
        openInVain).2.run
          (.dropConnection 0)).2.world.trace.all fun e =>
            e.call ≠ .shutdown) = true := by
    decide +kernel
  rcases hShut with ⟨code, hMember⟩
  have hOther := List.all_eq_true.mp hNever _ hMember
  simp at hOther

end Session

end SqliteAccess
