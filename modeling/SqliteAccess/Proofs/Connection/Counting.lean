import Mathlib.Data.Finset.Card
import SqliteAccess.Proofs.Operation.Deeds

/-
  Counting the connections that exist.

  A connection that is established is new, and one that is
  vacated exists no longer.  Nothing else makes a connection
  or forgets one.

  Key definitions include:
    * `Housing`
    * `World.housing`
    * `Housing.Orderly`

  The connections are characterized by:
    * `Changes.keeps_housing`
    * `Connection.establish_housing`
    * `ConnectionCall.vacate_housing`
    * `ConnectionCall.establish_housing`
-/

namespace SqliteAccess

variable {E : Engine}

open Quiet Attempt

------------------------------------------------------------
-- Connections and Slots
------------------------------------------------------------

/-
  Which connections exist, which slots of the two sorts have
  them, and how many identities have been given out.
-/
@[ext]
structure Housing where
  slot : Nat ⊕ Nat → Option ConnectionId
  living : Finset ConnectionId
  issued : Nat

namespace World

/- Where the connections of a world are. -/
def housing (w : World E) : Housing :=
  { slot := Sum.elim w.plain.get? w.serialized.get?
    living := w.connections.keys.toFinset
    issued := w.issued.connections }

@[simp]
theorem mem_living
    {w : World E}
    {c : ConnectionId} :
    c ∈ w.housing.living ↔
      w.connections.contains c = true := by
  simp [housing, Table.mem_keys_iff, Table.contains,
    Option.isSome_iff_ne_none]

end World

namespace Housing

/-
  Whether the slots have connections that exist, each at most
  once, and the identities of all that exist are given out.
-/
structure Orderly (h : Housing) : Prop where
  living : ∀ {n c}, h.slot n = some c → c ∈ h.living
  once : ∀ {n m c}, h.slot n = some c → h.slot m = some c →
    n = m
  numbered : ∀ {c}, c ∈ h.living → c.number ≤ h.issued

/- A new connection. -/
def gain (h : Housing) (c : ConnectionId) : Housing :=
  { h with
    living := insert c h.living
    issued := c.number }

/- A connection in a slot. -/
def house
    (h : Housing)
    (n : Nat ⊕ Nat)
    (c : ConnectionId) : Housing :=
  { h with slot := Function.update h.slot n (some c) }

/- An empty slot. -/
def empty (h : Housing) (n : Nat ⊕ Nat) : Housing :=
  { h with slot := Function.update h.slot n none }

/- A connection that exists no longer. -/
def lose (h : Housing) (c : ConnectionId) : Housing :=
  { h with living := h.living.erase c }

variable {h h' : Housing} {n m : Nat ⊕ Nat} {c : ConnectionId}

/- An identity that has not been given out is free. -/
theorem Orderly.free
    (hOrderly : h.Orderly)
    (hNew : c.number = h.issued + 1) :
    c ∉ h.living := by
  intro hLives
  have hKnown := hOrderly.numbered hLives
  omega

/- A new connection is put in a slot. -/
theorem Orderly.settled
    (hOrderly : h.Orderly)
    (hNew : c.number = h.issued + 1)
    (n : Nat ⊕ Nat) :
    ((h.gain c).house n c).Orderly where
  living := by
    intro m c' hHas
    simp only [house, gain, Function.update_apply,
      Finset.mem_insert] at hHas ⊢
    split at hHas
    · exact .inl (Option.some.inj hHas).symm
    · exact .inr (hOrderly.living hHas)
  once := by
    have hFree : ∀ m, h.slot m ≠ some c := fun m hHas =>
      hOrderly.free hNew (hOrderly.living hHas)
    intro m m' c' hHas hHas'
    simp only [house, gain, Function.update_apply]
      at hHas hHas'
    split at hHas <;> split at hHas'
    · simp_all
    · cases hHas
      exact absurd hHas' (hFree m')
    · cases hHas'
      exact absurd hHas (hFree m)
    · exact hOrderly.once hHas hHas'
  numbered := by
    intro c' hLives
    simp only [house, gain, Finset.mem_insert] at hLives ⊢
    rcases hLives with rfl | hOld
    · exact Nat.le_refl _
    · have hKnown := hOrderly.numbered hOld
      omega

/- A slot is emptied, and its connection exists no longer. -/
theorem Orderly.vacated
    (hOrderly : h.Orderly)
    (hHas : h.slot n = some c) :
    ((h.empty n).lose c).Orderly where
  living := by
    intro m c' hHas'
    simp only [empty, lose, Function.update_apply,
      Finset.mem_erase] at hHas' ⊢
    split at hHas'
    case isTrue => cases hHas'
    case isFalse hOther =>
      refine ⟨?_, hOrderly.living hHas'⟩
      rintro rfl
      exact hOther (hOrderly.once hHas' hHas)
  once := by
    intro m m' c' hHas' hHas''
    simp only [empty, lose, Function.update_apply]
      at hHas' hHas''
    split at hHas' <;> split at hHas''
    · cases hHas'
    · cases hHas'
    · cases hHas''
    · exact hOrderly.once hHas' hHas''
  numbered hLives :=
    hOrderly.numbered (Finset.mem_of_mem_erase hLives)

/- A connection is taken to another slot. -/
theorem Orderly.moved
    (hOrderly : h.Orderly)
    (hHas : h.slot n = some c)
    (m : Nat ⊕ Nat) :
    ((h.empty n).house m c).Orderly where
  living := by
    intro m' c' hHas'
    simp only [empty, house, Function.update_apply]
      at hHas' ⊢
    split at hHas'
    · cases hHas'
      exact hOrderly.living hHas
    · split at hHas'
      · cases hHas'
      · exact hOrderly.living hHas'
  once := by
    -- the connection was in no slot but the one it has left
    have hOnly : ∀ m', m' ≠ n → h.slot m' ≠ some c :=
      fun m' hOther hHas' => hOther
        (hOrderly.once hHas' hHas)
    intro m₁ m₂ c' hHas₁ hHas₂
    simp only [empty, house, Function.update_apply]
      at hHas₁ hHas₂
    split at hHas₁ <;> split at hHas₂
    · simp_all
    · cases hHas₁
      split at hHas₂
      · cases hHas₂
      · exact absurd hHas₂ (hOnly m₂ ‹_›)
    · cases hHas₂
      split at hHas₁
      · cases hHas₁
      · exact absurd hHas₁ (hOnly m₁ ‹_›)
    · split at hHas₁
      · cases hHas₁
      · split at hHas₂
        · cases hHas₂
        · exact hOrderly.once hHas₁ hHas₂
  numbered hLives := hOrderly.numbered hLives

/- Identities may be given out in vain. -/
theorem Orderly.of_le
    (hOrderly : h.Orderly)
    (hSlot : h'.slot = h.slot)
    (hLiving : h'.living = h.living)
    (hIssued : h.issued ≤ h'.issued) :
    h'.Orderly where
  living := by
    intro n c hHas
    rw [hSlot] at hHas
    rw [hLiving]
    exact hOrderly.living hHas
  once := by
    rw [hSlot]
    exact hOrderly.once
  numbered := by
    intro c hLives
    rw [hLiving] at hLives
    exact Nat.le_trans (hOrderly.numbered hLives) hIssued

end Housing

------------------------------------------------------------
-- Connections That Come and Go
------------------------------------------------------------

/- What does not connect leaves the connections as they are. -/
theorem Changes.keeps_housing
    {A : Effect → Prop}
    {s s' : Session E}
    (hConnect : ¬ A .connect)
    (hChanges : Changes A s s') :
    s'.world.housing = s.world.housing := by
  have hSame := hChanges.keeps_connections hConnect
  apply Housing.ext
  case slot =>
    unfold World.housing
    rw [hSame.plain, hSame.serialized]
  case living =>
    ext c
    simp [hSame.present]
  case issued => exact hSame.issued

namespace Connection

/- A connection that is entered is one more. -/
theorem register_housing
    (c : ConnectionId)
    (db : DatabaseHandle)
    (path : Bytes)
    (options : ConnectionOptions)
    (w : World E) :
    (register c db path options w).housing =
      w.housing.gain c := by
  apply Housing.ext
  case slot => rfl
  case living =>
    ext c'
    by_cases hSame : c' = c <;>
      simp [register, Housing.gain, hSame, Table.contains]
  case issued => rfl

/- A connection that is forgotten is one less. -/
theorem forget_housing
    (c : ConnectionId)
    (w : World E) :
    (forget c w).housing = w.housing.lose c := by
  apply Housing.ext
  case slot => rfl
  case living =>
    ext c'
    by_cases hSame : c' = c <;>
      simp [forget, Housing.lose, hSame, Table.contains]
  case issued => rfl

/- Whether a new connection was kept, or it is forgotten. -/
def Configured
    (c : ConnectionId)
    (s : Session E) :
    Except Failure Unit × Session E → Prop
  | (.ok _, t) => t.world.housing = s.world.housing
  | (.error _, t) => t.world.housing = s.world.housing.lose c

/- Configuring keeps a new connection, or it is forgotten. -/
theorem configure_housing
    (c : ConnectionId)
    (options : ConnectionOptions)
    (s : Session E) :
    Configured c s ((onFailure (applyOptions c options)
      (releaseHandle c >>= fun _ =>
        update (forget c))).run s) := by
  have hApplied := (applyOptions_affects
    (A := (· = .compile)) c rfl options s).keeps_housing
      (by simp)
  rw [run_onFailure]
  rcases hRun : (applyOptions c options).run s with
    ⟨result, t⟩
  rw [hRun] at hApplied
  cases result with
  | ok _ => exact hApplied
  | error e =>
      have hReleased := (releaseHandle_affects
        (A := fun _ => False) c t).keeps_housing id
      show (forget c (releaseHandle c t).2.world).housing = _
      rw [forget_housing, hReleased, hApplied]

/-
  Whether a connection was established, which is new then, or
  none is left.
-/
def Established
    (s : Session E) :
    Except Failure ConnectionId × Session E → Prop
  | (.ok c, t) =>
      c.number = s.world.housing.issued + 1 ∧
        t.world.housing = s.world.housing.gain c
  | (.error _, t) =>
      t.world.housing.slot = s.world.housing.slot ∧
        t.world.housing.living = s.world.housing.living ∧
          s.world.housing.issued ≤ t.world.housing.issued

/- Establishing a connection makes a new one, or none. -/
theorem establish_housing
    {s : Session E}
    (hOrderly : s.world.housing.Orderly)
    (path : Bytes)
    (options : ConnectionOptions) :
    Established s ((establish path options).run s) := by
  have hFailed : ∀ {e : Failure} {t : Session E},
      t.world.housing = s.world.housing →
        Established s (.error e, t) := by
    intro e t hSame
    exact ⟨congrArg (·.slot) hSame,
      congrArg (·.living) hSame, hSame ▸ Nat.le_refl _⟩
  unfold establish
  cases hFlags : options.flags.native path with
  | error r => exact hFailed rfl
  | ok flags =>
      have hAccepted : (accept (.ok flags)).run s =
          (.ok flags, s) := rfl
      rw [run_bind_of_ok hAccepted]
      have hKept := (openHandle_affects (A := fun _ => False)
        path flags s).keeps_housing id
      rcases hRun : (openHandle path flags).run s with
        ⟨result, t⟩
      rw [hRun] at hKept
      cases result with
      | error e =>
          rw [run_bind_of_error hRun]
          exact hFailed hKept
      | ok db =>
          rw [run_bind_of_ok hRun, run_read]
          -- the new connection is entered, and then configured
          let c : ConnectionId :=
            ⟨t.world.issued.connections + 1⟩
          let t' : Session E :=
            { t with
              world := register c db path options t.world }
          have hEntered : t'.world.housing =
              s.world.housing.gain c := by
            rw [← hKept]
            exact register_housing c db path options t.world
          have hNew : c.number = s.world.housing.issued + 1 :=
            congrArg (·.issued + 1) hKept
          have hConfigured := configure_housing c options t'
          show Established s ((onFailure
            (applyOptions c options)
              (releaseHandle c >>= fun _ =>
                update (forget c)) >>= fun _ =>
                  lift (note .debug "connection opened"
                    [.ofText "path" path,
                      .ofInt "flags" flags.bits.toInt]) >>=
                        fun _ => pure c).run t')
          rcases hTail : (onFailure (applyOptions c options)
            (releaseHandle c >>= fun _ =>
              update (forget c))).run t' with ⟨result, t''⟩
          rw [hTail] at hConfigured
          cases result with
          | ok _ =>
              rw [run_bind_of_ok hTail]
              exact ⟨hNew, Eq.trans hConfigured hEntered⟩
          | error e =>
              rw [run_bind_of_error hTail]
              have hLeft : t''.world.housing =
                  (s.world.housing.gain c).lose c :=
                Eq.trans hConfigured
                  (congrArg (·.lose c) hEntered)
              refine ⟨congrArg (·.slot) hLeft, ?_, ?_⟩
              · exact (congrArg (·.living) hLeft).trans
                  (Finset.erase_insert (hOrderly.free hNew))
              · rw [hLeft]
                exact Nat.le_of_lt (by
                  simp [Housing.lose, Housing.gain, hNew])

end Connection

------------------------------------------------------------
-- Calls on Connections
------------------------------------------------------------

namespace World

/- What the slots have after one of them was changed. -/
theorem housing_plain
    {w : World E}
    {plain : Table Nat ConnectionId}
    {n : Nat}
    {c : Option ConnectionId}
    (hPlain : ∀ m, plain.get? m =
      if m = n then c else w.plain.get? m) :
    World.housing { w with plain } =
      { w.housing with
        slot := Function.update w.housing.slot (.inl n) c } := by
  apply Housing.ext
  case slot =>
    funext x
    cases x with
    | inl m =>
        simp only [housing, Sum.elim_inl, hPlain,
          Function.update_apply, Sum.inl.injEq]
    | inr m => rfl
  case living => rfl
  case issued => rfl

theorem housing_serialized
    {w : World E}
    {serialized : Table Nat ConnectionId}
    {z : Nat}
    {c : Option ConnectionId}
    (hSerialized : ∀ m, serialized.get? m =
      if m = z then c else w.serialized.get? m) :
    World.housing { w with serialized } =
      { w.housing with
        slot := Function.update w.housing.slot (.inr z) c } := by
  apply Housing.ext
  case slot =>
    funext x
    cases x with
    | inl m => rfl
    | inr m =>
        simp only [housing, Sum.elim_inr, hSerialized,
          Function.update_apply, Sum.inr.injEq]
  case living => rfl
  case issued => rfl

end World

namespace ConnectionCall

variable {s : Session E} {n z : Nat} {c : ConnectionId}

/- A connection that leaves its slot and is closed is lost. -/
theorem shut_forget_housing
    {w : World E}
    {h : Housing}
    (hSlot : w.housing = h)
    (log : Log) :
    ((Connection.shut c >>= fun _ =>
      update (Connection.forget c)) ⟨w, log⟩).2.world.housing =
        h.lose c := by
  have hShut := (Connection.shut_affects
    (A := fun _ => False) c ⟨w, log⟩).keeps_housing id
  show (Connection.forget c
    (Connection.shut c ⟨w, log⟩).2.world).housing = _
  rw [Connection.forget_housing, hShut, hSlot]

/- Vacating a slot that has a connection. -/
theorem vacate_housing
    (hOrderly : s.world.housing.Orderly)
    (hHas : s.world.plain.get? n = some c) :
    let s' := ((vacate n c).perform.run s).2
    s'.world.housing.Orderly ∧
      s'.world.housing.living.card + 1 =
        s.world.housing.living.card := by
  intro s'
  have hAfter : s'.world.housing =
      (s.world.housing.empty (.inl n)).lose c :=
    shut_forget_housing
      (World.housing_plain fun m => Table.get?_erase _ _ _)
      s.log
  have hIn : s.world.housing.slot (.inl n) = some c := hHas
  rw [hAfter]
  exact ⟨hOrderly.vacated hIn,
    Finset.card_erase_add_one (hOrderly.living hIn)⟩

theorem vacateSerialized_housing
    (hOrderly : s.world.housing.Orderly)
    (hHas : s.world.serialized.get? z = some c) :
    let s' := ((vacateSerialized z c).perform.run s).2
    s'.world.housing.Orderly ∧
      s'.world.housing.living.card + 1 =
        s.world.housing.living.card := by
  intro s'
  have hAfter : s'.world.housing =
      (s.world.housing.empty (.inr z)).lose c :=
    shut_forget_housing
      (World.housing_serialized fun m =>
        Table.get?_erase _ _ _) s.log
  have hIn : s.world.housing.slot (.inr z) = some c := hHas
  rw [hAfter]
  exact ⟨hOrderly.vacated hIn,
    Finset.card_erase_add_one (hOrderly.living hIn)⟩

/- Serializing a connection keeps all that exist. -/
theorem serialize_housing
    (hOrderly : s.world.housing.Orderly)
    (hHas : s.world.plain.get? n = some c) :
    let s' := ((serialize z n c).perform.run s).2
    s'.world.housing.Orderly ∧
      s'.world.housing.living = s.world.housing.living := by
  intro s'
  have hAfter : s'.world.housing =
      (s.world.housing.empty (.inl n)).house (.inr z) c := by
    have hEmptied := World.housing_plain (w := s.world) fun m =>
      Table.get?_erase s.world.plain n m
    have hHoused := World.housing_serialized
      (w := { s.world with plain := s.world.plain.erase n })
      fun m => Table.get?_put s.world.serialized z m c
    rw [hEmptied] at hHoused
    exact hHoused
  have hIn : s.world.housing.slot (.inl n) = some c := hHas
  rw [hAfter]
  exact ⟨hOrderly.moved hIn _, rfl⟩

/- Establishing a connection in a slot. -/
theorem establish_housing
    (hOrderly : s.world.housing.Orderly)
    (n : Nat)
    (path : Bytes)
    (options : ConnectionOptions) :
    let r := (establish n path options).perform.run s
    r.2.world.housing.Orderly ∧
      r.2.world.housing.living.card =
        s.world.housing.living.card +
          if r.1.isOk then 1 else 0 := by
  intro r
  have hEstablished := Connection.establish_housing hOrderly
    path options
  rcases hRun : (Connection.establish path options).run s with
    ⟨result, t⟩
  rw [hRun] at hEstablished
  cases result with
  | error e =>
      have hFailed : r = (.error e, t) :=
        run_bind_of_error hRun
      rcases hEstablished with ⟨hSlot, hLiving, hIssued⟩
      rw [hFailed]
      exact ⟨hOrderly.of_le hSlot hLiving hIssued,
        congrArg Finset.card hLiving⟩
  | ok c =>
      have hDone : r = (.ok (),
          { t with
            world :=
              { t.world with
                plain := t.world.plain.put n c } }) :=
        run_bind_of_ok hRun
      rcases hEstablished with ⟨hNew, hGained⟩
      have hAfter : r.2.world.housing =
          (s.world.housing.gain c).house (.inl n) c := by
        rw [hDone, ← hGained]
        exact World.housing_plain fun m =>
          Table.get?_put _ _ _ _
      have hOk : r.1.isOk = true := by rw [hDone]; rfl
      rw [hAfter, if_pos hOk]
      exact ⟨hOrderly.settled hNew _,
        Finset.card_insert_of_notMem (hOrderly.free hNew)⟩

end ConnectionCall

end SqliteAccess
