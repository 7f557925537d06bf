import SqliteAccess.Proofs.Session.Lines
import SqliteAccess.Proofs.Session.Mirror
import SqliteAccess.Proofs.Session.Running

/-
  Programs that are run on worlds which mirror each other.

  They give the same results and leave such worlds again, if
  what the one does with a place the other does with its
  image.  What they do does not depend on the log, and they
  write the same to it.

  Key definitions include:
    * `Session.Abreast`
    * `Quiet.Mirrors`
    * `Attempt.Agree`
    * `Attempt.Mirrors`

  The programs are characterized by:
    * `Quiet.Mirrors.sessions`
    * `Quiet.Mirrors.bind`
    * `Quiet.Mirrors.invoke`
    * `Attempt.Mirrors.bind`
    * `Attempt.Mirrors.ensuring`
    * `Attempt.Mirrors.onFailure`
    * `Quiet.Mirrors.tolerate`
-/

namespace SqliteAccess

variable {E : Engine} {α β γ δ : Type}

------------------------------------------------------------
-- Sessions
------------------------------------------------------------

/-
  Whether two sessions have come from two others alike: their
  worlds mirror each other, are the same if the others were
  the same and nothing stands for anything else, and the same
  remarks were written to their logs.
-/
structure Session.Abreast
    (m : Mirror)
    (s s' t t' : Session E) : Prop where
  worlds : t.world.Mirrors m t'.world
  same : m.Still → s'.world = s.world → t'.world = t.world
  logs : ∃ remarks, t.log = s.log.writeAll remarks ∧
    t'.log = s'.log.writeAll remarks

namespace Session.Abreast

variable {m : Mirror} {s s' t t' u u' : Session E}

theorem refl
    (hMirrors : s.world.Mirrors m s'.world) :
    Abreast m s s' s s' where
  worlds := hMirrors
  same _ hSame := hSame
  logs := ⟨[], rfl, rfl⟩

theorem trans
    (hFirst : Abreast m s s' t t')
    (hSecond : Abreast m t t' u u') :
    Abreast m s s' u u' where
  worlds := hSecond.worlds
  same hStill hSame :=
    hSecond.same hStill (hFirst.same hStill hSame)
  logs := by
    rcases hFirst.logs with ⟨first, hLog, hLog'⟩
    rcases hSecond.logs with ⟨second, hNext, hNext'⟩
    refine ⟨first ++ second, ?_, ?_⟩
    · rw [hNext, hLog, Log.writeAll_append]
    · rw [hNext', hLog', Log.writeAll_append]

/- Where the logs were the same, they are so again. -/
theorem log
    (hAbreast : Abreast m s s' t t')
    (hLog : s'.log = s.log) :
    t'.log = t.log := by
  rcases hAbreast.logs with ⟨remarks, hWritten, hWritten'⟩
  rw [hWritten, hWritten', hLog]

end Session.Abreast

------------------------------------------------------------
-- Quiet Steps
------------------------------------------------------------

/-
  Whether quiet steps that are taken from worlds which mirror
  each other have related results and go on alike.
-/
def Quiet.Mirrors
    (m : Mirror)
    (Q : α → β → Prop)
    (x : Quiet E α)
    (y : Quiet E β) : Prop :=
  ∀ s s' : Session E, s.world.Mirrors m s'.world →
    Q (x s).1 (y s').1 ∧
      Session.Abreast m s s' (x s).2 (y s').2

namespace Quiet.Mirrors

variable {m : Mirror} {Q : α → β → Prop} {R : γ → δ → Prop}
variable {x : Quiet E α} {y : Quiet E β}

/- Sessions that mirror each other do so again. -/
theorem sessions
    {s s' : Session E}
    (h : Mirrors m Q x y)
    (hMirrors : s.Mirrors m s') :
    Q (x s).1 (y s').1 ∧ (x s).2.Mirrors m (y s').2 := by
  rcases h s s' hMirrors.world with ⟨hResults, hAfter⟩
  exact ⟨hResults,
    { world := hAfter.worlds
      log := hAfter.log hMirrors.log }⟩

theorem pure
    {a : α}
    {b : β}
    (hResults : Q a b) :
    Mirrors (E := E) m Q (pure a) (pure b) :=
  fun _ _ hMirrors => ⟨hResults, .refl hMirrors⟩

theorem bind
    {k : α → Quiet E γ}
    {l : β → Quiet E δ}
    (h : Mirrors m Q x y)
    (hNext : ∀ a b, Q a b → Mirrors m R (k a) (l b)) :
    Mirrors m R (x >>= k) (y >>= l) := by
  intro s s' hMirrors
  rcases h s s' hMirrors with ⟨hResults, hFirst⟩
  rcases hNext _ _ hResults _ _ hFirst.worlds with
    ⟨hLast, hSecond⟩
  exact ⟨hLast, hFirst.trans hSecond⟩

/- What goes on from the same result. -/
theorem andThen
    {x y : Quiet E α}
    {k : α → Quiet E γ}
    {l : α → Quiet E δ}
    (h : Mirrors m Eq x y)
    (hNext : ∀ a, Mirrors m R (k a) (l a)) :
    Mirrors m R (x >>= k) (y >>= l) := by
  apply bind h
  rintro a _ rfl
  exact hNext a

theorem read
    {f : World E → α}
    {g : World E → β}
    (h : ∀ {w w'}, w.Mirrors m w' → Q (f w) (g w')) :
    Mirrors m Q (Quiet.read f) (Quiet.read g) :=
  fun _ _ hMirrors => ⟨h hMirrors, .refl hMirrors⟩

/-
  Worlds that are changed alike.  Where nothing stands for
  anything else, the changes are the same.
-/
theorem change
    {f g : World E → World E}
    (h : ∀ {w w'}, w.Mirrors m w' →
      (f w).Mirrors m (g w'))
    (hSame : m.Still → g = f) :
    Mirrors m Eq (Quiet.update f) (Quiet.update g) := by
  intro s s' hMirrors
  refine ⟨rfl, h hMirrors, ?_, [], rfl, rfl⟩
  intro hStill hWorlds
  change g s'.world = f s.world
  rw [hSame hStill, hWorlds]

/- Worlds that are changed in the same way. -/
theorem update
    {f : World E → World E}
    (h : ∀ {w w'}, w.Mirrors m w' →
      (f w).Mirrors m (f w')) :
    Mirrors m Eq (Quiet.update f) (Quiet.update f) :=
  change h fun _ => rfl

theorem invoke (c : Call) :
    Mirrors (E := E) m Eq (Quiet.invoke c)
      (Quiet.invoke c) := by
  intro s s' hMirrors
  have hAnswer :
      E.answer c s'.world.engine =
        E.answer c s.world.engine := by
    rw [hMirrors.engine]
  unfold Quiet.invoke
  rw [hAnswer]
  refine ⟨rfl, ?_, ?_, [], rfl, rfl⟩
  · exact
      { hMirrors with
        engine := rfl
        trace := congrArg (_ :: ·) hMirrors.trace }
  · intro _ hWorlds
    simp only [hWorlds]

theorem note
    (level : LogLevel)
    (message : String)
    (fields : List LogField) :
    Mirrors (E := E) m Eq (Quiet.note level message fields)
      (Quiet.note level message fields) :=
  fun _ _ hMirrors =>
    ⟨rfl, hMirrors, fun _ hSame => hSame,
      [{ level, message := Bytes.ascii message, fields }],
      rfl, rfl⟩

theorem ite
    {c : Prop}
    [Decidable c]
    {x' : Quiet E α}
    {y' : Quiet E β}
    (hThen : Mirrors m Q x y)
    (hElse : Mirrors m Q x' y') :
    Mirrors m Q (if c then x else x')
      (if c then y else y') := by
  split
  case isTrue => exact hThen
  case isFalse => exact hElse

/- What may come before something that is done anyway. -/
theorem optional
    {c : Prop}
    [Decidable c]
    {x' : Quiet E α}
    {y' : Quiet E β}
    (hNext : Mirrors m Q x' y')
    (hFirst : Mirrors m Q x' y' → Mirrors m Q x y) :
    Mirrors m Q (if c then x else x')
      (if c then y else y') :=
  ite (hFirst hNext) hNext

/- What is done for each element in turn. -/
theorem each
    {f : α → Quiet E Unit}
    {g : β → Quiet E Unit}
    {h : α → β}
    {l : List α}
    (hEach : ∀ a ∈ l, Mirrors m Eq (f a) (g (h a))) :
    Mirrors m Eq (Quiet.each f l)
      (Quiet.each g (l.map h)) := by
  induction l with
  | nil => exact pure rfl
  | cons a l ih =>
      apply andThen (hEach a List.mem_cons_self)
      exact fun _ => ih fun b hMember =>
        hEach b (List.mem_cons_of_mem a hMember)

end Quiet.Mirrors

------------------------------------------------------------
-- Attempts
------------------------------------------------------------

/- Whether attempts fail alike or have related results. -/
inductive Attempt.Agree
    (Q : α → β → Prop) :
    Except Failure α → Except Failure β → Prop where
  | ok {a b}
      (hResults : Q a b) :
      Agree Q (.ok a) (.ok b)
  | error (e) : Agree Q (.error e) (.error e)

/- Results that are related by equality are equal. -/
theorem Attempt.Agree.eq
    {result result' : Except Failure α}
    (hAgree : Agree Eq result result') :
    result = result' := by
  cases hAgree with
  | ok hResults => rw [hResults]
  | error e => rfl

/-
  Whether attempts that are made from worlds which mirror
  each other end alike and go on alike.
-/
def Attempt.Mirrors
    (m : Mirror)
    (Q : α → β → Prop)
    (x : Attempt E α)
    (y : Attempt E β) : Prop :=
  Quiet.Mirrors m (Agree Q) x.run y.run

namespace Attempt.Mirrors

variable {m : Mirror} {Q : α → β → Prop} {R : γ → δ → Prop}
variable {x : Attempt E α} {y : Attempt E β}

theorem pure
    {a : α}
    {b : β}
    (hResults : Q a b) :
    Mirrors (E := E) m Q (pure a) (pure b) :=
  Quiet.Mirrors.pure (.ok hResults)

theorem throw (e : Failure) :
    Mirrors (E := E) m Q (throw e) (throw e) :=
  Quiet.Mirrors.pure (.error e)

theorem refuse (r : Refusal) :
    Mirrors (E := E) m Q (refuse r) (refuse r) :=
  throw _

theorem bind
    {k : α → Attempt E γ}
    {l : β → Attempt E δ}
    (h : Mirrors m Q x y)
    (hNext : ∀ a b, Q a b → Mirrors m R (k a) (l b)) :
    Mirrors m R (x >>= k) (y >>= l) := by
  intro s s' hMirrors
  have hFirst := h s s' hMirrors
  rcases hRun : x.run s with ⟨result, t⟩
  rcases hRun' : y.run s' with ⟨result', t'⟩
  rw [hRun, hRun'] at hFirst
  rcases hFirst with ⟨⟨hResults⟩ | e, hAfter⟩
  · rcases hNext _ _ hResults _ _ hAfter.worlds with
      ⟨hLast, hSecond⟩
    rw [run_bind_of_ok hRun, run_bind_of_ok hRun']
    exact ⟨hLast, hAfter.trans hSecond⟩
  · rw [run_bind_of_error hRun, run_bind_of_error hRun']
    exact ⟨.error e, hAfter⟩

/- What goes on from the same result. -/
theorem andThen
    {x y : Attempt E α}
    {k : α → Attempt E γ}
    {l : α → Attempt E δ}
    (h : Mirrors m Eq x y)
    (hNext : ∀ a, Mirrors m R (k a) (l a)) :
    Mirrors m R (x >>= k) (y >>= l) := by
  apply bind h
  rintro a _ rfl
  exact hNext a

/- Turning the same result into something of its own. -/
theorem map
    {x y : Attempt E α}
    {f : α → γ}
    (h : Mirrors m Eq x y) :
    Mirrors m Eq (x >>= fun a => Pure.pure (f a))
      (y >>= fun a => Pure.pure (f a)) :=
  andThen h fun _ => pure rfl

theorem lift
    {x : Quiet E α}
    {y : Quiet E β}
    (h : Quiet.Mirrors m Q x y) :
    Mirrors m Q (lift x) (lift y) :=
  fun s s' hMirrors =>
    ⟨.ok (h s s' hMirrors).1, (h s s' hMirrors).2⟩

theorem read
    {f : World E → α}
    {g : World E → β}
    (h : ∀ {w w'}, w.Mirrors m w' → Q (f w) (g w')) :
    Mirrors m Q (Attempt.lift (Quiet.read f))
      (Attempt.lift (Quiet.read g)) :=
  lift (.read h)

theorem update
    {f : World E → World E}
    (h : ∀ {w w'}, w.Mirrors m w' →
      (f w).Mirrors m (f w')) :
    Mirrors m Eq (Attempt.lift (Quiet.update f))
      (Attempt.lift (Quiet.update f)) :=
  lift (.update h)

theorem invoke (c : Call) :
    Mirrors (E := E) m Eq (Attempt.lift (Quiet.invoke c))
      (Attempt.lift (Quiet.invoke c)) :=
  lift (.invoke c)

theorem require
    (c : Bool)
    (r : Refusal) :
    Mirrors (E := E) m Eq (require c r) (require c r) := by
  cases c with
  | true => exact pure rfl
  | false => exact refuse r

theorem accept (check : Except Refusal α) :
    Mirrors (E := E) m Eq (accept check) (accept check) := by
  cases check with
  | ok a => exact pure rfl
  | error r => exact refuse r

theorem ite
    {c : Prop}
    [Decidable c]
    {x' : Attempt E α}
    {y' : Attempt E β}
    (hThen : Mirrors m Q x y)
    (hElse : Mirrors m Q x' y') :
    Mirrors m Q (if c then x else x')
      (if c then y else y') := by
  split
  case isTrue => exact hThen
  case isFalse => exact hElse

/- What may come before something that is done anyway. -/
theorem optional
    {c : Prop}
    [Decidable c]
    {x' : Attempt E α}
    {y' : Attempt E β}
    (hNext : Mirrors m Q x' y')
    (hFirst : Mirrors m Q x' y' → Mirrors m Q x y) :
    Mirrors m Q (if c then x else x')
      (if c then y else y') :=
  ite (hFirst hNext) hNext

theorem ensuring
    {z z' : Quiet E Unit}
    (hBody : Mirrors m Q x y)
    (hCleanup : Quiet.Mirrors m Eq z z') :
    Mirrors m Q (ensuring x z) (ensuring y z') := by
  apply Quiet.Mirrors.bind hBody
  intro result result' hAgree
  apply Quiet.Mirrors.andThen hCleanup
  exact fun _ => .pure hAgree

theorem onFailure
    {z z' : Quiet E Unit}
    (hBody : Mirrors m Q x y)
    (hCleanup : Quiet.Mirrors m Eq z z') :
    Mirrors m Q (onFailure x z) (onFailure y z') := by
  apply Quiet.Mirrors.bind hBody
  rintro _ _ (⟨hResults⟩ | e)
  · exact Quiet.Mirrors.pure (.ok hResults)
  · apply Quiet.Mirrors.andThen hCleanup
    exact fun _ => .pure (.error e)

end Attempt.Mirrors

/- A failure that is tolerated is handled alike. -/
theorem Quiet.Mirrors.tolerate
    {m : Mirror}
    {x y : Attempt E Unit}
    {f g : DatabaseError → Quiet E Unit}
    (hBody : Attempt.Mirrors m Eq x y)
    (hHandler : ∀ e, Quiet.Mirrors m Eq (f e) (g e)) :
    Quiet.Mirrors m Eq (Attempt.tolerate x f)
      (Attempt.tolerate y g) := by
  apply Quiet.Mirrors.bind hBody
  rintro _ _ (⟨hResults⟩ | e)
  · exact .pure rfl
  · cases e with
    | database e => exact hHandler e
    | _ => exact .pure rfl

------------------------------------------------------------
-- Errors of Handles
------------------------------------------------------------

namespace Attempt

variable {m : Mirror}

theorem handleError_mirrors
    (db : DatabaseHandle)
    (code : ResultCode)
    (phase : Phase)
    (sql : Bytes) :
    Quiet.Mirrors (E := E) m Eq
      (handleError db code phase sql)
      (handleError db code phase sql) := by
  apply Quiet.Mirrors.andThen (.invoke _)
  intro full
  apply Quiet.Mirrors.andThen (.invoke _)
  intro message
  exact .ite
    (.andThen (.invoke _) fun _ => .pure rfl)
    (.andThen (.pure rfl) fun _ => .pure rfl)

theorem check_mirrors
    (db : DatabaseHandle)
    (code : ResultCode)
    (phase : Phase)
    (sql : Bytes) :
    Mirrors (E := E) m Eq (check db code phase sql)
      (check db code phase sql) := by
  apply Mirrors.ite
  · apply Mirrors.andThen
      (.lift (handleError_mirrors db code phase sql))
    exact fun _ => .throw _
  · exact .pure rfl

end Attempt

end SqliteAccess
