import Mathlib.Data.List.TakeWhile
import SqliteAccess.Proofs.Operation.Run
import SqliteAccess.Proofs.Statement.Currency
import SqliteAccess.Proofs.Statement.Resetting

/-
  Which parameter is bound by its name.

  A name is looked for as it is given, and then after each of
  three characters if it does not start like the name of a
  parameter.  The engine reads a name up to its first NUL, so
  that a name which holds one is cut.

  Key definitions include:
    * `Statement.candidates`
    * `Statement.searchNames`
    * `Event.NamesParameters`
    * `Statement.FirstNamed`
    * `Session.Binds`
    * `Session.BindsByName`

  The parameters are characterized by:
    * `Statement.requireParameterIndex_run`
    * `Statement.searchNames_told`
    * `Statement.bindArgument_hears`
    * `Session.named_parameter_bound`
-/

namespace SqliteAccess

variable {E : Engine} {s t u : Session E} {p : Place}
variable {c : ConnectionId} {st : StatementHandle}
variable {r : Statement}

open Attempt

namespace Statement

------------------------------------------------------------
-- Candidates
------------------------------------------------------------

/-
  The names that a parameter may have which is called by a
  name: that name, and, unless it is empty or starts with one
  of the characters `:`, `@`, `$` and `?`, the name after each
  of the first three.
-/
def candidates : Bytes → List Bytes
  | [] => [[]]
  | b :: r =>
      if b ∈ [Bytes.byte ':', Bytes.byte '@', Bytes.byte '$',
          Bytes.byte '?'] then
        [b :: r]
      else
        [b :: r, Bytes.byte ':' :: b :: r,
          Bytes.byte '@' :: b :: r, Bytes.byte '$' :: b :: r]

/- The first index that the engine tells for some names. -/
def searchNames
    (st : StatementHandle) : List Bytes → Quiet E Nat
  | [] => return 0
  | x :: l => do
      let index : Nat ←
        Quiet.invoke (.parameterIndex st (Bytes.untilNul x))
      if index ≠ 0 then
        return index
      else
        searchNames st l

theorem searchSigils_eq
    (st : StatementHandle)
    (name sigils : Bytes) :
    searchSigils (E := E) st name sigils =
      searchNames st (sigils.map (· :: name)) := by
  induction sigils with
  | nil => rfl
  | cons b sigils ih =>
      unfold searchSigils
      rw [ih]
      rfl

/- What is looked for after the name itself. -/
theorem candidates_eq (name : Bytes) :
    candidates name =
      name :: if lacksSigil name then
        sigils.map (· :: name) else [] := by
  cases name with
  | nil => rfl
  | cons b r =>
      by_cases hSigil : b ∈ [Bytes.byte ':', Bytes.byte '@',
          Bytes.byte '$', Bytes.byte '?']
      · simp only [candidates, if_pos hSigil]
        simp only [List.mem_cons, List.not_mem_nil,
          or_false] at hSigil
        rcases hSigil with rfl | rfl | rfl | rfl <;> rfl
      · simp only [candidates, if_neg hSigil]
        simp only [List.mem_cons, List.not_mem_nil, or_false,
          not_or] at hSigil
        simp [lacksSigil, sigils, hSigil]

/- Names are asked for until the engine tells an index. -/
theorem searchNames_cons
    (st : StatementHandle)
    (x : Bytes)
    (names : List Bytes)
    (s : Session E) :
    searchNames st (x :: names) s =
      let asked :=
        Quiet.invoke (.parameterIndex st (Bytes.untilNul x)) s
      if asked.1 ≠ 0 then asked
      else searchNames st names asked.2 := by
  let asked : Nat × Session E :=
    Quiet.invoke (.parameterIndex st (Bytes.untilNul x)) s
  show (if asked.1 ≠ 0 then pure asked.1
    else searchNames st names : Quiet E Nat) asked.2 =
      if asked.1 ≠ 0 then asked
      else searchNames st names asked.2
  by_cases hFound : asked.1 ≠ 0
  · rw [if_pos hFound, if_pos hFound]
    rfl
  · rw [if_neg hFound, if_neg hFound]

theorem searchNames_consults
    (st : StatementHandle)
    (names : List Bytes) :
    Quiet.Consults (E := E) (searchNames st names) := by
  induction names with
  | nil => exact .pure 0
  | cons x names ih =>
      apply Quiet.Consults.bind (.ask rfl)
      exact fun _ => .ite (.pure _) ih

/-
  A parameter is looked up by the candidates for its name in
  turn.
-/
theorem requireParameterIndex_run
    (hHandle : (s.world.statement p).handle = some st)
    (name : Bytes) :
    (requireParameterIndex p name).run s =
      (lift (searchNames st (candidates name)) >>= fun index =>
        lift (lookup p) >>= fun r =>
          require (index ≠ 0) (.parameterName name r.sql) >>=
            fun _ => pure index).run s := by
  let asked : Nat × Session E :=
    Quiet.invoke (.parameterIndex st (Bytes.untilNul name)) s
  have hFirst : (parameterIndex p name).run s =
      (.ok asked.1, asked.2) :=
    run_bind_of_ok (requireHandle_of_some hHandle _)
  unfold requireParameterIndex
  rw [run_bind_of_ok (requireHandle_of_some hHandle _),
    run_bind_of_ok hFirst, candidates_eq, searchSigils_eq,
    run_bind_of_ok (run_lift _ s), searchNames_cons]
  by_cases hFound : asked.1 = 0
  · cases hLacks : lacksSigil name with
    | true =>
        rw [if_pos ⟨hFound, rfl⟩, if_neg (not_not_intro hFound),
          run_bind_of_ok (run_lift _ asked.2)]
        rfl
    | false =>
        rw [if_neg (by simp), if_neg (not_not_intro hFound),
          if_neg Bool.false_ne_true]
        simp only [hFound]
        rfl
  · rw [if_neg (fun hBoth => hFound hBoth.1), if_pos hFound]
    rfl

end Statement

------------------------------------------------------------
-- What the Engine Tells
------------------------------------------------------------

/-
  Whether a call about the parameters of a statement handle
  is answered as documented, if they have certain names: an
  index is that of the parameter with the name that was given,
  0 if there is none, and a name is that of the parameter with
  the index that was given, none if it has no name.
-/
def Event.NamesParameters
    (st : StatementHandle)
    (names : List (Option Bytes)) : Event → Prop
  | ⟨.parameterIndex st' x, i⟩ =>
      let i : Nat := i
      st' = st →
        if i = 0 then some x ∉ names
        else names[i - 1]? = some (some x)
  | ⟨.parameterName st' i, x⟩ =>
      st' = st → 1 ≤ i → x = names[(i - 1).toNat]?.join
  | _ => True

instance
    (st : StatementHandle)
    (names : List (Option Bytes))
    (e : Event) :
    Decidable (e.NamesParameters st names) := by
  unfold Event.NamesParameters
  split <;> infer_instance

/- Whether all such calls of a trace are answered so. -/
def Trace.NamesParameters
    (t : Trace)
    (st : StatementHandle)
    (names : List (Option Bytes)) : Prop :=
  ∀ e ∈ t, e.NamesParameters st names

instance
    (t : Trace)
    (st : StatementHandle)
    (names : List (Option Bytes)) :
    Decidable (t.NamesParameters st names) := by
  unfold Trace.NamesParameters
  infer_instance

/- What is documented of a trace is so of its earlier part. -/
theorem Trace.NamesParameters.of_append
    {later earlier : Trace}
    {names : List (Option Bytes)}
    (hAnswers : NamesParameters (later ++ earlier) st names) :
    earlier.NamesParameters st names :=
  fun e hMember => hAnswers e (List.mem_append_right _ hMember)

/- A world that was only asked has a later trace. -/
theorem Session.Consulted.namesParameters
    {names : List (Option Bytes)}
    (hConsulted : s.Consulted t)
    (hAnswers : t.world.trace.NamesParameters st names) :
    s.world.trace.NamesParameters st names := by
  rcases hConsulted with ⟨events, _, rfl, _⟩
  exact hAnswers.of_append

namespace Statement

/-
  Whether a parameter has the first of some names that there
  is:

    * `earlier`: it has one of them, and no parameter has one
      of those before it
    * `counted`: parameters are counted from one
    * `found`: it has this one, up to a NUL
-/
structure FirstNamed
    (parameters : List (Option Bytes))
    (names : List Bytes)
    (x : Bytes)
    (i : Nat) : Prop where
  earlier : ∃ before after, names = before ++ x :: after ∧
    ∀ y ∈ before, some (Bytes.untilNul y) ∉ parameters
  counted : i ≠ 0
  found : parameters[i - 1]? = some (some (Bytes.untilNul x))

/- Whether no parameter has one of some names. -/
def Unnamed
    (parameters : List (Option Bytes))
    (names : List Bytes) : Prop :=
  ∀ x ∈ names, some (Bytes.untilNul x) ∉ parameters

/- The first name may come later than one that is not there. -/
theorem FirstNamed.cons
    {parameters : List (Option Bytes)}
    {names : List Bytes}
    {x y : Bytes}
    {i : Nat}
    (hFirst : FirstNamed parameters names x i)
    (hAbsent : some (Bytes.untilNul y) ∉ parameters) :
    FirstNamed parameters (y :: names) x i := by
  rcases hFirst with
    ⟨⟨before, after, rfl, hEarlier⟩, hCounted, hFound⟩
  refine ⟨⟨y :: before, after, rfl, ?_⟩, hCounted, hFound⟩
  exact List.forall_mem_cons.mpr ⟨hAbsent, hEarlier⟩

/- A name that a parameter has is not missing. -/
theorem FirstNamed.not_unnamed
    {parameters : List (Option Bytes)}
    {names : List Bytes}
    {x : Bytes}
    {i : Nat}
    (hFirst : FirstNamed parameters names x i) :
    ¬ Unnamed parameters names := by
  rcases hFirst with ⟨⟨before, after, rfl, -⟩, -, hFound⟩
  intro hUnnamed
  exact hUnnamed x (by simp) (List.mem_of_getElem? hFound)

/- Its name is told, up to a NUL, where its index is asked. -/
theorem FirstNamed.name_told
    {parameters : List (Option Bytes)}
    {names : List Bytes}
    {x : Bytes}
    {i : Nat}
    {told : Option Bytes}
    (hFirst : FirstNamed parameters names x i)
    (hTold : Event.NamesParameters st parameters
      ⟨.parameterName st i, told⟩)
    (hCounted : 1 ≤ (i : Int)) :
    told = some (Bytes.untilNul x) := by
  have hPlace : parameters[((i : Int) - 1).toNat]? =
      some (some (Bytes.untilNul x)) := by
    rw [← hFirst.found]
    congr 1
    omega
  have hName := hTold rfl hCounted
  rw [hPlace] at hName
  exact hName

/- The engine finds the parameter with the first name. -/
theorem searchNames_told
    {parameters : List (Option Bytes)}
    {names : List Bytes}
    (hAnswers : (searchNames st names
      s).2.world.trace.NamesParameters st parameters) :
    (searchNames st names s).1 = 0 ∧
        Unnamed parameters names ∨
      ∃ x, FirstNamed parameters names x
        (searchNames st names s).1 := by
  induction names generalizing s with
  | nil => exact .inl ⟨rfl, nofun⟩
  | cons x names ih =>
      let asked : Nat × Session E :=
        Quiet.invoke (.parameterIndex st (Bytes.untilNul x)) s
      have hTold : asked.2.world.trace.NamesParameters st
            parameters →
          if asked.1 = 0 then
            some (Bytes.untilNul x) ∉ parameters
          else
            parameters[asked.1 - 1]? =
              some (some (Bytes.untilNul x)) :=
        fun hAll => hAll
          ⟨.parameterIndex st (Bytes.untilNul x), asked.1⟩
          List.mem_cons_self rfl
      rw [searchNames_cons] at hAnswers ⊢
      by_cases hFound : asked.1 = 0
      · simp only [asked] at hFound
        simp only [hFound, ne_eq, not_true_eq_false, if_false]
          at hAnswers ⊢
        have hAbsent := hTold
          ((searchNames_consults st names
            asked.2).namesParameters hAnswers)
        rw [if_pos hFound] at hAbsent
        rcases ih hAnswers with ⟨hNone, hUnnamed⟩ | ⟨y, hFirst⟩
        · exact .inl ⟨hNone,
            List.forall_mem_cons.mpr ⟨hAbsent, hUnnamed⟩⟩
        · exact .inr ⟨y, hFirst.cons hAbsent⟩
      · simp only [if_pos hFound, asked] at hAnswers ⊢
        have hPlace := hTold hAnswers
        rw [if_neg hFound] at hPlace
        exact .inr ⟨x, ⟨[], names, rfl, nofun⟩, hFound, hPlace⟩

------------------------------------------------------------
-- Binding
------------------------------------------------------------

/- What is handed over is one call. -/
theorem hand_hears
    (hStands : s.Stands p c st r)
    (index : Int)
    (payload : Binding) :
    ∃ code, s.Hears [⟨.bind st index payload, code⟩]
        ((hand p st index payload).run s).2 ∧
      ((hand p st index payload).run s).2.Stands p c st r := by
  unfold hand lookup
  rw [run_read, run_bind_of_ok (run_lift _ s),
    hStands.statement]
  have hConsulted := check_consulted st.database
    (Quiet.invoke (.bind st index payload) s).1 .binding r.sql
    (Quiet.invoke (.bind st index payload) s).2
  exact ⟨_,
    (Session.Hears.call (c := .bind st index payload) rfl
      s).trans (.of_consulted hConsulted),
    (hStands.call _).of_consulted hConsulted⟩

end Statement

/-
  Whether a call is one that binding a parameter of a
  statement may make: it resets the statement, or hands over
  a value for a parameter that can be bound.
-/
inductive Event.IsBinding
    (st : StatementHandle)
    (r : Statement)
    (index : Int) : Event → Prop where
  | reset {code} : IsBinding st r index ⟨.reset st, code⟩
  | bind {payload code}
      (hTakes : r.Takes index) :
      IsBinding st r index ⟨.bind st index payload, code⟩

/- Binding an argument hands it over for that parameter. -/
theorem Session.Knows.bindArgument_hears
    (hKnows : s.Knows p c st r)
    (index : Int)
    (argument : Argument) :
    ∃ l r',
      s.Hears l
        ((Statement.bindArgument p index argument).run s).2 ∧
      ((Statement.bindArgument p index
        argument).run s).2.Stands p c st r' ∧
      r'.parameterCount = r.parameterCount ∧
      ∀ e ∈ l, e.IsBinding st r index := by
  have hNothing : s.Hears [] s := .of_trace rfl
  rw [Statement.bindArgument_eq]
  cases argument.checked with
  | error refusal =>
      exact ⟨[], r, hNothing, hKnows.toStands, rfl, nofun⟩
  | ok v =>
      rw [accept_ok_bind]
      by_cases hTakes : (s.world.statement p).Takes index
      · have hBind : ∀ {code},
            Event.IsBinding st r index
              ⟨.bind st index v.payload, code⟩ :=
          .bind (hKnows.statement ▸ hTakes)
        rw [Statement.bindChecked,
          Statement.bindPayload_of_takes hTakes
            (hKnows.statement ▸ hKnows.handle)]
        unfold Statement.rewindIfDone Statement.lookup
        rw [bind_assoc, run_read, hKnows.statement]
        by_cases hDone : r.state = .done
        · rw [if_pos hDone]
          rcases hKnows.rewound with ⟨hDid, hRewound⟩
          rcases hRun : (Statement.rewind p st).run s with
            ⟨result, u⟩
          rw [hRun] at hDid hRewound
          cases result with
          | error e =>
              rw [run_bind_of_error hRun]
              exact ⟨_, _, hDid.heard, hRewound.toStands, rfl,
                List.forall_mem_singleton.mpr .reset⟩
          | ok _ =>
              rw [run_bind_of_ok hRun]
              rcases Statement.hand_hears hRewound.toStands
                index v.payload with ⟨code, hHears, hStands⟩
              refine ⟨_, _, hDid.heard.trans hHears, hStands,
                rfl, ?_⟩
              exact List.forall_mem_cons.mpr ⟨hBind,
                List.forall_mem_singleton.mpr .reset⟩
        · rw [if_neg hDone]
          rcases Statement.hand_hears hKnows.toStands index
            v.payload with ⟨code, hHears, hStands⟩
          exact ⟨_, r, hHears, hStands, rfl,
            List.forall_mem_singleton.mpr hBind⟩
      · rcases Statement.bindPayload_of_not_takes hTakes
          v.bindingName v.payload with ⟨refusal, hRun⟩
        rw [Statement.bindChecked, hRun]
        exact ⟨[], r, hNothing, hKnows.toStands, rfl, nofun⟩

/- A parameter that can be bound has a name, if only empty. -/
theorem Session.Stands.parameterName_run
    {index : Int}
    (hStands : s.Stands p c st r)
    (hFirst : 1 ≤ index)
    (hLast : index ≤ (r.parameterCount : Int)) :
    (Statement.parameterName p index).run s =
      (.ok ((Quiet.invoke (.parameterName st index) s).1.getD
        []), (Quiet.invoke (.parameterName st index) s).2) := by
  unfold Statement.parameterName Statement.lookup
  rw [run_bind_of_ok (hStands.requireHandle _), run_read,
    run_bind_of_ok (run_require_of_true
      (by simp [hStands.statement, hFirst, hLast]) _ s)]
  rfl

------------------------------------------------------------
-- Binding by Name
------------------------------------------------------------

/-
  Whether a parameter was bound between two sessions: the
  engine was handed something for that index.
-/
def Session.Binds
    (s t : Session E)
    (st : StatementHandle)
    (index : Int) : Prop :=
  ∃ events payload code,
    t.world.trace = events ++ s.world.trace ∧
      (⟨.bind st index payload, code⟩ : Event) ∈ events

/- A call that has an effect is among those with effects. -/
theorem Session.Binds.mem_of_hears
    {index : Int}
    {l : Trace}
    (hBinds : s.Binds t st index)
    (hHears : s.Hears l t) :
    ∃ payload code,
      (⟨.bind st index payload, code⟩ : Event) ∈ l := by
  rcases hBinds with ⟨events, payload, code, hTrace, hMember⟩
  rcases hHears with ⟨events', hTrace', rfl⟩
  have hSame : events = events' :=
    List.append_cancel_right (hTrace.symm.trans hTrace')
  subst hSame
  exact ⟨payload, code, List.mem_filter.mpr ⟨hMember, rfl⟩⟩

/-
  Whether binding a value by a name reaches the parameter with
  that name, and no other:

    * `missing`: if no parameter has one of the candidates,
      the call is refused, and the engine was only asked
    * `reaches`: otherwise it goes on as the call that binds
      the parameter with the first of them
    * `bound`: a parameter that is bound belongs to that
      statement and is that parameter, and its name, if it is
      asked for afterwards, is that candidate
-/
structure Session.BindsByName
    (s : Session E)
    (p : Place)
    (st : StatementHandle)
    (parameters : List (Option Bytes))
    (name : Bytes)
    (argument : Argument) : Prop where
  missing :
    Statement.Unnamed parameters (Statement.candidates name) →
      ((Statement.bindNamed p name argument).run s).1 =
          .error (.database (Refusal.parameterName name
            (s.world.statement p).sql).error) ∧
        s.Consulted
          ((Statement.bindNamed p name argument).run s).2
  reaches :
    ¬ Statement.Unnamed parameters
        (Statement.candidates name) →
      ∃ x index asked,
        Statement.FirstNamed parameters
            (Statement.candidates name) x index ∧
          s.Consulted asked ∧
          (Statement.bindNamed p name argument).run s =
            (Statement.bindArgument p index argument).run asked
  bound : ∀ {st' i},
    s.Binds ((Statement.bindNamed p name argument).run s).2 st'
        i →
      st' = st ∧ ∃ x index,
        i = Nat.cast index ∧
        Statement.FirstNamed parameters
            (Statement.candidates name) x index ∧
        ∀ {named u},
          (Statement.parameterName p i).run
              ((Statement.bindNamed p name argument).run s).2 =
            (named, u) →
          u.world.trace.NamesParameters st parameters →
            named = .ok (Bytes.untilNul x)

namespace Session.Knows

variable {parameters : List (Option Bytes)} {name : Bytes}

/- A name that is found goes on as its index. -/
theorem bindNamed_of_found
    (hKnows : s.Knows p c st r)
    (hFound : (Statement.searchNames st
      (Statement.candidates name) s).1 ≠ 0)
    (argument : Argument) :
    (Statement.bindNamed p name argument).run s =
      (Statement.bindArgument p (Statement.searchNames st
        (Statement.candidates name) s).1 argument).run
          (Statement.searchNames st
            (Statement.candidates name) s).2 := by
  have hHandle : (s.world.statement p).handle = some st :=
    hKnows.statement ▸ hKnows.handle
  have hRun := Statement.requireParameterIndex_run hHandle name
  rw [run_bind_of_ok (run_lift _ s), Statement.lookup,
    run_read, run_bind_of_ok (run_require_of_true
      (decide_eq_true hFound) _ _)] at hRun
  exact run_bind_of_ok hRun

/- A name that is not found is refused. -/
theorem bindNamed_of_missing
    (hKnows : s.Knows p c st r)
    (hMissing : (Statement.searchNames st
      (Statement.candidates name) s).1 = 0)
    (argument : Argument) :
    (Statement.bindNamed p name argument).run s =
      (.error (.database (Refusal.parameterName name
        (s.world.statement p).sql).error),
        (Statement.searchNames st
          (Statement.candidates name) s).2) := by
  have hHandle : (s.world.statement p).handle = some st :=
    hKnows.statement ▸ hKnows.handle
  have hConsulted := Statement.searchNames_consults st
    (Statement.candidates name) s
  have hRun := Statement.requireParameterIndex_run hHandle name
  rw [run_bind_of_ok (run_lift _ s), Statement.lookup,
    run_read, run_bind_of_error (run_require_of_false
      (by simp [hMissing]) _ _), hConsulted.statement] at hRun
  exact run_bind_of_error hRun

/- No parameter is bound by a name that is not found. -/
theorem bindsByName_of_unnamed
    (hKnows : s.Knows p c st r)
    (hMissing : (Statement.searchNames st
      (Statement.candidates name) s).1 = 0)
    (hUnnamed : Statement.Unnamed parameters
      (Statement.candidates name))
    (argument : Argument) :
    s.BindsByName p st parameters name argument := by
  have hRun := hKnows.bindNamed_of_missing hMissing argument
  have hConsulted := Statement.searchNames_consults st
    (Statement.candidates name) s
  constructor
  case missing =>
    intro _
    rw [hRun]
    exact ⟨rfl, hConsulted⟩
  case reaches =>
    exact fun hNamed => absurd hUnnamed hNamed
  case bound =>
    intro st' i hBinds
    rw [hRun] at hBinds
    rcases hBinds.mem_of_hears (.of_consulted hConsulted) with
      ⟨_, _, hMember⟩
    cases hMember

/- The first parameter that is found is bound. -/
theorem bindsByName_of_named
    {x : Bytes}
    {argument : Argument}
    (hKnows : s.Knows p c st r)
    (hFirst : Statement.FirstNamed parameters
      (Statement.candidates name) x
      (Statement.searchNames st
        (Statement.candidates name) s).1) :
    s.BindsByName p st parameters name argument := by
  let index := (Statement.searchNames st
    (Statement.candidates name) s).1
  let asked := (Statement.searchNames st
    (Statement.candidates name) s).2
  have hConsulted : s.Consulted asked :=
    Statement.searchNames_consults st
      (Statement.candidates name) s
  have hRun :=
    hKnows.bindNamed_of_found hFirst.counted argument
  rcases (hKnows.of_consulted hConsulted).bindArgument_hears
      index argument with
    ⟨l, r', hHears, hStands, hCount, hBinding⟩
  rw [← hRun] at hHears hStands
  constructor
  case missing =>
    exact fun hUnnamed => absurd hUnnamed hFirst.not_unnamed
  case reaches =>
    exact fun _ => ⟨x, index, asked, hFirst, hConsulted, hRun⟩
  case bound =>
    intro st' i hBinds
    rcases hBinds.mem_of_hears
        ((Hears.of_consulted hConsulted).trans hHears) with
      ⟨payload, code, hMember⟩
    rw [List.append_nil] at hMember
    -- every call with an effect is about that index
    cases hBinding _ hMember with
    | bind hTakes =>
        refine ⟨rfl, x, index, rfl, hFirst, ?_⟩
        intro named u hAsked hAll
        rw [hStands.parameterName_run hTakes.first
          (hCount ▸ hTakes.last)] at hAsked
        cases hAsked
        have hName := hFirst.name_told
          (hAll _ List.mem_cons_self) hTakes.first
        exact congrArg (fun y : Option Bytes =>
          (Except.ok (y.getD []) : Except Failure Bytes)) hName

/-
  If the engine answers as documented, binding by a name
  reaches the parameter with that name.
-/
theorem bindsByName
    {argument : Argument}
    (hKnows : s.Knows p c st r)
    (hAnswers : ((Statement.bindNamed p name argument).run
      s).2.world.trace.NamesParameters st parameters) :
    s.BindsByName p st parameters name argument := by
  by_cases hMissing : (Statement.searchNames st
      (Statement.candidates name) s).1 = 0
  · rw [hKnows.bindNamed_of_missing hMissing argument]
      at hAnswers
    rcases Statement.searchNames_told hAnswers with
      ⟨-, hUnnamed⟩ | ⟨x, hFirst⟩
    · exact hKnows.bindsByName_of_unnamed hMissing hUnnamed
        argument
    · exact absurd hMissing hFirst.counted
  · have hConsulted := Statement.searchNames_consults st
      (Statement.candidates name) s
    rw [hKnows.bindNamed_of_found hMissing argument]
      at hAnswers
    rcases (hKnows.of_consulted hConsulted).bindArgument_hears
        _ argument with
      ⟨_, _, ⟨events, hTrace, -⟩, -⟩
    -- the index was told before anything was bound
    rw [hTrace] at hAnswers
    rcases Statement.searchNames_told hAnswers.of_append with
      ⟨hNone, -⟩ | ⟨x, hFirst⟩
    · exact absurd hNone hMissing
    · exact hKnows.bindsByName_of_named hFirst

end Session.Knows

------------------------------------------------------------
-- Sessions
------------------------------------------------------------

/- A text without a NUL is read to its end. -/
theorem Bytes.untilNul_of_not_mem
    {t : Bytes}
    (hWhole : 0 ∉ t) :
    untilNul t = t := by
  unfold untilNul
  rw [List.takeWhile_eq_self_iff]
  intro b hMember
  exact decide_eq_true fun hNul => hWhole (hNul ▸ hMember)

/- The candidates for a name without a NUL have none. -/
theorem Statement.untilNul_of_candidate
    {name x : Bytes}
    (hWhole : 0 ∉ name)
    (hCandidate : x ∈ candidates name) :
    Bytes.untilNul x = x := by
  apply Bytes.untilNul_of_not_mem
  rw [candidates_eq] at hCandidate
  rcases List.mem_cons.mp hCandidate with rfl | hSigil
  · exact hWhole
  split at hSigil
  case isTrue =>
    rcases List.mem_map.mp hSigil with ⟨b, hMember, rfl⟩
    have hNotNul : (0 : UInt8) ≠ b := by
      rintro rfl
      exact absurd hMember (by decide)
    exact List.not_mem_cons_of_ne_of_not_mem hNotNul hWhole
  case isFalse => cases hSigil

namespace Session

/-
  In any run in which the engine answers as documented, a
  value that is bound by a name reaches the parameter with the
  first candidate for that name, up to a NUL, and no other.
  Nothing is cut of a name that holds no NUL.
-/
theorem named_parameter_bound
    {engine : E.State}
    {patience : Nat}
    {log : Log}
    {ops : List Operation}
    {parameters : List (Option Bytes)}
    (hSession : s = ((start engine patience log).runAll ops).2)
    (hHandle : (s.world.statement p).handle = some st)
    (name : Bytes)
    (argument : Argument)
    (hAnswers : ((Statement.bindNamed p name argument).run
      s).2.world.trace.NamesParameters st parameters) :
    s.BindsByName p st parameters name argument ∧
      (0 ∉ name → ∀ x ∈ Statement.candidates name,
        Bytes.untilNul x = x) := by
  have hSound := reachable_sound engine patience log ops
  rw [← hSession] at hSound
  rcases hSound.knows rfl hHandle with ⟨c, hKnows⟩
  exact ⟨hKnows.bindsByName hAnswers,
    fun hWhole x => Statement.untilNul_of_candidate hWhole⟩

/- An engine that knows a statement with named parameters. -/
def namingEngine
    (parameters : List String) : Engine.scripted.State :=
  ({ script :=
      { programs :=
          [{ sql := Bytes.ascii "S"
             parameters := parameters.map fun name =>
              some (Bytes.ascii name) }] } } : Scripted.State)

/- The session in which that statement is prepared. -/
def namingSession
    (parameters : List String) : Session Engine.scripted :=
  ((start (namingEngine parameters) 10 {}).runAll
    oneRowSetup).2

/- The first statement of the first database. -/
def firstStatement : StatementHandle :=
  { number := 1, database := { number := 1 } }

/- What binding a null by a name leaves there. -/
def namedSession
    (parameters : List String)
    (name : Bytes) : Session Engine.scripted :=
  ((Statement.bindNamed (.slot 0) name .null).run
    (namingSession parameters)).2

/-
  Where two parameters have a name that is asked for, the one
  with the earlier candidate is bound, which is the second.
-/
theorem named_parameter_bound_second :
    (namingSession ["$a", "@a"]).BindsByName (.slot 0)
        firstStatement
        [some (Bytes.ascii "$a"), some (Bytes.ascii "@a")]
        (Bytes.ascii "a") .null ∧
      (namedSession ["$a", "@a"] (Bytes.ascii "a")
        ).world.trace.head? =
          some ⟨.bind firstStatement 2 .null,
            ResultCode.ok⟩ := by
  have hHandle : ((namingSession ["$a", "@a"]).world.statement
      (.slot 0)).handle = some firstStatement := by
    decide +kernel
  have hAnswers : ((Statement.bindNamed (.slot 0)
      (Bytes.ascii "a") .null).run (namingSession
        ["$a", "@a"])).2.world.trace.NamesParameters
          firstStatement
          [some (Bytes.ascii "$a"),
            some (Bytes.ascii "@a")] := by
    decide +kernel
  have hSession : namingSession ["$a", "@a"] =
      ((start (namingEngine ["$a", "@a"]) 10 {}).runAll
        oneRowSetup).2 := rfl
  have hBound := named_parameter_bound hSession hHandle
    (Bytes.ascii "a") .null hAnswers
  exact ⟨hBound.1, by decide +kernel⟩

/- A name that goes on after a NUL. -/
def cutName : Bytes :=
  Bytes.ascii ":a" ++ 0 :: Bytes.ascii "b"

/-
  A name that goes on after a NUL reaches a parameter whose
  name it is not, though the engine answers as documented.
-/
theorem cut_name_reaches_another :
    (namedSession [":a"] cutName).world.trace.NamesParameters
        firstStatement [some (Bytes.ascii ":a")] ∧
      (namedSession [":a"] cutName).world.trace.head? =
        some ⟨.bind firstStatement 1 .null, ResultCode.ok⟩ ∧
      ((Statement.parameterName (.slot 0) 1).run
        (namedSession [":a"] cutName)).1.toOption =
          some (Bytes.ascii ":a") ∧
      Bytes.ascii ":a" ∉ Statement.candidates cutName := by
  decide +kernel

end Session

end SqliteAccess
