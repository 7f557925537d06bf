import SqliteAccess.Engine.Scripted
import SqliteAccess.Proofs.Connection.Pieces
import SqliteAccess.Proofs.Session.Consistency

/-
  How the statements of a text are run one after the other.

  A text is walked through piece by piece.  What is compiled
  is the rest of the text, without the blank that it starts
  with; the piece that the engine takes of it is run and
  finalized before the next one is compiled.

  Key definitions include:
    * `Connection.Pieces`
    * `Connection.Ends`
    * `Connection.Walks`

  Correctness is proven by:
    * `Connection.executeUpTo_walks`
    * `Connection.executeUpTo_settles`
    * `Connection.executeBatch_walks`
-/

namespace SqliteAccess

variable {E : Engine} {s t u : Session E} {c : ConnectionId}
variable {sql : Bytes}

open Attempt

namespace Connection

------------------------------------------------------------
-- Walking Through a Text
------------------------------------------------------------

/-
  Whether pieces of a text are run one after the other: each
  starts behind the blank that follows the last one, and the
  next one follows where it stops.
-/
inductive Pieces
    (c : ConnectionId)
    (sql : Bytes) :
    Nat → Session E → List Piece → Nat → Session E → Prop
  where
  | nil {i : Nat} {s : Session E} : Pieces c sql i s [] i s
  | cons {i j : Nat} {s t u : Session E} {q : Piece}
      {pieces : List Piece}
      (hStart : q.start = i + Blank.length (sql.drop i))
      (hBounds :
        q.start < q.stop sql ∧ q.stop sql ≤ sql.length)
      (hPiece : q.Completes c sql s t)
      (hRest : Pieces c sql (q.stop sql) t pieces j u) :
      Pieces c sql i s (q :: pieces) j u

/-
  How a text ends whose pieces up to an offset have been run,
  with the offset of the text that is compiled then, if any:

    * `finished`: the rest is blank, and nothing is done
    * `refused`: the connection is closed or the rest without
      its blank is too long, and nothing is done
    * `failed`: the rest without its blank is compiled and
      run, which fails; what it was compiled to is finalized
-/
inductive Ends
    (c : ConnectionId)
    (sql : Bytes)
    (i : Nat)
    (s : Session E) :
    Except Failure Unit × Session E → List Nat → Prop where
  | finished
      (hBlank : Blank.isBlank (sql.drop i) = true) :
      Ends c sql i s (.ok (), s) []
  | refused {e : Failure}
      (hText : Blank.isBlank (sql.drop i) = false)
      (hUnsent : (s.world.connection c).handle = none ∨
        Statement.longestText <
          (Blank.rest (sql.drop i)).length)
      (hRaises : Raises c (Blank.rest (sql.drop i)) s e) :
      Ends c sql i s (.error e, s) []
  | failed {db : DatabaseHandle} {o : Nat} {e : Failure}
      {l : Trace} {t : Session E}
      (hText : Blank.isBlank (sql.drop i) = false)
      (hOpen : (s.world.connection c).handle = some db)
      (hStart : o = i + Blank.length (sql.drop i))
      (hRaises : Raises c (sql.drop o) s e)
      (hDid : s.Did l t)
      (hRan : Statement.Ran db (sql.drop o)
        Statement.Exhausted false l) :
      Ends c sql i s (.error e, t) [o]

/- A blank text has no piece. -/
theorem executeUpTo_of_blank
    (hBlank : Blank.isBlank sql = true)
    (n : Nat)
    (s : Session E) :
    (executeUpTo c (n + 1) sql).run s = (.ok (), s) := by
  unfold executeUpTo
  rw [Blank.isBlank_iff.mp hBlank]
  rfl

/- Any other text has one, behind the blank. -/
theorem executeUpTo_of_text
    (hText : Blank.isBlank sql = false)
    (n : Nat)
    (s : Session E) :
    (executeUpTo c (n + 1) sql).run s =
      (executeFirst c (Blank.rest sql) >>= fun consumed =>
        executeUpTo c n
          ((Blank.rest sql).drop consumed)).run s := by
  have hAny : (Blank.rest sql).isEmpty = false := by
    rw [List.isEmpty_eq_false_iff]
    intro hNone
    rw [Blank.isBlank_iff.mpr hNone] at hText
    cases hText
  rw [executeUpTo]
  simp only [hAny, Bool.not_false, if_true]

/-
  What follows the pieces that have been run is the end of the
  text, or it has a next piece.
-/
theorem executeFirst_cases
    {i : Nat}
    (hUnlisted : s.Unlisted .scratch c)
    (hText : Blank.isBlank (sql.drop i) = false)
    (hEnds : ((executeFirst c (Blank.rest (sql.drop i))).run
      s).1 ≠ .error .endless) :
    (∃ e t o,
      (executeFirst c (Blank.rest (sql.drop i))).run s =
          (.error e, t) ∧
        Ends c sql i s (.error e, t) o) ∨
      ∃ (q : Piece) (t : Session E),
        q.start = i + Blank.length (sql.drop i) ∧
        (executeFirst c (Blank.rest (sql.drop i))).run s =
          (.ok (q.length sql), t) ∧
        q.Completes c sql s t := by
  have hFirst := Blank.isBlank_rest hText
  by_cases hUnsent : (s.world.connection c).handle = none ∨
    Statement.longestText < (Blank.rest (sql.drop i)).length
  · rcases executeFirst_of_unsent hFirst hUnsent with
      ⟨e, hRun⟩
    have hRaises := raises_of_executeFirst
      (congrArg Prod.fst hRun)
    exact .inl ⟨e, s, [], hRun,
      .refused hText hUnsent hRaises⟩
  · rcases not_or.mp hUnsent with ⟨hHandle, hFits⟩
    rcases Option.ne_none_iff_exists'.mp hHandle with
      ⟨db, hOpen⟩
    have hSendable : Statement.Sendable
        (Blank.rest (sql.drop i)) :=
      ⟨hFirst, Nat.not_lt.mp hFits⟩
    rw [executeFirst_run] at hEnds ⊢
    rw [Blank.rest_drop] at hSendable hEnds ⊢
    rcases executeFirstIn_cases hOpen hUnlisted hSendable
      s.world.patience hEnds with
      ⟨e, l, t, hRun, hDid, hRan⟩ | hPiece
    · have hRaises := raises_of_executeFirst
        (congrArg Prod.fst
          ((executeFirst_run c _ s).trans hRun))
      exact .inl ⟨e, t, _, hRun,
        .failed hText hOpen rfl hRaises hDid hRan⟩
    · exact .inr hPiece

/-
  A text that is not given up is walked through piece by
  piece, up to its end or to a failure.
-/
theorem executeUpTo_walks
    (hAdvances : E.Advances)
    {i n : Nat}
    (hUnlisted : s.Unlisted .scratch c)
    (hEnds : ((executeUpTo c n (sql.drop i)).run s).1 ≠
      .error .endless) :
    ∃ pieces j u o, Pieces c sql i s pieces j u ∧
      Ends c sql j u
        ((executeUpTo c n (sql.drop i)).run s) o := by
  induction n generalizing i s with
  | zero => exact absurd rfl hEnds
  | succ n ih =>
      cases hText : Blank.isBlank (sql.drop i) with
      | true =>
          rw [executeUpTo_of_blank hText]
          exact ⟨[], i, s, [], .nil, .finished hText⟩
      | false =>
          rw [executeUpTo_of_text hText] at hEnds ⊢
          have hFirstEnds :
              ((executeFirst c (Blank.rest (sql.drop i))).run
                s).1 ≠ .error .endless := by
            intro hEndless
            rw [run_bind_of_error (Prod.ext hEndless rfl)]
              at hEnds
            exact hEnds rfl
          rcases executeFirst_cases hUnlisted hText
            hFirstEnds with
            ⟨e, t, o, hRun, hLast⟩ |
              ⟨q, t, hStart, hRun, hPiece⟩
          · rw [run_bind_of_error hRun]
            exact ⟨[], i, s, o, .nil, hLast⟩
          · have hFirst := Blank.isBlank_rest hText
            rw [Blank.rest_drop, ← hStart] at hFirst
            rw [run_bind_of_ok hRun, Blank.rest_drop, ← hStart,
              List.drop_drop] at hEnds ⊢
            rcases ih (hUnlisted.of_did hPiece.did) hEnds with
              ⟨pieces, j, u, o, hPieces, hLast⟩
            exact ⟨q :: pieces, j, u, o,
              .cons hStart (hPiece.bounds hAdvances hFirst)
                hPiece hPieces, hLast⟩

------------------------------------------------------------
-- Coming to an End
------------------------------------------------------------

/-
  What follows the first piece is shorter than the text, and
  the next piece can be run on it.
-/
theorem shorter_of_executeFirstIn
    (hAdvances : E.Advances)
    {n consumed : Nat}
    (hUnlisted : s.Unlisted .scratch c)
    (hText : Blank.isBlank sql = false)
    (hRun : (executeFirstIn c n (Blank.rest sql)).run s =
      (.ok consumed, t)) :
    ((Blank.rest sql).drop consumed).length < sql.length ∧
      t.Unlisted .scratch c := by
  have hFirst := Blank.isBlank_rest hText
  rcases completes_of_executeFirstIn hUnlisted hFirst hRun with
    ⟨q, hStart, hTaken, hPiece⟩
  have hBounds := hPiece.bounds hAdvances
    (by rw [hStart]; exact hFirst)
  unfold Piece.stop at hBounds
  rw [hStart, hTaken] at hBounds
  have hRest : (Blank.rest sql).length ≤ sql.length := by
    unfold Blank.rest
    rw [List.length_drop]
    omega
  refine ⟨?_, hUnlisted.of_did hPiece.did⟩
  rw [List.length_drop]
  omega

/-
  With enough patience, walking through a text is not given
  up: every piece takes away at least one byte, so that there
  is a bound for the steps of all of them.
-/
theorem executeUpTo_settles
    (hAdvances : E.Advances)
    (hRows : ∀ st e, E.Exhausts st e)
    (c : ConnectionId)
    (sql : Bytes)
    (s : Session E)
    (hUnlisted : s.Unlisted .scratch c) :
    ∃ m, ∀ n k s', m ≤ n → sql.length ≤ k →
      s.Mirrors (.lasting n) s' →
        ((executeUpTo c (k + 1) sql).run s').1 ≠
          .error .endless := by
  induction hLength : sql.length using Nat.strongRecOn
    generalizing sql s with
  | ind length ih =>
      subst hLength
      cases hText : Blank.isBlank sql with
      | true =>
          refine ⟨0, fun n k s' _ _ _ => ?_⟩
          rw [executeUpTo_of_blank hText]
          exact nofun
      | false =>
          have hFirst := Blank.isBlank_rest hText
          rcases executeFirstIn_settles hRows hFirst c s with
            ⟨m, hEnds, hSame⟩
          rcases hRun : (executeFirstIn c m
            (Blank.rest sql)).run s with ⟨result, t⟩
          rw [hRun] at hEnds hSame
          cases result with
          | error e =>
              refine ⟨m, fun n k s' hMore _ hMirrors => ?_⟩
              rcases executeFirst_of_lasting hMirrors
                (hSame n hMore) with ⟨t', hFails, _⟩
              rw [executeUpTo_of_text hText,
                run_bind_of_error hFails]
              intro hEndless
              cases hEndless
              exact hEnds rfl
          | ok consumed =>
              rcases shorter_of_executeFirstIn hAdvances
                hUnlisted hText hRun with ⟨hLess, hStill⟩
              rcases ih _ hLess _ t hStill rfl with
                ⟨m', hLater⟩
              refine ⟨max m m',
                fun n k s' hMore hBound hMirrors => ?_⟩
              rcases executeFirst_of_lasting hMirrors
                (hSame n (by omega)) with ⟨t', hDone, hAfter⟩
              rw [executeUpTo_of_text hText,
                run_bind_of_ok hDone]
              cases k with
              | zero => omega
              | succ k =>
                  exact hLater n k t' (by omega) (by omega)
                    hAfter

------------------------------------------------------------
-- Order of the Pieces
------------------------------------------------------------

variable {i j : Nat} {pieces : List Piece}

namespace Pieces

/- The pieces lie one after the other. -/
theorem apart
    (hPieces : Pieces c sql i s pieces j u) :
    pieces.Pairwise (fun a b => a.stop sql ≤ b.start) ∧
      i ≤ j ∧ ∀ q ∈ pieces, i ≤ q.start := by
  induction hPieces with
  | nil => exact ⟨.nil, Nat.le_refl _, nofun⟩
  | cons hStart hBounds _ _ ih =>
      rcases ih with ⟨hApart, hBound, hLater⟩
      refine ⟨.cons hLater hApart, by omega, ?_⟩
      intro q' hMember
      rcases List.mem_cons.mp hMember with rfl | hRest
      · omega
      · have hAfter := hLater q' hRest
        omega

/- What is compiled starts at greater and greater offsets. -/
theorem increasing
    {o : List Nat}
    (hPieces : Pieces c sql i s pieces j u)
    (hLast : o.Pairwise (· < ·))
    (hBehind : ∀ k ∈ o, j ≤ k) :
    (pieces.map Piece.start ++ o).Pairwise (· < ·) ∧
      ∀ k ∈ pieces.map Piece.start ++ o, i ≤ k := by
  induction hPieces with
  | nil => exact ⟨hLast, hBehind⟩
  | cons hStart hBounds _ _ ih =>
      rcases ih hBehind with ⟨hOrder, hLater⟩
      refine ⟨.cons (fun k hMember => ?_) hOrder, ?_⟩
      · have hAfter := hLater k hMember
        omega
      · intro k hMember
        rcases List.mem_cons.mp hMember with rfl | hRest
        · omega
        · have hAfter := hLater k hRest
          omega

/- Running the pieces changes no connection. -/
theorem did
    (hPieces : Pieces c sql i s pieces j u) :
    s.Did (pieces.reverse.flatMap (·.calls sql)) u := by
  induction hPieces with
  | nil => exact .refl _
  | cons _ _ hPiece _ ih =>
      have hBoth := hPiece.did.trans ih
      simpa using hBoth

/- Every piece sends its text. -/
theorem sent
    (hPieces : Pieces c sql i s pieces j u) :
    u.sent =
      ((pieces.map Piece.start).map sql.drop).reverse ++
        s.sent := by
  induction hPieces with
  | nil => rfl
  | cons _ _ hPiece _ ih =>
      rw [ih, hPiece.did.heard.sent, Piece.sent_calls]
      simp [Piece.text]

end Pieces

namespace Ends

variable {r : Except Failure Unit × Session E} {o : List Nat}

/- At most one more text is compiled, and it lies behind. -/
theorem behind
    (hEnds : Ends c sql i s r o) :
    o.Pairwise (· < ·) ∧ ∀ k ∈ o, i ≤ k := by
  cases hEnds with
  | finished | refused => exact ⟨.nil, nofun⟩
  | failed _ _ hStart =>
      refine ⟨List.pairwise_singleton _ _, ?_⟩
      intro k hMember
      rw [List.mem_singleton.mp hMember]
      omega

/- However the walk ends, the connections are as before. -/
theorem connections
    (hEnds : Ends c sql i s r o)
    (c' : ConnectionId) :
    r.2.world.connections.get? c' =
      s.world.connections.get? c' := by
  cases hEnds with
  | finished | refused => rfl
  | failed _ _ _ _ hDid => exact hDid.connections c'

/- It sends the text that is compiled. -/
theorem sent
    (hEnds : Ends c sql i s r o) :
    r.2.sent = (o.map sql.drop).reverse ++ s.sent := by
  cases hEnds with
  | finished | refused => rfl
  | failed _ _ _ _ hDid hRan =>
      rw [hDid.heard.sent, hRan.sent]
      rfl

end Ends

------------------------------------------------------------
-- Batches
------------------------------------------------------------

/-
  How a text is walked through, with its pieces and with the
  offsets at which what was compiled starts:

    * `finishes`: it is not given up
    * `course`: the pieces are run one after the other, and
      what follows them ends the walk
    * `apart`: no piece reaches into the next ones
    * `increasing`: the offsets increase
    * `sent`: no other text is sent than what follows them
    * `connections`: all connections are as before, with the
      live statements that they list
-/
structure Walks
    (c : ConnectionId)
    (sql : Bytes)
    (s : Session E)
    (pieces : List Piece)
    (offsets : List Nat)
    (r : Except Failure Unit × Session E) : Prop where
  finishes : r.1 ≠ .error .endless
  course : ∃ j u o, Pieces c sql 0 s pieces j u ∧
    Ends c sql j u r o ∧
    offsets = pieces.map Piece.start ++ o
  apart : pieces.Pairwise fun a b => a.stop sql ≤ b.start
  increasing : offsets.Pairwise (· < ·)
  sent : r.2.sent = (offsets.map sql.drop).reverse ++ s.sent
  connections : ∀ c', r.2.world.connections.get? c' =
    s.world.connections.get? c'

/- A batch that is not given up walks through its text. -/
theorem walks_of_ends
    (hAdvances : E.Advances)
    (hUnlisted : s.Unlisted .scratch c)
    (hEnds : ((executeBatch c sql).run s).1 ≠
      .error .endless) :
    ∃ pieces offsets, Walks c sql s pieces offsets
      ((executeBatch c sql).run s) := by
  have hRun : (executeBatch c sql).run s =
      (executeUpTo c s.world.patience (sql.drop 0)).run s :=
    run_read _ _ s
  rw [hRun] at hEnds ⊢
  rcases executeUpTo_walks hAdvances hUnlisted hEnds with
    ⟨pieces, j, u, o, hPieces, hLast⟩
  refine ⟨pieces, pieces.map Piece.start ++ o, ?_⟩
  exact
    { finishes := hEnds
      course := ⟨j, u, o, hPieces, hLast, rfl⟩
      apart := hPieces.apart.1
      increasing := (hPieces.increasing hLast.behind.1
        hLast.behind.2).1
      sent := by
        rw [hLast.sent, hPieces.sent]
        simp
      connections := fun c' =>
        (hLast.connections c').trans
          (hPieces.did.connections c') }

/- Between operations, no temporary statement is listed. -/
theorem scratch_unlisted
    (engine : E.State)
    (patience : Nat)
    (log : Log)
    (ops : List Operation) :
    ((Session.start engine patience log).runAll
      ops).2.Unlisted .scratch c := by
  intro conn hFound hListed
  have hSound := Session.reachable_sound engine patience log ops
  have hConsistent : ((Session.start engine patience
      log).runAll ops).2.world.Consistent :=
    hSound.consistent rfl
  rcases ((hConsistent.statements c conn hFound).2 _).mp
    hListed with ⟨r, hThere, _⟩
  have hFree := hSound.scratch
  simp only [Session.rest, Table.contains] at hFree
  rw [hThere] at hFree
  cases hFree

/-
  Whatever has happened before, a session that is given enough
  patience walks through a text to its end or to the first
  failure, if the engine takes some bytes of every text that
  it makes a statement of and no statement has infinitely many
  rows.
-/
theorem executeBatch_walks
    (hAdvances : E.Advances)
    (hRows : ∀ st e, E.Exhausts st e)
    (engine : E.State)
    (patience : Nat)
    (log : Log)
    (ops : List Operation)
    (c : ConnectionId)
    (sql : Bytes)
    (s : Session E)
    (hReached : s =
      ((Session.start engine patience log).runAll ops).2) :
    ∃ m, ∀ n, m ≤ n →
      ∃ pieces offsets,
        Walks c sql (s.withPatience n) pieces offsets
          ((executeBatch c sql).run (s.withPatience n)) := by
  have hUnlisted : s.Unlisted .scratch c := by
    rw [hReached]
    exact scratch_unlisted engine patience log ops
  rcases executeUpTo_settles hAdvances hRows c sql s
    hUnlisted with ⟨m, hSettles⟩
  refine ⟨max m (sql.length + 1), fun n hMore => ?_⟩
  cases n with
  | zero => omega
  | succ k =>
      apply walks_of_ends (s := s.withPatience (k + 1))
        hAdvances hUnlisted
      exact hSettles (k + 1) k _ (by omega) (by omega)
        (s.mirrors_withPatience (k + 1))

------------------------------------------------------------
-- Two Rows for Every Statement
------------------------------------------------------------

/- How an engine answers whose statements yield two rows. -/
def twoRowAnswer :
    (x : Call) → Nat × Scripted.State →
      x.Answer × Nat × Scripted.State
  | .prepare sql _, (_, e) =>
      ({ code := ResultCode.ok
         created := ! sql.isEmpty
         tail := some (Scripted.firstStatement sql).length },
        2, e)
  | .step _, (0, e) => (ResultCode.done, 0, e)
  | .step _, (rows + 1, e) => (ResultCode.row, rows, e)
  | .reset _, (_, e) => (ResultCode.ok, 2, e)
  | x, (rows, e) =>
      ((Scripted.answer x e).1, rows, (Scripted.answer x e).2)

/- That engine takes the first statement of every text. -/
def twoRowEngine : Engine where
  State := Nat × Scripted.State
  describe := Scripted.describe
  answer := twoRowAnswer

theorem twoRowEngine_advances : twoRowEngine.Advances := by
  rintro sql st ⟨rows, e⟩ answer _ hCreated n hTail
  have hAny : sql ≠ [] := by
    rintro rfl
    cases hCreated
  cases hTail
  have hParts := congrArg List.length
    (List.takeWhile_append_dropWhile
      (p := fun b => ! (b == Bytes.byte ';')) (l := sql))
  have hLength := List.length_pos_iff.mpr hAny
  rw [List.length_append] at hParts
  unfold Scripted.firstStatement
  simp only [List.length_append, List.length_take]
  omega

theorem twoRowEngine_exhausts
    (st : StatementHandle)
    (e : twoRowEngine.State) :
    twoRowEngine.Exhausts st e := by
  rcases e with ⟨rows, e⟩
  induction rows with
  | zero => exact .step nofun
  | succ rows ih => exact .step fun _ => ih

/- A text with two statements, and a comment between them. -/
def twoStatements : Bytes :=
  Bytes.ascii "INSERT; -- one\n; DELETE"

/- A session of that engine with an open connection. -/
def twoRowSession : Session twoRowEngine :=
  ((Session.start (E := twoRowEngine) (0, { script := {} })
    100 {}).runAll
      [.openConnection 0 []
        { foreignKeys := false, strictQuoting := false }]).2

/- The two statements are walked through. -/
theorem executeBatch_walks_twoRows :
    twoRowEngine.Advances ∧
      (∀ st e, twoRowEngine.Exhausts st e) ∧
      ∃ m, ∀ n, m ≤ n →
        ∃ pieces offsets,
          Walks { number := 1 } twoStatements
            (twoRowSession.withPatience n) pieces offsets
            ((executeBatch { number := 1 } twoStatements).run
              (twoRowSession.withPatience n)) :=
  ⟨twoRowEngine_advances, twoRowEngine_exhausts,
    executeBatch_walks twoRowEngine_advances
      twoRowEngine_exhausts _ 100 {} _ { number := 1 }
      twoStatements twoRowSession rfl⟩

/- The second of them is compiled behind the blank. -/
example :
    (((executeBatch { number := 1 } twoStatements).run
      twoRowSession).2.sent.map (·.length)) = [6, 23] := by
  decide +kernel

end Connection

end SqliteAccess
