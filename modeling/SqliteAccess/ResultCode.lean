import SqliteAccess.Text.Bytes

/-
  Result codes of the engine.

  The low eight bits of a code are its primary code; the rest
  refines it.  The codes of a family are its primary code and
  that code plus multiples of 256.

  Key definitions include:
    * `ResultCode`
    * `ResultCode.primary`
    * `ResultCode.isSuccess`
    * `ResultCode.name`
-/

namespace SqliteAccess

/- A number by which a call of the engine reports its end. -/
abbrev ResultCode :=
  Int

namespace ResultCode

------------------------------------------------------------
-- Codes with a Meaning of Their Own
------------------------------------------------------------

def ok : ResultCode := 0
def generic : ResultCode := 1
def busy : ResultCode := 5
def locked : ResultCode := 6
def outOfMemory : ResultCode := 7
def interrupted : ResultCode := 9
def cannotOpen : ResultCode := 14
def schemaChanged : ResultCode := 17
def tooBig : ResultCode := 18
def constraint : ResultCode := 19
def mismatch : ResultCode := 20
def misuse : ResultCode := 21
def range : ResultCode := 25
def notADatabase : ResultCode := 26
def row : ResultCode := 100
def done : ResultCode := 101

/- The low eight bits of a code. -/
def primary (code : ResultCode) : ResultCode :=
  code % 256

/- Whether a code reports no failure. -/
def isSuccess (code : ResultCode) : Bool :=
  primary code == ok || primary code == row
    || primary code == done

------------------------------------------------------------
-- Names
------------------------------------------------------------

/-
  A primary code with its name and the endings that name its
  refinements, in the order of their numbers.  A number that
  is not in use has an empty ending.
-/
structure Family where
  code : ResultCode
  name : String
  refinements : List String := []

/- Every primary code with a name. -/
def families : List Family :=
  [ { code := 0, name := "OK"
      refinements := ["LOAD_PERMANENTLY", "SYMLINK"] },
    { code := 1, name := "ERROR"
      refinements :=
        ["MISSING_COLLSEQ", "RETRY", "SNAPSHOT"] },
    { code := 2, name := "INTERNAL" },
    { code := 3, name := "PERM" },
    { code := 4, name := "ABORT"
      refinements := ["", "ROLLBACK"] },
    { code := 5, name := "BUSY"
      refinements := ["RECOVERY", "SNAPSHOT", "TIMEOUT"] },
    { code := 6, name := "LOCKED"
      refinements := ["SHAREDCACHE", "VTAB"] },
    { code := 7, name := "NOMEM" },
    { code := 8, name := "READONLY"
      refinements :=
        ["RECOVERY", "CANTLOCK", "ROLLBACK", "DBMOVED",
          "CANTINIT", "DIRECTORY"] },
    { code := 9, name := "INTERRUPT" },
    { code := 10, name := "IOERR"
      refinements :=
        ["READ", "SHORT_READ", "WRITE", "FSYNC",
          "DIR_FSYNC", "TRUNCATE", "FSTAT", "UNLOCK",
          "RDLOCK", "DELETE", "BLOCKED", "NOMEM",
          "ACCESS", "CHECKRESERVEDLOCK", "LOCK", "CLOSE",
          "DIR_CLOSE", "SHMOPEN", "SHMSIZE", "SHMLOCK",
          "SHMMAP", "SEEK", "DELETE_NOENT", "MMAP",
          "GETTEMPPATH", "CONVPATH", "VNODE", "AUTH",
          "BEGIN_ATOMIC", "COMMIT_ATOMIC",
          "ROLLBACK_ATOMIC", "DATA", "CORRUPTFS"] },
    { code := 11, name := "CORRUPT"
      refinements := ["VTAB", "SEQUENCE", "INDEX"] },
    { code := 12, name := "NOTFOUND" },
    { code := 13, name := "FULL" },
    { code := 14, name := "CANTOPEN"
      refinements :=
        ["NOTEMPDIR", "ISDIR", "FULLPATH", "CONVPATH",
          "DIRTYWAL", "SYMLINK"] },
    { code := 15, name := "PROTOCOL" },
    { code := 16, name := "EMPTY" },
    { code := 17, name := "SCHEMA" },
    { code := 18, name := "TOOBIG" },
    { code := 19, name := "CONSTRAINT"
      refinements :=
        ["CHECK", "COMMITHOOK", "FOREIGNKEY", "FUNCTION",
          "NOTNULL", "PRIMARYKEY", "TRIGGER", "UNIQUE",
          "VTAB", "ROWID", "PINNED", "DATATYPE"] },
    { code := 20, name := "MISMATCH" },
    { code := 21, name := "MISUSE" },
    { code := 22, name := "NOLFS" },
    { code := 23, name := "AUTH"
      refinements := ["USER"] },
    { code := 24, name := "FORMAT" },
    { code := 25, name := "RANGE" },
    { code := 26, name := "NOTADB" },
    { code := 27, name := "NOTICE"
      refinements := ["RECOVER_WAL", "RECOVER_ROLLBACK"] },
    { code := 28, name := "WARNING"
      refinements := ["AUTOINDEX"] },
    { code := 100, name := "ROW" },
    { code := 101, name := "DONE" } ]

/- The ending of the `k`-th refinement, if it is in use. -/
def Family.ending?
    (family : Family)
    (k : Int) : Option String :=
  if k < 1 then none else
    match family.refinements[(k - 1).toNat]? with
    | none => none
    | some "" => none
    | some ending => some ending

/-
  The name of a code.  A refinement without a name of its own
  goes by the name of its primary code.
-/
def name (code : ResultCode) : Bytes :=
  match families.find? (·.code == primary code) with
  | none => Bytes.ascii "SQLITE_UNKNOWN"
  | some family =>
      let ending :=
        match family.ending? (code / 256) with
        | none => []
        | some ending => Bytes.ascii ("_" ++ ending)
      Bytes.ascii "SQLITE_" ++ Bytes.ascii family.name
        ++ ending

end ResultCode

end SqliteAccess
