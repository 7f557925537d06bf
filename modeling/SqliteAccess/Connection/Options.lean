import SqliteAccess.Error.Refusal

/-
  How a database is opened and configured.

  Key definitions include:
    * `OpenFlags`
    * `OpenFlags.has`
    * `OpenFlags.native`
    * `ConnectionOptions`
-/

namespace SqliteAccess

------------------------------------------------------------
-- Flags
------------------------------------------------------------

/- A set of flags, one bit each. -/
structure OpenFlags where
  bits : Int32
  deriving DecidableEq

namespace OpenFlags

def none : OpenFlags := ⟨0⟩
def readOnly : OpenFlags := ⟨0x1⟩
def readWrite : OpenFlags := ⟨0x2⟩
def create : OpenFlags := ⟨0x4⟩
def uri : OpenFlags := ⟨0x40⟩
def memory : OpenFlags := ⟨0x80⟩
def withoutMutex : OpenFlags := ⟨0x8000⟩
def sharedCache : OpenFlags := ⟨0x20000⟩
def privateCache : OpenFlags := ⟨0x40000⟩

/- The flags of either set. -/
def union (a b : OpenFlags) : OpenFlags :=
  ⟨a.bits ||| b.bits⟩

/- The flags of both sets. -/
def inter (a b : OpenFlags) : OpenFlags :=
  ⟨a.bits &&& b.bits⟩

/-
  Whether a set has every flag of another one, which must not
  be empty.
-/
def has (flags wanted : OpenFlags) : Bool :=
  flags.inter wanted == wanted && wanted != none

/- The flags of the sets in a list. -/
def ofList (l : List OpenFlags) : OpenFlags :=
  l.foldl union none

/-
  The flags that are passed on to the engine.  A database is
  opened either for reading or for writing, only a writer may
  create it, and its path has no NUL.  Paths in the form of a
  URI are read as such, and a cache is private unless it is
  shared.
-/
def native
    (path : Bytes)
    (flags : OpenFlags) : Except Refusal OpenFlags :=
  if flags.has readOnly == flags.has readWrite then
    .error .conflictingFlags
  else if flags.has create && ! flags.has readWrite then
    .error .createWithoutWriting
  else if path.contains 0 then
    .error .nulInPath
  else
    let isUri := (Bytes.ascii "file:").isPrefixOf path
    .ok <|
      (flags.union (if isUri then uri else none)).union
        (withoutMutex.union
          (if flags.has sharedCache then none
            else privateCache))

end OpenFlags

------------------------------------------------------------
-- Options
------------------------------------------------------------

/-
  The options of a connection: the flags, the time to wait
  for locks, whether foreign keys are enforced, whether the
  journal is a write-ahead log, whether result codes are
  refined, and whether double quotes are kept for names.
-/
structure ConnectionOptions where
  flags : OpenFlags :=
    .ofList [.readWrite, .create, .uri]
  busyTimeout : Option Int := none
  foreignKeys : Bool := true
  writeAheadLog : Bool := false
  extendedCodes : Bool := true
  strictQuoting : Bool := true
  deriving DecidableEq

/- The number of a switch of the engine. -/
abbrev ConfigFlag :=
  Int

namespace ConfigFlag

/- Double-quoted strings in queries and changes of data. -/
def quotedStringsInData : ConfigFlag :=
  1013

/- Double-quoted strings in definitions. -/
def quotedStringsInDefinitions : ConfigFlag :=
  1014

end ConfigFlag

end SqliteAccess
