import NoteDesk.Config

/-!
# Where things are kept

`Places.ofEnvironment` says where the data directory and the cache directory are: under the
directories that the environment names for such things, if it names them by absolute paths, and
otherwise under the usual ones at home. `Places.withConfig` puts the cache where the configuration
says.
-/

namespace NoteDesk

/-- What the program finds in its environment. -/
structure Environment where
  home : Option String := none
  /-- Home as the user's account has it, for when the environment names none. -/
  accountHome : Option String := none
  /-- Where programs are to keep their data. -/
  dataHome : Option String := none
  /-- Where programs are to keep what they can do without. -/
  cacheHome : Option String := none
  /-- The user's editor. -/
  editor : Option String := none
  /-- The user's editor on a full screen. -/
  visual : Option String := none
  /-- The programs that a search by name finds. -/
  programs : List String := []
  deriving DecidableEq, Repr, Inhabited

/-- The directories of the program. -/
structure Places where
  data : String
  cache : String
  deriving DecidableEq, Repr

namespace Places

/-- Name of the program's own directories. -/
def ownName : String := "clinote"

/-- The path begins at the root. -/
def isAbsolute (path : String) : Bool :=
  path.toList.head? == some '/'

/-- A path below another. -/
def join (path below : String) : String :=
  if path.toList.getLast? = some '/' ∨ path.toList = [] then path ++ below else path ++ "/" ++ below

/-- A directory that the environment may name, if it does so by an absolute path, or else one below
home. -/
def base (named : Option String) (home below : String) : String :=
  match named with
  | some path => if isAbsolute path then path else join home below
  | none => join home below

/-- The user's home. A name that the environment leaves empty does not count. -/
def home? (env : Environment) : Option String :=
  match env.home with
  | some path => if path.isEmpty then env.accountHome else some path
  | none => env.accountHome

/-- The places that the environment stands for. Without a home there are none. -/
def ofEnvironment (env : Environment) : Except Failure Places :=
  match home? env with
  | none => .error (.config .noHome)
  | some home =>
    .ok
      { data := join (base env.dataHome home ".local/share") ownName
        cache := join (base env.cacheHome home ".cache") ownName }

/-- The places after the configuration has moved the cache, if it does. -/
def withConfig (p : Places) (c : Config) : Places :=
  { p with cache := c.cacheDir.getD p.cache }

end Places
end NoteDesk
