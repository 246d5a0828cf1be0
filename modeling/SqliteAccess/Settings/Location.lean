import SqliteAccess.Settings.Source

/-!
# File paths and the place of the environment file

A path is a root and the names below it. Empty names and names of the directory itself vanish, a
name of the directory above stays. Exactly two slashes in front are a root of their own.

The environment file lies in the directory of the project, unless a variable names another place.
A relative place is seen from the project, and a tilde in front stands for the home directory.

## Main definitions

* `FilePath` : a path.
* `FilePath.ofText`, `FilePath.toText` : its spellings.
* `FilePath.join` : a path below another one.
* `FilePath.below?` : where a path leads from the current directory, if it stays inside.
* `Settings.environmentFile` : the path of the environment file.
-/

namespace SqliteAccess

/-- A path. -/
structure FilePath where
  /-- No slash for a relative path, else one slash or two. -/
  root : Text
  names : List Text
  deriving DecidableEq

namespace FilePath

/-- The name of the directory itself. -/
def here : Text := ['.']

/-- The name of the directory above. -/
def above : Text := ['.', '.']

/-- The names of a text between its slashes. -/
def namesOf (text : Text) : List Text :=
  (text.splitOn '/').filter fun n => !n.isEmpty && n ≠ here

/-- The path of a text. -/
def ofText (text : Text) : FilePath :=
  let slashes := (text.takeWhile (· = '/')).length
  let root := if slashes = 2 then ['/', '/'] else if slashes = 0 then [] else ['/']
  ⟨root, namesOf text⟩

/-- The text of a path; the current directory is a single full stop. -/
def toText (p : FilePath) : Text :=
  if p.root.isEmpty ∧ p.names.isEmpty then here
  else p.root ++ List.intercalate ['/'] p.names

/-- Whether a path does not depend on the current directory. -/
def isAbsolute (p : FilePath) : Bool := !p.root.isEmpty

/-- A path seen from a directory. -/
def join (directory p : FilePath) : FilePath :=
  if p.isAbsolute then p else ⟨directory.root, directory.names ++ p.names⟩

/-- Follows names down from a directory and up again, given the names so far, last one first. -/
def follow (inside : List Text) : List Text → Option (List Text)
  | [] => some inside.reverse
  | name :: rest =>
    if name = above then
      match inside with
      | [] => none
      | _ :: outer => follow outer rest
    else follow (name :: inside) rest

/-- Where a relative path leads from the current directory, if it stays inside. -/
def below? (p : FilePath) : Option Text :=
  if p.isAbsolute then none
  else (follow [] p.names).map fun names => toText ⟨[], names⟩

end FilePath

namespace Settings

/-- Why a place cannot be found. -/
inductive LocationError
  /-- There is no home directory of that name. -/
  | unknownHome
  deriving DecidableEq

/-- The wording of an error. -/
def LocationError.message : LocationError → Text
  | unknownHome => "Could not determine home directory.".toList

/-- The home directory of a process that does not name one. -/
def defaultHome : Text := "/root".toList

/-- The home directory, without slashes at its end. -/
def homeOf (env : Environment) : FilePath :=
  let home := Text.trimRight (· = '/') ((env.get? "HOME".toList).getD defaultHome)
  FilePath.ofText (if home.isEmpty then ['/'] else home)

/-- A path with the home directory in place of a tilde in front. -/
def expandHome (env : Environment) (p : FilePath) : Except LocationError FilePath :=
  match p.root, p.names with
  | [], ('~' :: user) :: rest =>
    if user.isEmpty then .ok ((homeOf env).join ⟨[], rest⟩)
    else if user = "root".toList then .ok ((FilePath.ofText defaultHome).join ⟨[], rest⟩)
    else .error .unknownHome
  | _, _ => .ok p

/-- The name of the file in the directory of the project. -/
def environmentFileName : Text := ".env".toList

/-- The path of the environment file. -/
def environmentFile (env : Environment) (project : FilePath) : Except LocationError FilePath :=
  match env.get? "GPKG_ENV_FILE".toList with
  | some (c :: rest) => (expandHome env (.ofText (c :: rest))).map project.join
  | _ => .ok (project.join ⟨[], [environmentFileName]⟩)

end Settings

end SqliteAccess
