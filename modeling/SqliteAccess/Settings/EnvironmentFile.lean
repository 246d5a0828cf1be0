import SqliteAccess.Settings.Source

/-!
# Environment files

An environment file holds one binding a line, `NAME=value` or `export NAME=value`. A value may
stand between quotes and then span lines; otherwise it ends at the line end or at a blank before a
number sign. A line that is no binding is skipped and reported by its number. References to
variables inside values are resolved against the bindings so far and the environment. A byte order
mark in front of the text does not count.

## Main definitions

* `EnvironmentFile.Binding` : a name with its value, if it has one.
* `EnvironmentFile.read` : the bindings of a text, and the numbers of the lines that are none.
* `EnvironmentFile.expand` : a value with its references resolved.
* `EnvironmentFile.assignments` : the variables that a text defines.
-/

namespace SqliteAccess.EnvironmentFile

/-- A name with its value, if it has one. -/
structure Binding where
  name : Text
  value : Option Text
  deriving DecidableEq

/-- A reading step: what has been read with the rest of the text, or the rest at which it fails. -/
abbrev Reading (α : Type) := StateT Text (Except Text) α

/-- The failure at the current place. -/
def fail {α : Type} : Reading α := fun rest => .error rest

/-- The blanks inside a line. -/
def isLineBlank (c : Char) : Bool := Text.isBlank c && c ≠ '\n'

/-- Skips the characters of a class. -/
def skip (p : Char → Bool) : Reading Unit := modify (·.dropWhile p)

/-- Reads the characters of a class. -/
def takeAll (p : Char → Bool) : Reading Text :=
  modifyGet fun rest => (rest.takeWhile p, rest.dropWhile p)

/-- The word that may stand in front of a binding. -/
def exportWord : Text := "export".toList

/-- Skips the word in front of a binding; it counts only with a blank behind it. -/
def skipExport : Reading Unit :=
  modify fun rest =>
    let after := rest.drop exportWord.length
    if exportWord.isPrefixOf rest && (after.head?.any isLineBlank) then after.dropWhile isLineBlank
    else rest

/-- Reads a name. A comment has none. -/
def readName : Reading (Option Text) := do
  match ← get with
  | '#' :: _ => return none
  | '\'' :: rest =>
    let name := rest.takeWhile (· ≠ '\'')
    match rest.dropWhile (· ≠ '\'') with
    | _ :: after => if name.isEmpty then fail else set after; return some name
    | [] => fail
  | _ =>
    let name ← takeAll fun c => c ≠ '=' && c ≠ '#' && !Text.isBlank c
    if name.isEmpty then fail else return some name

/-- The text of a quoted value from just after its opening quote, and what follows its end. A quote
behind a backslash does not end the value. -/
def quotedPart (quote : Char) : Text → Option (Text × Text)
  | [] => none
  | [c] => if c = quote then some ([], []) else none
  | c :: next :: rest =>
    if c = quote then some ([], next :: rest)
    else if c = '\\' ∧ next = quote then
      match quotedPart quote rest with
      | some (text, after) => some (c :: next :: text, after)
      | none => some ([c], rest)
    else (quotedPart quote (next :: rest)).map fun (text, after) => (c :: text, after)

/-- The character that a letter behind a backslash stands for between double quotes. -/
def escaped? (c : Char) : Option Char :=
  match c with
  | '\\' => some '\\'
  | '\'' => some '\''
  | '"' => some '"'
  | 'a' => some '\x07'
  | 'b' => some '\x08'
  | 'f' => some '\x0c'
  | 'n' => some '\n'
  | 'r' => some '\r'
  | 't' => some '\t'
  | 'v' => some '\x0b'
  | _ => none

/-- The character that a letter behind a backslash stands for between single quotes. -/
def plainEscaped? (c : Char) : Option Char := if c = '\\' ∨ c = '\'' then some c else none

/-- Resolves the escapes of a quoted value. -/
def resolveEscapes (meaning : Char → Option Char) : Text → Text
  | [] => []
  | [c] => [c]
  | c :: next :: rest =>
    if c = '\\' then
      match meaning next with
      | some d => d :: resolveEscapes meaning rest
      | none => c :: resolveEscapes meaning (next :: rest)
    else c :: resolveEscapes meaning (next :: rest)

/-- A value without quotes: it ends at the first blanks in front of a number sign, and blanks at
its end do not count. -/
def plainValue : Text → Text
  | line => Text.trimRight Text.isBlank (beforeComment line)
where
  /-- The part of a line in front of its comment. -/
  beforeComment : Text → Text
    | [] => []
    | c :: rest =>
      if Text.isBlank c && (rest.dropWhile Text.isBlank).head? = some '#' then []
      else c :: beforeComment rest

/-- Reads a value between quotes. -/
def readQuoted (quote : Char) (meaning : Char → Option Char) (rest : Text) : Reading Text := do
  match quotedPart quote rest with
  | some (text, after) => set after; return resolveEscapes meaning text
  | none => fail

/-- Reads a value. -/
def readValue : Reading Text := do
  match ← get with
  | '\'' :: rest => readQuoted '\'' plainEscaped? rest
  | '"' :: rest => readQuoted '"' escaped? rest
  | [] => return []
  | _ => return plainValue (← takeAll (· ≠ '\n'))

/-- Reads the end of a line, with the comment in front of it. -/
def readLineEnd : Reading Unit := do
  skip isLineBlank
  if (← get).head? = some '#' then skip (· ≠ '\n')
  match ← get with
  | [] => return ()
  | '\n' :: rest => set rest
  | _ => fail

/-- Reads one binding, with the blank lines in front of it. -/
def readBinding : Reading (Option Binding) := do
  skip Text.isBlank
  if (← get).isEmpty then return none
  skipExport
  let name ← readName
  skip isLineBlank
  let mut value := none
  if (← get).head? = some '=' then
    modify (·.drop 1)
    skip isLineBlank
    value := some (← readValue)
  readLineEnd
  return name.map fun n => ⟨n, value⟩

/-- The number of line ends in the part of `text` in front of `rest`. -/
def linesBetween (text rest : Text) : Nat := (text.take (text.length - rest.length)).count '\n'

/-- The bindings of a text that starts at a line, and the numbers of the lines that are none. -/
def readFrom (line : Nat) (text : Text) : List Binding × List Nat :=
  if text.isEmpty then ([], [])
  else
    let (binding, faulty, rest) := match readBinding text with
      | .ok (binding, rest) => (binding, false, rest)
      | .error rest => (none, true, (rest.dropWhile (· ≠ '\n')).drop 1)
    if rest.length < text.length then
      let (bindings, faults) := readFrom (line + linesBetween text rest) rest
      (binding.toList ++ bindings, if faulty then line :: faults else faults)
    else (binding.toList, if faulty then [line] else [])
termination_by text.length

/-- Every line end as a single line feed. -/
def unifyLineEnds : Text → Text
  | [] => []
  | ['\r'] => ['\n']
  | [c] => [c]
  | c :: next :: rest =>
    if c = '\r' then
      if next = '\n' then '\n' :: unifyLineEnds rest else '\n' :: unifyLineEnds (next :: rest)
    else c :: unifyLineEnds (next :: rest)

/-- The mark that tells the order of the bytes of a file and may stand in front of its text. -/
def byteOrderMark : Char := '\ufeff'

/-- A text without the byte order mark in front of it; any further mark belongs to the text. -/
def withoutMark : Text → Text
  | [] => []
  | c :: rest => if c = byteOrderMark then rest else c :: rest

/-- The bindings of a text, and the numbers of the lines that are none. -/
def read (text : Text) : List Binding × List Nat := readFrom 1 (unifyLineEnds (withoutMark text))

/-- The name, the default and the rest of a reference, from just after its opening brace. -/
def reference? (text : Text) : Option (Text × Text × Text) :=
  let name := text.takeWhile fun c => c ≠ '\x7d' && c ≠ ':'
  match text.dropWhile fun c => c ≠ '\x7d' && c ≠ ':' with
  | '\x7d' :: rest => some (name, [], rest)
  | ':' :: '-' :: after =>
    match after.dropWhile (· ≠ '\x7d') with
    | _ :: rest => some (name, after.takeWhile (· ≠ '\x7d'), rest)
    | [] => none
  | _ => none

/-- A value with its references resolved. -/
def expand (value : Text → Text → Text) : Text → Text
  | [] => []
  | c :: rest =>
    if c = '$' ∧ rest.head? = some '\x7b' then
      match reference? rest.tail with
      | some (name, default, after) =>
        if after.length ≤ rest.length then value name default ++ expand value after else []
      | none => c :: expand value rest
    else c :: expand value rest
termination_by text => text.length

/-- The value of a reference: that of the last binding of the name so far, else that of the
environment, else the default. A binding without a value stands for the empty text. -/
def referenceValue (env : Environment) (known : List Binding) (name default : Text) : Text :=
  match known.reverse.find? fun b => b.name = name with
  | some b => b.value.getD []
  | none => (env.get? name).getD default

/-- The bindings with all references resolved, given those that come before. -/
def resolve (env : Environment) (known : List Binding) : List Binding → List Binding
  | [] => known
  | b :: rest =>
    let resolved : Binding := { b with value := b.value.map (expand (referenceValue env known)) }
    resolve env (known ++ [resolved]) rest

/-- The names that count among names in several spellings: of the spellings of one name the last. -/
def lastSpellings (names : List Text) : List Text :=
  names.filter fun name =>
    (names.reverse.find? fun n => Text.foldCase n = Text.foldCase name) = some name

/-- The variables that a text defines: of several spellings of a name the last one counts, with its
last binding. A binding without a value defines nothing. -/
def assignments (env : Environment) (text : Text) : List (Text × Text) :=
  let bindings := resolve env [] (read text).1
  let names := (bindings.map (·.name)).eraseDups
  (lastSpellings names).filterMap fun name =>
    ((bindings.reverse.find? fun b => b.name = name).bind (·.value)).map fun v => (name, v)

/-- The line that reports a line of the file which is no binding. -/
def faultLine (line : Nat) : Text :=
  "python-dotenv could not parse statement starting at line ".toList ++ Text.ofNat line

/-- The reports on a text. -/
def faultLines (text : Text) : List Text := (read text).2.map faultLine

end SqliteAccess.EnvironmentFile
