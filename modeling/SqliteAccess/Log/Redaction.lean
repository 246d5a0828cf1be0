import SqliteAccess.Json

/-!
# Redaction

A field whose name speaks of a credential is written with a fixed value. The name is judged by its
first line, without regard to case; the database URL is judged as a whole. Objects directly inside
objects are walked, lists are not.

## Main definitions

* `Log.isSensitive` : whether the value under a key is withheld.
* `Log.redact` : the fields with every sensitive value withheld.
-/

namespace SqliteAccess.Log

/-- The letter for which a character stands in a comparison that ignores case: the ASCII lower-case
letter, which the long s, the Kelvin sign, the dotted I and the dotless i stand for too. -/
def foldLetter (c : Char) : Char :=
  match c with
  | 'ſ' => 's'
  | '\u212a' => 'k'
  | 'İ' => 'i'
  | 'ı' => 'i'
  | c => c.toLower

/-- The words that mark a key as sensitive. -/
def sensitiveWords : List Text :=
  ["password".toList, "token".toList, "api_key".toList, "secret".toList]

/-- The key of the database URL. -/
def urlKey : Text := "database_url".toList

/-- Whether the value under a key is withheld. -/
def isSensitive (key : Text) : Bool :=
  let folded := key.map foldLetter
  let firstLine := folded.takeWhile (· ≠ '\n')
  (sensitiveWords.any fun word => Text.occursIn word firstLine) ||
    folded = urlKey || folded = urlKey ++ ['\n']

/-- What stands in place of a withheld value. -/
def withheld : Json := .text "[REDACTED]".toList

mutual

/-- The value under a key that is not sensitive. -/
def redactValue : Json → Json
  | .object fields => .object (redact fields)
  | value => value

/-- The fields with every sensitive value withheld. -/
def redact : List (Text × Json) → List (Text × Json)
  | [] => []
  | (key, value) :: rest =>
    (key, if isSensitive key then withheld else redactValue value) :: redact rest

end

end SqliteAccess.Log
