import SqliteAccess.Value

/-!
# Connections

A connection is a script of replies: each statement that is executed takes the next reply. A reply
refuses the statement or delivers a result, which may have rows and may fail when they are
fetched. What is done on a connection is recorded as a list of calls.

## Main definitions

* `Fault` : why a statement fails.
* `Reply` : the reply to a statement.
* `Script` : the replies of a connection.
* `Script.replies`, `Script.results` : the replies to a number of statements, and the rows in them.
* `Call` : one call on a connection or on one of its results.
* `Call.Disciplined` : the calls in which every result is closed in time.
* `Reply.discard`, `Reply.fetchAll`, `Reply.fetchFirst` : the three ways to use a reply, with the
  calls that they make.
-/

namespace SqliteAccess

/-- Why a statement fails. -/
inductive Fault
  /-- The driver reports an error in its own words. -/
  | driver (message : Text)
  /-- An error of the driver that comes without its words. -/
  | wordless
  /-- The layer above the driver reports an error. -/
  | library (message : Text)
  /-- An error that does not come from the database at all. -/
  | foreign (message : Text)
  deriving DecidableEq

/-- How an error without words is described by its statement. -/
def Fault.wordlessMessage (statement : Text) : Text :=
  "(builtins.NoneType) None\n[SQL: ".toList ++ statement ++
    "]\n(Background on this error at: https://sqlalche.me/e/21/dbapi)".toList

/-- A result that a statement delivers. -/
structure Delivery where
  /-- Whether the statement is one that returns rows. -/
  hasRows : Bool := false
  columns : List Text := []
  rows : List (List Value) := []
  /-- Why the rows cannot be fetched. -/
  fetchFault : Option Fault := none

/-- The reply to a statement. -/
inductive Reply
  | refusal (fault : Fault)
  | delivery (result : Delivery)

/-- The replies of a connection, in order. -/
abbrev Script := List Reply

/-- The next reply. A connection without replies delivers results without rows. -/
def Script.next (script : Script) : Reply := script.head?.getD (.delivery {})

/-- The replies to the next statements. -/
def Script.replies (script : Script) : Nat → List Reply
  | 0 => []
  | count + 1 => script.next :: Script.replies script.tail count

/-- One call on a connection or on one of its results. -/
inductive Call
  | execute (statement : Text)
  | columns
  | fetchAll
  | fetchFirst
  | close
  deriving DecidableEq

namespace Call

/-- The statements that calls execute, in order. -/
def executed (calls : List Call) : List Text :=
  calls.filterMap fun
    | execute statement => some statement
    | _ => none

/-- Whether a call reads from a result. -/
def isReading : Call → Bool
  | columns | fetchAll | fetchFirst => true
  | execute _ | close => false

/-- Whether a call fetches rows. -/
def isFetch : Call → Bool
  | fetchAll | fetchFirst => true
  | execute _ | columns | close => false

/-- Calls on a connection with the given replies in which every result is closed once, after the
last call that reads from it and before the next statement, and has its rows fetched at most once. A
statement that is refused ends the calls. -/
inductive Disciplined : Script → List Call → Prop
  | done (script : Script) : Disciplined script []
  | refused {script : Script} {fault : Fault} (statement : Text)
      (hreply : script.next = .refusal fault) : Disciplined script [execute statement]
  | delivered {script : Script} {result : Delivery} {reads rest : List Call} (statement : Text)
      (hreply : script.next = .delivery result) (hreads : ∀ c ∈ reads, c.isReading = true)
      (hfetch : reads.countP isFetch ≤ 1) (hrest : Disciplined script.tail rest) :
      Disciplined script (execute statement :: (reads ++ close :: rest))

theorem executed_append (calls rest : List Call) :
    executed (calls ++ rest) = executed calls ++ executed rest := List.filterMap_append

@[simp]
theorem executed_execute_cons (statement : Text) (rest : List Call) :
    executed (execute statement :: rest) = statement :: executed rest := rfl

/-- Only executions count, not what is done on their results. -/
theorem executed_of_isReading {calls : List Call} (h : ∀ c ∈ calls, c.isReading = true) :
    executed calls = [] := by
  refine List.filterMap_eq_nil_iff.2 fun c hc => ?_
  have hreading := h c hc
  cases c <;> simp_all [isReading]

end Call

/-- Columns and rows of a result. -/
structure Rows where
  columns : List Text
  rows : List (List Value)

namespace Delivery

/-- All rows. -/
def all (d : Delivery) : Except Fault Rows :=
  match d.fetchFault with
  | some fault => .error fault
  | none => .ok ⟨d.columns, d.rows⟩

/-- The first row, if there is one. -/
def first (d : Delivery) : Except Fault (Option (List Value)) :=
  match d.fetchFault with
  | some fault => .error fault
  | none => .ok d.rows.head?

end Delivery

namespace Reply

/-- Executes a statement and drops its result. -/
def discard (statement : Text) : Reply → Except Fault Unit × List Call
  | refusal fault => (.error fault, [.execute statement])
  | delivery _ => (.ok (), [.execute statement, .close])

/-- Executes a statement and fetches all rows of its result, which is closed in any case. -/
def fetchAll (statement : Text) : Reply → Except Fault Rows × List Call
  | refusal fault => (.error fault, [.execute statement])
  | delivery d =>
    if d.hasRows then (d.all, [.execute statement, .columns, .fetchAll, .close])
    else (.ok ⟨[], []⟩, [.execute statement, .close])

/-- Fetches the first row of a result, which is closed in any case. -/
def fetchFirst (d : Delivery) : Except Fault (Option (List Value)) × List Call :=
  if d.hasRows then (d.first, [.fetchFirst, .close]) else (.ok none, [.close])

/-- The columns and rows of a reply that delivers at least one row. -/
def filled? : Reply → Option Rows
  | refusal _ => none
  | delivery d => if d.hasRows ∧ d.rows ≠ [] then some ⟨d.columns, d.rows⟩ else none

end Reply

/-- The results with at least one row among the replies to the next statements, in order. -/
def Script.results (script : Script) (count : Nat) : List Rows :=
  (script.replies count).filterMap Reply.filled?

end SqliteAccess
