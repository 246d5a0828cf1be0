import Mathlib.Data.List.Infix
import SqliteAccess.Proofs.Settings.Disclosing

/-!
# Which databases are accepted

A database that is not a URL is a path: it is always accepted, and its URL is the path behind a
fixed front, from which the path is read back. A database that is a URL is accepted if its scheme
begins with that of SQLite. What follows in the scheme is not judged, so that the scheme may be
another one that only begins alike.

## Main definitions

* `Settings.schemeOf?` : the scheme of a URL.
* `Settings.NamesSqlite` : the URLs whose scheme is that of SQLite, with or without a driver.

## Main results

* `Settings.isSupported_iff` : the databases that are accepted.
* `Settings.connectionString_injective` : different paths have different URLs.
* `Settings.load_eq_ok_iff_of_gather` : when acceptable values are accepted.
* `Settings.namesSqlite_connectionString_iff` : of the accepted databases, those of SQLite.
* `Settings.accepted_databases` : all of this at once.
-/

namespace SqliteAccess.Settings

/-- The scheme of a URL: what stands in front of the first mark. -/
def schemeOf? (url : Text) : Option Text := (Text.breakOn urlMark url).map (·.1)

/-- A URL with the scheme of SQLite, which may go on with a driver behind a plus sign. -/
def NamesSqlite (url : Text) : Prop :=
  ∃ name, schemeOf? url = some name ∧ (name = scheme ∨ scheme ++ ['+'] <+: name)

/-- A database that is no URL but a path. -/
def IsPath (database : Text) : Prop := ¬urlMark <:+: database

/-! ### Schemes -/

theorem exists_schemeOf? {url : Text} (h : urlMark <:+: url) :
    ∃ name, schemeOf? url = some name := by
  obtain ⟨before, after, rfl⟩ := h
  obtain ⟨name, rest, hfound, -⟩ := Text.exists_breakOn urlMark before after
  exact ⟨name, congrArg (Option.map Prod.fst) hfound⟩

theorem exists_of_schemeOf? {url name : Text} (h : schemeOf? url = some name) :
    ∃ rest, url = name ++ urlMark ++ rest := by
  obtain ⟨⟨front, rest⟩, hfound, rfl⟩ := Option.map_eq_some_iff.1 h
  exact ⟨rest, Text.eq_of_breakOn hfound⟩

theorem schemeOf?_path (path : Text) : schemeOf? ("sqlite:///".toList ++ path) = some scheme := rfl

/-- A URL begins with a scheme exactly if its own scheme does, because no scheme has a colon. -/
theorem scheme_isPrefix_iff {url name : Text} (h : schemeOf? url = some name) :
    scheme <+: url ↔ scheme <+: name := by
  obtain ⟨rest, rfl⟩ := exists_of_schemeOf? h
  rw [List.append_assoc]
  refine ⟨fun hfront => ?_, fun hfront => hfront.trans (List.prefix_append _ _)⟩
  rcases List.prefix_or_prefix_of_prefix hfront (List.prefix_append name _) with hname | hname
  · exact hname
  · obtain ⟨more, hmore⟩ := hname
    cases more with
    | nil => rw [← hmore, List.append_nil]
    | cons c more =>
      rw [← hmore, List.prefix_append_right_inj] at hfront
      have hcolon : c = ':' := (List.cons_prefix_cons.1 hfront).1
      have hnone : ':' ∉ scheme := by decide
      rw [← hmore, hcolon] at hnone
      exact absurd (List.mem_append_right _ List.mem_cons_self) hnone

/-! ### Connection strings -/

theorem connectionString_of_isPath {database : Text} (h : IsPath database) :
    connectionString database = "sqlite:///".toList ++ database :=
  if_neg (mt Text.occursIn_iff.1 h)

theorem connectionString_of_not_isPath {database : Text} (h : ¬IsPath database) :
    connectionString database = database :=
  if_pos (Text.occursIn_iff.2 (not_not.1 h))

/-- Different paths have different URLs. -/
theorem connectionString_injective {path path' : Text} (h : IsPath path) (h' : IsPath path')
    (heq : connectionString path = connectionString path') : path = path' := by
  rw [connectionString_of_isPath h, connectionString_of_isPath h'] at heq
  exact List.append_cancel_left heq

/-- Every connection string has a scheme. -/
theorem exists_schemeOf?_connectionString (database : Text) :
    ∃ name, schemeOf? (connectionString database) = some name := by
  by_cases h : IsPath database
  · rw [connectionString_of_isPath h]
    exact ⟨scheme, schemeOf?_path database⟩
  · rw [connectionString_of_not_isPath h]
    exact exists_schemeOf? (not_not.1 h)

/-- **The databases that are accepted**: those whose connection string has a scheme that begins
with that of SQLite. -/
theorem isSupported_iff {database : Text} :
    isSupported database = true ↔ ∃ more, schemeOf? (connectionString database) =
      some (scheme ++ more) := by
  obtain ⟨name, hname⟩ := exists_schemeOf?_connectionString database
  rw [isSupported, List.isPrefixOf_iff_prefix, scheme_isPrefix_iff hname, hname]
  constructor
  · rintro ⟨more, rfl⟩
    exact ⟨more, rfl⟩
  · rintro ⟨more, hmore⟩
    exact ⟨more, (Option.some.inj hmore).symm⟩

theorem isSupported_of_isPath {database : Text} (h : IsPath database) :
    isSupported database = true := by
  refine isSupported_iff.2 ⟨[], ?_⟩
  rw [connectionString_of_isPath h, schemeOf?_path, List.append_nil]

/-- A scheme that begins with that of SQLite is one of SQLite unless it goes on with another
character than a plus sign. -/
theorem namesSqlite_iff {url more : Text} (h : schemeOf? url = some (scheme ++ more)) :
    NamesSqlite url ↔ ¬∃ c rest, more = c :: rest ∧ c ≠ '+' := by
  have hnames : NamesSqlite url ↔ more = [] ∨ ['+'] <+: more := by
    simp only [NamesSqlite, h, Option.some.injEq, exists_eq_left', List.append_right_eq_self,
      List.prefix_append_right_inj]
  rw [hnames]
  cases more with
  | nil => exact iff_of_true (.inl rfl) nofun
  | cons c rest =>
    constructor
    · rintro (hnil | hplus) ⟨_, _, hmore, hne⟩
      · exact nomatch hnil
      · obtain ⟨rfl, -⟩ := List.cons.inj hmore
        exact hne (List.cons_prefix_cons.1 hplus).1.symm
    · intro hnot
      refine .inr (List.cons_prefix_cons.2 ⟨?_, List.nil_prefix⟩)
      by_contra hne
      exact hnot ⟨c, rest, rfl, Ne.symm hne⟩

/-! ### Loading -/

/-- Sources are accepted if every single value is acceptable and the database is supported. -/
theorem load_eq_ok_iff {given : List Source} {s : Settings} :
    load given = .ok s ↔ gather given = .ok s ∧ isSupported s.database = true := by
  rw [load]
  cases gather given with
  | error issues => simp only [Except.bind, reduceCtorEq, false_and]
  | ok s' =>
    simp only [Except.bind, requireSupported, Except.ok.injEq]
    split_ifs with hsupported
    · rw [Except.ok.injEq]
      exact ⟨fun h => ⟨h, h ▸ hsupported⟩, And.left⟩
    · constructor
      · intro h
        cases h
      · rintro ⟨rfl, h⟩
        exact absurd h hsupported

/-- Every value can be given as the only variable. -/
theorem gather_database (value : Text) :
    gather (processSources [("DATABASE_URL".toList, value)]) = .ok { database := value } := rfl

/-- A path has no scheme. -/
theorem not_isPath_of_schemeOf? {database name : Text} (h : schemeOf? database = some name) :
    ¬IsPath database := by
  obtain ⟨rest, rfl⟩ := exists_of_schemeOf? h
  exact not_not.2 (List.infix_append name urlMark rest)

/-- Values that are acceptable one by one are accepted if the database is a path or has a scheme
that begins with that of SQLite. -/
theorem load_eq_ok_iff_of_gather {given : List Source} {s : Settings}
    (hvalues : gather given = .ok s) :
    load given = .ok s ↔
      IsPath s.database ∨ ∃ more, schemeOf? s.database = some (scheme ++ more) := by
  rw [load_eq_ok_iff, and_iff_right hvalues]
  by_cases hpath : IsPath s.database
  · exact iff_of_true (isSupported_of_isPath hpath) (.inl hpath)
  · rw [isSupported_iff, connectionString_of_not_isPath hpath, or_iff_right hpath]

/-- An accepted database is one of SQLite unless it is a URL whose scheme goes on with another
character than a plus sign. -/
theorem namesSqlite_connectionString_iff {database : Text} (h : isSupported database = true) :
    NamesSqlite (connectionString database) ↔
      ¬∃ c more, schemeOf? database = some (scheme ++ c :: more) ∧ c ≠ '+' := by
  obtain ⟨more, hmore⟩ := isSupported_iff.1 h
  rw [namesSqlite_iff hmore]
  by_cases hpath : IsPath database
  · refine iff_of_true ?_ fun ⟨_, _, hscheme, _⟩ => not_isPath_of_schemeOf? hscheme hpath
    rw [connectionString_of_isPath hpath, schemeOf?_path] at hmore
    obtain rfl : more = [] := List.self_eq_append_right.1 (Option.some.inj hmore)
    exact nofun
  · rw [connectionString_of_not_isPath hpath] at hmore
    simp only [hmore, Option.some.injEq, List.append_cancel_left_eq]

/-- **Which databases are accepted.** If the values are acceptable one by one, they are accepted
exactly if the database is a path or a URL whose scheme begins with that of SQLite, and the accepted
database is one of SQLite exactly if the scheme does not go on with another character than a plus
sign. So every path is accepted, and it can be given. Its connection string is the path behind a
fixed front and belongs to no other path. -/
theorem accepted_databases {given : List Source} {s : Settings} (hvalues : gather given = .ok s) :
    (load given = .ok s ↔
      IsPath s.database ∨ ∃ more, schemeOf? s.database = some (scheme ++ more)) ∧
    ((load given = .ok s → NamesSqlite (connectionString s.database)) ↔
      ¬∃ c more, schemeOf? s.database = some (scheme ++ c :: more) ∧ c ≠ '+') ∧
    (IsPath s.database → load given = .ok s ∧
      connectionString s.database = "sqlite:///".toList ++ s.database) ∧
    (∀ path, IsPath path →
      load (processSources [("DATABASE_URL".toList, path)]) = .ok { database := path }) ∧
    ∀ path path', IsPath path → IsPath path' →
      connectionString path = connectionString path' → path = path' := by
  have haccepted := load_eq_ok_iff_of_gather hvalues
  refine ⟨haccepted, ⟨fun hnames => ?_, fun hnot hload => ?_⟩,
    fun hpath => ⟨haccepted.2 (.inl hpath), connectionString_of_isPath hpath⟩,
    fun path hpath => load_eq_ok_iff.2 ⟨gather_database path, isSupported_of_isPath hpath⟩,
    fun path path' hpath hpath' => connectionString_injective hpath hpath'⟩
  · rintro ⟨c, more, hscheme, hother⟩
    have hload : load given = .ok s := haccepted.2 (.inr ⟨c :: more, hscheme⟩)
    exact (namesSqlite_connectionString_iff (load_eq_ok_iff.1 hload).2).1 (hnames hload)
      ⟨c, more, hscheme, hother⟩
  · exact (namesSqlite_connectionString_iff (load_eq_ok_iff.1 hload).2).2 hnot

/-- A path that looks like a scheme, and a URL with a driver. -/
theorem accepted_databases_driver :
    let path : Text := "postgresql:/roads".toList
    let url : Text := "sqlite+pysqlite:///roads.gpkg".toList
    IsPath path ∧
      load (processSources [("DATABASE_URL".toList, path)]) = .ok { database := path } ∧
      load (processSources [("DATABASE_URL".toList, url)]) = .ok { database := url } ∧
      NamesSqlite (connectionString url) := by
  intro path url
  obtain ⟨haccepted, hnames, -, hpaths, -⟩ := accepted_databases (gather_database url)
  have hpath : IsPath path := mt Text.occursIn_iff.2 (by decide)
  have hscheme : schemeOf? url = some (scheme ++ "+pysqlite".toList) := rfl
  have hload := haccepted.2 (.inr ⟨_, hscheme⟩)
  refine ⟨hpath, hpaths path hpath, hload, hnames.2 ?_ hload⟩
  rintro ⟨c, more, hother, hne⟩
  have hcons := List.append_cancel_left (Option.some.inj (hscheme.symm.trans hother))
  exact hne (List.cons.inj hcons).1.symm

/-- A scheme that only begins like that of SQLite is accepted. -/
theorem accepts_other_scheme :
    let url : Text := "sqlitecloud://host/roads".toList
    load (processSources [("DATABASE_URL".toList, url)]) = .ok { database := url } ∧
      schemeOf? (connectionString url) = some "sqlitecloud".toList ∧
      ¬NamesSqlite (connectionString url) := by
  intro url
  have hscheme : schemeOf? (connectionString url) = some (scheme ++ "cloud".toList) := rfl
  refine ⟨rfl, hscheme, mt (namesSqlite_iff hscheme).1 (not_not.2 ?_)⟩
  exact ⟨'c', "loud".toList, rfl, by decide⟩

end SqliteAccess.Settings
