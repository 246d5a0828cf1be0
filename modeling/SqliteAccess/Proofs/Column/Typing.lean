import SqliteAccess.Proofs.Column.Declaring
import SqliteAccess.Proofs.Column.Keywords
import SqliteAccess.Proofs.Token.RoundTrip

/-!
# Declared types on their own

A declared type is meant to stand on its own: it holds the tokens behind the name up to the first
keyword of a constraint outside all groups, and closes the groups that it opens, so that it can be
placed behind another name in another statement. The scan for a keyword does not count parentheses,
though. A keyword inside a group ends the type there, in an open group, and all columns behind such
a type become part of it.

The same scan goes on behind a parenthesis that stands in place of a name, and past the parenthesis
that closes it.

## Main definitions

* `Column.NoneOutside` : tokens without a keyword outside their groups.
* `Column.IsLongestFront` : the longest front part of tokens with some property.
* `Column.IsSelfContained` : the types that are meant.
* `Column.EndsInside` : tokens whose first keyword stands inside a group.
* `Column.KeepsColumns` : the types that leave the columns around them as they are.

## Main results

* `Column.isSelfContained_iff_balanced`, `Column.balanced_type_iff` : when the tokens of a type are
  what is meant.
* `Column.keepsColumns_join_iff` : when a type leaves the columns around it as they are.
* `Column.declaredType_selfContained_iff` : both for the types of a closed definition list.
-/

namespace SqliteAccess.Column

open Token

/-- Tokens without a keyword outside their groups. -/
def NoneOutside (tokens : List Text) : Prop :=
  ∀ front t, front ++ [t] <+: tokens → endsType t = true → depthAfter front ≠ 0

/-- The longest front part of tokens with some property. -/
structure IsLongestFront (P : List Text → Prop) (front tokens : List Text) : Prop where
  isPrefix : front <+: tokens
  holds : P front
  longest : ∀ other, other <+: tokens → P other → other <+: front

/-- What the type at the front of the tokens behind a name is meant to be: it ends in front of the
first keyword outside its groups, and closes the groups that it opens. -/
structure IsSelfContained (type rest : List Text) : Prop where
  isLongestFront : IsLongestFront NoneOutside type rest
  balanced : Balanced type

/-- Tokens whose first keyword stands inside a group. -/
def EndsInside (rest : List Text) : Prop :=
  ∃ front t behind, rest = front ++ t :: behind ∧ (∀ u ∈ front, endsType u = false) ∧
    endsType t = true ∧ depthAfter front ≠ 0

/-- A type that leaves the columns around it as they are: placed behind any name between any other
entries, it gives a definition of its own with the name and the tokens of the type. -/
def KeepsColumns (type : Text) : Prop :=
  ∀ (table name behind : Text) (before after : List (List Text)),
    (∀ e ∈ before ++ after, IsEntry e) →
      definitions (createTable table (before.map join ++
          (Dialect.sqlite.identifier name ++ ' ' :: type) :: after.map join) behind) =
        before.map Definition.mk ++
          ⟨Dialect.sqlite.identifier name :: tokens type⟩ :: after.map Definition.mk

/-! ### Where the type ends -/

theorem IsLongestFront.unique {P : List Text → Prop} {front other tokens : List Text}
    (h : IsLongestFront P front tokens) (h' : IsLongestFront P other tokens) : front = other :=
  (h'.longest front h.isPrefix h.holds).eq_of_length_le
    (h.longest other h'.isPrefix h'.holds).length_le

section Ends

variable {type behind : List Text} (hbehind : ∀ t ∈ behind.head?, endsType t = true)
include hbehind

/-- A front part that goes on behind the type goes on with a keyword. -/
theorem exists_keyword_of_not_isPrefix {front : List Text} (hfront : front <+: type ++ behind)
    (hnot : ¬front <+: type) : ∃ t, endsType t = true ∧ type ++ [t] <+: front := by
  rcases List.prefix_or_prefix_of_prefix hfront (List.prefix_append type behind) with h | h
  · exact absurd h hnot
  · obtain ⟨more, rfl⟩ := h
    cases more with
    | nil => exact absurd (by simp) hnot
    | cons t more =>
      refine ⟨t, hbehind t ?_, more, by simp⟩
      obtain ⟨rest, hrest⟩ := (List.prefix_append_right_inj type).1 hfront
      rw [← hrest]
      rfl

variable (htype : ∀ t ∈ type, endsType t = false)
include htype

theorem isLongestFront_type :
    IsLongestFront (fun front => ∀ t ∈ front, endsType t = false) type (type ++ behind) where
  isPrefix := List.prefix_append _ _
  holds := htype
  longest front hfront hnone := by
    by_contra hnot
    obtain ⟨t, ht, hlonger⟩ := exists_keyword_of_not_isPrefix hbehind hfront hnot
    have hfalse := hnone t (hlonger.subset (by simp))
    rw [ht] at hfalse
    exact nomatch hfalse

/-- A type without a keyword is what is meant as soon as it closes its groups. -/
theorem isSelfContained_iff_balanced :
    IsSelfContained type (type ++ behind) ↔ Balanced type := by
  refine ⟨IsSelfContained.balanced, fun h => ⟨⟨List.prefix_append _ _, ?_, ?_⟩, h⟩⟩
  · intro front t hfront ht
    have hfalse := htype t (hfront.subset (by simp))
    rw [ht] at hfalse
    exact nomatch hfalse
  · intro front hfront hnone
    by_contra hnot
    obtain ⟨t, ht, hlonger⟩ := exists_keyword_of_not_isPrefix hbehind hfront hnot
    exact hnone type t hlonger ht h.closed

theorem endsInside_iff : EndsInside (type ++ behind) ↔ behind ≠ [] ∧ depthAfter type ≠ 0 := by
  constructor
  · rintro ⟨front, t, rest, heq, hfront, ht, hdepth⟩
    have hlongest : IsLongestFront (fun front => ∀ t ∈ front, endsType t = false) front
        (type ++ behind) := by
      rw [heq]
      exact isLongestFront_type (by simpa using ht) hfront
    obtain rfl := hlongest.unique (isLongestFront_type hbehind htype)
    exact ⟨by rw [List.append_cancel_left heq]; simp, hdepth⟩
  · rintro ⟨hne, hdepth⟩
    obtain ⟨t, rest, rfl⟩ := List.exists_cons_of_ne_nil hne
    exact ⟨type, t, rest, rfl, htype, hbehind t rfl, hdepth⟩

end Ends

/-! ### Entries with a type -/

section Entry

variable {name : Text} {rest : List Text} (hentry : IsEntry (name :: rest))
include hentry

/-- Only an opening parenthesis in place of a name changes the depth. -/
theorem depthChange_name (hname : name ≠ opening) : depthChange name = 0 := by
  refine depthChange_of_ne hname ?_
  rintro rfl
  exact absurd (hentry.balanced.nonneg [closing] ⟨rest, rfl⟩) (by decide)

/-- The tokens behind a name stay inside the entry. -/
theorem staysInside_rest (hname : name ≠ opening) : StaysInside 0 rest := by
  have htail := (isEntry_iff.1 hentry).2.2.1.tail
  rwa [depthChange_name hentry hname] at htail

theorem depthAfter_rest : depthAfter rest = -depthChange name := by
  have hclosed := hentry.balanced.closed
  rw [depthAfter] at hclosed
  omega

end Entry

/-- A type at the front of the tokens behind a name has closed its groups if the first keyword does
not stand inside one, and if it closes no group that it has not opened. -/
theorem balanced_type_iff {name : Text} {type behind : List Text}
    (hentry : IsEntry (name :: (type ++ behind))) (hbehind : ∀ t ∈ behind.head?, endsType t = true)
    (htype : ∀ t ∈ type, endsType t = false) :
    Balanced type ↔
      ¬EndsInside (type ++ behind) ∧ ∀ front, front <+: type → 0 ≤ depthAfter front := by
  rw [endsInside_iff hbehind htype]
  refine ⟨fun h => ⟨fun hinside => hinside.2 h.closed, h.nonneg⟩, fun ⟨hnot, hnonneg⟩ =>
    ⟨hnonneg, ?_⟩⟩
  by_contra hdepth
  obtain rfl : behind = [] := by
    by_contra hne
    exact hnot ⟨hne, hdepth⟩
  -- without a keyword the type is all that stands behind the name, which closes nothing
  rw [List.append_nil] at hentry
  have hrest := depthAfter_rest hentry
  have hname := hentry.balanced.nonneg [name] ⟨type, rfl⟩
  have htype := hnonneg type List.prefix_rfl
  simp only [depthAfter] at hname
  omega

/-! ### Types between other entries -/

/-- What has been read of an entry stays at the front of a definition. -/
theorem exists_entriesFrom_eq_cons (depth : Nat) {current : List Text} (hcurrent : current ≠ [])
    (tokens : List Text) :
    ∃ more ds, entriesFrom depth current tokens = ⟨current ++ more⟩ :: ds := by
  have hentry : ∃ more, entry current = [⟨current ++ more⟩] :=
    ⟨[], by rw [entry_of_ne_nil hcurrent, List.append_nil]⟩
  induction tokens generalizing depth current with
  | nil => exact hentry.imp fun more h => ⟨[], h⟩
  | cons token tokens ih =>
    have hadded (next : Nat) :
        ∃ more ds, entriesFrom next (current ++ [token]) tokens = ⟨current ++ more⟩ :: ds := by
      have hne : current ++ [token] ≠ [] := by simp
      obtain ⟨more, ds, h⟩ := ih next hne ⟨[], by rw [entry_of_ne_nil hne, List.append_nil]⟩
      exact ⟨token :: more, ds, by rw [h, List.append_assoc, List.singleton_append]⟩
    unfold entriesFrom
    split_ifs
    · exact hadded _
    · cases depth with
      | zero => exact hentry.imp fun more h => ⟨[], h⟩
      | succ outer => exact hadded outer
    · exact hentry.imp fun more h => ⟨entriesFrom 0 [] tokens, by rw [h, List.singleton_append]⟩
    · exact hadded _

/-- Tokens with an open group take in the parenthesis behind them. -/
theorem exists_entries_eq_cons_of_open {tokens : List Text} (hinside : StaysInside 0 tokens)
    (hopen : depthAfter tokens ≠ 0) (rest : List Text) :
    ∃ more ds, entries (tokens ++ closing :: rest) = ⟨tokens ++ closing :: more⟩ :: ds := by
  have hnonneg := hinside.nonneg tokens List.prefix_rfl
  obtain ⟨outer, houter⟩ : ∃ outer : Nat, depthAfter tokens = outer + 1 :=
    ⟨(depthAfter tokens).toNat - 1, by omega⟩
  have hdepth : ((0 : Nat) + depthAfter tokens).toNat = outer + 1 := by omega
  have hclosing : (outer : Int) = (outer + 1 : Nat) + depthChange closing := by
    rw [show depthChange closing = -1 by decide]
    omega
  have hne : tokens ++ [closing] ≠ [] := by simp
  obtain ⟨more, ds, hfirst⟩ := exists_entriesFrom_eq_cons outer hne rest
  refine ⟨more, ds, ?_⟩
  rw [entries, entriesFrom_append hinside, hdepth, List.nil_append,
    entriesFrom_cons hclosing (fun h => absurd h (by decide)), hfirst, List.append_assoc,
    List.singleton_append]

section Placing

variable {type : List Text} (htokens : ∀ t ∈ type, IsToken t) (hinside : StaysInside 0 type)
include htokens

theorem tokens_join_type : tokens (join type) = type :=
  (isTokenList_of_forall fun t ht => (htokens t ht).isComplete).tokens_join_eq

include hinside

/-- A type that has closed its groups leaves the columns around it as they are. -/
theorem keepsColumns_join (hclosed : depthAfter type = 0) : KeepsColumns (join type) := by
  intro table name behind before after hentries
  obtain ⟨hbefore, hafter⟩ := List.forall_mem_append.1 hentries
  have hentry : IsEntry (Dialect.sqlite.identifier name :: type) :=
    (isEntry_identifier name).append_of_ne_nil fun hne =>
      isEntry_iff.2 ⟨hne, htokens, hinside, hclosed⟩
  have hspells {ds : List (List Text)} (hds : ∀ d ∈ ds, IsEntry d) :
      List.Forall₂ Spells (ds.map join) ds :=
    List.forall₂_map_left_iff.2 (List.forall₂_same.2 fun d hd => spells_join (hds d hd).isToken)
  rw [tokens_join_type htokens, definitions_createTable_of_spells
    (List.rel_append (hspells hbefore)
      (.cons (spells_identifier_append name htokens) (hspells hafter)))
    (List.forall_mem_append.2 ⟨hbefore, List.forall_mem_cons.2 ⟨hentry, hafter⟩⟩)]
  simp

/-- A type with an open group takes in the parenthesis that closes the definition list. -/
theorem depthAfter_eq_zero_of_keepsColumns (h : KeepsColumns (join type)) :
    depthAfter type = 0 := by
  by_contra hopen
  obtain ⟨-, -, hname, hdepth⟩ := isEntry_iff.1 (isEntry_identifier [])
  have hstays : StaysInside 0 ([Dialect.sqlite.identifier []] ++ type) :=
    hname.append (by rwa [hdepth])
  have hwritten := tokens_createTable
    (.cons (spells_identifier_append [] htokens) .nil) [] []
  obtain ⟨more, ds, hfirst⟩ := exists_entries_eq_cons_of_open hstays
    (by rwa [depthAfter_append, hdepth, Int.zero_add]) (tokens (blankLayout []))
  have hkept : definitions (createTable [] [Dialect.sqlite.identifier [] ++ ' ' :: join type] []) =
      [⟨Dialect.sqlite.identifier [] :: type⟩] := by
    simpa [tokens_join_type htokens] using h [] [] [] [] [] (by simp)
  rw [definitions_eq hwritten (opening_notMem_frontTokens []), List.intercalate_singleton,
    ← List.singleton_append, hfirst] at hkept
  simp at hkept

theorem keepsColumns_join_iff : KeepsColumns (join type) ↔ depthAfter type = 0 :=
  ⟨depthAfter_eq_zero_of_keepsColumns htokens hinside, keepsColumns_join htokens hinside⟩

end Placing

/-! ### The types of a definition list -/

/-- **When a declared type stands on its own.** The type of a definition that is no table constraint
holds the tokens behind the name up to the first keyword, whatever groups are open there. So it is
what is meant exactly if that keyword does not stand inside a group and the type closes no group
that it has not opened. It never does the latter behind a name that is no parenthesis. Behind such a
name the type is what is meant, and leaves the columns around it as they are, exactly if the first
keyword does not stand inside a group. -/
theorem declaredType_selfContained_iff {sql : Text} (hsql : HasGroup sql) {d : Definition}
    (hd : d ∈ definitions sql) (hcolumn : d.isTableConstraint = .ok false) :
    ∃ name rest text, d.tokens = name :: rest ∧ d.declaredType = .ok text ∧
      IsLongestFront (fun front => ∀ t ∈ front, endsType t = false) (tokens text) rest ∧
      (IsSelfContained (tokens text) rest ↔
        ¬EndsInside rest ∧ ∀ front, front <+: tokens text → 0 ≤ depthAfter front) ∧
      (name ≠ opening →
        (IsSelfContained (tokens text) rest ↔ ¬EndsInside rest) ∧
        (KeepsColumns text ↔ ¬EndsInside rest)) := by
  have hentry := hsql.isEntry d hd
  obtain ⟨name, rest, htokens⟩ := List.exists_cons_of_ne_nil hentry.ne_nil
  obtain ⟨behind, htail, htype, hbehind⟩ := exists_typeTokens_append d
  obtain rfl : rest = d.typeTokens ++ behind := by rw [← htail, htokens, List.tail_cons]
  rw [htokens] at hentry
  have hmem : ∀ t ∈ d.typeTokens, IsToken t := fun t ht => hentry.isToken t (by simp [ht])
  have htext : tokens (join d.typeTokens) = d.typeTokens := tokens_join_type hmem
  have hbalanced := balanced_type_iff hentry hbehind htype
  have hmeant := (isSelfContained_iff_balanced hbehind htype).trans hbalanced
  refine ⟨name, _, join d.typeTokens, htokens, declaredType_eq hcolumn, ?_, ?_, fun hname => ?_⟩
  · rw [htext]
    exact isLongestFront_type hbehind htype
  · rw [htext]
    exact hmeant
  · have hinside : StaysInside 0 d.typeTokens :=
      (staysInside_rest hentry hname).of_front (List.prefix_append _ _)
    have hnonneg : ∀ front, front <+: d.typeTokens → 0 ≤ depthAfter front := by
      simpa using hinside.nonneg
    have hclosed : Balanced d.typeTokens ↔ depthAfter d.typeTokens = 0 :=
      ⟨Balanced.closed, fun h => ⟨hnonneg, h⟩⟩
    rw [htext, keepsColumns_join_iff hmem hinside, ← hclosed, hmeant, hbalanced,
      and_iff_left hnonneg]
    exact ⟨Iff.rfl, Iff.rfl⟩

/-- A type with a group of its own in front of a constraint. -/
theorem declaredType_selfContained_numeric :
    let sql := "CREATE TABLE t (v NUMERIC(10,2) NOT NULL, w REAL)".toList
    let rest := ["NUMERIC".toList, opening, "10".toList, comma, "2".toList, closing, "NOT".toList,
      "NULL".toList]
    let d : Definition := ⟨"v".toList :: rest⟩
    HasGroup sql ∧ d ∈ definitions sql ∧ d.isTableConstraint = .ok false ∧
      d.declaredType = .ok "NUMERIC(10, 2)".toList ∧
      IsSelfContained (tokens "NUMERIC(10, 2)".toList) rest ∧
      KeepsColumns "NUMERIC(10, 2)".toList := by
  intro sql rest d
  have hsql : HasGroup sql :=
    .of_inits "CREATE TABLE t ".toList "v NUMERIC(10,2) NOT NULL, w REAL".toList []
      (by decide) (by decide) (by decide) (by decide)
  have hd : d ∈ definitions sql := by decide +kernel
  have hcolumn : d.isTableConstraint = .ok false := by decide
  have hdeclared : d.declaredType = .ok "NUMERIC(10, 2)".toList := by decide
  obtain ⟨name, rest', text, htokens, htext, -, -, hname⟩ :=
    declaredType_selfContained_iff hsql hd hcolumn
  obtain ⟨rfl, rfl⟩ := List.cons.inj htokens
  obtain rfl := Except.ok.inj (hdeclared.symm.trans htext)
  have houtside : ¬EndsInside (["NUMERIC".toList, opening, "10".toList, comma, "2".toList,
      closing] ++ ["NOT".toList, "NULL".toList]) := fun h =>
    absurd ((endsInside_iff (by decide) (by decide)).1 h).2 (by decide)
  obtain ⟨hmeant, hkept⟩ := hname (by decide)
  exact ⟨hsql, hd, hcolumn, hdeclared, hmeant.2 houtside, hkept.2 houtside⟩

/-- A keyword inside a group ends the type there. Placed back behind the name, the type takes in
the next column. -/
theorem declaredType_openGroup :
    let sql := "CREATE TABLE t (a T(NOT), b INTEGER)".toList
    let rest := ["T".toList, opening, "NOT".toList, closing]
    let d : Definition := ⟨"a".toList :: rest⟩
    HasGroup sql ∧ definitions sql = [d, ⟨["b".toList, "INTEGER".toList]⟩] ∧
      d.isTableConstraint = .ok false ∧ d.declaredType = .ok "T(".toList ∧
      IsSelfContained rest rest ∧
      ¬IsSelfContained (tokens "T(".toList) rest ∧ ¬Balanced (tokens "T(".toList) ∧
      definitions (createTable "t".toList ["\"a\" T(".toList, "b INTEGER".toList] []) =
        [⟨["\"a\"".toList, "T".toList, opening, comma, "b".toList, "INTEGER".toList,
          closing]⟩] := by
  intro sql rest d
  have hsql : HasGroup sql :=
    .of_inits "CREATE TABLE t ".toList "a T(NOT), b INTEGER".toList []
      (by decide) (by decide) (by decide) (by decide)
  have hmeant : IsSelfContained rest rest := by
    refine ⟨⟨List.prefix_rfl, fun front t hfront ht => ?_, fun front hfront _ => hfront⟩,
      ⟨fun front hfront => ?_, by decide⟩⟩
    · have hall : ∀ front ∈ rest.inits, ∀ t ∈ rest, front ++ [t] <+: rest → endsType t = true →
          depthAfter front ≠ 0 := by decide
      have hmem := (List.mem_inits _ _).2 ((List.prefix_append front [t]).trans hfront)
      exact hall front hmem t (hfront.subset (by simp)) hfront ht
    · revert front
      simp only [← List.mem_inits]
      decide
  have hopen : ¬Balanced (tokens "T(".toList) := fun h => absurd h.closed (by decide)
  exact ⟨hsql, by decide +kernel, by decide, by decide, hmeant, fun h => hopen h.balanced, hopen,
    by decide +kernel⟩

end SqliteAccess.Column
