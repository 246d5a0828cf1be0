import Mathlib.Data.List.TakeWhile
import SqliteAccess.Proofs.Column.Rebuilding

/-!
# Definitions as pieces of a group

Reading the entries of a group keeps a depth, the entry at hand and the finished entries. What it
reads can be said without them. The group is the part of the tokens behind the first opening
parenthesis that ends in front of the parenthesis which closes it, or at the end of the tokens, and
the entries are what stands between the commas outside all inner groups, as far as anything stands
there.

All entries but the last one have closed their groups, because a comma ends an entry only outside
them. The last one has closed its groups if the whole group is closed.

## Main definitions

* `Column.groupFrom` : the tokens of a group that are read from some depth on.
* `Column.IsGroup` : the group at the front of tokens.
* `Column.IsClosedIn` : a group with its closing parenthesis behind it.

## Main results

* `Column.isGroup_groupOf` : the group of tokens is the group at their front.
* `Column.exists_splitWhere_eq` : the pieces of a group, with the depth of each of them.
* `Column.entriesFrom_eq_splitWhere` : the entries that are read are pieces.
* `Column.definitions_eq_pieces` : the definitions of every statement.
-/

namespace SqliteAccess.Column

open Token

/-! ### The group -/

/-- The tokens of a group that are read from some depth on. -/
def groupFrom (depth : Int) : List Text → List Text
  | [] => []
  | token :: rest =>
    if 0 ≤ depth + depthChange token then token :: groupFrom (depth + depthChange token) rest
    else []

/-- A group with its closing parenthesis behind it. -/
def IsClosedIn (group tokens : List Text) : Prop :=
  depthAfter group = 0 ∧ ∃ behind, tokens = group ++ closing :: behind

/-- The group at the front of tokens: no part of it closes more than it opens, and it ends at the
parenthesis that does, or at the end of the tokens. -/
structure IsGroup (group tokens : List Text) : Prop where
  nonneg : ∀ front, front <+: group → 0 ≤ depthAfter front
  ends : group = tokens ∨ IsClosedIn group tokens

theorem take_takeWhile_range (depth : Int) (tokens : List Text) :
    tokens.take ((List.range tokens.length).takeWhile fun n =>
      decide (0 ≤ depth + depthAfter (tokens.take (n + 1)))).length = groupFrom depth tokens := by
  induction tokens generalizing depth with
  | nil => rfl
  | cons token rest ih =>
    have hnext : ((fun n => decide (0 ≤ depth + depthAfter ((token :: rest).take (n + 1)))) ∘
        Nat.succ) = fun n =>
          decide (0 ≤ depth + depthChange token + depthAfter (rest.take (n + 1))) := by
      funext n
      simp only [Function.comp_apply, Nat.succ_eq_add_one, List.take_succ_cons, depthAfter,
        Int.add_assoc]
    have hfirst : depth + depthAfter ((token :: rest).take (0 + 1)) =
        depth + depthChange token := by
      simp [depthAfter]
    rw [List.length_cons, List.range_succ_eq_map, List.takeWhile_cons, List.takeWhile_map, hnext,
      hfirst, groupFrom]
    by_cases hnonneg : 0 ≤ depth + depthChange token
    · rw [if_pos (decide_eq_true hnonneg), if_pos hnonneg, List.length_cons, List.length_map,
        List.take_succ_cons, ih]
    · rw [if_neg (by simpa using hnonneg), if_neg hnonneg]
      rfl

theorem groupOf_eq (tokens : List Text) : groupOf tokens = groupFrom 0 tokens := by
  rw [← take_takeWhile_range]
  simp only [Int.zero_add]
  rfl

/-- Only a closing parenthesis closes more than is open. -/
theorem eq_closing_of_lt {depth : Nat} {token : Text} (h : (depth : Int) + depthChange token < 0) :
    token = closing ∧ depth = 0 := by
  unfold depthChange at h
  split_ifs at h with hopening hclosing
  · omega
  · exact ⟨hclosing, by omega⟩
  · omega

theorem nonneg_of_groupFrom {depth : Int} (hdepth : 0 ≤ depth) {tokens front : List Text}
    (hfront : front <+: groupFrom depth tokens) : 0 ≤ depth + depthAfter front := by
  induction tokens generalizing depth front with
  | nil => simpa [List.prefix_nil.1 hfront, depthAfter] using hdepth
  | cons token rest ih =>
    rw [groupFrom] at hfront
    split_ifs at hfront with hnonneg
    · rcases List.prefix_cons_iff.1 hfront with rfl | ⟨front, rfl, hrest⟩
      · simpa [depthAfter] using hdepth
      · rw [depthAfter, ← Int.add_assoc]
        exact ih hnonneg hrest
    · simpa [List.prefix_nil.1 hfront, depthAfter] using hdepth

theorem groupFrom_ends (depth : Nat) (tokens : List Text) :
    groupFrom depth tokens = tokens ∨ depth + depthAfter (groupFrom depth tokens) = 0 ∧
      ∃ behind, tokens = groupFrom depth tokens ++ closing :: behind := by
  induction tokens generalizing depth with
  | nil => exact .inl rfl
  | cons token rest ih =>
    rw [groupFrom]
    split_ifs with hnonneg
    · obtain ⟨next, hnext⟩ := Int.eq_ofNat_of_zero_le hnonneg
      rw [hnext, depthAfter, ← Int.add_assoc, hnext]
      exact (ih next).imp (congrArg _) (And.imp_right (Exists.imp fun behind => congrArg _))
    · obtain ⟨rfl, rfl⟩ := eq_closing_of_lt (Int.not_le.1 hnonneg)
      exact .inr ⟨rfl, rest, rfl⟩

theorem isGroup_groupOf (tokens : List Text) : IsGroup (groupOf tokens) tokens where
  nonneg front hfront := by
    rw [groupOf_eq] at hfront
    simpa using nonneg_of_groupFrom Int.le_rfl hfront
  ends := by
    rw [groupOf_eq]
    refine (groupFrom_ends 0 tokens).imp_right (And.imp_left fun hdepth => ?_)
    simpa using hdepth

/-! ### The pieces -/

theorem separates_iff {before : List Text} {token : Text} :
    separates before token = true ↔ token = comma ∧ depthAfter before = 0 := by
  simp [separates]

theorem splitWhere_ne_nil (cut : List Text → Text → Bool) (before piece tokens : List Text) :
    splitWhere cut before piece tokens ≠ [] := by
  induction tokens generalizing before piece with
  | nil => exact List.cons_ne_nil _ _
  | cons token rest ih =>
    rw [splitWhere]
    split_ifs with hcut
    · exact List.cons_ne_nil _ _
    · exact ih _ _

/-- The commas put back between the pieces give the tokens that were divided. -/
theorem intercalate_splitWhere (before piece tokens : List Text) :
    List.intercalate [comma] (splitWhere separates before piece tokens) = piece ++ tokens := by
  induction tokens generalizing before piece with
  | nil => rw [splitWhere, List.intercalate_singleton, List.append_nil]
  | cons token rest ih =>
    rw [splitWhere]
    split_ifs with hcut
    · obtain ⟨hcomma, -⟩ := separates_iff.1 hcut
      rw [List.intercalate_cons_of_ne_nil (splitWhere_ne_nil _ _ _ _), ih, hcomma,
        List.nil_append, List.append_assoc, List.singleton_append]
    · rw [ih, List.append_assoc, List.singleton_append]

/-- The pieces of tokens behind which no more is closed than was open: all stay inside, and all but
the last one have closed their groups. -/
theorem exists_splitWhere_eq {before piece tokens : List Text} (hpiece : StaysInside 0 piece)
    (hdepth : depthAfter before = depthAfter piece)
    (htokens : ∀ front, front <+: tokens → 0 ≤ depthAfter before + depthAfter front) :
    ∃ done last, splitWhere separates before piece tokens = done ++ [last] ∧
      (∀ p ∈ done, StaysInside 0 p ∧ depthAfter p = 0) ∧ StaysInside 0 last ∧
        depthAfter last = depthAfter before + depthAfter tokens := by
  induction tokens generalizing before piece with
  | nil => exact ⟨[], piece, rfl, by simp, hpiece, by simp [depthAfter, hdepth]⟩
  | cons token rest ih =>
    have hbefore : depthAfter (before ++ [token]) = depthAfter before + depthChange token := by
      simp [depthAfter_append, depthAfter]
    have hrest : ∀ front, front <+: rest →
        0 ≤ depthAfter (before ++ [token]) + depthAfter front := by
      intro front hfront
      have hnonneg := htokens (token :: front) ((List.prefix_cons_inj token).2 hfront)
      rw [depthAfter] at hnonneg
      omega
    have hend : depthAfter (before ++ [token]) + depthAfter rest =
        depthAfter before + depthAfter (token :: rest) := by
      rw [hbefore, depthAfter, Int.add_assoc]
    rw [splitWhere, ← hend]
    split_ifs with hcut
    · obtain ⟨rfl, hzero⟩ := separates_iff.1 hcut
      have hcomma : depthAfter (before ++ [comma]) = depthAfter [] := by
        rw [hbefore, hzero]
        rfl
      obtain ⟨done, last, hsplit, hdone, hlast, hdepthLast⟩ :=
        ih (staysInside_nil Int.le_rfl) hcomma hrest
      refine ⟨piece :: done, last, by rw [hsplit, List.cons_append], ?_, hlast, hdepthLast⟩
      exact List.forall_mem_cons.2 ⟨⟨hpiece, hdepth.symm.trans hzero⟩, hdone⟩
    · have hadded : depthAfter (piece ++ [token]) = depthAfter before + depthChange token := by
        simp [depthAfter_append, depthAfter, hdepth]
      have hnonneg := hrest [] List.nil_prefix
      refine ih (hpiece.append_singleton ?_ fun hcomma hzero => ?_) (hbefore.trans hadded.symm)
        hrest
      · rw [hbefore, depthAfter] at hnonneg
        omega
      · exact hcut (separates_iff.2 ⟨hcomma, by omega⟩)

theorem forall_mem_intercalate {P : Text → Prop} (hcomma : P comma) {ps : List (List Text)} :
    (∀ t ∈ List.intercalate [comma] ps, P t) ↔ ∀ p ∈ ps, ∀ t ∈ p, P t := by
  induction ps with
  | nil => simp
  | cons p ps ih =>
    cases ps with
    | nil => simp
    | cons q ps =>
      rw [List.intercalate_cons_cons, List.append_assoc, List.forall_mem_append,
        List.singleton_append, List.forall_mem_cons, ih, and_iff_right hcomma,
        List.forall_mem_cons (a := p)]

/-- Tokens that stay inside an entry do not start with a comma. -/
theorem StaysInside.eq_nil_iff {tokens : List Text} (h : StaysInside 0 tokens) :
    tokens = [] ↔ ∀ t ∈ tokens, t = Token.comma := by
  refine ⟨by rintro rfl; simp, fun hall => ?_⟩
  cases tokens with
  | nil => rfl
  | cons token rest =>
    obtain rfl := hall token List.mem_cons_self
    exact absurd rfl (h.comma [] ⟨rest, rfl⟩)

namespace IsGroup

variable {group tokens : List Text} (h : IsGroup group tokens)
include h

theorem isPrefix : group <+: tokens := by
  rcases h.ends with rfl | ⟨-, behind, rfl⟩
  · exact List.prefix_rfl
  · exact List.prefix_append _ _

theorem exists_splitWhere_eq : ∃ done last, splitWhere separates [] [] group = done ++ [last] ∧
    (∀ p ∈ done, StaysInside 0 p ∧ depthAfter p = 0) ∧ StaysInside 0 last ∧
      depthAfter last = depthAfter group := by
  have hnonneg : ∀ front, front <+: group → 0 ≤ depthAfter [] + depthAfter front := by
    simpa [depthAfter] using h.nonneg
  simpa [depthAfter] using Column.exists_splitWhere_eq (staysInside_nil Int.le_rfl) rfl hnonneg

theorem staysInside_of_mem_splitWhere :
    ∀ p ∈ splitWhere separates [] [] group, StaysInside 0 p := by
  obtain ⟨done, last, hsplit, hdone, hlast, -⟩ := h.exists_splitWhere_eq
  rw [hsplit]
  exact List.forall_mem_append.2 ⟨fun p hp => (hdone p hp).1, List.forall_mem_singleton.2 hlast⟩

theorem of_mem_pieces {p : List Text} (hp : p ∈ pieces group) : p ≠ [] ∧ StaysInside 0 p := by
  obtain ⟨hsplit, hne⟩ := List.mem_filter.1 hp
  exact ⟨by simpa using hne, h.staysInside_of_mem_splitWhere p hsplit⟩

/-- A group without pieces holds nothing but its commas. -/
theorem pieces_eq_nil_iff : pieces group = [] ↔ ∀ t ∈ group, t = comma := by
  have hgroup : List.intercalate [comma] (splitWhere separates [] [] group) = group :=
    intercalate_splitWhere [] [] group
  calc pieces group = [] ↔ ∀ p ∈ splitWhere separates [] [] group, p = [] := by
        simp [pieces, List.filter_eq_nil_iff]
    _ ↔ ∀ p ∈ splitWhere separates [] [] group, ∀ t ∈ p, t = comma :=
        forall₂_congr fun p hp => (h.staysInside_of_mem_splitWhere p hp).eq_nil_iff
    _ ↔ ∀ t ∈ group, t = comma := by
        rw [← forall_mem_intercalate (P := (· = comma)) rfl, hgroup]

/-- All pieces but the last one have closed their groups. -/
theorem balanced_of_mem_dropLast : ∀ p ∈ (pieces group).dropLast, Balanced p := by
  obtain ⟨done, last, hsplit, hdone, -⟩ := h.exists_splitWhere_eq
  intro p hp
  have hmem : p ∈ done := by
    rw [pieces, hsplit, List.filter_append] at hp
    by_cases hempty : last = []
    · rw [List.filter_cons_of_neg (by simp [hempty]), List.filter_nil, List.append_nil] at hp
      exact (List.mem_filter.1 (List.mem_of_mem_dropLast hp)).1
    · rw [List.filter_cons_of_pos (by simp [hempty]), List.filter_nil, List.dropLast_concat] at hp
      exact (List.mem_filter.1 hp).1
  exact ⟨by simpa using (hdone p hmem).1.nonneg, (hdone p hmem).2⟩

/-- In a closed group the last piece has closed its groups too. -/
theorem balanced_of_mem (hclosed : depthAfter group = 0) : ∀ p ∈ pieces group, Balanced p := by
  obtain ⟨done, last, hsplit, hdone, hlast, hdepth⟩ := h.exists_splitWhere_eq
  have hall : ∀ p ∈ done ++ [last], StaysInside 0 p ∧ depthAfter p = 0 :=
    List.forall_mem_append.2 ⟨hdone, List.forall_mem_singleton.2 ⟨hlast, hdepth.trans hclosed⟩⟩
  intro p hp
  obtain ⟨hinside, hzero⟩ := hall p (hsplit ▸ (List.mem_filter.1 hp).1)
  exact ⟨by simpa using hinside.nonneg, hzero⟩

end IsGroup

/-! ### Entries as pieces -/

theorem entriesFrom_eq_splitWhere {depth : Nat} {before : List Text}
    (hbefore : depthAfter before = depth) (current tokens : List Text) :
    entriesFrom depth current tokens =
      ((splitWhere separates before current (groupFrom depth tokens)).filter
        fun piece => !piece.isEmpty).map Definition.mk := by
  induction tokens generalizing depth before current with
  | nil => exact entry_eq current
  | cons token rest ih =>
    have hadded : depthAfter (before ++ [token]) = depth + depthChange token := by
      simp [depthAfter_append, depthAfter, hbefore]
    rw [groupFrom]
    split_ifs with hnonneg
    · obtain ⟨next, hnext⟩ := Int.eq_ofNat_of_zero_le hnonneg
      rw [hnext] at hadded
      rw [splitWhere, hnext]
      split_ifs with hcut
      · obtain ⟨rfl, hzero⟩ := separates_iff.1 hcut
        obtain rfl : depth = 0 := by omega
        obtain rfl : next = 0 := Int.ofNat_inj.1 hnext.symm
        rw [entriesFrom_comma, entry_eq, ih hadded, ← List.map_append, ← List.filter_append]
        rfl
      · have hcomma : token = comma → depth ≠ 0 := by
          rintro rfl rfl
          exact hcut (separates_iff.2 ⟨rfl, hbefore⟩)
        rw [entriesFrom_cons hnext.symm hcomma, ih hadded]
    · obtain ⟨rfl, rfl⟩ := eq_closing_of_lt (Int.not_le.1 hnonneg)
      rw [entriesFrom_closing]
      exact entry_eq current

/-- The entries behind an opening parenthesis are the pieces of its group. -/
theorem entries_eq (tokens : List Text) :
    entries tokens = (pieces (groupOf tokens)).map Definition.mk := by
  have hnothing : depthAfter [] = (0 : Nat) := rfl
  rw [entries, entriesFrom_eq_splitWhere hnothing, pieces, groupOf_eq]
  rfl

/-- A definition with tokens has a name, and it is a table constraint or not. -/
theorem Definition.exists_name {d : Definition} (h : d.tokens ≠ []) :
    (∃ name, d.name = .ok name) ∧ ∃ constraint, d.isTableConstraint = .ok constraint := by
  obtain ⟨token, rest, htokens⟩ := List.exists_cons_of_ne_nil h
  simp [Definition.name, Definition.isTableConstraint, htokens]

/-- **The definitions of a statement are the pieces of its group**, whether the group is closed or
not. Without an opening parenthesis there is none, and otherwise there is none exactly if the group
holds nothing but commas. Every definition has a token, closes no more than it opens, and has its
commas in groups of its own. All definitions but the last one have closed their groups, and the last
one has if the group is closed. -/
theorem definitions_eq_pieces (sql : Text) :
    (opening ∉ tokens (blankLayout sql) → definitions sql = []) ∧
      ∀ before behind, tokens (blankLayout sql) = before ++ opening :: behind → opening ∉ before →
        IsGroup (groupOf behind) behind ∧
          definitions sql = (pieces (groupOf behind)).map Definition.mk ∧
          (definitions sql = [] ↔ ∀ t ∈ groupOf behind, t = comma) ∧
          (∀ d ∈ definitions sql, d.tokens ≠ [] ∧ StaysInside 0 d.tokens ∧
            (∃ name, d.name = .ok name) ∧ ∃ constraint, d.isTableConstraint = .ok constraint) ∧
          (∀ d ∈ (definitions sql).dropLast, Balanced d.tokens) ∧
          (IsClosedIn (groupOf behind) behind → ∀ d ∈ definitions sql, Balanced d.tokens) := by
  refine ⟨fun hnone => ?_, fun before behind htokens hbefore => ?_⟩
  · have hdrop : (tokens (blankLayout sql)).dropWhile (fun token => token ≠ opening) = [] := by
      rw [List.dropWhile_eq_nil_iff]
      intro t ht
      rw [decide_eq_true_eq]
      rintro rfl
      exact hnone ht
    rw [definitions, hdrop]
    rfl
  · have hgroup := isGroup_groupOf behind
    have hpieces : definitions sql = (pieces (groupOf behind)).map Definition.mk :=
      (definitions_eq htokens hbefore).trans (entries_eq behind)
    refine ⟨hgroup, hpieces, ?_, ?_, ?_, fun hclosed => ?_⟩
    · rw [hpieces, List.map_eq_nil_iff, hgroup.pieces_eq_nil_iff]
    · rw [hpieces]
      refine List.forall_mem_map.2 fun p hp => ?_
      obtain ⟨hne, hinside⟩ := hgroup.of_mem_pieces hp
      exact ⟨hne, hinside, Definition.exists_name hne⟩
    · rw [hpieces, ← List.map_dropLast]
      exact List.forall_mem_map.2 hgroup.balanced_of_mem_dropLast
    · rw [hpieces]
      exact List.forall_mem_map.2 (hgroup.balanced_of_mem hclosed.1)

/-- A group that is not closed, with empty entries, a quoted entry that holds punctuation, and inner
groups that are not closed either. -/
theorem definitions_eq_pieces_unclosed :
    let sql := "CREATE TABLE t(,a NUMERIC(1,2),,\"),\",b((c,".toList
    let front := ["CREATE".toList, "TABLE".toList, "t".toList]
    let first := ["a".toList, "NUMERIC".toList, opening, "1".toList, comma, "2".toList, closing]
    let second := ["\"),\"".toList]
    let third := ["b".toList, opening, opening, "c".toList, comma]
    let behind := [comma] ++ first ++ [comma, comma] ++ second ++ [comma] ++ third
    tokens (blankLayout sql) = front ++ opening :: behind ∧ opening ∉ front ∧
      definitions sql = [⟨first⟩, ⟨second⟩, ⟨third⟩] ∧ Balanced first ∧ Balanced second := by
  intro sql front first second third behind
  have htokens : tokens (blankLayout sql) = front ++ opening :: behind := by decide +kernel
  have hfront : opening ∉ front := by decide
  obtain ⟨-, hpieces, -, -, hbalanced, -⟩ :=
    (definitions_eq_pieces sql).2 front behind htokens hfront
  have hdefinitions : definitions sql = [⟨first⟩, ⟨second⟩, ⟨third⟩] :=
    hpieces.trans (by decide +kernel)
  rw [hdefinitions] at hbalanced
  exact ⟨htokens, hfront, hdefinitions, hbalanced ⟨first⟩ (by simp),
    hbalanced ⟨second⟩ (by simp)⟩

end SqliteAccess.Column
