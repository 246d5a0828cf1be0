import Mathlib.Tactic.Push
import SqliteAccess.Proofs.Column.Relayout

/-!
# The source texts of definitions

A statement with a closed definition list is divided by the commas that stand outside quotes and
outside all inner groups. What stands between two of them is the source text of a definition, and
the tokens of the definition are those of its source text, read for itself. A source text without
tokens has no definition.

## Main definitions

* `Column.IsClosedText` : texts that close all their regions and groups.
* `Column.IsSource` : texts that can stand between two commas of a definition list.
* `Column.Divides` : a statement divided into the source texts of its definition list.

## Main results

* `Column.HasGroup.exists_divides` : every statement with a closed list is divided in this way.
* `Column.IsSource.staysInside` : the tokens of a source text close their groups.
* `Column.Divides.definitions_eq` : the definitions are read from the source texts one by one.
-/

namespace SqliteAccess.Column

open Token

/-- Texts that close all their regions, and every group that they open and no other one. -/
structure IsClosedText (text : Text) : Prop where
  quote : quoteAfter none text = none
  nonneg : ∀ front, front <+: unquoted text → front.count ')' ≤ front.count '('
  closed : (unquoted text).count ')' = (unquoted text).count '('

/-- Texts that can stand between two commas of a definition list. -/
structure IsSource (source : Text) : Prop extends IsClosedText source where
  /-- No comma stands outside the groups of the text. -/
  comma : ∀ front, front ++ [','] <+: unquoted source → front.count ')' < front.count '('

/-- A statement with the source texts of its definition list, which is its first group. -/
structure Divides (sql before : Text) (sources : List Text) (behind : Text) : Prop where
  eq : sql = before ++ '(' :: (List.intercalate [','] sources ++ ')' :: behind)
  quote : quoteAfter none before = none
  opening : '(' ∉ unquoted before
  ne_nil : sources ≠ []
  isSource : ∀ source ∈ sources, IsSource source

theorem isSource_iff (source : Text) : IsSource source ↔ quoteAfter none source = none ∧
    (∀ front ∈ (unquoted source).inits, front.count ')' ≤ front.count '(') ∧
      (unquoted source).count ')' = (unquoted source).count '(' ∧
        ∀ front ∈ (unquoted source).inits, front ++ [','] <+: unquoted source →
          front.count ')' < front.count '(' := by
  simp only [List.mem_inits]
  refine ⟨fun h => ⟨h.quote, h.nonneg, h.closed, fun front _ => h.comma front⟩, ?_⟩
  rintro ⟨hquote, hnonneg, hclosed, hcomma⟩
  exact ⟨⟨hquote, hnonneg, hclosed⟩,
    fun front hfront => hcomma front ((List.prefix_append front _).trans hfront) hfront⟩

instance (source : Text) : Decidable (IsSource source) :=
  decidable_of_iff _ (isSource_iff source).symm

/-! ### Dividing a text -/

theorem intercalate_append {s t : List Text} (hs : s ≠ []) (ht : t ≠ []) :
    List.intercalate [','] (s ++ t) =
      List.intercalate [','] s ++ ',' :: List.intercalate [','] t := by
  induction s with
  | nil => exact absurd rfl hs
  | cons x s ih =>
    cases s with
    | nil =>
      rw [List.singleton_append, List.intercalate_cons_of_ne_nil ht, List.intercalate_singleton,
        List.append_assoc, List.singleton_append]
    | cons y s =>
      rw [List.cons_append, List.cons_append, List.intercalate_cons_cons, ← List.cons_append,
        ih (List.cons_ne_nil y s), List.intercalate_cons_cons, List.append_assoc (x ++ [','])]

/-- A comma outside the groups of a closed text cuts it into two closed texts. -/
theorem IsClosedText.of_append {first second : Text}
    (h : IsClosedText (first ++ ',' :: second)) (hquote : quoteAfter none first = none)
    (hunquoted : unquoted (first ++ ',' :: second) = unquoted first ++ ',' :: unquoted second)
    (hcount : (unquoted first).count '(' ≤ (unquoted first).count ')') :
    IsClosedText first ∧ IsClosedText second := by
  obtain ⟨hregions, hnonneg, hclosed⟩ := h
  rw [hunquoted] at hnonneg hclosed
  have hfirst : (unquoted first).count ')' = (unquoted first).count '(' :=
    Nat.le_antisymm (hnonneg _ (List.prefix_append _ _)) hcount
  have hcomma (t : Text) :
      (',' :: t).count ')' = t.count ')' ∧ (',' :: t).count '(' = t.count '(' :=
    ⟨List.count_cons_of_ne (by decide), List.count_cons_of_ne (by decide)⟩
  refine ⟨⟨hquote, fun front hfront => ?_, hfirst⟩, ⟨?_, fun front hfront => ?_, ?_⟩⟩
  · exact hnonneg front (hfront.trans (List.prefix_append _ _))
  · rwa [quoteAfter_append, hquote] at hregions
  · have hwhole := hnonneg (unquoted first ++ ',' :: front)
      ((List.prefix_append_right_inj _).2 ((List.prefix_cons_inj ',').2 hfront))
    rw [List.count_append, List.count_append, (hcomma front).1, (hcomma front).2] at hwhole
    omega
  · rw [List.count_append, List.count_append, (hcomma _).1, (hcomma _).2] at hclosed
    omega

/-- A closed text is divided at its commas outside all groups. Any of them leaves two shorter closed
texts. -/
theorem IsClosedText.exists_sources {text : Text} (h : IsClosedText text) :
    ∃ sources, sources ≠ [] ∧ text = List.intercalate [','] sources ∧
      ∀ source ∈ sources, IsSource source := by
  induction hn : text.length using Nat.strongRecOn generalizing text with
  | ind n ih =>
  subst hn
  by_cases hcomma :
      ∀ front, front ++ [','] <+: unquoted text → front.count ')' < front.count '('
  · exact ⟨[text], by simp, by simp, List.forall_mem_singleton.2 ⟨h, hcomma⟩⟩
  · push Not at hcomma
    obtain ⟨front, ⟨back, hback⟩, hcount⟩ := hcomma
    have hunquoted : unquoted text = front ++ ',' :: back := by simp [← hback]
    obtain ⟨first, second, rfl, hquote, rfl, rfl⟩ := exists_append_of_unquotedFrom hunquoted
    obtain ⟨hfirst, hsecond⟩ := h.of_append hquote hunquoted hcount
    obtain ⟨s, hs, hsfirst, hsources⟩ := ih first.length (by simp) hfirst rfl
    obtain ⟨t, ht, htsecond, htsources⟩ := ih second.length (by simp; omega) hsecond rfl
    refine ⟨s ++ t, by simp [hs], ?_, List.forall_mem_append.2 ⟨hsources, htsources⟩⟩
    rw [intercalate_append hs ht, ← hsfirst, ← htsecond]

/-- **Every statement with a closed definition list is divided into source texts.** -/
theorem HasGroup.exists_divides {sql : Text} (h : HasGroup sql) :
    ∃ before sources behind, Divides sql before sources behind := by
  obtain ⟨before, group, behind, hunquoted, hbefore, hnonneg, hclosed⟩ := h
  obtain ⟨front, rest, rfl, hfront, rfl, hrest⟩ := exists_append_of_unquotedFrom hunquoted
  obtain ⟨list, back, rfl, hlist, rfl, rfl⟩ := exists_append_of_unquotedFrom hrest
  obtain ⟨sources, hne, rfl, hsources⟩ :=
    IsClosedText.exists_sources ⟨hlist, hnonneg, hclosed⟩
  exact ⟨front, sources, back, rfl, hfront, hbefore, hne, hsources⟩

/-! ### Tokens of a part -/

/-- A text is cut around punctuation outside the regions, with its layout read as spaces. -/
theorem tokens_blankLayout_punctuation {a : Text} (ha : quoteAfter none a = none) {c : Char}
    (hc : isPunctuation c = true) (t : Text) :
    tokens (blankLayout (a ++ c :: t)) =
      tokens (blankLayout a) ++ [c] :: tokens (blankLayout t) := by
  have hfront : quoteAfter none (blankLayout a) = none := (quoteAfter_blankFrom none a).trans ha
  have hmark : blankFrom none (c :: t) = c :: blankLayout t :=
    IsToken.blankLayout_append (.punctuation hc) t
  have hlayout : blankLayout (a ++ c :: t) = blankLayout a ++ c :: blankLayout t := by
    rw [blankLayout, blankFrom_append, ha, hmark]
    rfl
  rw [hlayout, tokens_append_punctuation hfront hc]

/-- **The tokens of a source text stay inside one entry**, and they close its groups. -/
theorem IsSource.staysInside {source : Text} (h : IsSource source) :
    StaysInside 0 (tokens (blankLayout source)) ∧
      depthAfter (tokens (blankLayout source)) = 0 := by
  have hmarks := filterMap_mark_tokens source
  refine ⟨⟨fun front hfront => ?_, fun front hfront => ?_⟩, ?_⟩
  · have hprefix := hfront.filterMap mark?
    rw [hmarks, List.prefix_filter_iff] at hprefix
    obtain ⟨x, hx, hfilter⟩ := hprefix
    have hcount := h.nonneg x hx
    rw [depthAfter_of_filter hfilter.symm]
    omega
  · have hprefix := hfront.filterMap mark?
    rw [hmarks, List.prefix_filter_iff] at hprefix
    obtain ⟨x, hx, hfilter⟩ := hprefix
    have hmark : [Token.comma].filterMap mark? = [','] := by decide
    rw [List.filterMap_append, hmark, eq_comm, List.filter_eq_append_iff] at hfilter
    obtain ⟨u, v, rfl, hu, hv⟩ := hfilter
    obtain ⟨gap, rest, rfl, hgap, -, -⟩ := List.filter_eq_cons_iff.1 hv
    have hfilter : (u ++ gap).filter isPunctuation = front.filterMap mark? := by
      rw [List.filter_append, hu, List.filter_eq_nil_iff.2 hgap, List.append_nil]
    have hcomma : (u ++ gap) ++ [','] <+: unquoted source :=
      List.IsPrefix.trans ⟨rest, by simp⟩ hx
    have hcount := h.comma (u ++ gap) hcomma
    rw [depthAfter_of_filter hfilter]
    omega
  · rw [depthAfter_of_filter hmarks.symm, h.closed]
    omega

/-! ### Definitions from source texts -/

theorem tokens_intercalate {sources : List Text} (h : ∀ source ∈ sources, IsSource source)
    (rest : Text) :
    tokens (blankLayout (List.intercalate [','] sources ++ ')' :: rest)) =
      List.intercalate [Token.comma] (sources.map fun source => tokens (blankLayout source)) ++
        closing :: tokens (blankLayout rest) := by
  induction sources with
  | nil => exact tokens_blankLayout_punctuation rfl (by decide) rest
  | cons source sources ih =>
    obtain ⟨hsource, hsources⟩ := List.forall_mem_cons.1 h
    cases sources with
    | nil =>
      simp only [List.map_cons, List.map_nil, List.intercalate_singleton]
      exact tokens_blankLayout_punctuation hsource.quote (by decide) rest
    | cons source' sources =>
      rw [List.intercalate_cons_cons, List.append_assoc, List.append_assoc, List.singleton_append,
        tokens_blankLayout_punctuation hsource.quote (by decide), ih hsources,
        List.map_cons (a := source), List.map_cons, List.intercalate_cons_cons,
        List.append_assoc, List.append_assoc]
      rfl

/-- **The definitions are read from the source texts one by one**, and a source text without tokens
has none. -/
theorem Divides.definitions_eq {sql before behind : Text} {sources : List Text}
    (h : Divides sql before sources behind) :
    definitions sql = ((sources.map fun source => tokens (blankLayout source)).filter
      fun ts => !ts.isEmpty).map Definition.mk := by
  have htokens : tokens (blankLayout sql) = tokens (blankLayout before) ++ Token.opening ::
      (List.intercalate [Token.comma] (sources.map fun source => tokens (blankLayout source)) ++
        closing :: tokens (blankLayout behind)) := by
    rw [h.eq, tokens_blankLayout_punctuation h.quote (by decide), tokens_intercalate h.isSource]
    rfl
  have hbefore : Token.opening ∉ tokens (blankLayout before) :=
    opening_notMem_of_filter (filterMap_mark_tokens before).symm h.opening
  rw [Column.definitions_eq htokens hbefore, entries_intercalate_of_closed]
  exact List.forall_mem_map.2 fun source hsource => (h.isSource source hsource).staysInside

end SqliteAccess.Column
