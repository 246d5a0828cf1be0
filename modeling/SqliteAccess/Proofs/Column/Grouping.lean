import SqliteAccess.Column.Entry

/-!
# The entries of a group

Reading the entries of a group keeps the tokens of the current entry and its depth. Tokens that stay
inside their entry are all added to it, and the entry that a comma or the end of the group finishes
has closed its groups. Both facts together say that the entries of a closed group are exactly what
stands between the commas of the group.

## Main definitions

* `Column.StaysInside` : tokens that leave no entry which has a given depth.

## Main results

* `Column.entriesFrom_append` : tokens that stay inside are added to the current entry.
* `Column.entries_intercalate_of_closed`, `Column.entries_intercalate_append` : what stands between
  commas is read one by one.
* `Column.isEntry_of_mem_entries` : what is read from a closed group are entries.
-/

namespace SqliteAccess.Column

/-- Tokens that leave no entry which has the given depth in front of them: no part of them closes
more groups than are open, and no comma stands outside all groups. -/
structure StaysInside (depth : Int) (tokens : List Text) : Prop where
  nonneg : ∀ front, front <+: tokens → 0 ≤ depth + depthAfter front
  comma : ∀ front, front ++ [Token.comma] <+: tokens → depth + depthAfter front ≠ 0

theorem staysInside_nil {depth : Int} (h : 0 ≤ depth) : StaysInside depth [] where
  nonneg front hfront := by simpa [List.prefix_nil.1 hfront, depthAfter] using h
  comma front hfront := by simp at hfront

theorem StaysInside.depth_nonneg {depth : Int} {tokens : List Text}
    (h : StaysInside depth tokens) : 0 ≤ depth := by
  simpa [depthAfter] using h.nonneg [] List.nil_prefix

theorem StaysInside.tail {depth : Int} {token : Text} {tokens : List Text}
    (h : StaysInside depth (token :: tokens)) :
    StaysInside (depth + depthChange token) tokens where
  nonneg front hfront := by
    have := h.nonneg (token :: front) ((List.prefix_cons_inj token).2 hfront)
    rw [depthAfter] at this
    omega
  comma front hfront := by
    have := h.comma (token :: front) ((List.prefix_cons_inj token).2 hfront)
    rw [depthAfter] at this
    omega

/-- A token that closes at most what is open, and is a comma only inside a group, stays inside. -/
theorem StaysInside.append_singleton {depth : Int} {token : Text} {tokens : List Text}
    (h : StaysInside depth tokens)
    (hdepth : 0 ≤ depth + depthAfter (tokens ++ [token]))
    (hcomma : token = Token.comma → depth + depthAfter tokens ≠ 0) :
    StaysInside depth (tokens ++ [token]) where
  nonneg front hfront := by
    rcases List.prefix_concat_iff.1 hfront with rfl | hfront
    · exact hdepth
    · exact h.nonneg front hfront
  comma front hfront := by
    rcases List.prefix_concat_iff.1 hfront with heq | hfront
    · obtain ⟨rfl, htoken⟩ := List.append_inj' heq rfl
      exact hcomma (List.singleton_inj.1 htoken).symm
    · exact h.comma front hfront

theorem isEntry_iff {tokens : List Text} :
    IsEntry tokens ↔ tokens ≠ [] ∧ (∀ t ∈ tokens, IsToken t) ∧ StaysInside 0 tokens ∧
      depthAfter tokens = 0 := by
  constructor
  · intro h
    refine ⟨h.ne_nil, h.isToken, ⟨?_, ?_⟩, h.balanced.closed⟩
    · simpa using h.balanced.nonneg
    · simpa using h.comma
  · rintro ⟨hnil, htoken, hinside, hclosed⟩
    refine ⟨hnil, htoken, ⟨?_, hclosed⟩, ?_⟩
    · simpa using hinside.nonneg
    · simpa using hinside.comma

/-! ### Reading entries -/

theorem depthChange_of_ne {token : Text} (hopening : token ≠ Token.opening)
    (hclosing : token ≠ Token.closing) : depthChange token = 0 := by
  simp [depthChange, hopening, hclosing]

/-- A token that leaves no entry is added to the current one. -/
theorem entriesFrom_cons {depth next : Nat} {token : Text}
    (hnext : (next : Int) = depth + depthChange token)
    (hcomma : token = Token.comma → depth ≠ 0) (current rest : List Text) :
    entriesFrom depth current (token :: rest) = entriesFrom next (current ++ [token]) rest := by
  by_cases hopening : token = Token.opening
  · subst hopening
    have hchange : depthChange Token.opening = 1 := by decide
    obtain rfl : next = depth + 1 := by omega
    cases depth <;> simp [entriesFrom]
  by_cases hclosing : token = Token.closing
  · subst hclosing
    have hchange : depthChange Token.closing = -1 := by decide
    obtain rfl : depth = next + 1 := by omega
    simp [entriesFrom, hopening]
  · have hchange : depthChange token = 0 := depthChange_of_ne hopening hclosing
    obtain rfl : next = depth := by omega
    cases next <;> simp_all [entriesFrom]

theorem entriesFrom_comma (current rest : List Text) :
    entriesFrom 0 current (Token.comma :: rest) = entry current ++ entriesFrom 0 [] rest := by
  rw [entriesFrom, if_neg (by decide), if_neg (by decide), if_pos (by decide)]

theorem entriesFrom_closing (current rest : List Text) :
    entriesFrom 0 current (Token.closing :: rest) = entry current := by
  rw [entriesFrom, if_neg (by decide), if_pos rfl]

/-- Tokens that stay inside the current entry are added to it. -/
theorem entriesFrom_append {depth : Nat} {tokens : List Text} (h : StaysInside depth tokens)
    (current rest : List Text) :
    entriesFrom depth current (tokens ++ rest) =
      entriesFrom (depth + depthAfter tokens).toNat (current ++ tokens) rest := by
  induction tokens generalizing depth current with
  | nil => simp [depthAfter]
  | cons token tokens ih =>
    have htail := h.tail
    obtain ⟨next, hnext⟩ := Int.eq_ofNat_of_zero_le htail.depth_nonneg
    have hcomma : token = Token.comma → depth ≠ 0 := by
      rintro rfl rfl
      exact h.comma [] ⟨tokens, rfl⟩ rfl
    rw [hnext] at htail
    rw [List.cons_append, entriesFrom_cons hnext.symm hcomma, ih htail, depthAfter,
      ← Int.add_assoc, hnext, List.append_assoc, List.singleton_append]

theorem entry_of_ne_nil {tokens : List Text} (h : tokens ≠ []) : entry tokens = [⟨tokens⟩] := by
  simp [entry, h]

theorem entry_eq (tokens : List Text) :
    entry tokens = ([tokens].filter fun entry => !entry.isEmpty).map Definition.mk := by
  cases tokens <;> rfl

/-- Tokens that have closed their groups are read in one piece. -/
theorem entriesFrom_append_of_closed {tokens : List Text} (h : StaysInside 0 tokens)
    (hclosed : depthAfter tokens = 0) (rest : List Text) :
    entriesFrom 0 [] (tokens ++ rest) = entriesFrom 0 tokens rest := by
  rw [Column.entriesFrom_append h, hclosed]
  rfl

/-- What stands between the commas of a group is read one by one up to the end of the group, and
what is empty is skipped. -/
theorem entries_intercalate_of_closed {ds : List (List Text)}
    (h : ∀ d ∈ ds, StaysInside 0 d ∧ depthAfter d = 0) (rest : List Text) :
    entries (List.intercalate [Token.comma] ds ++ Token.closing :: rest) =
      (ds.filter fun d => !d.isEmpty).map Definition.mk := by
  rw [entries]
  induction ds with
  | nil => exact entriesFrom_closing [] rest
  | cons d ds ih =>
    obtain ⟨⟨hinside, hclosed⟩, hds⟩ := List.forall_mem_cons.1 h
    cases ds with
    | nil =>
      rw [List.intercalate_singleton, entriesFrom_append_of_closed hinside hclosed,
        entriesFrom_closing, entry_eq]
    | cons d' ds =>
      rw [List.intercalate_cons_cons, List.append_assoc, List.append_assoc,
        entriesFrom_append_of_closed hinside hclosed, List.singleton_append, entriesFrom_comma,
        ih hds, entry_eq, ← List.map_append, ← List.filter_append]
      rfl

/-- Entries between commas are read one by one up to the end of their group. -/
theorem entries_intercalate_append {ds : List (List Text)} (h : ∀ d ∈ ds, IsEntry d)
    (rest : List Text) :
    entries (List.intercalate [Token.comma] ds ++ Token.closing :: rest) =
      ds.map Definition.mk := by
  have hall : ∀ d ∈ ds, (!d.isEmpty) = true := fun d hd => by simpa using (h d hd).ne_nil
  rw [entries_intercalate_of_closed fun d hd => (isEntry_iff.1 (h d hd)).2.2,
    List.filter_eq_self.2 hall]

/-! ### What is read -/

/-- What is read from a closed group on, where the current entry has stayed inside and is as deep
as the group: entries that have closed their groups, made of the tokens at hand. -/
theorem staysInside_of_mem_entriesFrom {depth : Nat} {current group rest : List Text}
    (hcurrent : StaysInside 0 current) (hdepth : depthAfter current = depth)
    (hgroup : ∀ front, front <+: group → 0 ≤ (depth : Int) + depthAfter front)
    (hclosed : (depth : Int) + depthAfter group = 0) :
    ∀ d ∈ entriesFrom depth current (group ++ Token.closing :: rest),
      d.tokens ≠ [] ∧ StaysInside 0 d.tokens ∧ depthAfter d.tokens = 0 ∧
        ∀ t ∈ d.tokens, t ∈ current ++ group := by
  -- the entry that ends at depth zero, whatever follows it in the group
  have hentry (current behind : List Text) (hcurrent : StaysInside 0 current)
      (hzero : depthAfter current = 0) :
      ∀ d ∈ entry current, d.tokens ≠ [] ∧ StaysInside 0 d.tokens ∧ depthAfter d.tokens = 0 ∧
        ∀ t ∈ d.tokens, t ∈ current ++ behind := by
    intro d hd
    by_cases hnil : current = []
    · simp [entry, hnil] at hd
    · obtain rfl : d = ⟨current⟩ := by simpa [entry_of_ne_nil hnil] using hd
      exact ⟨hnil, hcurrent, hzero, fun t ht => List.mem_append_left _ ht⟩
  induction group generalizing depth current with
  | nil =>
    obtain rfl : depth = 0 := by simpa [depthAfter] using hclosed
    rw [List.nil_append, entriesFrom_closing]
    exact hentry current [] hcurrent hdepth
  | cons token group ih =>
    have hrest : ∀ front, front <+: group →
        0 ≤ (depth : Int) + depthChange token + depthAfter front := by
      intro front hfront
      have := hgroup (token :: front) ((List.prefix_cons_inj token).2 hfront)
      rw [depthAfter] at this
      omega
    rw [depthAfter, ← Int.add_assoc] at hclosed
    rw [List.cons_append]
    by_cases hcomma : token = Token.comma ∧ depth = 0
    · obtain ⟨rfl, rfl⟩ := hcomma
      have hchange : depthChange Token.comma = 0 := by decide
      rw [hchange] at hrest hclosed
      rw [entriesFrom_comma]
      intro d hd
      rcases List.mem_append.1 hd with hd | hd
      · exact hentry current _ hcurrent hdepth d hd
      · obtain ⟨hnil, hinside, hbalanced, hmem⟩ :=
          ih (staysInside_nil (by decide)) rfl hrest hclosed d hd
        refine ⟨hnil, hinside, hbalanced, fun t ht => ?_⟩
        exact List.mem_append_right _ (List.mem_cons_of_mem _ (hmem t ht))
    · have hfirst := hrest [] List.nil_prefix
      obtain ⟨next, hnext⟩ := Int.eq_ofNat_of_zero_le (by simpa [depthAfter] using hfirst)
      have hadded : depthAfter (current ++ [token]) = next := by
        rw [depthAfter_append, hdepth, ← hnext]
        simp [depthAfter]
      have hne : token = Token.comma → depth ≠ 0 := fun h h' => hcomma ⟨h, h'⟩
      have hinside : StaysInside 0 (current ++ [token]) :=
        hcurrent.append_singleton (by omega) fun h => by have := hne h; omega
      rw [hnext] at hrest hclosed
      rw [entriesFrom_cons hnext.symm hne]
      simpa using ih hinside hadded hrest hclosed

/-- What is read from a closed group of tokens of entries are entries. -/
theorem isEntry_of_mem_entries {group rest : List Text} (hgroup : Balanced group)
    (htokens : ∀ t ∈ group, IsToken t) :
    ∀ d ∈ entries (group ++ Token.closing :: rest), IsEntry d.tokens := by
  intro d hd
  obtain ⟨hnil, hinside, hclosed, hmem⟩ :=
    staysInside_of_mem_entriesFrom (staysInside_nil (by decide)) rfl
      (by simpa using hgroup.nonneg) (by simpa using hgroup.closed) d hd
  exact isEntry_iff.2 ⟨hnil, fun t ht => htokens t (by simpa using hmem t ht), hinside, hclosed⟩

end SqliteAccess.Column
