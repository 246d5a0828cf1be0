import SqliteAccess.Log.Redaction

/-!
# What redaction withholds

Redaction walks the objects directly inside objects and withholds the values under sensitive keys.
On every level that it walks it keeps the keys in their order, and it keeps each value that is
neither under a sensitive key nor an object. A redacted record is redacted already.

Two records that differ in secrets only are the same once they are redacted, so that no secret can
be told from the result. The converse holds as well: redaction confuses no other records.

## Main definitions

* `Log.SameButSecrets` : records that differ in secrets only.
* `Log.walked?` : the levels that redaction walks.
* `Log.Redacted` : what redaction makes of one level.

## Main results

* `Log.redact_eq_map` : the fields of a record are redacted one by one.
* `Log.redact_redact` : a redacted record is redacted already.
* `Log.redact_eq_redact_iff` : the records that redaction confuses differ in secrets only.
* `Log.redact_withholds_secrets` : all of this at once, on every level.
-/

namespace SqliteAccess.Log

/-- Records that differ only in the values under sensitive keys, at any depth of objects directly
inside objects. -/
inductive SameButSecrets : Fields → Fields → Prop
  | nil : SameButSecrets [] []
  /-- Two values under a sensitive key. -/
  | secret {key : Text} {value other : Json} {rest rest' : Fields}
      (hkey : isSensitive key = true) (hrest : SameButSecrets rest rest') :
      SameButSecrets ((key, value) :: rest) ((key, other) :: rest')
  /-- The same value under any key. -/
  | same {key : Text} {value : Json} {rest rest' : Fields} (hrest : SameButSecrets rest rest') :
      SameButSecrets ((key, value) :: rest) ((key, value) :: rest')
  /-- Two objects that differ in secrets only. -/
  | object {key : Text} {inner inner' rest rest' : Fields} (hinner : SameButSecrets inner inner')
      (hrest : SameButSecrets rest rest') :
      SameButSecrets ((key, Json.object inner) :: rest) ((key, Json.object inner') :: rest')

/-- The level of a record that is reached through the objects at some positions, one inside the
other, if redaction walks so far: it does not enter an object under a sensitive key. -/
def walked? (level : Fields) : List Nat → Option Fields
  | [] => some level
  | position :: path =>
    match level[position]? with
    | some (key, Json.object inner) => if isSensitive key then none else walked? inner path
    | _ => none

/-- What redaction makes of one level: the keys stay in their order, a value that is neither under
a sensitive key nor an object stays as it is, and the values under sensitive keys are withheld. -/
structure Redacted (level shown : Fields) : Prop where
  keys : shown.map (·.1) = level.map (·.1)
  kept : ∀ (position : Nat) (key : Text) (value : Json), level[position]? = some (key, value) →
    isSensitive key = false → (∀ inner, value ≠ .object inner) →
      shown[position]? = some (key, value)
  withheld : ∀ (position : Nat) (key : Text) (value : Json), level[position]? = some (key, value) →
    isSensitive key = true → shown[position]? = some (key, withheld)

/-! ### Fields one by one -/

/-- What is shown of a value under a key. -/
def shown (key : Text) (value : Json) : Json :=
  if isSensitive key then withheld else redactValue value

theorem redact_eq_map (fields : Fields) :
    redact fields = fields.map fun f => (f.1, shown f.1 f.2) := by
  induction fields with
  | nil => rw [redact, List.map_nil]
  | cons f rest ih => rw [redact, ih, List.map_cons, shown]

theorem redact_cons (key : Text) (value : Json) (rest : Fields) :
    redact ((key, value) :: rest) = (key, shown key value) :: redact rest := by
  rw [redact, shown]

theorem shown_of_sensitive {key : Text} (h : isSensitive key = true) (value : Json) :
    shown key value = withheld := if_pos h

theorem shown_of_not_sensitive {key : Text} (h : isSensitive key = false) (value : Json) :
    shown key value = redactValue value := if_neg (Bool.eq_false_iff.1 h)

theorem redactValue_object (fields : Fields) :
    redactValue (.object fields) = .object (redact fields) := by
  rw [redactValue]

theorem redactValue_of_ne {value : Json} (h : ∀ inner, value ≠ .object inner) :
    redactValue value = value := by
  cases value with
  | object inner => exact absurd rfl (h inner)
  | _ => rw [redactValue]; exact nofun

theorem map_fst_redact (fields : Fields) : (redact fields).map (·.1) = fields.map (·.1) := by
  rw [redact_eq_map, List.map_map]
  rfl

/-! ### Redacting twice -/

mutual

theorem redactValue_redactValue (value : Json) :
    redactValue (redactValue value) = redactValue value := by
  cases value with
  | object fields => rw [redactValue_object, redactValue_object, redact_redact fields]
  | _ => rfl

/-- A redacted record is redacted already. -/
theorem redact_redact : (fields : Fields) → redact (redact fields) = redact fields
  | [] => rfl
  | (key, value) :: rest => by
    have hvalue : shown key (shown key value) = shown key value := by
      cases hkey : isSensitive key with
      | true => rw [shown_of_sensitive hkey, shown_of_sensitive hkey]
      | false =>
        rw [shown_of_not_sensitive hkey, shown_of_not_sensitive hkey,
          redactValue_redactValue value]
    rw [redact_cons, redact_cons, hvalue, redact_redact rest]

end

/-! ### Two records -/

theorem SameButSecrets.refl : (fields : Fields) → SameButSecrets fields fields
  | [] => .nil
  | (_, _) :: rest => .same (SameButSecrets.refl rest)

theorem SameButSecrets.redact_eq {fields other : Fields} (h : SameButSecrets fields other) :
    redact fields = redact other := by
  induction h with
  | nil => rfl
  | secret hkey _ ih =>
    rw [redact_cons, redact_cons, shown_of_sensitive hkey, shown_of_sensitive hkey, ih]
  | same _ ih => rw [redact_cons, redact_cons, ih]
  | object _ _ ihinner ihrest =>
    rw [redact_cons, redact_cons, shown, shown, redactValue_object, redactValue_object, ihinner,
      ihrest]

/-- Values that redaction confuses are the same, or objects whose fields it confuses. -/
theorem redactValue_eq_redactValue {value other : Json}
    (h : redactValue value = redactValue other) :
    value = other ∨ ∃ inner inner', value = .object inner ∧ other = .object inner' ∧
      redact inner = redact inner' := by
  cases value with
  | object inner =>
    cases other with
    | object inner' =>
      rw [redactValue_object, redactValue_object] at h
      exact .inr ⟨inner, inner', rfl, rfl, Json.object.inj h⟩
    | _ => exact nomatch h
  | _ =>
    cases other with
    | object inner' => exact nomatch h
    | _ => exact .inl h

theorem sameButSecrets_of_redact_eq : (fields other : Fields) → redact fields = redact other →
    SameButSecrets fields other
  | [], [], _ => .nil
  | [], _ :: _, h => nomatch h
  | _ :: _, [], h => nomatch h
  | (key, value) :: rest, (key', other) :: rest', h => by
    rw [redact_cons, redact_cons] at h
    obtain ⟨hhead, hrest⟩ := List.cons.inj h
    obtain ⟨rfl, hvalue⟩ := Prod.mk.inj hhead
    have hrest := sameButSecrets_of_redact_eq rest rest' hrest
    cases hkey : isSensitive key with
    | true => exact .secret hkey hrest
    | false =>
      rw [shown_of_not_sensitive hkey, shown_of_not_sensitive hkey] at hvalue
      obtain rfl | ⟨inner, inner', rfl, rfl, hinner⟩ := redactValue_eq_redactValue hvalue
      · exact .same hrest
      · exact .object (sameButSecrets_of_redact_eq inner inner' hinner) hrest

/-- The records that redaction confuses are those that differ in secrets only. -/
theorem redact_eq_redact_iff {fields other : Fields} :
    redact fields = redact other ↔ SameButSecrets fields other :=
  ⟨sameButSecrets_of_redact_eq fields other, SameButSecrets.redact_eq⟩

/-! ### Every level -/

theorem redacted_redact (level : Fields) : Redacted level (redact level) where
  keys := map_fst_redact level
  kept position key value hfield hkey hvalue := by
    rw [redact_eq_map, List.getElem?_map, hfield, Option.map_some, shown_of_not_sensitive hkey,
      redactValue_of_ne hvalue]
  withheld position key value hfield hkey := by
    rw [redact_eq_map, List.getElem?_map, hfield, Option.map_some, shown_of_sensitive hkey]

/-- Redaction walks the same levels of a record and of the redacted record. -/
theorem walked?_redact (fields : Fields) (path : List Nat) :
    walked? (redact fields) path = (walked? fields path).map redact := by
  induction path generalizing fields with
  | nil => rfl
  | cons position path ih =>
    rw [walked?, walked?, redact_eq_map, List.getElem?_map]
    cases hfield : fields[position]? with
    | none => rfl
    | some f =>
      obtain ⟨key, value⟩ := f
      cases hkey : isSensitive key with
      | true =>
        rw [Option.map_some, shown_of_sensitive hkey]
        cases value with
        | object inner => simp [withheld, hkey]
        | _ => rfl
      | false =>
        rw [Option.map_some, shown_of_not_sensitive hkey]
        cases value with
        | object inner => simp [redactValue_object, hkey, ih]
        | _ => rfl

/-- **Redaction withholds the secrets of a record and nothing else.** On every level that it walks
the keys keep their order, what is neither secret nor an object is kept, and the secrets are
withheld. A redacted record is redacted already. Two records become the same exactly if they differ
in secrets only. -/
theorem redact_withholds_secrets (fields : Fields) :
    (∀ path level, walked? fields path = some level →
      ∃ shown, walked? (redact fields) path = some shown ∧ Redacted level shown) ∧
      redact (redact fields) = redact fields ∧
      ∀ other, redact fields = redact other ↔ SameButSecrets fields other := by
  refine ⟨fun path level hlevel => ?_, redact_redact fields, fun other => redact_eq_redact_iff⟩
  refine ⟨redact level, ?_, redacted_redact level⟩
  rw [walked?_redact, hlevel, Option.map_some]

/-- An object under a sensitive key is withheld as a whole. -/
example :
    redact [("user".toList, .object [("name".toList, .null), ("api_key".toList, .integer 7)]),
        ("TOKENS".toList, .object [("name".toList, .null)])] =
      [("user".toList, .object [("name".toList, .null), ("api_key".toList, withheld)]),
        ("TOKENS".toList, withheld)] := by
  rfl

end SqliteAccess.Log
