import SqliteAccess.Proofs.Log.Lines

/-!
# Secrets inside lists

Redaction walks the objects inside objects, but it keeps every list as it is. So a secret in an
object that is an item of a list is shown. This is the only way in which a secret is shown: of two
records that differ in secrets only, wherever these are nested, redaction makes the same record
exactly if the lists that it meets are the same, and calls with such fields write the same line
exactly if this holds of all fields of the line.

## Main definitions

* `Log.SameButNestedSecrets` : values that differ in secrets only, inside lists too.
* `Log.shownLists` : the lists that redaction meets.

## Main results

* `Log.shownLists_redact` : redaction shows the lists that it meets.
* `Log.SameButNestedSecrets.redact_eq_iff` : when redaction makes two records the same.
* `Log.SameButNestedSecrets.assembled` : such calls are assembled to such records.
* `Log.redact_eq_iff_shownLists_eq` : the same of records and of the lines of calls.
-/

namespace SqliteAccess.Log

/-- Values that differ only in what is under sensitive keys, at any depth of lists and objects. -/
inductive SameButNestedSecrets : Json → Json → Prop
  /-- The same value. -/
  | same (value : Json) : SameButNestedSecrets value value
  /-- Two lists, item by item. -/
  | item {first first' : Json} {items items' : List Json}
      (hfirst : SameButNestedSecrets first first')
      (hitems : SameButNestedSecrets (.list items) (.list items')) :
      SameButNestedSecrets (.list (first :: items)) (.list (first' :: items'))
  /-- Two objects with any values under a sensitive key. -/
  | secret {key : Text} {value other : Json} {rest rest' : Fields}
      (hkey : isSensitive key = true)
      (hrest : SameButNestedSecrets (.object rest) (.object rest')) :
      SameButNestedSecrets (.object ((key, value) :: rest)) (.object ((key, other) :: rest'))
  /-- Two objects, field by field. -/
  | field {key : Text} {value other : Json} {rest rest' : Fields}
      (hvalue : SameButNestedSecrets value other)
      (hrest : SameButNestedSecrets (.object rest) (.object rest')) :
      SameButNestedSecrets (.object ((key, value) :: rest)) (.object ((key, other) :: rest'))

mutual

/-- The lists that redaction meets in a value. -/
def listsOf : Json → List (List Json)
  | .list items => [items]
  | .object fields => shownLists fields
  | _ => []

/-- The lists that redaction meets in the fields of a record, one inside the other only if it walks
there. -/
def shownLists : List (Text × Json) → List (List Json)
  | [] => []
  | (key, value) :: rest => (if isSensitive key then [] else listsOf value) ++ shownLists rest

end

theorem redact_cons_eq_iff {key : Text} {value other : Json} {rest rest' : Fields} :
    redact ((key, value) :: rest) = redact ((key, other) :: rest') ↔
      shown key value = shown key other ∧ redact rest = redact rest' := by
  rw [redact_cons, redact_cons, List.cons.injEq, Prod.mk.injEq, and_iff_right rfl]

/-! ### Lists that are shown -/

theorem listsOf_object (fields : Fields) : listsOf (.object fields) = shownLists fields := by
  rw [listsOf]

theorem shownLists_cons_of_sensitive {key : Text} (h : isSensitive key = true) (value : Json)
    (rest : Fields) : shownLists ((key, value) :: rest) = shownLists rest := by
  rw [shownLists, if_pos h, List.nil_append]

theorem shownLists_cons_of_not_sensitive {key : Text} (h : isSensitive key = false) (value : Json)
    (rest : Fields) : shownLists ((key, value) :: rest) = listsOf value ++ shownLists rest := by
  rw [shownLists, if_neg (Bool.eq_false_iff.1 h)]

mutual

theorem listsOf_redactValue (value : Json) : listsOf (redactValue value) = listsOf value := by
  cases value with
  | object fields =>
    rw [redactValue_object, listsOf_object, listsOf_object, shownLists_redact fields]
  | _ => rfl

/-- Redaction shows the lists that it meets. -/
theorem shownLists_redact : (fields : Fields) → shownLists (redact fields) = shownLists fields
  | [] => rfl
  | (key, value) :: rest => by
    rw [redact_cons]
    cases hkey : isSensitive key with
    | true =>
      rw [shownLists_cons_of_sensitive hkey, shownLists_cons_of_sensitive hkey,
        shownLists_redact rest]
    | false =>
      rw [shownLists_cons_of_not_sensitive hkey, shownLists_cons_of_not_sensitive hkey,
        shown_of_not_sensitive hkey, listsOf_redactValue value, shownLists_redact rest]

end

namespace SameButNestedSecrets

/-! ### Two values -/

theorem length_listsOf {value other : Json} (h : SameButNestedSecrets value other) :
    (listsOf value).length = (listsOf other).length := by
  induction h with
  | same => rfl
  | item => rfl
  | secret hkey _ ih =>
    simpa only [listsOf_object, shownLists_cons_of_sensitive hkey] using ih
  | @field key _ _ _ _ _ _ ihvalue ihrest =>
    rw [listsOf_object, listsOf_object] at ihrest ⊢
    cases hkey : isSensitive key with
    | true => rw [shownLists_cons_of_sensitive hkey, shownLists_cons_of_sensitive hkey, ihrest]
    | false =>
      rw [shownLists_cons_of_not_sensitive hkey, shownLists_cons_of_not_sensitive hkey,
        List.length_append, List.length_append, ihvalue, ihrest]

/-- Redaction makes two such values the same exactly if it meets the same lists. -/
theorem redactValue_eq_iff {value other : Json} (h : SameButNestedSecrets value other) :
    redactValue value = redactValue other ↔ listsOf value = listsOf other := by
  induction h with
  | same value => exact iff_of_true rfl rfl
  | item => simp only [redactValue, listsOf, Json.list.injEq, List.cons.injEq, and_true]
  | secret hkey _ ih =>
    simp only [redactValue_object, listsOf_object, Json.object.injEq] at ih ⊢
    rw [redact_cons_eq_iff, shownLists_cons_of_sensitive hkey, shownLists_cons_of_sensitive hkey,
      ← ih, shown_of_sensitive hkey, shown_of_sensitive hkey, and_iff_right rfl]
  | @field key _ _ _ _ hvalue _ ihvalue ihrest =>
    simp only [redactValue_object, listsOf_object, Json.object.injEq] at ihrest ⊢
    rw [redact_cons_eq_iff]
    cases hkey : isSensitive key with
    | true =>
      rw [shownLists_cons_of_sensitive hkey, shownLists_cons_of_sensitive hkey, ← ihrest,
        shown_of_sensitive hkey, shown_of_sensitive hkey, and_iff_right rfl]
    | false =>
      rw [shownLists_cons_of_not_sensitive hkey, shownLists_cons_of_not_sensitive hkey,
        List.append_eq_append_iff_of_size_eq_left hvalue.length_listsOf, ← ihvalue, ← ihrest,
        shown_of_not_sensitive hkey, shown_of_not_sensitive hkey]

/-- Redaction makes two such records the same exactly if it meets the same lists. -/
theorem redact_eq_iff {fields other : Fields}
    (h : SameButNestedSecrets (.object fields) (.object other)) :
    redact fields = redact other ↔ shownLists fields = shownLists other := by
  have hvalue := h.redactValue_eq_iff
  rwa [redactValue_object, redactValue_object, Json.object.injEq, listsOf_object,
    listsOf_object] at hvalue

/-! ### Set fields -/

theorem cons {key : Text} {value other : Json} {rest rest' : Fields}
    (hvalue : isSensitive key = true ∨ SameButNestedSecrets value other)
    (hrest : SameButNestedSecrets (.object rest) (.object rest')) :
    SameButNestedSecrets (.object ((key, value) :: rest)) (.object ((key, other) :: rest')) :=
  hvalue.elim (fun hkey => .secret hkey hrest) fun hvalue => .field hvalue hrest

theorem map_fst_eq : {fields other : Fields} →
    SameButNestedSecrets (.object fields) (.object other) →
      fields.map (·.1) = other.map (·.1)
  | _, _, .same _ => rfl
  | _, _, .secret _ hrest => congrArg (_ :: ·) hrest.map_fst_eq
  | _, _, .field _ hrest => congrArg (_ :: ·) hrest.map_fst_eq

theorem put {key : Text} {value other : Json}
    (hvalue : isSensitive key = true ∨ SameButNestedSecrets value other) :
    {fields fields' : Fields} → SameButNestedSecrets (.object fields) (.object fields') →
      SameButNestedSecrets (.object (fields.put key value)) (.object (fields'.put key other))
  | [], _, .same _ => cons hvalue (.same _)
  | (name, old) :: rest, _, .same _ => by
    rw [Fields.put, Fields.put]
    split_ifs
    · exact cons hvalue (.same _)
    · exact .field (.same _) (put hvalue (.same _))
  | _, _, .secret hkey hrest => by
    rw [Fields.put, Fields.put]
    split_ifs
    · exact cons hvalue hrest
    · exact .secret hkey (put hvalue hrest)
  | _, _, .field hold hrest => by
    rw [Fields.put, Fields.put]
    split_ifs
    · exact cons hvalue hrest
    · exact .field hold (put hvalue hrest)

theorem putAll {fields fields' : Fields}
    (h : SameButNestedSecrets (.object fields) (.object fields')) :
    {new new' : Fields} → SameButNestedSecrets (.object new) (.object new') →
      SameButNestedSecrets (.object (fields.putAll new)) (.object (fields'.putAll new'))
  | [], _, .same _ => h
  | _ :: _, _, .same _ => putAll (put (.inr (.same _)) h) (.same _)
  | _, _, .secret hkey hrest => putAll (put (.inl hkey) h) hrest
  | _, _, .field hvalue hrest => putAll (put (.inr hvalue) h) hrest

/-- Calls whose fields differ in nested secrets only are assembled to such records. -/
theorem assembled {bound bound' fields fields' : Fields}
    (hbound : SameButNestedSecrets (.object bound) (.object bound'))
    (hfields : SameButNestedSecrets (.object fields) (.object fields')) (logger : Text)
    (level : Level) (name time : Text) :
    SameButNestedSecrets (.object ((call logger level name bound fields).assembled time))
      (.object ((call logger level name bound' fields').assembled time)) := by
  have hgiven := putAll (putAll (.same (.object [])) hbound) hfields
  exact put (.inr (.same _)) (put (.inr (.same _)) (put (.inr (.same _))
    (put (.inr (.same _)) hgiven)))

theorem given {fields other : Fields}
    (h : SameButNestedSecrets (.object fields) (.object other)) (hgiven : Given fields) :
    Given other := by
  obtain ⟨hnodup, hfree⟩ := hgiven
  rw [h.map_fst_eq] at hnodup hfree
  exact ⟨hnodup, hfree⟩

end SameButNestedSecrets

/-! ### Lines -/

/-- The line of an event says what its record is. -/
theorem line_eq_line_iff {e e' : Event} (time : Text) :
    e.line time = e'.line time ↔ e.record time = e'.record time := by
  refine ⟨fun h => ?_, fun h => by rw [Event.line, Event.line, h]⟩
  have hread := congrArg Json.read h
  rw [Event.line, Event.line, Json.read_write, Json.read_write] at hread
  exact Json.object.inj (Option.some.inj hread)

/-- **A secret is shown exactly if it is inside a list.** Redaction shows every list that it meets,
and it makes two records that differ in nested secrets only the same exactly if it meets the same
lists in both. Calls whose bound fields and whose own fields differ in nested secrets only write
the same lines, unless they reach the threshold and are assembled to records with different
lists. -/
theorem redact_eq_iff_shownLists_eq {fields other : Fields}
    (h : SameButNestedSecrets (.object fields) (.object other)) :
    shownLists (redact fields) = shownLists fields ∧
      (redact fields = redact other ↔ shownLists fields = shownLists other) ∧
      ∀ bound bound', SameButNestedSecrets (.object bound) (.object bound') → Given bound →
        Given fields → ∀ (c : Configuration) (time logger : Text) (level : Level) (name : Text),
          let e := call logger level name bound fields
          let e' := call logger level name bound' other
          c.lines time [e] = c.lines time [e'] ↔
            ¬(c.threshold ≤ level.rank ∧
              shownLists (e.assembled time) ≠ shownLists (e'.assembled time)) := by
  refine ⟨shownLists_redact fields, h.redact_eq_iff,
    fun bound bound' hbound hgivenBound hgiven c time logger level name => ?_⟩
  intro e e'
  rcases Nat.lt_or_ge level.rank c.threshold with hbelow | hreach
  · rw [c.lines_of_lt time hbelow, c.lines_of_lt time hbelow]
    exact iff_of_true rfl fun hshown => Nat.not_le.2 hbelow hshown.1
  · have hlists := (hbound.assembled h logger level name time).redact_eq_iff
    rw [c.lines_of_le time hreach, c.lines_of_le time hreach, List.singleton_inj,
      line_eq_line_iff, record_eq_redact hgivenBound hgiven,
      record_eq_redact (hbound.given hgivenBound) (h.given hgiven), hlists, and_iff_right hreach,
      not_ne_iff]

/-- Passwords in an object inside an object, and in a bound object, beside a list of options. -/
theorem redact_eq_iff_shownLists_eq_objects :
    let bound : Text → Fields := fun secret =>
      [("auth".toList, .object [("api_key".toList, .text secret)])]
    let fields : Text → Fields := fun secret =>
      [("options".toList, .list [.integer 1, .text "wal".toList]),
        ("user".toList, .object [("name".toList, .text "roads".toList),
          ("login".toList, .object [("password".toList, .list [.text secret])])])]
    let e : Text → Event := fun secret =>
      call "app".toList .info "open".toList (bound secret) (fields secret)
    redact (fields "a".toList) = redact (fields "b".toList) ∧
      (Configuration.mk 20 none).lines "now".toList [e "a".toList] =
        (Configuration.mk 20 none).lines "now".toList [e "b".toList] := by
  intro bound fields e
  have hbound : SameButNestedSecrets (.object (bound "a".toList)) (.object (bound "b".toList)) :=
    .field (.secret (by decide) (.same _)) (.same _)
  have hfields :
      SameButNestedSecrets (.object (fields "a".toList)) (.object (fields "b".toList)) :=
    .field (.same _) (.field (.field (.same _) (.field (.secret (by decide) (.same _)) (.same _)))
      (.same _))
  obtain ⟨-, hredact, hlines⟩ := redact_eq_iff_shownLists_eq hfields
  refine ⟨hredact.2 rfl, ?_⟩
  refine (hlines _ _ hbound ⟨by decide, by decide⟩ ⟨by decide, by decide⟩ _ _ _ _ _).2 ?_
  exact fun hshown => hshown.2 rfl

/-- Passwords in the items of a list are shown. -/
theorem redact_ne_of_listed_password :
    let event : Text → Fields := fun secret =>
      [("parameters".toList, .list [.object [("password".toList, .text secret)]])]
    let e : Text → Event := fun secret => call "app".toList .info "open".toList [] (event secret)
    SameButNestedSecrets (.object (event "a".toList)) (.object (event "b".toList)) ∧
      redact (event "a".toList) ≠ redact (event "b".toList) ∧
      redact (event "a".toList) = event "a".toList ∧
      (Configuration.mk 20 none).lines "now".toList [e "a".toList] ≠
        (Configuration.mk 20 none).lines "now".toList [e "b".toList] := by
  intro event e
  have hsame : SameButNestedSecrets (.object (event "a".toList)) (.object (event "b".toList)) :=
    .field (.item (.secret (by decide) (.same _)) (.same _)) (.same _)
  have hkept (secret : Text) : redact (event secret) = event secret := rfl
  have hne : redact (event "a".toList) ≠ redact (event "b".toList) := by
    rw [hkept, hkept]
    simp [event]
  refine ⟨hsame, hne, hkept _, ?_⟩
  decide +kernel

end SqliteAccess.Log
