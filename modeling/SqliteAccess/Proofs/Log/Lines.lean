import SqliteAccess.Log.Configuration
import SqliteAccess.Proofs.Json.Reading
import SqliteAccess.Proofs.Log.Redaction

/-!
# What a log line says

A call either reaches the threshold and writes one line, or it writes nothing. The line is plain
text, so that nothing inside it ends it, and it is read back as an object. This object is the
redacted whole of a call: the fields that the log adds have the values of the call, whatever the
fields given under their names say, and every other field has its value of the call, or else the
bound one.

Redaction commutes with setting fields. So calls whose fields differ in secrets only write the same
lines.

## Main definitions

* `Log.Given` : fields that a call or a logger is given.
* `Log.call` : the event of a call.
* `Log.IsWhole` : all fields of a call.

## Main results

* `Fields.get?_putAll` : of two values under a name the later one counts.
* `Log.redact_putAll` : redaction commutes with setting fields.
* `Log.isWhole_assembled` : an event is assembled to the whole of the call.
* `Log.Configuration.lines_call` : what the line of a call says.
-/

namespace SqliteAccess

namespace Fields

variable {fields new : Fields} {key name : Text} {value : Json}

theorem mem_keys_put :
    name ∈ (put key value fields).map (·.1) ↔ name = key ∨ name ∈ fields.map (·.1) := by
  induction fields with
  | nil => simp [put]
  | cons f rest ih =>
    rw [put]
    split_ifs with hkey
    · simp [hkey]
    · rw [List.map_cons, List.mem_cons, ih, List.map_cons, List.mem_cons, or_left_comm]

theorem nodup_put (h : (fields.map (·.1)).Nodup) : ((put key value fields).map (·.1)).Nodup := by
  induction fields with
  | nil => simp [put]
  | cons f rest ih =>
    obtain ⟨hf, hrest⟩ := List.nodup_cons.1 h
    rw [put]
    split_ifs with hkey
    · exact List.nodup_cons.2 ⟨hkey ▸ hf, hrest⟩
    · refine List.nodup_cons.2 ⟨fun hmem => ?_, ih hrest⟩
      exact (mem_keys_put.1 hmem).elim hkey hf

theorem putAll_cons (f : Text × Json) :
    putAll fields (f :: new) = putAll (put f.1 f.2 fields) new := rfl

theorem mem_keys_putAll :
    name ∈ (putAll fields new).map (·.1) ↔
      name ∈ new.map (·.1) ∨ name ∈ fields.map (·.1) := by
  induction new generalizing fields with
  | nil => simp [putAll]
  | cons f new ih =>
    rw [putAll_cons, ih, mem_keys_put, List.map_cons, List.mem_cons, or_left_comm, or_assoc]

theorem nodup_putAll (h : (fields.map (·.1)).Nodup) :
    ((putAll fields new).map (·.1)).Nodup := by
  induction new generalizing fields with
  | nil => exact h
  | cons f new ih => exact ih (nodup_put h)

theorem get?_cons (f : Text × Json) :
    get? (f :: fields) name = if f.1 = name then some f.2 else fields.get? name := by
  by_cases h : f.1 = name <;> simp [get?, h]

theorem get?_eq_none (h : name ∉ fields.map (·.1)) : fields.get? name = none := by
  induction fields with
  | nil => rfl
  | cons f rest ih =>
    rw [List.map_cons, List.mem_cons, not_or] at h
    rw [get?_cons, if_neg (Ne.symm h.1), ih h.2]

/-- Of two values under a name the later one counts. -/
theorem get?_putAll (h : (new.map (·.1)).Nodup) :
    (putAll fields new).get? name = (new.get? name).or (fields.get? name) := by
  induction new generalizing fields with
  | nil => rfl
  | cons f new ih =>
    obtain ⟨hf, hnew⟩ := List.nodup_cons.1 h
    rw [putAll_cons, ih hnew, get?_cons]
    split_ifs with hname
    · subst hname
      rw [get?_eq_none hf, get?_put_self, Option.none_or, Option.some_or]
    · rw [get?_put_of_ne _ _ (Ne.symm hname)]

end Fields

namespace Log

/-! ### Redaction of set fields -/

theorem redact_put (key : Text) (value : Json) (fields : Fields) :
    redact (fields.put key value) = Fields.put key (shown key value) (redact fields) := by
  induction fields with
  | nil => rw [Fields.put, redact_cons, redact, Fields.put]
  | cons f rest ih =>
    rw [Fields.put, redact_cons, Fields.put]
    split_ifs with hkey
    · rw [redact_cons]
    · rw [redact_cons, ih]

/-- Redaction commutes with setting fields. -/
theorem redact_putAll (fields new : Fields) :
    redact (fields.putAll new) = Fields.putAll (redact fields) (redact new) := by
  induction new generalizing fields with
  | nil => rw [redact]; rfl
  | cons f new ih => rw [Fields.putAll_cons, ih, redact_put, redact_cons, Fields.putAll_cons]

theorem get?_redact (fields : Fields) (key : Text) :
    Fields.get? (redact fields) key = (fields.get? key).map (shown key) := by
  induction fields with
  | nil => rw [redact]; rfl
  | cons f rest ih =>
    rw [redact_cons, Fields.get?_cons, Fields.get?_cons]
    split_ifs with hkey
    · rw [Option.map_some, hkey]
    · exact ih

/-! ### The whole of a call -/

/-- Fields that a call or a logger is given: no name is given twice, and none of those that hold a
trace. -/
structure Given (fields : Fields) : Prop where
  nodup : (fields.map (·.1)).Nodup
  free : ∀ key ∈ Event.traceFields, key ∉ fields.map (·.1)

/-- The event of a call with some fields, by a logger with bound fields. -/
def call (logger : Text) (level : Level) (name : Text) (bound fields : Fields) : Event :=
  ⟨level, name, loggerName logger, bound, fields⟩

/-- The names of the fields that the log adds to those of a call. -/
def addedFields : List Text :=
  ["event".toList, "level".toList, "logger".toList, "timestamp".toList]

/-- All fields of an event, each name once. The added fields have the values of the event, and the
others are those of the call and those of the logger, of which the former go first. -/
structure IsWhole (e : Event) (time : Text) (whole : Fields) : Prop where
  nodup : (whole.map (·.1)).Nodup
  event : whole.get? "event".toList = some (.text e.name)
  level : whole.get? "level".toList = some (.text e.level.name)
  logger : whole.get? "logger".toList = some (.text e.logger)
  timestamp : whole.get? "timestamp".toList = some (.text time)
  other : ∀ key ∉ addedFields, whole.get? key = (e.fields.get? key).or (e.bound.get? key)

/-- An event is assembled to its whole. -/
theorem isWhole_assembled {e : Event} (hbound : Given e.bound) (hfields : Given e.fields)
    (time : Text) : IsWhole e time (e.assembled time) where
  nodup := Fields.nodup_put (Fields.nodup_put (Fields.nodup_put (Fields.nodup_put
    (Fields.nodup_putAll (Fields.nodup_putAll List.nodup_nil)))))
  event := by
    rw [Event.assembled, Fields.get?_put_of_ne _ _ (by decide),
      Fields.get?_put_of_ne _ _ (by decide), Fields.get?_put_of_ne _ _ (by decide),
      Fields.get?_put_self]
  level := by
    rw [Event.assembled, Fields.get?_put_of_ne _ _ (by decide),
      Fields.get?_put_of_ne _ _ (by decide), Fields.get?_put_self]
  logger := by rw [Event.assembled, Fields.get?_put_of_ne _ _ (by decide), Fields.get?_put_self]
  timestamp := Fields.get?_put_self _ _ _
  other key hkey := by
    simp only [addedFields, List.mem_cons, List.not_mem_nil, or_false, not_or] at hkey
    obtain ⟨hevent, hlevel, hlogger, htimestamp⟩ := hkey
    rw [Event.assembled, Fields.get?_put_of_ne _ _ htimestamp, Fields.get?_put_of_ne _ _ hlogger,
      Fields.get?_put_of_ne _ _ hlevel, Fields.get?_put_of_ne _ _ hevent,
      Fields.get?_putAll hfields.nodup, Fields.get?_putAll hbound.nodup]
    exact congrArg _ (Option.or_none)

theorem mem_keys_assembled {e : Event} {time key : Text}
    (h : key ∈ (e.assembled time).map (·.1)) :
    key ∈ addedFields ∨ key ∈ e.fields.map (·.1) ∨ key ∈ e.bound.map (·.1) := by
  simp only [Event.assembled, Fields.mem_keys_put, Fields.mem_keys_putAll, List.map_nil,
    List.not_mem_nil, or_false] at h
  rcases h with rfl | rfl | rfl | rfl | h
  · exact .inl (by decide)
  · exact .inl (by decide)
  · exact .inl (by decide)
  · exact .inl (by decide)
  · exact .inr h

/-- The line of an event with given fields holds its whole, redacted. -/
theorem record_eq_redact {e : Event} (hbound : Given e.bound) (hfields : Given e.fields)
    (time : Text) : e.record time = redact (e.assembled time) := by
  refine List.filter_eq_self.2 fun f hf => ?_
  have hkey : f.1 ∈ (e.assembled time).map (·.1) :=
    map_fst_redact (e.assembled time) ▸ List.mem_map_of_mem hf
  have hadded : ∀ key ∈ Event.traceFields, key ∉ addedFields := by decide
  rw [Bool.not_eq_true', List.contains_eq_mem, decide_eq_false_iff_not]
  intro htrace
  rcases mem_keys_assembled hkey with hin | hin | hin
  · exact hadded f.1 htrace hin
  · exact hfields.free f.1 htrace hin
  · exact hbound.free f.1 htrace hin

/-- Redaction leaves the added fields as they are. -/
theorem IsWhole.get?_redact {e : Event} {time : Text} {whole : Fields} (h : IsWhole e time whole)
    {key : Text} (hkey : key ∈ addedFields) : Fields.get? (redact whole) key = whole.get? key := by
  have hplain : ∀ key ∈ addedFields, isSensitive key = false := by decide
  have htext (t : Text) : shown key (.text t) = .text t :=
    shown_of_not_sensitive (hplain key hkey) (.text t)
  rw [Log.get?_redact]
  simp only [addedFields, List.mem_cons, List.not_mem_nil, or_false] at hkey
  rcases hkey with rfl | rfl | rfl | rfl
  · rw [h.event, Option.map_some, htext]
  · rw [h.level, Option.map_some, htext]
  · rw [h.logger, Option.map_some, htext]
  · rw [h.timestamp, Option.map_some, htext]

/-- Calls whose fields differ in secrets only write the same line. -/
theorem line_call_congr (logger : Text) (level : Level) (name : Text)
    {bound bound' fields fields' : Fields} (hbound : SameButSecrets bound bound')
    (hfields : SameButSecrets fields fields') (time : Text) :
    (call logger level name bound' fields').line time =
      (call logger level name bound fields).line time := by
  simp only [Event.line, Event.record, Event.assembled, call, redact_put, redact_putAll,
    hbound.redact_eq, hfields.redact_eq]

/-! ### The lines of a call -/

namespace Configuration

variable (c : Configuration) (time : Text) {e : Event}

theorem lines_of_lt (h : e.level.rank < c.threshold) : c.lines time [e] = [] := by
  rw [lines, written, List.filter_cons_of_neg (by simpa using h), List.filter_nil, List.map_nil]

theorem lines_of_le (h : c.threshold ≤ e.level.rank) : c.lines time [e] = [e.line time] := by
  rw [lines, written, List.filter_cons_of_pos (by simpa using h), List.filter_nil,
    List.map_singleton]

/-- **A log line says what was called, and nothing that was withheld.** Below the threshold a call
writes nothing, and otherwise one plain line. The line is read as the redacted whole of the call, in
which the added fields are those of the call. Calls whose fields differ in secrets only write the
same lines. -/
theorem lines_call (logger : Text) (level : Level) (name : Text) {bound fields : Fields}
    (hbound : Given bound) (hfields : Given fields) :
    (level.rank < c.threshold → c.lines time [call logger level name bound fields] = []) ∧
      (c.threshold ≤ level.rank → ∃ (line : Text) (whole : Fields),
        c.lines time [call logger level name bound fields] = [line] ∧ Json.IsPlain line ∧
          Json.read line = some (.object (redact whole)) ∧
          IsWhole (call logger level name bound fields) time whole ∧
          ∀ key ∈ addedFields, Fields.get? (redact whole) key = whole.get? key) ∧
      ∀ bound' fields', SameButSecrets bound bound' → SameButSecrets fields fields' →
        c.lines time [call logger level name bound' fields'] =
          c.lines time [call logger level name bound fields] := by
  refine ⟨fun hbelow => c.lines_of_lt time hbelow, fun hreach => ?_,
    fun bound' fields' hbound' hfields' => ?_⟩
  · have hwhole := isWhole_assembled (e := call logger level name bound fields) hbound hfields time
    refine ⟨_, _, c.lines_of_le time hreach, Json.isPlain_write _, ?_, hwhole, ?_⟩
    · rw [Event.line, Json.read_write, record_eq_redact hbound hfields]
    · exact fun key hkey => hwhole.get?_redact hkey
  · have hline := line_call_congr logger level name hbound' hfields' time
    rcases Nat.lt_or_ge level.rank c.threshold with hbelow | hreach
    · rw [c.lines_of_lt time hbelow, c.lines_of_lt time hbelow]
    · rw [c.lines_of_le time hreach, c.lines_of_le time hreach, hline]

/-- A call that asks for another level, and that sets a bound field again. -/
theorem lines_call_overriding :
    ∃ (line : Text) (whole : Fields),
      (Configuration.mk 20 none).lines "now".toList
          [call "app".toList .info "sql\n".toList
            [("layer".toList, .text "roads".toList), ("token".toList, .integer 7)]
            [("level".toList, .text "critical".toList), ("layer".toList, .text "😀\"".toList)]] =
        [line] ∧ Json.IsPlain line ∧ Json.read line = some (.object (redact whole)) ∧
      Fields.get? (redact whole) "event".toList = some (.text "sql\n".toList) ∧
      Fields.get? (redact whole) "level".toList = some (.text "info".toList) ∧
      Fields.get? (redact whole) "layer".toList = some (.text "😀\"".toList) ∧
      Fields.get? (redact whole) "token".toList = some withheld := by
  have hbound : Given [("layer".toList, .text "roads".toList), ("token".toList, .integer 7)] :=
    ⟨by decide, by decide⟩
  have hfields : Given
      [("level".toList, .text "critical".toList), ("layer".toList, .text "😀\"".toList)] :=
    ⟨by decide, by decide⟩
  obtain ⟨-, hreach, -⟩ := lines_call (Configuration.mk 20 none) "now".toList "app".toList .info
    "sql\n".toList hbound hfields
  obtain ⟨line, whole, hlines, hplain, hread, hwhole, hadded⟩ := hreach (by decide)
  refine ⟨line, whole, hlines, hplain, hread, ?_, ?_, ?_, ?_⟩
  · rw [hadded _ (by decide), hwhole.event]
    rfl
  · rw [hadded _ (by decide), hwhole.level]
    rfl
  · rw [get?_redact, hwhole.other _ (by decide)]
    rfl
  · rw [get?_redact, hwhole.other _ (by decide)]
    rfl

/-- The line of a call without a name for its logger. -/
example :
    (call [] .info "a\n".toList [] [("token".toList, .integer 7)]).line "now".toList =
      ("\x7b\"token\": \"[REDACTED]\", \"event\": \"a\\n\", \"level\": \"info\", " ++
        "\"logger\": \"root\", \"timestamp\": \"now\"\x7d").toList := by
  decide +kernel

end Configuration

end Log

end SqliteAccess
