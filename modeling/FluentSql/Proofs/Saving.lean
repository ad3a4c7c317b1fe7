import FluentSql.Proofs.InsertedRows
import FluentSql.Proofs.OrderedMaps
import FluentSql.Proofs.RelatedRows
/-!
# `FluentSql.Proofs.Saving` — a value and its row

Saving a value writes its row, and reading the row again puts a fresh value in the place of the old one.
The value is state that outlives an error, so saving and refreshing are written once more as methods of
a value that is held (`Model.saving`, `Model.refreshing`): what they leave behind is what `Model.save`
and `Model.refresh` answer, and the old value where these fail.

* `Model.updatedValue`, `Model.createdValue` — what is written into the columns of the row;
* `RecordedCall.StopAtFailure` — no call of the executor comes after one that failed;
* `Model.saves_row` — what saving runs, what it answers, and what it leaves behind.
-/

namespace FluentSql

variable {σ α β γ : Type}

/-! ## Methods of a value -/

/-- **A method of a value**: a computation in a session that holds the value, and may put another one
    in its place. It may fail, and keeps the session and the value when it does. -/
abbrev Method (σ α : Type) := ExceptT Error (StateM (α × Session σ))

namespace Method

/-- **What a method comes to**: its answer, the value held after it and the session after it. -/
def outcome (x : Method σ α β) (a : α) (session : Session σ) : Except Error β × α × Session σ :=
  x.run.run (a, session)

/-- The value held. -/
def self : Method σ α α := do
  return (← get).1

/-- Another value put in its place. -/
def assign (a : α) : Method σ α Unit := modify fun s => (a, s.2)

/-- A computation in the session, which does not see the value. -/
def ofRun (x : Run σ β) : Method σ α β := fun s =>
  let (answer, session) := x.run.run s.2
  (answer, s.1, session)

/-- **One step after the other**; an error ends the method and keeps the value. -/
theorem outcome_bind (x : Method σ α β) (f : β → Method σ α γ) (a : α) (session : Session σ) :
    (x >>= f).outcome a session =
      match x.outcome a session with
      | (.ok b, a', after) => (f b).outcome a' after
      | (.error error, a', after) => (.error error, a', after) := by
  rw [outcome, ExceptT.run_bind, StateT.run_bind, outcome]
  obtain ⟨answer, a', after⟩ := x.run.run (a, session)
  cases answer <;> rfl

theorem outcome_self (a : α) (session : Session σ) :
    (self : Method σ α α).outcome a session = (.ok a, a, session) := rfl

theorem outcome_ofRun (x : Run σ β) (a : α) (session : Session σ) :
    (ofRun x : Method σ α β).outcome a session =
      ((x.outcome session).1, a, (x.outcome session).2) := rfl

/-- **What is left of a run that answers with a value**: this value, or the old one after an error. -/
def kept (a : α) : Except Error (β × α) × Session σ → Except Error β × α × Session σ
  | (.ok (b, a'), after) => (.ok b, a', after)
  | (.error error, after) => (.error error, a, after)

theorem kept_session {a b : α} {x : Except Error (β × α) × Session σ} {answer : Except Error β}
    {after : Session σ} (h : kept a x = (answer, b, after)) : x.2 = after := by
  obtain ⟨result, after'⟩ := x
  cases result with
  | ok result =>
    cases h
    rfl
  | error error =>
    cases h
    rfl

theorem kept_of_error {a b : α} {x : Except Error (β × α) × Session σ} {after : Session σ}
    {error : Error} (h : kept a x = (.error error, b, after)) : b = a := by
  obtain ⟨result, after'⟩ := x
  cases result with
  | ok result => cases h
  | error error' =>
    cases h
    rfl

end Method

namespace Model

/-- **Saving**, as a method: the key is taken over in place. -/
def saving (m : Model α) (c : Connection σ) : Method σ α Bool := do
  let data := (m.attributes (← Method.self)).erase m.primaryKey
  match m.id? (← Method.self) with
  | some id =>
    let affected ← Method.ofRun ((m.ownRow id).update c data)
    return affected > 0
  | none =>
    match ← Method.ofRun (m.create c data) with
    | some id =>
      Method.assign (m.setId (← Method.self) id)
      return true
    | none => return true

/-- **Refreshing**, as a method: the fresh value is put in the place of the old one. -/
def refreshing (m : Model α) (c : Connection σ) : Method σ α Bool := do
  match m.id? (← Method.self) with
  | none => return false
  | some id =>
    match ← Method.ofRun (m.first c (m.ownRow id)) with
    | some fresh =>
      Method.assign fresh
      return true
    | none => return false

/-- **Saving leaves behind** what `Model.save` answers, and the value itself after an error. -/
theorem outcome_saving (m : Model α) (c : Connection σ) (a : α) (session : Session σ) :
    (m.saving c).outcome a session = Method.kept a ((m.save c a).outcome session) := by
  unfold saving save
  rw [Method.outcome_bind, Method.outcome_self]
  dsimp only
  rw [Method.outcome_bind, Method.outcome_self]
  dsimp only
  cases m.id? a with
  | some id =>
    dsimp only
    rw [Method.outcome_bind, Method.outcome_ofRun, Run.outcome_bind]
    obtain ⟨answer, after⟩ := ((m.ownRow id).update c _).outcome session
    cases answer <;> rfl
  | none =>
    dsimp only
    rw [Method.outcome_bind, Method.outcome_ofRun, Run.outcome_bind]
    obtain ⟨answer, after⟩ := (m.create c _).outcome session
    cases answer with
    | error error => rfl
    | ok key => cases key <;> rfl

theorem outcome_refreshing (m : Model α) (c : Connection σ) (a : α) (session : Session σ) :
    (m.refreshing c).outcome a session = Method.kept a ((m.refresh c a).outcome session) := by
  unfold refreshing refresh
  rw [Method.outcome_bind, Method.outcome_self]
  dsimp only
  cases m.id? a with
  | none => rfl
  | some id =>
    dsimp only
    rw [Method.outcome_bind, Method.outcome_ofRun, Run.outcome_bind]
    obtain ⟨answer, after⟩ := (m.first c (m.ownRow id)).outcome session
    cases answer with
    | error error => rfl
    | ok found => cases found <;> rfl

end Model

/-! ## What is written -/

/-- **A payload holds** these columns in this order, with these values, and nothing else. -/
structure Payload.Holds (data : Payload) (columns : List String) (value : String → Option Value) :
    Prop where
  keys : data.keys = columns
  values : ∀ column ∈ columns, data.get? column = value column

/-- A column among others, or at their end. -/
def withColumn (columns : List String) (column : String) : List String :=
  if column ∈ columns then columns else columns ++ [column]

/-- One more value; it replaces that of its column. -/
theorem Payload.Holds.insert {data : Payload} {columns : List String}
    {value : String → Option Value} (h : Payload.Holds data columns value) (column : String)
    (v : Value) : Payload.Holds (OrderedMap.insert data column v) (withColumn columns column)
      fun other => if other = column then some v else value other := by
  constructor
  · rw [OrderedMap.keys_insert, h.keys]
    rfl
  · intro other hother
    rw [OrderedMap.get?_insert]
    by_cases heq : other = column
    · rw [if_pos heq.symm, if_pos heq]
    · rw [if_neg (Ne.symm heq), if_neg heq]
      apply h.values
      unfold withColumn at hother
      split at hother
      · exact hother
      · rcases List.mem_append.mp hother with hmem | hmem
        · exact hmem
        · exact absurd (List.mem_singleton.mp hmem) heq

theorem Payload.Holds.congr {data : Payload} {columns : List String}
    {value value' : String → Option Value} (h : Payload.Holds data columns value)
    (heq : ∀ column ∈ columns, value column = value' column) : Payload.Holds data columns value' := by
  constructor
  · exact h.keys
  · intro column hcolumn
    rw [h.values column hcolumn, heq column hcolumn]

/-- **An update is accepted** if nothing was misused before, and it sets something, in columns that all
    have names. -/
theorem Update.misuse?_eq_none_iff {q : Update} :
    q.misuse? = none ↔
      (q.misuse = none ∧ q.wheres.misuse = none ∧ q.joins.misuse = none) ∧
        q.data.keys ≠ [] ∧ ∀ column ∈ q.data.keys, Text.isBlankText column = false := by
  have hempty : (if q.data.isEmpty then some Misuse.nothingToSet else none) = none ↔
      q.data.keys ≠ [] := by
    have hkeys : q.data.isEmpty = true ↔ q.data.keys = [] := by
      rw [OrderedMap.isEmpty, List.isEmpty_iff]
      exact List.map_eq_nil_iff.symm
    rw [Ne, ← hkeys]
    cases q.data.isEmpty <;> simp
  unfold misuse?
  simp only [Option.or_eq_none_iff]
  rw [hempty, Payload.misuse?_eq_none_iff]
  constructor
  · rintro ⟨hown, hwheres, hjoins, hnamed, hsome⟩
    exact ⟨⟨hown, hwheres, hjoins⟩, hsome, hnamed⟩
  · rintro ⟨⟨hown, hwheres, hjoins⟩, hsome, hnamed⟩
    exact ⟨hown, hwheres, hjoins, hnamed, hsome⟩

/-- **An insertion of one row is accepted** if nothing was misused before, and all its columns have
    names. -/
theorem Insert.misuse?_eq_none_iff_of_row {q : Insert} {row : Payload} (hrows : q.rows = [row]) :
    q.misuse? = none ↔
      q.misuse = none ∧ ∀ column ∈ row.keys, Text.isBlankText column = false := by
  have hmixed : q.isMixed = false := by
    rw [isMixed, hrows]
    cases h : row.isEmpty <;> simp [h]
  rw [misuse?_eq_none_iff, hrows]
  simp [hmixed]

theorem Update.target_empty (table : String) :
    ({} : Update).target table = { table := table } := by
  unfold target
  rw [retarget_new]

theorem Insert.target_empty (table : String) :
    ({} : Insert).target table = { table := table } := by
  unfold target
  rw [retarget_new]

namespace Model

variable (m : Model α) (now : DateTime) (a : α)

/-- The columns of a value that are written: all but the primary key, in their order. -/
def ownColumns : List String := (m.attributes a).keys.filter (· ≠ m.primaryKey)

/-- **The columns that an update of a value sets.** -/
def updatedColumns : List String :=
  if m.timestamps then withColumn (m.ownColumns a) Schema.updatedAt else m.ownColumns a

/-- **What an update sets a column to**: what the value says, but it is changed now. -/
def updatedValue (column : String) : Option Value :=
  if m.timestamps = true ∧ column = Schema.updatedAt then some (.ofDateTime now)
  else (m.attributes a).get? column

/-- Whether a value does not say when it was created. -/
def isUndated : Bool := (((m.attributes a).get? Schema.createdAt).getD .null).isNull

/-- **The columns that an insertion of a value writes.** -/
def createdColumns : List String :=
  if m.timestamps then
    withColumn (withColumn (m.ownColumns a) Schema.createdAt) Schema.updatedAt
  else m.ownColumns a

/-- **What an insertion writes into a column**: what the value says, but it is changed now, and created
    now unless it says when it was. -/
def createdValue (column : String) : Option Value :=
  if m.timestamps = true ∧
      (column = Schema.updatedAt ∨ column = Schema.createdAt ∧ m.isUndated a = true) then
    some (.ofDateTime now)
  else (m.attributes a).get? column

variable {m a}

theorem holds_own (h : (m.attributes a).keys.Nodup) :
    Payload.Holds ((m.attributes a).erase m.primaryKey) (m.ownColumns a) (m.attributes a).get? := by
  constructor
  · exact OrderedMap.keys_erase h m.primaryKey
  · intro column hcolumn
    have hne : column ≠ m.primaryKey := by simpa using (List.mem_filter.mp hcolumn).2
    rw [OrderedMap.get?_erase h, if_neg hne.symm]

/-- **A touched row** holds what an update sets. -/
theorem holds_touch (h : (m.attributes a).keys.Nodup) :
    Payload.Holds (m.touch now ((m.attributes a).erase m.primaryKey)) (m.updatedColumns a)
      (m.updatedValue now a) := by
  unfold Schema.touch updatedColumns
  cases htime : m.timestamps with
  | false =>
    refine (holds_own h).congr fun column _ => ?_
    simp [updatedValue, htime]
  | true =>
    refine ((holds_own h).insert Schema.updatedAt _).congr fun column _ => ?_
    simp [updatedValue, htime]

/-- Without a key, what the primary key says is nothing. -/
theorem isUndated_of_primaryKey (hid : m.id? a = none) (hkey : m.primaryKey = Schema.createdAt) :
    m.isUndated a = true := by
  unfold id? at hid
  rw [hkey] at hid
  unfold isUndated
  cases hget : (m.attributes a).get? Schema.createdAt with
  | none => rfl
  | some v =>
    rw [hget] at hid
    cases hnull : v.isNull with
    | true => exact hnull
    | false => simp [hnull] at hid

/-- The row without its key says when it was created if the value does. -/
theorem isNull_createdAt_own (h : (m.attributes a).keys.Nodup) (hid : m.id? a = none) :
    ((((m.attributes a).erase m.primaryKey).get? Schema.createdAt).getD .null).isNull =
      m.isUndated a := by
  rw [OrderedMap.get?_erase h]
  split
  · rename_i hkey
    rw [isUndated_of_primaryKey hid hkey]
    rfl
  · rfl

/-- A value that says when it was created has a column for it. -/
theorem createdAt_mem_ownColumns (hid : m.id? a = none) (h : m.isUndated a = false) :
    Schema.createdAt ∈ m.ownColumns a := by
  have hkey : Schema.createdAt ≠ m.primaryKey := by
    intro hkey
    rw [isUndated_of_primaryKey hid hkey.symm] at h
    cases h
  have hmem : Schema.createdAt ∈ (m.attributes a).keys := by
    rw [← OrderedMap.contains_iff_mem_keys, OrderedMap.contains]
    unfold isUndated at h
    cases hget : (m.attributes a).get? Schema.createdAt with
    | none =>
      rw [hget] at h
      cases h
    | some v => rfl
  exact List.mem_filter.mpr ⟨hmem, decide_eq_true hkey⟩

/-- **A stamped row** holds what an insertion writes. -/
theorem holds_stamp (h : (m.attributes a).keys.Nodup) (hid : m.id? a = none) :
    Payload.Holds (m.stamp now ((m.attributes a).erase m.primaryKey)) (m.createdColumns a)
      (m.createdValue now a) := by
  unfold Schema.stamp createdColumns
  cases htime : m.timestamps with
  | false =>
    refine (holds_own h).congr fun column _ => ?_
    simp [createdValue, htime]
  | true =>
    rw [if_pos rfl, if_pos rfl, isNull_createdAt_own h hid]
    cases hundated : m.isUndated a with
    | true =>
      refine (((holds_own h).insert Schema.createdAt _).insert Schema.updatedAt _).congr ?_
      intro column _
      simp only [createdValue, htime, hundated]
      by_cases hupdated : column = Schema.updatedAt
      · simp [hupdated]
      · by_cases hcreated : column = Schema.createdAt <;> simp [hupdated, hcreated]
    | false =>
      -- the value says when it was created, so the column is there already
      have hthere : withColumn (m.ownColumns a) Schema.createdAt = m.ownColumns a :=
        if_pos (createdAt_mem_ownColumns hid hundated)
      rw [hthere]
      refine ((holds_own h).insert Schema.updatedAt _).congr fun column _ => ?_
      simp [createdValue, htime, hundated]

/-! ## The statements -/

variable (m a)

/-- **The update that saves a value** under a key. -/
def savedUpdate (id : Value) : Update :=
  (m.ownRow id).touching now ((m.attributes a).erase m.primaryKey)

/-- **The insertion that saves a value.** -/
def savedInsert : Insert := m.inserting now ((m.attributes a).erase m.primaryKey)

/-- A value with the key that came back, if one did. -/
def keyed : Option Value → α
  | some id => m.setId a id
  | none => a

theorem isNull_of_id? {m : Model α} {a : α} {id : Value} (h : m.id? a = some id) :
    id.isNull = false := by
  unfold id? at h
  cases hget : (m.attributes a).get? m.primaryKey with
  | none =>
    rw [hget] at h
    cases h
  | some v =>
    rw [hget] at h
    cases hv : v.isNull with
    | true => simp [hv] at h
    | false =>
      simp only [hv] at h
      cases h
      exact hv

/-- **The row of a value** is found by its key alone, softly deleted or not. -/
theorem ownRow_eq (id : Value) :
    m.ownRow id =
      .withTest m.toSchema .included (.compare (.name m.primaryKey) .equal (.single id)) := by
  unfold ownRow query ModelQuery.ofSchema
  rw [Select.target_empty]
  rfl

theorem scopedWhere_ownRow (id : Value) :
    (m.ownRow id).scopedWhere =
      ⟨[⟨none, .compare (.name m.primaryKey) .equal (.single id)⟩], none⟩ := by
  rw [ownRow_eq]
  unfold ModelQuery.scopedWhere ModelQuery.trashFilter ModelQuery.withTest
  cases m.softDelete <;> rfl

variable {m a}

/-- **The update is as told**: the row of the key, and a touched row to set. -/
theorem savedUpdate_eq (h : (m.attributes a).keys.Nodup) (id : Value) :
    m.savedUpdate now a id =
      { table := m.table
        data := m.touch now ((m.attributes a).erase m.primaryKey)
        wheres := ⟨[⟨none, .compare (.name m.primaryKey) .equal (.single id)⟩], none⟩ } := by
  have hnodup : (m.touch now ((m.attributes a).erase m.primaryKey)).keys.Nodup := by
    unfold Schema.touch
    split
    · exact OrderedMap.nodup_keys_insert (OrderedMap.nodup_keys_erase h _) _ _
    · exact OrderedMap.nodup_keys_erase h _
  have hjoins : (m.ownRow id).select.joins = {} := by
    rw [ownRow_eq]
    rfl
  have hschema : (m.ownRow id).schema = m.toSchema := rfl
  unfold savedUpdate ModelQuery.touching ModelQuery.updating
  rw [scopedWhere_ownRow, hjoins, hschema, Update.target_empty]
  unfold Update.set
  rw [OrderedMap.insertAll_entries hnodup]

/-- The data of the update are the touched row. -/
theorem holds_savedUpdate (h : (m.attributes a).keys.Nodup) (id : Value) :
    Payload.Holds (m.savedUpdate now a id).data (m.updatedColumns a) (m.updatedValue now a) := by
  rw [savedUpdate_eq now h]
  exact holds_touch now h

/-- **The update is accepted** if it sets something, in columns that all have names. -/
theorem misuse?_savedUpdate_eq_none_iff (h : (m.attributes a).keys.Nodup) (id : Value) :
    (m.savedUpdate now a id).misuse? = none ↔
      m.updatedColumns a ≠ [] ∧
        ∀ column ∈ m.updatedColumns a, Text.isBlankText column = false := by
  have hown : (m.savedUpdate now a id).misuse = none ∧
      (m.savedUpdate now a id).wheres.misuse = none ∧
      (m.savedUpdate now a id).joins.misuse = none := by
    rw [savedUpdate_eq now h]
    exact ⟨rfl, rfl, rfl⟩
  rw [Update.misuse?_eq_none_iff, (holds_savedUpdate now h id).keys]
  exact and_iff_right hown

variable (m a)

/-- **The insertion is as told**: one stamped row. -/
theorem savedInsert_eq :
    m.savedInsert now a =
      { table := m.table, rows := [m.stamp now ((m.attributes a).erase m.primaryKey)] } := by
  unfold savedInsert Schema.inserting
  rw [Insert.target_empty]
  rfl

variable {m a}

/-- **The insertion is accepted** if all its columns have names. -/
theorem misuse?_savedInsert_eq_none_iff (h : (m.attributes a).keys.Nodup) (hid : m.id? a = none) :
    (m.savedInsert now a).misuse? = none ↔
      ∀ column ∈ m.createdColumns a, Text.isBlankText column = false := by
  have heq := savedInsert_eq m now a
  have hown : (m.savedInsert now a).misuse = none := by rw [heq]
  have hrows : (m.savedInsert now a).rows =
      [m.stamp now ((m.attributes a).erase m.primaryKey)] := by rw [heq]
  rw [Insert.misuse?_eq_none_iff_of_row hrows, (holds_stamp now h hid).keys]
  exact and_iff_right hown

end Model

/-! ## What is run -/

theorem Run.outcome_now_bind (f : DateTime → Run σ β) (session : Session σ) :
    (Run.now >>= f).outcome session = (f session.now).outcome session := by
  rw [outcome_bind, outcome_now]

namespace Model

variable {m : Model α} {c : Connection σ} {a : α} {session after : Session σ}
  {result : Except Error (Bool × α)}

/-- **With a key** the one update is run, and counting its rows is all that is made of the answer. -/
theorem outcome_save_of_id {id : Value} (hid : m.id? a = some id) :
    (m.save c a).outcome session = (result, after) ↔
      ∃ answer, c.Pipeline (.update (m.savedUpdate session.now a id)) Executor.execute session
          answer after ∧
        result = answer.map fun n => (decide (n > 0), a) := by
  unfold save
  rw [hid]
  show (ModelQuery.update (m.ownRow id) c _ >>= fun n =>
    Run.ofExcept (.ok (decide (n > 0), a))).outcome session = _ ↔ _
  rw [Connection.outcome_bind_ofExcept_eq_iff, ModelQuery.update, Run.outcome_now_bind]
  exact exists_congr fun answer => and_congr_left fun _ => Connection.outcome_perform_eq_iff

/-- Without a key, all that is made of the answer is the taking over of the new key. -/
theorem save_of_no_id {m : Model α} {a : α} (hid : m.id? a = none) (c : Connection σ) :
    m.save c a = m.create c ((m.attributes a).erase m.primaryKey) >>= fun key =>
      Run.ofExcept (.ok (true, m.keyed a key)) := by
  unfold save
  rw [hid]
  refine bind_congr fun key => ?_
  cases key <;> rfl

/-- **Without a key** the row is inserted, and only then the key is asked for and taken over. -/
theorem outcome_save_of_no_id (hid : m.id? a = none) :
    (m.save c a).outcome session = (result, after) ↔
      (∃ error, c.Pipeline (.insert (m.savedInsert session.now a)) Executor.execute session
          (.error error) after ∧
        result = .error error) ∨
      (∃ n e inserted, c.Pipeline (.insert (m.savedInsert session.now a)) Executor.execute session
          (.ok n) inserted ∧
        c.executor = some e ∧
        result = (e.lastInsertId inserted.state).1.map (fun key => (true, m.keyed a key)) ∧
        after = inserted.called (e.lastInsertId inserted.state).2) := by
  rw [save_of_no_id hid, Connection.outcome_bind_ofExcept_eq_iff, create, Run.outcome_now_bind]
  constructor
  · rintro ⟨answer, hanswer, rfl⟩
    rcases Connection.outcome_insertGetId_eq_iff.mp hanswer with
      ⟨error, hpipeline, rfl⟩ | ⟨n, e, inserted, hpipeline, hc, rfl, rfl⟩
    · exact .inl ⟨error, hpipeline, rfl⟩
    · exact .inr ⟨n, e, inserted, hpipeline, hc, rfl, rfl⟩
  · rintro (⟨error, hpipeline, rfl⟩ | ⟨n, e, inserted, hpipeline, hc, rfl, rfl⟩)
    · exact ⟨_, Connection.outcome_insertGetId_eq_iff.mpr (.inl ⟨error, hpipeline, rfl⟩), rfl⟩
    · exact ⟨_, Connection.outcome_insertGetId_eq_iff.mpr
        (.inr ⟨n, e, inserted, hpipeline, hc, rfl, rfl⟩), rfl⟩

end Model

/-! ## Calls and failures -/

namespace RecordedCall

/-- Whether an executor answers a call, and the state after it. -/
def replay (e : Executor σ) (state : σ) : RecordedCall → Bool × σ
  | .execute sql binds => ((e.execute sql binds state).1.isOk, (e.execute sql binds state).2)
  | .fetchAll sql binds => ((e.fetchAll sql binds state).1.isOk, (e.fetchAll sql binds state).2)
  | .lastInsertId => ((e.lastInsertId state).1.isOk, (e.lastInsertId state).2)

/-- **Calls stop at a failure**: after a call that the executor does not answer, none is made. -/
def StopAtFailure (e : Executor σ) (state : σ) : List RecordedCall → Prop
  | [] => True
  | call :: calls =>
    ((replay e state call).1 = false → calls = []) ∧ StopAtFailure e (replay e state call).2 calls

theorem stopAtFailure_of_length_le (e : Executor σ) (state : σ) {calls : List RecordedCall}
    (h : calls.length ≤ 1) : StopAtFailure e state calls := by
  cases calls with
  | nil => trivial
  | cons call calls =>
    have hnil : calls = [] := List.eq_nil_of_length_eq_zero (by simpa using h)
    exact ⟨fun _ => hnil, hnil ▸ trivial⟩

end RecordedCall

theorem Statement.length_handedOver_le (st : Style) (entry : String → List Bind → RecordedCall)
    (s : Statement) : (s.handedOver st entry).length ≤ 1 := by
  unfold handedOver
  cases s.check st with
  | error error => exact Nat.zero_le 1
  | ok built => exact Nat.le_refl 1

/-- **An accepted update of a table** is handed over. -/
theorem Update.handedOver_of_fit {st : Style} {q : Update} (htable : q.table ≠ "")
    (hfit : q.misuse? = none) (entry : String → List Bind → RecordedCall) :
    let built := (Statement.update q).build st
    (Statement.update q).handedOver st entry = [entry built.sql (Bind.ofParams built.params)] := by
  have hstatement : (Statement.update q).misuse? = none := hfit
  apply Statement.handedOver_of_fit hstatement
  rw [Statement.isEmpty_sql, Statement.template, isEmpty_template]
  exact Bool.eq_false_iff.mpr fun h => htable (String.isEmpty_iff.mp h)

/-- **An accepted insertion into a table** is handed over. -/
theorem Insert.handedOver_of_fit {st : Style} {q : Insert} (htable : q.table ≠ "")
    (hfit : q.misuse? = none) (entry : String → List Bind → RecordedCall) :
    let built := (Statement.insert q).build st
    (Statement.insert q).handedOver st entry = [entry built.sql (Bind.ofParams built.params)] := by
  have hstatement : (Statement.insert q).misuse? = none := hfit
  apply Statement.handedOver_of_fit hstatement
  rw [Statement.isEmpty_sql, Statement.template, isEmpty_template]
  exact Bool.eq_false_iff.mpr fun h => htable (String.isEmpty_iff.mp h)

section Recorded

variable {e : Executor σ} {c : Connection (σ × List RecordedCall)}

/-- **An insertion and the request for its key** on record: the request only after the insertion was
    answered. -/
theorem Connection.record_insertGetId (hc : c.executor = some e.recording) (q : Insert)
    (session : Session (σ × List RecordedCall)) :
    (c.insertGetId q).record session =
      session.record ++ (Statement.insert q).handedOver c.style .execute ++
        match ((c.execute (.insert q)).outcome session).1 with
        | .ok _ => [.lastInsertId]
        | .error _ => [] := by
  have hrecord := record_execute hc (.insert q) session
  unfold Run.record at hrecord ⊢
  rw [insertGetId, Run.outcome_bind]
  rcases hx : (c.execute (.insert q)).outcome session with ⟨answer, inserted⟩
  rw [hx] at hrecord
  cases answer with
  | error error =>
    rw [← hrecord]
    exact (List.append_nil _).symm
  | ok n =>
    show (c.lastInsertId.outcome inserted).2.record = _
    rw [outcome_lastInsertId hc, ← hrecord]
    rfl

/-- An answered statement was handed over, and the executor answered it. -/
theorem Connection.answered_of_outcome_execute (hc : c.executor = some e.recording) {s : Statement}
    {session inserted : Session (σ × List RecordedCall)} {n : Nat}
    (h : (c.execute s).outcome session = (.ok n, inserted)) :
    ∃ sql binds, s.handedOver c.style .execute = [.execute sql binds] ∧
      (e.execute sql binds session.state.1).1 = .ok n := by
  cases outcome_perform_eq_iff.mp h with
  | answered hmisuse hsql hc' hcall =>
    obtain rfl : e.recording = _ := Option.some.inj (hc.symm.trans hc')
    refine ⟨_, _, ?_, congrArg Prod.fst hcall⟩
    rw [Statement.handedOver, check_of_fit hmisuse hsql]

/-- The request for a key is not made after a failure. -/
theorem Connection.stopAtFailure_insertGetId (hc : c.executor = some e.recording) (q : Insert)
    (session : Session (σ × List RecordedCall)) :
    RecordedCall.StopAtFailure e session.state.1
      ((Statement.insert q).handedOver c.style .execute ++
        match ((c.execute (.insert q)).outcome session).1 with
        | .ok _ => [.lastInsertId]
        | .error _ => []) := by
  rcases hx : (c.execute (.insert q)).outcome session with ⟨answer, inserted⟩
  cases answer with
  | error error =>
    apply RecordedCall.stopAtFailure_of_length_le
    rw [List.append_nil]
    exact Statement.length_handedOver_le c.style .execute (.insert q)
  | ok n =>
    obtain ⟨sql, binds, hcalls, hanswer⟩ := answered_of_outcome_execute hc hx
    rw [hcalls]
    refine ⟨fun hfailed => ?_, RecordedCall.stopAtFailure_of_length_le e _ (Nat.le_refl 1)⟩
    have hok : (e.execute sql binds session.state.1).1.isOk = false := hfailed
    rw [hanswer] at hok
    cases hok

namespace Model

variable (m : Model α) (a : α)

theorem record_save_of_id (hc : c.executor = some e.recording) {id : Value}
    (hid : m.id? a = some id) (session : Session (σ × List RecordedCall)) :
    (m.save c a).record session =
      session.record ++
        (Statement.update (m.savedUpdate session.now a id)).handedOver c.style .execute := by
  unfold save
  rw [hid]
  show (ModelQuery.update (m.ownRow id) c _ >>= fun n =>
    pure (decide (n > 0), a)).record session = _
  rw [Run.record_bind_pure, ModelQuery.update, Run.record_bind_now, Connection.record_execute hc]
  rfl

theorem record_save_of_no_id (hc : c.executor = some e.recording) (hid : m.id? a = none)
    (session : Session (σ × List RecordedCall)) :
    (m.save c a).record session =
      session.record ++
        (Statement.insert (m.savedInsert session.now a)).handedOver c.style .execute ++
        match ((c.execute (.insert (m.savedInsert session.now a))).outcome session).1 with
        | .ok _ => [.lastInsertId]
        | .error _ => [] := by
  rw [save_of_no_id hid, Run.record_bind_ofExcept, create, Run.record_bind_now,
    Connection.record_insertGetId hc]
  rfl

theorem record_refresh (hc : c.executor = some e.recording)
    (session : Session (σ × List RecordedCall)) :
    (m.refresh c a).record session =
      session.record ++
        match m.id? a with
        | some id => (Statement.select (m.ownRow id).firstStatement).handedOver c.style .fetchAll
        | none => [] := by
  unfold refresh
  cases m.id? a with
  | none => exact (List.append_nil _).symm
  | some id =>
    have hread : (do
        match ← m.first c (m.ownRow id) with
        | some fresh => return (true, fresh)
        | none => return (false, a) : Run (σ × List RecordedCall) (Bool × α)) =
          m.first c (m.ownRow id) >>= fun found => pure (found.isSome, found.getD a) := by
      refine bind_congr fun found => ?_
      cases found <;> rfl
    show (do
        match ← m.first c (m.ownRow id) with
        | some fresh => return (true, fresh)
        | none => return (false, a) : Run (σ × List RecordedCall) (Bool × α)).record session = _
    rw [hread, Run.record_bind_pure, first, record_fetch hc]

/-- **Saving and refreshing stop at a failure.** -/
theorem stopAtFailure_save (hc : c.executor = some e.recording)
    (session : Session (σ × List RecordedCall)) :
    ∃ calls, (m.save c a).record session = session.record ++ calls ∧
      RecordedCall.StopAtFailure e session.state.1 calls := by
  cases hid : m.id? a with
  | some id =>
    refine ⟨_, record_save_of_id m a hc hid session, ?_⟩
    exact RecordedCall.stopAtFailure_of_length_le e _ (Statement.length_handedOver_le c.style _ _)
  | none =>
    refine ⟨_, (record_save_of_no_id m a hc hid session).trans (List.append_assoc _ _ _), ?_⟩
    exact Connection.stopAtFailure_insertGetId hc (m.savedInsert session.now a) session

theorem stopAtFailure_refresh (hc : c.executor = some e.recording)
    (session : Session (σ × List RecordedCall)) :
    ∃ calls, (m.refresh c a).record session = session.record ++ calls ∧
      RecordedCall.StopAtFailure e session.state.1 calls := by
  refine ⟨_, record_refresh m a hc session, RecordedCall.stopAtFailure_of_length_le e _ ?_⟩
  cases m.id? a with
  | some id => exact Statement.length_handedOver_le c.style _ _
  | none => exact Nat.zero_le 1

end Model

/-! ## A value and its row -/

namespace Model

/-- **How a value with a key is saved**: by one update of the row of this key, be it softly deleted or
    not. -/
structure SavesWithKey (m : Model α) (c : Connection (σ × List RecordedCall)) (a : α)
    (session : Session (σ × List RecordedCall)) (id : Value) (u : Update) : Prop where
  table : u.table = m.table
  joins : u.joins = {}
  wheres : u.wheres = ⟨[⟨none, .compare (.name m.primaryKey) .equal (.single id)⟩], none⟩
  data : Payload.Holds u.data (m.updatedColumns a) (m.updatedValue session.now a)
  misuse : u.misuse = none
  /-- The update is handed over once at most, and nothing else is. -/
  record : (m.save c a).record session =
    session.record ++ (Statement.update u).handedOver c.style .execute
  /-- What sets something is handed over, if the table and all columns have names. -/
  handed : m.table ≠ "" → m.updatedColumns a ≠ [] →
    (∀ column ∈ m.updatedColumns a, Text.isBlankText column = false) →
    let built := (Statement.update u).build c.style
    (m.save c a).record session =
      session.record ++ [.execute built.sql (Bind.ofParams built.params)]
  /-- The answer is whether a row was affected. -/
  outcome : ∀ result after, (m.save c a).outcome session = (result, after) ↔
    ∃ answer, c.Pipeline (.update u) Executor.execute session answer after ∧
      result = answer.map fun n => (decide (n > 0), a)
  /-- What sets nothing, or a column without a name, is refused. -/
  refused : (m.updatedColumns a = [] ∨
      ∃ column ∈ m.updatedColumns a, Text.isBlankText column = true) →
    ∃ misuse, (m.save c a).outcome session = (.error (.misuse misuse), session)

/-- **How a value without a key is saved**: by one insertion, and a request for the key, which is taken
    over if one comes back. -/
structure SavesWithoutKey (m : Model α) (c : Connection (σ × List RecordedCall)) (a : α)
    (session : Session (σ × List RecordedCall)) (i : Insert) (row : Payload) : Prop where
  table : i.table = m.table
  rows : i.rows = [row]
  data : Payload.Holds row (m.createdColumns a) (m.createdValue session.now a)
  misuse : i.misuse = none
  /-- The insertion is handed over once at most; the key is asked for if it was answered. -/
  record : (m.save c a).record session =
    session.record ++ (Statement.insert i).handedOver c.style .execute ++
      match ((c.execute (.insert i)).outcome session).1 with
      | .ok _ => [.lastInsertId]
      | .error _ => []
  /-- The row is handed over, be it without columns, if the table and all columns have names. -/
  handed : m.table ≠ "" → (∀ column ∈ m.createdColumns a, Text.isBlankText column = false) →
    let built := (Statement.insert i).build c.style
    (m.save c a).record session =
      session.record ++ [.execute built.sql (Bind.ofParams built.params)] ++
        match ((c.execute (.insert i)).outcome session).1 with
        | .ok _ => [.lastInsertId]
        | .error _ => []
  outcome : ∀ result after, (m.save c a).outcome session = (result, after) ↔
    (∃ error, c.Pipeline (.insert i) Executor.execute session (.error error) after ∧
      result = .error error) ∨
    (∃ n e inserted, c.Pipeline (.insert i) Executor.execute session (.ok n) inserted ∧
      c.executor = some e ∧
      result = (e.lastInsertId inserted.state).1.map (fun key => (true, m.keyed a key)) ∧
      after = inserted.called (e.lastInsertId inserted.state).2)
  refused : (∃ column ∈ m.createdColumns a, Text.isBlankText column = true) →
    ∃ misuse, (m.save c a).outcome session = (.error (.misuse misuse), session)

theorem savesWithKey (hc : c.executor = some e.recording) {m : Model α} {a : α}
    (hkeys : (m.attributes a).keys.Nodup) (session : Session (σ × List RecordedCall)) {id : Value}
    (hid : m.id? a = some id) :
    m.SavesWithKey c a session id (m.savedUpdate session.now a id) := by
  have heq := savedUpdate_eq session.now hkeys id
  have hfit := misuse?_savedUpdate_eq_none_iff session.now hkeys id
  constructor
  case table => rw [heq]
  case joins => rw [heq]
  case wheres => rw [heq]
  case data => exact holds_savedUpdate session.now hkeys id
  case misuse => rw [heq]
  case record => exact record_save_of_id m a hc hid session
  case handed =>
    intro htable hsome hnamed
    have hown : (m.savedUpdate session.now a id).table ≠ "" := by
      rw [heq]
      exact htable
    rw [record_save_of_id m a hc hid session, Update.handedOver_of_fit hown (hfit.mpr ⟨hsome, hnamed⟩)]
  case outcome => exact fun result after => outcome_save_of_id hid
  case refused =>
    intro hrefused
    have hmisuse : (m.savedUpdate session.now a id).misuse? ≠ none := by
      rw [Ne, hfit]
      rintro ⟨hsome, hnamed⟩
      rcases hrefused with hnothing | ⟨column, hcolumn, hblank⟩
      · exact hsome hnothing
      · rw [hnamed column hcolumn] at hblank
        cases hblank
    obtain ⟨misuse, hmisuse⟩ := Option.ne_none_iff_exists'.mp hmisuse
    exact ⟨misuse, (outcome_save_of_id hid).mpr ⟨.error (.misuse misuse), .misused hmisuse, rfl⟩⟩

theorem savesWithoutKey (hc : c.executor = some e.recording) {m : Model α} {a : α}
    (hkeys : (m.attributes a).keys.Nodup) (session : Session (σ × List RecordedCall))
    (hid : m.id? a = none) :
    m.SavesWithoutKey c a session (m.savedInsert session.now a)
      (m.stamp session.now ((m.attributes a).erase m.primaryKey)) := by
  have heq := savedInsert_eq m session.now a
  have hfit := misuse?_savedInsert_eq_none_iff session.now hkeys hid
  constructor
  case table => rw [heq]
  case rows => rw [heq]
  case data => exact holds_stamp session.now hkeys hid
  case misuse => rw [heq]
  case record => exact record_save_of_no_id m a hc hid session
  case handed =>
    intro htable hnamed
    have hown : (m.savedInsert session.now a).table ≠ "" := by
      rw [heq]
      exact htable
    rw [record_save_of_no_id m a hc hid session, Insert.handedOver_of_fit hown (hfit.mpr hnamed)]
  case outcome => exact fun result after => outcome_save_of_no_id hid
  case refused =>
    rintro ⟨column, hcolumn, hblank⟩
    have hmisuse : (m.savedInsert session.now a).misuse? ≠ none := by
      rw [Ne, hfit]
      intro hnamed
      rw [hnamed column hcolumn] at hblank
      cases hblank
    obtain ⟨misuse, hmisuse⟩ := Option.ne_none_iff_exists'.mp hmisuse
    exact ⟨misuse, (outcome_save_of_no_id hid).mpr (.inl ⟨_, .misused hmisuse, rfl⟩)⟩

/-- **A value and its row**, for any model and any executor. The attributes are a map: no column is
    there twice.

    With a key that is not null, the row of the key is updated; without one, a row is inserted and the
    key asked for and taken over. What is written is handed over in one call, unless there is no table,
    nothing to set or a column without a name. As methods of a held value, saving and refreshing leave
    behind what `save` and `refresh` answer. No call of the executor comes after one that failed, and
    after an error the value is the one it was. -/
theorem saves_row (hc : c.executor = some e.recording) (m : Model α) (a : α)
    (hkeys : (m.attributes a).keys.Nodup) (session : Session (σ × List RecordedCall)) :
    (∀ id, m.id? a = some id → id.isNull = false ∧ ∃ u, m.SavesWithKey c a session id u) ∧
    (m.id? a = none → ∃ i row, m.SavesWithoutKey c a session i row) ∧
    (m.saving c).outcome a session = Method.kept a ((m.save c a).outcome session) ∧
    (m.refreshing c).outcome a session = Method.kept a ((m.refresh c a).outcome session) ∧
    ∀ answer b after,
      (m.saving c).outcome a session = (answer, b, after) ∨
        (m.refreshing c).outcome a session = (answer, b, after) →
      (∃ calls, after.record = session.record ++ calls ∧
        RecordedCall.StopAtFailure e session.state.1 calls) ∧
      ∀ error, answer = .error error → b = a := by
  refine ⟨?_, ?_, outcome_saving m c a session, outcome_refreshing m c a session, ?_⟩
  · intro id hid
    exact ⟨isNull_of_id? hid, _, savesWithKey hc hkeys session hid⟩
  · intro hid
    exact ⟨_, _, savesWithoutKey hc hkeys session hid⟩
  · intro answer b after hafter
    rw [outcome_saving, outcome_refreshing] at hafter
    constructor
    · rcases hafter with hafter | hafter
      · rw [← Method.kept_session hafter]
        exact stopAtFailure_save m a hc session
      · rw [← Method.kept_session hafter]
        exact stopAtFailure_refresh m a hc session
    · rintro error rfl
      rcases hafter with hafter | hafter
      · exact Method.kept_of_error hafter
      · exact Method.kept_of_error hafter

/-- A model with all that saving looks at. -/
def notes : Model Payload where
  table := "notes"
  softDelete := some "deleted_at"
  timestamps := true
  ofRow row := .ok (.ofPairs row.columns)
  attributes data := data
  setId data id := data.insert "id" id

/-- A note with a key, changed before. -/
def oldNote : Payload :=
  .ofList [("id", .int 7), ("updated_at", .text "before"), ("title", .text "x")]

/-- A note without a key, whose date is null. -/
def newNote : Payload := .ofList [("title", .text "x"), ("created_at", .null)]

/-- A session at noon. -/
def noon : Session (Script × List RecordedCall) :=
  { Session.scripted with now := ⟨⟨2024, 2, 29⟩, 12, 0, 0, 0⟩ }

/-- The old note is updated in one call; the new one is inserted, and its key is asked for. -/
theorem notes_saved :
    notes.id? oldNote = some (.int 7) ∧ notes.id? newNote = none ∧
      (notes.attributes oldNote).keys.Nodup ∧ (notes.attributes newNote).keys.Nodup ∧
      notes.updatedColumns oldNote = ["updated_at", "title"] ∧
      notes.createdColumns newNote = ["title", "created_at", "updated_at"] ∧
      (∃ u, notes.SavesWithKey Connection.scripted oldNote noon (.int 7) u) ∧
      (notes.save Connection.scripted oldNote).record noon =
        [.execute ("UPDATE \x60notes\x60 SET \x60updated_at\x60 = :notes_updated_at_0,"
            ++ " \x60title\x60 = :notes_title_1 WHERE \x60id\x60 = :notes_id_2")
          [⟨":notes_updated_at_0", .text "2024-02-29 12:00:00"⟩, ⟨":notes_title_1", .text "x"⟩,
            ⟨":notes_id_2", .int 7⟩]] ∧
      (∃ i row, notes.SavesWithoutKey Connection.scripted newNote noon i row) ∧
      (notes.save Connection.scripted newNote).record noon =
        [.execute ("INSERT INTO \x60notes\x60 (\x60title\x60, \x60created_at\x60, \x60updated_at\x60)"
            ++ " VALUES (:notes_title_0, :notes_created_at_1, :notes_updated_at_2)")
          [⟨":notes_title_0", .text "x"⟩, ⟨":notes_created_at_1", .text "2024-02-29 12:00:00"⟩,
            ⟨":notes_updated_at_2", .text "2024-02-29 12:00:00"⟩],
          .lastInsertId] ∧
      ∀ error b after,
        (notes.saving Connection.scripted).outcome newNote noon = (.error error, b, after) →
          b = newNote := by
  have hc : Connection.scripted.executor = some (Script.executor "mysql").recording := rfl
  have hold : (notes.attributes oldNote).keys.Nodup := by decide
  have hnew : (notes.attributes newNote).keys.Nodup := by decide
  refine ⟨rfl, rfl, hold, hnew, by decide, by decide, ?_, ?_, ?_, ?_, ?_⟩
  · exact ((saves_row hc notes oldNote hold noon).1 (.int 7) rfl).2
  · decide +kernel
  · exact (saves_row hc notes newNote hnew noon).2.1 rfl
  · decide +kernel
  · intro error b after hafter
    obtain ⟨-, -, -, -, hkept⟩ := saves_row hc notes newNote hnew noon
    exact (hkept _ b after (.inl hafter)).2 error rfl

end Model

end Recorded

end FluentSql
