import FluentSql.Postgres.Executor
import FluentSql.Proofs.RelatedRows
import FluentSql.Proofs.Saving
/-!
# `FluentSql.Proofs.Retrying` — how often a row is inserted when an insertion is retried

A row is inserted with two calls of the executor: its insertion, and the request for its key. Each of
them can fail. After a failed insertion nothing was carried out, and the key is not asked for; after a
failed request the row is there, though the answer is an error. So one who tries again after an error
inserts the row once more for every request that failed.

* `Executor.audited` — an executor that notes which of its calls it answered;
* `Connection.Inserts` — what an insertion comes to, call by call;
* `Attempt` and `Retries` — every way to insert a row, and trying again;
* `Attempt.inserts`, `Retries.insertions_eq` — how often a row is inserted;
* `Model.insertions_of_attempts` — what an error says about the insertion, and what retrying inserts.
-/

namespace FluentSql

variable {σ α β : Type}

/-! ## Answered calls -/

/-- **A call that was made**, and whether it was answered or refused with an error. -/
structure Audit where
  call : RecordedCall
  answered : Bool
  deriving DecidableEq

namespace Audit

/-- Whether this is an insertion that was carried out. -/
def isInsertion : Audit → Bool
  | ⟨.execute _ _, answered⟩ => answered
  | _ => false

/-- Whether this is a request for a key that failed. -/
def isMissingKey : Audit → Bool
  | ⟨.lastInsertId, answered⟩ => !answered
  | _ => false

/-- **How many insertions were carried out.** -/
def insertions (calls : List Audit) : Nat := calls.countP isInsertion

/-- **How many requests for a key failed.** -/
def missingKeys (calls : List Audit) : Nat := calls.countP isMissingKey

theorem insertions_append (front back : List Audit) :
    insertions (front ++ back) = insertions front + insertions back := List.countP_append

theorem missingKeys_append (front back : List Audit) :
    missingKeys (front ++ back) = missingKeys front + missingKeys back := List.countP_append

end Audit

/-- A call that is noted, with whether it was answered. -/
def Call.audited (entry : RecordedCall) (call : Call σ α) : Call (σ × List Audit) α :=
  fun s => ((call s.1).1, (call s.1).2, s.2 ++ [⟨entry, (call s.1).1.isOk⟩])

/-- **The executor with notes** on which of its calls it answered. -/
def Executor.audited (e : Executor σ) : Executor (σ × List Audit) where
  driverName := e.driverName
  execute sql binds := Call.audited (.execute sql binds) (e.execute sql binds)
  fetchAll sql binds := Call.audited (.fetchAll sql binds) (e.fetchAll sql binds)
  lastInsertId := Call.audited .lastInsertId e.lastInsertId

/-- **The connection with notes** on which calls of its executor were answered. -/
def Connection.audited (c : Connection σ) : Connection (σ × List Audit) where
  executor := c.executor.map Executor.audited
  style := c.style
  logger := c.logger

/-- The notes of a session. -/
def Session.audits (session : Session (σ × List Audit)) : List Audit := session.state.2

theorem Call.audited_eq_iff {entry : RecordedCall} {call : Call σ α} {s after : σ × List Audit}
    {answer : Except Error α} :
    Call.audited entry call s = (answer, after) ↔
      call s.1 = (answer, after.1) ∧ after.2 = s.2 ++ [⟨entry, answer.isOk⟩] := by
  unfold audited
  generalize call s.1 = result
  obtain ⟨answer', state⟩ := result
  obtain ⟨after, audits⟩ := after
  simp only [Prod.mk.injEq]
  constructor
  · rintro ⟨rfl, rfl, rfl⟩
    exact ⟨⟨rfl, rfl⟩, rfl⟩
  · rintro ⟨⟨rfl, rfl⟩, rfl⟩
    exact ⟨rfl, rfl, rfl⟩

/-! ## An insertion, call by call -/

/-- The call that hands an insertion to the executor. -/
def Connection.insertion (c : Connection σ) (q : Insert) : RecordedCall :=
  .execute ((Statement.insert q).build c.style).sql
    (Bind.ofParams ((Statement.insert q).build c.style).params)

/-- **What an insertion comes to** that asks for its key: the answer, the calls with whether they were
    answered, and the state they leave behind. -/
inductive Connection.Inserts (c : Connection σ) (q : Insert) (state : σ) :
    Except Error (Option Value) → List Audit → σ → Prop where
  /-- What is not fit to be run is not handed over. -/
  | unfit {error : Error} (h : (Statement.insert q).check c.style = .error error) :
      Inserts c q state (.error error) [] state
  /-- Nothing is handed over without an executor. -/
  | offline (hc : c.executor = none) : Inserts c q state (.error .noConnection) [] state
  /-- An insertion that fails. -/
  | refused {e : Executor σ} {error : Error} {after : σ} (hc : c.executor = some e)
      (h : c.handOver (.insert q) Executor.execute e state = (.error error, after)) :
      Inserts c q state (.error error) [⟨c.insertion q, false⟩] after
  /-- An insertion that is carried out, with a request for its key that fails. -/
  | keyless {e : Executor σ} {n : Nat} {inserted after : σ} {error : Error} (hc : c.executor = some e)
      (h : c.handOver (.insert q) Executor.execute e state = (.ok n, inserted))
      (hkey : e.lastInsertId inserted = (.error error, after)) :
      Inserts c q state (.error error) [⟨c.insertion q, true⟩, ⟨.lastInsertId, false⟩] after
  /-- An insertion that is carried out, with its key. -/
  | inserted {e : Executor σ} {n : Nat} {inserted after : σ} {key : Option Value}
      (hc : c.executor = some e)
      (h : c.handOver (.insert q) Executor.execute e state = (.ok n, inserted))
      (hkey : e.lastInsertId inserted = (.ok key, after)) :
      Inserts c q state (.ok key) [⟨c.insertion q, true⟩, ⟨.lastInsertId, true⟩] after

namespace Connection

variable {c : Connection σ} {q : Insert} {session after : Session (σ × List Audit)}
  {answer : Except Error (Option Value)}

theorem exists_executor_of_audited {e : Executor (σ × List Audit)} (h : c.audited.executor = some e) :
    ∃ e', c.executor = some e' ∧ e = e'.audited := by
  obtain ⟨e', hc, rfl⟩ := Option.map_eq_some_iff.mp h
  exact ⟨e', hc, rfl⟩

/-- The insertion handed over is noted. -/
theorem handOver_audited_eq_iff {e : Executor σ} {s s' : σ × List Audit} {n : Except Error Nat} :
    c.audited.handOver (.insert q) Executor.execute e.audited s = (n, s') ↔
      c.handOver (.insert q) Executor.execute e s.1 = (n, s'.1) ∧
        s'.2 = s.2 ++ [⟨c.insertion q, n.isOk⟩] :=
  Call.audited_eq_iff

/-- **An insertion that asks for its key** comes to one of five things. -/
theorem inserts_of_insertGetId
    (h : (c.audited.insertGetId q).outcome session = (answer, after)) :
    ∃ calls, c.Inserts q session.state.1 answer calls after.state.1 ∧
      after.audits = session.audits ++ calls := by
  rcases outcome_insertGetId_eq_iff.mp h with
    ⟨error, hpipeline, rfl⟩ | ⟨n, e, inserted, hpipeline, haudited', rfl, rfl⟩
  · cases hpipeline with
    | misused hmisuse => exact ⟨[], .unfit (check_of_misuse hmisuse), (List.append_nil _).symm⟩
    | blank hmisuse hsql => exact ⟨[], .unfit (check_of_blank hmisuse hsql), (List.append_nil _).symm⟩
    | offline hmisuse hsql hc =>
      exact ⟨[], .offline (Option.map_eq_none_iff.mp hc), (List.append_nil _).symm⟩
    | failed hmisuse hsql haudited hcall =>
      obtain ⟨e, hc, rfl⟩ := exists_executor_of_audited haudited
      obtain ⟨hinsert, haudits⟩ := handOver_audited_eq_iff.mp hcall
      exact ⟨_, .refused hc hinsert, haudits⟩
  · cases hpipeline with
    | @answered _ _ state hmisuse hsql haudited hcall =>
      obtain rfl := Option.some.inj (haudited.symm.trans haudited')
      obtain ⟨e, hc, rfl⟩ := exists_executor_of_audited haudited
      obtain ⟨hinsert, haudits⟩ := handOver_audited_eq_iff.mp hcall
      -- the request sees the state that the insertion left behind
      show ∃ calls, c.Inserts q session.state.1 (e.lastInsertId state.1).1 calls
        (e.lastInsertId state.1).2 ∧
          state.2 ++ [⟨.lastInsertId, (e.lastInsertId state.1).1.isOk⟩] = session.audits ++ calls
      rw [haudits, List.append_assoc]
      rcases hkey : e.lastInsertId state.1 with ⟨key, last⟩
      cases key with
      | error error => exact ⟨_, .keyless hc hinsert hkey, rfl⟩
      | ok key => exact ⟨_, .inserted hc hinsert hkey, rfl⟩

namespace Inserts

variable {state last : σ} {calls : List Audit}

/-- **An insertion is carried out once** if there is an answer or the request for the key failed, and
    else it is not. -/
theorem insertions_eq (h : c.Inserts q state answer calls last) :
    Audit.insertions calls = Audit.missingKeys calls + if answer.isOk then 1 else 0 := by
  cases h <;> rfl

/-- **An error** is that of the request for the key, or nothing was carried out. -/
theorem of_error {error : Error} (h : c.Inserts q state (.error error) calls last) :
    (Audit.insertions calls = 0 ∧ ∀ call ∈ calls, call.call ≠ .lastInsertId) ∨
      (Audit.insertions calls = 1 ∧
        ∃ e inserted, c.executor = some e ∧ e.lastInsertId inserted = (.error error, last)) := by
  cases h with
  | unfit h => exact .inl ⟨rfl, nofun⟩
  | offline hc => exact .inl ⟨rfl, nofun⟩
  | refused hc h =>
    refine .inl ⟨rfl, fun call hcall => ?_⟩
    rw [List.mem_singleton.mp hcall]
    exact nofun
  | keyless hc h hkey => exact .inr ⟨rfl, _, _, hc, hkey⟩

/-- Where requests for keys do not fail, none is missing. -/
theorem missingKeys_eq_zero (h : c.Inserts q state answer calls last)
    (hkeys : ∀ e, c.executor = some e → ∀ s, (e.lastInsertId s).1.isOk = true) :
    Audit.missingKeys calls = 0 := by
  cases h with
  | keyless hc h hkey =>
    have hok := (congrArg (fun result => result.1.isOk) hkey).symm.trans (hkeys _ hc _)
    cases hok
  | _ => rfl

end Inserts

end Connection

/-! ## Trying again -/

/-- **An attempt to insert rows.** A value to be saved has no key yet. -/
inductive Attempt (m : Model α) where
  | save (a : α) (hid : m.id? a = none)
  | create (data : Payload)
  | insertGetId (q : Insert)

namespace Attempt

variable {m : Model α} {c : Connection σ}

/-- **The attempt made**; what it answers does not matter. -/
def run (c : Connection σ) : Attempt m → Run σ Unit
  | .save a _ => do let _ ← m.save c a
  | .create data => do let _ ← m.create c data
  | .insertGetId q => do let _ ← c.insertGetId q

/-- **The insertion** of an attempt. -/
def insert (now : DateTime) : Attempt m → Insert
  | .save a _ => m.savedInsert now a
  | .create data => m.inserting now data
  | .insertGetId q => q

/-- **An attempt is its insertion**: what is made of the key calls nothing. -/
theorem outcome_run {attempt : Attempt m} {session after : Session σ} {answer : Except Error Unit}
    (h : (attempt.run c).outcome session = (answer, after)) :
    ∃ key, (c.insertGetId (attempt.insert session.now)).outcome session = (key, after) ∧
      answer = key.map fun _ => () := by
  have hread : ∀ {β γ : Type} {x : Run σ β} (read : β → γ) {result : Except Error γ},
      (x >>= fun b => Run.ofExcept (.ok (read b))).outcome session = (result, after) →
        ∃ answer, x.outcome session = (answer, after) ∧ result = answer.map read :=
    fun _ _ h => Connection.outcome_bind_ofExcept_eq_iff.mp h
  cases attempt with
  | save a hid =>
    obtain ⟨saved, hsave, hanswer⟩ := hread (fun _ => ()) h
    rw [Model.save_of_no_id hid] at hsave
    obtain ⟨key, hcreate, rfl⟩ := hread (fun key => (true, m.keyed a key)) hsave
    rw [Model.create, Run.outcome_now_bind] at hcreate
    refine ⟨key, hcreate, hanswer.trans ?_⟩
    cases key <;> rfl
  | create data =>
    obtain ⟨key, hcreate, hanswer⟩ := hread (fun _ => ()) h
    rw [Model.create, Run.outcome_now_bind] at hcreate
    exact ⟨key, hcreate, hanswer⟩
  | insertGetId q => exact hread (fun _ => ()) h

/-- **An attempt** comes to what its insertion comes to, call by call. -/
theorem inserts {attempt : Attempt m} {session after : Session (σ × List Audit)}
    {answer : Except Error Unit} (h : (attempt.run c.audited).outcome session = (answer, after)) :
    ∃ key calls, c.Inserts (attempt.insert session.now) session.state.1 key calls after.state.1 ∧
      after.audits = session.audits ++ calls ∧ answer = key.map fun _ => () := by
  obtain ⟨key, hrun, hanswer⟩ := outcome_run h
  obtain ⟨calls, hinserts, haudits⟩ := Connection.inserts_of_insertGetId hrun
  exact ⟨key, calls, hinserts, haudits, hanswer⟩

end Attempt

/-- **Attempts one after the other**, until one succeeds or it is given up. Time passes in between. -/
inductive Retries (m : Model α) (c : Connection σ) : Session σ → Bool → Session σ → Prop where
  | givenUp {session : Session σ} : Retries m c session false session
  | succeeded {attempt : Attempt m} {session after : Session σ}
      (h : (attempt.run c).outcome session = (.ok (), after)) : Retries m c session true after
  | again {attempt : Attempt m} {session after last : Session σ} {error : Error} {succeeded : Bool}
      {later : DateTime} (h : (attempt.run c).outcome session = (.error error, after))
      (hrest : Retries m c { after with now := later } succeeded last) :
      Retries m c session succeeded last

namespace Retries

variable {m : Model α} {c : Connection σ} {session last : Session (σ × List Audit)} {succeeded : Bool}

/-- **Retrying** carries out an insertion for every request for a key that fails, and one more if it
    succeeds in the end. -/
theorem insertions_eq (h : Retries m c.audited session succeeded last) :
    ∃ calls, last.audits = session.audits ++ calls ∧
      Audit.insertions calls = Audit.missingKeys calls + (if succeeded then 1 else 0) ∧
      ((∀ e, c.executor = some e → ∀ s, (e.lastInsertId s).1.isOk = true) →
        Audit.missingKeys calls = 0) := by
  induction h with
  | givenUp => exact ⟨[], (List.append_nil _).symm, rfl, fun _ => rfl⟩
  | succeeded h =>
    obtain ⟨key, calls, hinserts, haudits, hanswer⟩ := Attempt.inserts h
    refine ⟨calls, haudits, ?_, hinserts.missingKeys_eq_zero⟩
    rw [hinserts.insertions_eq]
    cases key with
    | error error => cases hanswer
    | ok key => rfl
  | again h hrest ih =>
    obtain ⟨key, calls, hinserts, haudits, hanswer⟩ := Attempt.inserts h
    obtain ⟨rest, hlast, hcount, hkeys⟩ := ih
    have hfailed : key.isOk = false := by
      cases key with
      | error error => rfl
      | ok key => cases hanswer
    refine ⟨calls ++ rest, ?_, ?_, fun h => ?_⟩
    · rw [hlast, ← List.append_assoc, ← haudits]
      rfl
    · have hinsertions := hinserts.insertions_eq
      rw [hfailed] at hinsertions
      rw [Audit.insertions_append, Audit.missingKeys_append, hcount, hinsertions]
      simp only [Bool.false_eq_true, if_false, Nat.add_zero, Nat.add_assoc]
    · rw [Audit.missingKeys_append, hinserts.missingKeys_eq_zero h, hkeys h]

end Retries

/-- **What an error says about an insertion, and what retrying inserts.** An attempt to save, to create or
    to insert that ends in an error has carried out no insertion and not asked for a key, or the error is
    that of the request for the key, and then the insertion was carried out once. So trying again after
    errors, with the same attempt or another, carries out an insertion for every request that failed, and
    one more if the last attempt succeeds. Where requests for keys do not fail, this is the only one. -/
theorem Model.insertions_of_attempts (m : Model α) (c : Connection σ) :
    (∀ (attempt : Attempt m) (session after : Session (σ × List Audit)) (answer : Except Error Unit),
      (attempt.run c.audited).outcome session = (answer, after) →
        ∃ key calls, c.Inserts (attempt.insert session.now) session.state.1 key calls after.state.1 ∧
          after.audits = session.audits ++ calls ∧ answer = key.map (fun _ => ()) ∧
          ∀ error, answer = .error error →
            (Audit.insertions calls = 0 ∧ ∀ call ∈ calls, call.call ≠ .lastInsertId) ∨
              (Audit.insertions calls = 1 ∧ ∃ e inserted, c.executor = some e ∧
                e.lastInsertId inserted = (.error error, after.state.1))) ∧
    (∀ (session last : Session (σ × List Audit)) (succeeded : Bool),
      Retries m c.audited session succeeded last →
        ∃ calls, last.audits = session.audits ++ calls ∧
          Audit.insertions calls = Audit.missingKeys calls + (if succeeded then 1 else 0) ∧
          ((∀ e, c.executor = some e → ∀ s, (e.lastInsertId s).1.isOk = true) →
            Audit.insertions calls = if succeeded then 1 else 0)) := by
  constructor
  · intro attempt session after answer h
    obtain ⟨key, calls, hinserts, haudits, hanswer⟩ := Attempt.inserts h
    refine ⟨key, calls, hinserts, haudits, hanswer, fun error herror => ?_⟩
    cases key with
    | ok key =>
      rw [hanswer] at herror
      cases herror
    | error error' =>
      rw [hanswer] at herror
      cases herror
      exact hinserts.of_error
  · intro session last succeeded h
    obtain ⟨calls, haudits, hcount, hkeys⟩ := h.insertions_eq
    refine ⟨calls, haudits, hcount, fun hanswered => ?_⟩
    rw [hcount, hkeys hanswered, Nat.zero_add]

theorem exists_error_of_isOk {S : Type} {outcome : Except Error α × S} (h : outcome.1.isOk = false) :
    ∃ error, outcome = (.error error, outcome.2) := by
  obtain ⟨answer, after⟩ := outcome
  cases answer with
  | error error => exact ⟨error, rfl⟩
  | ok a => cases h

/-- A server that carries out insertions and knows no key. -/
def Postgres.Server.keyless : Postgres.Server := { tag := "INSERT 0 1" }

/-- **A user is inserted twice** by trying again after an error: the request for the key fails, though the
    user is there. -/
theorem Model.user_inserted_twice :
    let c := (Connection.ofExecutor Postgres.executor).audited
    let session : Session (Postgres.Server × List Audit) := { state := (.keyless, []), now := default }
    let save : Attempt users := .save (.ofPairs []) rfl
    let first := (save.run c).outcome session
    first.1.isOk = false ∧ Audit.insertions first.2.audits = 1 ∧
      ∃ last, Retries users c session false last ∧ Audit.insertions last.audits = 2 := by
  intro c session save first
  let second := (save.run c).outcome { first.2 with now := default }
  have hfirst : first.1.isOk = false := by decide +kernel
  have hsecond : second.1.isOk = false := by decide +kernel
  obtain ⟨error, hagain⟩ := exists_error_of_isOk hfirst
  obtain ⟨error', hagain'⟩ := exists_error_of_isOk hsecond
  refine ⟨hfirst, ?_, { second.2 with now := default }, ?_, ?_⟩
  · decide +kernel
  · exact .again hagain (.again hagain' .givenUp)
  · decide +kernel

end FluentSql
