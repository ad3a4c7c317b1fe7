import FluentSql.Proofs.LastRow
import FluentSql.Proofs.MapHistories
import FluentSql.Proofs.MergedParameters
import FluentSql.Proofs.Operands
/-!
# `FluentSql.Proofs.BuiltMaps` — no duplicate and no stale entry in what calls build

Parameters, payloads, sort orders, aggregates and the values of an UPDATE are maps in insertion order,
each with calls of its own. Every call is some changes of its map, so a chain of calls is a history, and the
map follows it (`OrderedMap.Follows`). Whoever reads the map — a lookup, an ORDER BY or SET list, the
values that a statement binds — reads what the history says.

* `Params.history`, `Payload.history`, `SelectStep.orderChanges`, … — the changes that calls are;
* `AggregateClause.ofFn_push` — an aggregate concerns the map of its own function only;
* `built_maps_follow` — the maps, and what is rendered and bound from them.
-/

namespace FluentSql

open Template OrderedMap

/-! ## Parameters -/

namespace Params

/-- **The changes of a call** on parameters; the name that a value is bound under depends on those there
    are. -/
def changes (ps : Params) : Operation → List (Change String Value)
  | .add name value => [.put (colonName name) value]
  | .bind table column value => [.put (ps.bind table column value).1 value]
  | .merge other => puts (other.entries.map fun (name, value) => (colonName name, value))
  | .reset => [.clear]

/-- **The changes of calls**, made one after the other. -/
def history (ps : Params) : List Operation → List (Change String Value)
  | [] => []
  | call :: calls => ps.changes call ++ history (ps.operate call) calls

theorem map_merge (ps other : Params) :
    (ps.merge other).map =
      ps.map.replay (puts (other.entries.map fun (name, value) => (colonName name, value))) := by
  rw [merge, puts, List.map_map]
  generalize other.entries = added
  induction added generalizing ps with
  | nil => rfl
  | cons e added ih => exact ih (ps.add e.1 e.2)

theorem map_operate (ps : Params) (call : Operation) :
    (ps.operate call).map = ps.map.replay (ps.changes call) := by
  cases call with
  | add name value => rfl
  | bind table column value =>
    exact congrArg OrderedMap.mk (put_of_not_mem (ps.bind_fst_not_mem table column value) value).symm
  | merge other => exact map_merge ps other
  | reset => rfl

/-- **Parameters follow the changes of the calls.** -/
theorem follows_history (calls : List Operation) :
    (built calls).map.Follows (history empty calls) := by
  have hrun : ∀ ps : Params, (calls.foldl operate ps).map = ps.map.replay (ps.history calls) := by
    induction calls with
    | nil => exact fun ps => rfl
    | cons call calls ih =>
      intro ps
      rw [List.foldl_cons, ih, map_operate, history, replay_append]
  exact follows_of_eq (hrun empty)

end Params

/-! ## Payloads -/

namespace Payload

/-- **What a payload is made of**: pairs as they come — members of a JSON object are such pairs —, or
    pairs that are sorted by their columns first. -/
inductive Source where
  | pairs (entries : List (String × Value))
  | sorted (entries : List (String × Value))

/-- The payload. -/
def Source.payload : Source → Payload
  | .pairs entries => ofPairs entries
  | .sorted entries => ofMap entries

/-- **A call** on a payload. -/
inductive Call where
  | set (column : String) (value : Value)
  | remove (column : String)

/-- A call made. -/
def call (data : Payload) : Call → Payload
  | .set column value => data.insert column value
  | .remove column => data.erase column

/-- **A payload after calls.** -/
def made (source : Source) (calls : List Call) : Payload := calls.foldl call source.payload

/-- The changes of a source. -/
def Source.changes : Source → List (Change String Value)
  | .pairs entries => puts entries
  | .sorted entries =>
    puts (entries.foldl (fun sorted (column, value) => insertSorted column value sorted) [])

/-- The change that a call is. -/
def Call.change : Call → Change String Value
  | .set column value => .put column value
  | .remove column => .remove column

/-- **The changes of a payload.** -/
def history (source : Source) (calls : List Call) : List (Change String Value) :=
  source.changes ++ calls.map Call.change

theorem Source.payload_eq_replay (source : Source) :
    source.payload = replay OrderedMap.empty source.changes := by
  cases source with
  | pairs entries => exact insertAll_eq_replay OrderedMap.empty entries
  | sorted entries => exact insertAll_eq_replay OrderedMap.empty _

/-- **A payload follows its changes.** -/
theorem follows_history (source : Source) (calls : List Call) :
    (made source calls).Follows (history source calls) := by
  have hrun : made source calls = replay OrderedMap.empty (history source calls) := by
    have hcall : call = fun data c => data.apply (Call.change c) := by
      funext data c
      cases c <;> rfl
    rw [history, replay_append, ← Source.payload_eq_replay, made, hcall, replay, List.foldl_map]
  exact follows_of_eq hrun

/-- **A row of a payload's own columns** binds its entries. -/
theorem rowOperands_keys {data : Payload} (h : data.keys.Nodup) (table : String) :
    Insert.rowOperands table data.keys data =
      data.entries.map fun (column, value) => ⟨table, column, value⟩ := by
  rw [Insert.rowOperands, keys, List.map_map]
  refine List.map_congr_left fun e he => ?_
  have hfound : data.get? e.1 = some e.2 := lookup_of_mem h he
  rw [Function.comp_apply, hfound]
  rfl

end Payload

/-! ## Sort orders -/

/-- The changes of a call for the sort order. -/
def SelectStep.orderChanges : SelectStep → List (Change Column Direction)
  | .order column direction => [.put column direction]
  | .clean => [.clear]
  | _ => []

theorem Select.orders_step (q : Select) (step : SelectStep) :
    (q.step step).orders = q.orders.replay step.orderChanges := by
  cases step <;> rfl

/-- **The sort order of a statement** follows the changes of its calls. -/
theorem Select.orders_follow (steps : List SelectStep) :
    (Select.ofSteps steps).orders.Follows (steps.flatMap SelectStep.orderChanges) := by
  rw [Select.ofSteps, Select.steps_eq_foldl]
  exact follows_of_eq (replay_flatMap Select.orders Select.orders_step .empty steps)

/-- **The sort order of a query of a model** follows the columns that it is ordered by. -/
theorem ModelQuery.orders_follow (schema : Schema) (steps : List ModelStep) :
    (steps.foldl ModelQuery.step (.ofSchema schema)).select.orders.Follows
      (puts (steps.filterMap ModelStep.ordering?)) := by
  have hrun : (steps.foldl ModelQuery.step (.ofSchema schema)).select.orders =
      replay OrderedMap.empty (puts (steps.filterMap ModelStep.ordering?)) := by
    rw [ModelQuery.orders_steps, insertAll_eq_replay]
    rfl
  exact follows_of_eq hrun

/-! ## Aggregates -/

/-- **The aggregates of one function**: columns by alias. -/
def AggregateClause.ofFn (clause : AggregateClause) (fn : AggregateFn) : OrderedMap String Column :=
  ⟨clause.entriesOf fn⟩

/-- The changes of a call for the aggregates of one function. -/
def SelectStep.aggregateChanges (fn : AggregateFn) : SelectStep → List (Change String Column)
  | .aggregate f column called => if f = fn then [.put (called.getD column.text) column] else []
  | .clean => [.clear]
  | _ => []

/-- The alias and the column of an aggregate, if it is of this function. -/
def AggregateClause.ofFn? (fn : AggregateFn) :
    (AggregateFn × String) × Column → Option (String × Column)
  | ((f, called), column) => if f = fn then some (called, column) else none

theorem AggregateClause.filterMap_put (f fn : AggregateFn) (called : String) (column : Column)
    (entries : List ((AggregateFn × String) × Column)) :
    (put (f, called) column entries).filterMap (ofFn? fn) =
      if f = fn then put called column (entries.filterMap (ofFn? fn))
      else entries.filterMap (ofFn? fn) := by
  induction entries with
  | nil => by_cases hf : f = fn <;> simp [put, ofFn?, hf]
  | cons e entries ih =>
    obtain ⟨⟨g, other⟩, c⟩ := e
    by_cases hg : g = fn
    · subst hg
      by_cases hf : f = g
      · subst hf
        by_cases hcalled : other = called
        · simp [put, ofFn?, hcalled]
        · simpa [put, ofFn?, hcalled] using ih
      · have hne : ¬g = f := fun heq => hf heq.symm
        simpa [put, ofFn?, hf, hne] using ih
    · by_cases hkey : (g, other) = (f, called)
      · obtain ⟨rfl, rfl⟩ := Prod.mk.inj hkey
        simp [put, ofFn?, hg]
      · simpa [put, ofFn?, hg, hkey] using ih

/-- **An aggregate** is put in among those of its function, and nowhere else. -/
theorem AggregateClause.ofFn_push (clause : AggregateClause) (f fn : AggregateFn) (column : Column)
    (called : Option String) :
    (clause.push f column called).ofFn fn =
      if f = fn then (clause.ofFn fn).insert (called.getD column.text) column else clause.ofFn fn := by
  have hput := filterMap_put f fn (called.getD column.text) column clause.entries
  show mk ((put (f, called.getD column.text) column clause.entries).filterMap (ofFn? fn)) = _
  rw [hput]
  split <;> rfl

theorem Select.aggregates_step (fn : AggregateFn) (q : Select) (step : SelectStep) :
    (q.step step).aggregates.ofFn fn = (q.aggregates.ofFn fn).replay (step.aggregateChanges fn) := by
  cases step with
  | aggregate f column called =>
    have hpush := q.aggregates.ofFn_push f fn column called
    rw [SelectStep.aggregateChanges]
    show (q.aggregates.push f column called).ofFn fn = _
    rw [hpush]
    split <;> rfl
  | _ => rfl

/-- **The aggregates of each function** follow the changes of the calls. -/
theorem Select.aggregates_follow (steps : List SelectStep) (fn : AggregateFn) :
    ((Select.ofSteps steps).aggregates.ofFn fn).Follows
      (steps.flatMap (SelectStep.aggregateChanges fn)) := by
  rw [Select.ofSteps, Select.steps_eq_foldl]
  exact follows_of_eq
    (replay_flatMap (fun q : Select => q.aggregates.ofFn fn) (Select.aggregates_step fn) .empty steps)

/-! ## The values of an UPDATE -/

/-- The changes of a call for the values to set; one value is a payload of one column. -/
def UpdateStep.changes : UpdateStep → List (Change String Value)
  | .set data => puts data.entries
  | .clean => [.clear]
  | _ => []

/-- The UPDATE statement that a chain builds. -/
def Update.ofSteps (steps : List UpdateStep) : Update := steps.foldl Update.step {}

theorem Update.data_step (q : Update) (step : UpdateStep) :
    (q.step step).data = q.data.replay step.changes := by
  cases step with
  | set data => exact insertAll_eq_replay q.data data.entries
  | _ => rfl

/-- **The values of an UPDATE** follow the changes of its calls. -/
theorem Update.data_follows (steps : List UpdateStep) :
    (Update.ofSteps steps).data.Follows (steps.flatMap UpdateStep.changes) :=
  follows_of_eq (replay_flatMap Update.data Update.data_step {} steps)

/-! ## What is read from the maps -/

/-- **No map that calls build holds a key twice or a value that was replaced**, whatever the calls are.
    Parameters, payloads, the sort orders of statements and of queries of models, the aggregates of each
    function and the values of an UPDATE follow the histories of their calls: keys are apart and in the
    order of their first insertion since they were last absent, and each has the value it was given last.

    So an ORDER BY clause and a select list show what the history leaves and nothing else; so do the SET
    list of an UPDATE and the values that it binds, and those that an INSERT of a payload binds. -/
theorem built_maps_follow (st : Style) :
    (∀ calls, (Params.built calls).map.Follows (Params.history .empty calls)) ∧
    (∀ source calls,
      (Payload.made source calls).Follows (Payload.history source calls) ∧
      ∀ table, Insert.rowOperands table (Payload.made source calls).keys (Payload.made source calls) =
        (current (Payload.history source calls)).map fun (column, value) => ⟨table, column, value⟩) ∧
    (∀ steps,
      (Select.ofSteps steps).orders.Follows (steps.flatMap SelectStep.orderChanges) ∧
      (Select.ofSteps steps).orders.sql st =
        match current (steps.flatMap SelectStep.orderChanges) with
        | [] => ""
        | terms =>
          "ORDER BY " ++ ", ".intercalate (terms.map fun (c, d) => st.quoteColumn c ++ " " ++ d.sql)) ∧
    (∀ schema, ∀ steps : List ModelStep,
      (steps.foldl ModelQuery.step (.ofSchema schema)).select.orders.Follows
        (puts (steps.filterMap ModelStep.ordering?))) ∧
    (∀ steps,
      (∀ fn, ((Select.ofSteps steps).aggregates.ofFn fn).Follows
        (steps.flatMap (SelectStep.aggregateChanges fn))) ∧
      AggregateClause.items st (Select.ofSteps steps).aggregates =
        AggregateFn.all.flatMap fun fn =>
          (current (steps.flatMap (SelectStep.aggregateChanges fn))).map fun (called, column) =>
            AggregateClause.itemSql st fn called column) ∧
    ∀ steps,
      let q := Update.ofSteps steps
      let left := current (steps.flatMap UpdateStep.changes)
      q.data.Follows (steps.flatMap UpdateStep.changes) ∧
      q.template st = (if q.table.isEmpty then [] else
        squeeze (
          text ("UPDATE " ++ st.quote q.table ++ " " ++ q.joins.sql st q.table ++ " SET ")
          ++ joined ", "
            (left.map fun (column, value) => Update.assignmentTemplate st q.table column value)
          ++ text " " ++ q.wheres.template st q.table)) ∧
      slots (q.template st) = if q.table.isEmpty then [] else
        left.map (fun (column, value) => ⟨q.table, column, value⟩)
          ++ Conditions.operands q.table q.wheres.conditions := by
  refine ⟨Params.follows_history, fun source calls => ?payload, fun steps => ?order,
    ModelQuery.orders_follow, fun steps => ?aggregates, fun steps => ?update⟩
  case payload =>
    have hfollows := Payload.follows_history source calls
    refine ⟨hfollows, fun table => ?_⟩
    rw [Payload.rowOperands_keys hfollows.nodup, hfollows.entries]
  case order =>
    have hfollows := Select.orders_follow steps
    refine ⟨hfollows, ?_⟩
    rw [← hfollows.entries]
    rfl
  case aggregates =>
    refine ⟨Select.aggregates_follow steps, ?_⟩
    have hentries : ∀ fn, (Select.ofSteps steps).aggregates.entriesOf fn =
        current (steps.flatMap (SelectStep.aggregateChanges fn)) :=
      fun fn => (Select.aggregates_follow steps fn).entries
    simp only [AggregateClause.items, hentries]
  case update =>
    have hfollows := Update.data_follows steps
    refine ⟨hfollows, ?_, ?_⟩
    · rw [Update.template, hfollows.entries]
    · rw [Update.slots_template, Update.operands, hfollows.entries]

end FluentSql
