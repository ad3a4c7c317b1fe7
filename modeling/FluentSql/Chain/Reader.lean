import FluentSql.Chain
import FluentSql.Json.Access
import FluentSql.Model.Query
import FluentSql.Payload
import FluentSql.Statement
/-!
# `FluentSql.Chain.Reader` — chains written as JSON

A chain is written as an array of calls, and a call as an array of its method and its arguments. A
value is written as JSON of its kind, or as an object with one member that says what it is made of;
a column is a text, or an object with the member `raw`.

* `Value.read?`, `Column.read?`, `Operator.read?` — the arguments; `Value.write` writes a value;
* `WhereStep.read?`, `SelectStep.read?`, … — the calls.
-/

namespace FluentSql

open Json

/-! ## Arguments -/

/-- A whole number of 64 bits. -/
def Value.readWhole? (n : Int) : Option Value :=
  (Number.WholeRange.signed64.narrow n).toOption.map fun n => .int (Int64.ofInt n)

/-- A value, by what it is made of. -/
def Value.readTagged? (tag s : String) : Option Value :=
  match tag with
  | "f" => (Number.parseDouble s.toList).toOption.map .float
  | "f32" => (Number.parseSingle s.toList).toOption.map .float
  | "b" | "slice" => (Text.Hex.toBytes? s.toList).map .blob
  | "datetime" => (Calendar.read Calendar.fractionalLayout s).toOption.map .ofDateTime
  | "date" => (Calendar.readDate s).toOption.map .ofDate
  | "rfc3339" => (Calendar.readZoned s).map .ofZonedTime
  | "uuid" => (Uuid.parse? s).map .ofUuid
  | _ => none

/-- **A value.** -/
def Value.read? : Json → Option Value
  | .null => some .null
  | .bool b => some (.bool b)
  | .int n => Value.readWhole? n
  | .str s => some (.text s)
  | .obj [("json", v)] => some (.ofJson v)
  | .obj [("u64", n)] => (word? n).map .ofUnsigned
  | .obj [("ref", v)] => Value.read? v
  | .obj [("opt", .null)] => some (.ofOption none)
  | .obj [("opt", v)] => (Value.read? v).map fun v => .ofOption (some v)
  | .obj [(tag, .str s)] => Value.readTagged? tag s
  | _ => none

/-- **A value as it is written**, so that `Value.read?` reads it back. -/
def Value.write : Value → Json
  | .null => .null
  | .bool b => .bool b
  | .int n => .int n.toInt
  | .float x => .obj [("f", .str (Number.plain x))]
  | .text s => .str s
  | .blob bytes => .obj [("b", .str (Text.Hex.lower bytes))]

/-- A name and a value. -/
def readPair? : Json → Option (String × Value)
  | .arr [.str name, v] => (Value.read? v).map fun v => (name, v)
  | _ => none

/-- **Names and values.** -/
def readPairs? : Json → Option (List (String × Value)) := list? readPair?

/-- Names and values as they are written. -/
def writePairs (entries : List (String × Value)) : Json :=
  .arr (entries.map fun (name, v) => .arr [.str name, v.write])

/-- A payload. -/
def Payload.read? (j : Json) : Option Payload := (readPairs? j).map Payload.ofPairs

/-- **A column.** -/
def Column.read? : Json → Option Column
  | .str s => some (.name s)
  | .obj [("raw", .str s)] => some (.raw s)
  | _ => none

/-- A column of a select list, alone or with its alias. -/
def SelectColumn.read? : Json → Option SelectColumn
  | .arr [.str c, .str called] => some ⟨.name c, some called⟩
  | j => (Column.read? j).map fun c => ⟨c, none⟩

/-- An operator, by its exact text. -/
def Operator.read? (j : Json) : Option Operator :=
  (str? j).bind fun s => Operator.all.find? fun op => op.sql == s

/-- A conjunction. -/
def Conjunction.read? : Json → Option Conjunction
  | .str "AND" => some .and
  | .str "OR" => some .or
  | _ => none

/-! ## Calls without nested calls -/

/-- A kind of join, by its first word. -/
def JoinKind.read? : String → Option JoinKind
  | "inner_join" | "inner_join_as" => some .inner
  | "left_join" | "left_join_as" => some .left
  | "right_join" | "right_join_as" => some .right
  | "cross_join" | "cross_join_as" => some .cross
  | _ => none

/-- **A call about joins.** -/
def JoinStep.read? (method : String) (args : List Json) : Option JoinStep := do
  match method, args with
  | "on", [near, far] => return .on ⟨← Column.read? near, .equal, ← Column.read? far⟩
  | "on_op", [near, op, far] =>
    return .on ⟨← Column.read? near, ← Operator.read? op, ← Column.read? far⟩
  | _, .str table :: rest =>
    let kind ← JoinKind.read? method
    match method.endsWith "_as", rest with
    | false, [] => return .join kind table none
    | true, [.str called] => return .join kind table (some called)
    | _, _ => none
  | _, _ => none

/-- **A call about an order.** -/
def readOrder? (method : String) (args : List Json) : Option (Column × Direction) := do
  match method, args with
  | "order_asc", [c] => return (← Column.read? c, .ascending)
  | "order_desc", [c] => return (← Column.read? c, .descending)
  | "order_by", [c, .str "asc"] => return (← Column.read? c, .ascending)
  | "order_by", [c, .str "desc"] => return (← Column.read? c, .descending)
  | _, _ => none

/-- **A call about an aggregate.** -/
def readAggregate? (method : String) (args : List Json) :
    Option (AggregateFn × Column × Option String) := do
  match method, args with
  | "count_all", [called] => return (.count, .name "*", ← opt? str? called)
  | _, [c, called] =>
    let fn ← AggregateFn.all.find? fun fn => fn.label == method
    return (fn, ← Column.read? c, ← opt? str? called)
  | _, _ => none

/-- How a method joins its condition, and the method without that. -/
def splitJoiner (method : String) : Conjunction × String :=
  match method.toList with
  | 'o' :: 'r' :: '_' :: rest => (.or, String.ofList rest)
  | _ => (.and, method)

/-- A condition that holds no calls. -/
def WhereStep.readFlat? (method : String) (args : List Json) : Option WhereStep := do
  match method, args with
  | "where_cmp", [c, .str op, v] => return .compareBy (← Column.read? c) op (← Value.read? v)
  | "where_fragment", [.str sql] => return .raw .and sql []
  | "where_raw_bind", [.str sql, bindings] => return .raw .and sql (← readPairs? bindings)
  | "where_not_exists", [.str table, c, parent] =>
    return .related .and table (← opt? str? c) (← opt? str? parent) false
  | _, _ =>
    let (joiner, base) := splitJoiner method
    match base, args with
    | "where_eq", [c, v] => return .compare joiner (← Column.read? c) .equal (← Value.read? v)
    | "where_op", [c, op, v] =>
      return .compare joiner (← Column.read? c) (← Operator.read? op) (← Value.read? v)
    | "where_like", [c, v] => return .compare joiner (← Column.read? c) .like (← Value.read? v)
    | "where_not_like", [c, v] =>
      return .compare joiner (← Column.read? c) .notLike (← Value.read? v)
    | "where_null", [c] => return .null joiner (← Column.read? c) true
    | "where_not_null", [c] => return .null joiner (← Column.read? c) false
    | "where_between", [c, low, high] =>
      return .between joiner (← Column.read? c) (← Value.read? low) (← Value.read? high) true
    | "where_not_between", [c, low, high] =>
      return .between joiner (← Column.read? c) (← Value.read? low) (← Value.read? high) false
    | "where_in", [c, vs] =>
      return .among joiner (← Column.read? c) (← list? Value.read? vs) true
    | "where_not_in", [c, vs] =>
      return .among joiner (← Column.read? c) (← list? Value.read? vs) false
    | "where_raw", [.str sql] => return .raw joiner sql []
    | "where_exists", [.str table, c, parent] =>
      return .related joiner table (← opt? str? c) (← opt? str? parent) true
    | _, _ => none

/-- A condition on groups that holds no calls. -/
def HavingStep.readFlat? (method : String) (args : List Json) : Option HavingStep := do
  match method, args with
  | "having_eq", [c, v] => return .compare .and (← Column.read? c) .equal (← Value.read? v)
  | "or_having_eq", [c, v] => return .compare .or (← Column.read? c) .equal (← Value.read? v)
  | "having_op", [c, op, v] =>
    return .compare .and (← Column.read? c) (← Operator.read? op) (← Value.read? v)
  | "or_having_op", [c, op, v] =>
    return .compare .or (← Column.read? c) (← Operator.read? op) (← Value.read? v)
  | "having_like", [c, v] => return .compare .and (← Column.read? c) .like (← Value.read? v)
  | "having_not_like", [c, v] => return .compare .and (← Column.read? c) .notLike (← Value.read? v)
  | "having_null", [c] => return .null (← Column.read? c) true
  | "having_not_null", [c] => return .null (← Column.read? c) false
  | "having_between", [c, low, high] =>
    return .between (← Column.read? c) (← Value.read? low) (← Value.read? high)
  | "having_in", [c, vs] => return .among (← Column.read? c) (← list? Value.read? vs)
  | "having_raw", [.str sql] => return .raw sql
  | _, _ => none

/-- A call about a SELECT statement itself. -/
def SelectStep.readFlat? (method : String) (args : List Json) : Option SelectStep := do
  match method, args with
  | "from", [.str table] => return .target table
  | "from_as", [.str table, .str called] => return .targetAs table called
  | "columns", [cs] => return .columns (← list? SelectColumn.read? cs)
  | "column", [c] => return .columns [⟨← Column.read? c, none⟩]
  | "column_as", [c, .str called] => return .columns [⟨← Column.read? c, some called⟩]
  | "distinct", [] => return .distinct
  | "limit", [n] => return .limit (← word? n)
  | "offset", [n] => return .offset (← word? n)
  | "page", [number, size] => return .page (← word? number) (← word? size)
  | "clean", [] => return .clean
  | "group_by", [c] => return .group (← Column.read? c)
  | _, _ =>
    ((readOrder? method args).map fun (c, d) => SelectStep.order c d).or <|
    ((JoinStep.read? method args).map .join).or <|
    (readAggregate? method args).map fun (fn, c, called) => .aggregate fn c called

/-! ## Calls -/

mutual

/-- **A call about conditions on groups.** -/
def HavingStep.read? : Json → Option HavingStep
  | .arr [.str "having_group", .arr steps] => (HavingStep.readAll? steps).map (.group .and)
  | .arr [.str "or_having_group", .arr steps] => (HavingStep.readAll? steps).map (.group .or)
  | .arr (.str method :: args) => HavingStep.readFlat? method args
  | _ => none

/-- Several of them. -/
def HavingStep.readAll? : List Json → Option (List HavingStep)
  | [] => some []
  | j :: js => do return (← HavingStep.read? j) :: (← HavingStep.readAll? js)

end

mutual

/-- **A call about conditions.** -/
def WhereStep.read? (j : Json) : Option WhereStep :=
  match j with
  | .arr [.str "where_group", .arr steps] => (WhereStep.readAll? steps).map (.group .and)
  | .arr [.str "or_where_group", .arr steps] => (WhereStep.readAll? steps).map (.group .or)
  | .arr [.str "where_exists_query", .arr steps] =>
    (SelectStep.readAll? steps).map (.subquery · true)
  | .arr [.str "where_not_exists_query", .arr steps] =>
    (SelectStep.readAll? steps).map (.subquery · false)
  | .arr (.str method :: args) => WhereStep.readFlat? method args
  | _ => none
termination_by (sizeOf j, 0)

/-- Several of them. -/
def WhereStep.readAll? (js : List Json) : Option (List WhereStep) :=
  match js with
  | [] => some []
  | j :: js => do return (← WhereStep.read? j) :: (← WhereStep.readAll? js)
termination_by (sizeOf js, 0)

/-- **A call about a SELECT statement.** -/
def SelectStep.read? (j : Json) : Option SelectStep :=
  match j with
  | .arr [.str "union", .arr steps] => (SelectStep.readAll? steps).map (.union false)
  | .arr [.str "union_all", .arr steps] => (SelectStep.readAll? steps).map (.union true)
  | j =>
    ((WhereStep.read? j).map .filter).or <| ((HavingStep.read? j).map .having).or <|
    match j with
    | .arr (.str method :: args) => SelectStep.readFlat? method args
    | _ => none
termination_by (sizeOf j, 1)

/-- Several of them. -/
def SelectStep.readAll? (js : List Json) : Option (List SelectStep) :=
  match js with
  | [] => some []
  | j :: js => do return (← SelectStep.read? j) :: (← SelectStep.readAll? js)
termination_by (sizeOf js, 0)

end

/-- **A call about a query of a model.** -/
def ModelStep.read? (j : Json) : Option ModelStep :=
  match j with
  | .arr [.str "with_trashed"] => some (.trashed .included)
  | .arr [.str "only_trashed"] => some (.trashed .only)
  | .arr [.str "limit", n] => (word? n).map .limit
  | .arr [.str "offset", n] => (word? n).map .offset
  | .arr [.str "group_by", c] => (Column.read? c).map .group
  | j =>
    ((WhereStep.read? j).map .filter).or <| ((HavingStep.read? j).map .having).or <|
    match j with
    | .arr (.str method :: args) =>
      ((readOrder? method args).map fun (c, d) => ModelStep.order c d).or <|
      (JoinStep.read? method args).map .join
    | _ => none

/-! ## Calls of other statements -/

/-- A call about an INSERT statement. -/
def InsertStep.read? : Json → Option InsertStep
  | .arr [.str "into_table", .str table] => some (.target table)
  | .arr [.str "values", row] => (Payload.read? row).map fun row => .rows [row]
  | .arr [.str "rows", datas] => (list? Payload.read? datas).map .rows
  | .arr [.str "set", .str column, v] => (Value.read? v).map (.set column)
  | .arr [.str "clean"] => some .clean
  | _ => none

/-- A call about an UPDATE statement. -/
def UpdateStep.read? (j : Json) : Option UpdateStep :=
  match j with
  | .arr [.str "table", .str table] => some (.target table)
  | .arr [.str "set", data] => (Payload.read? data).map .set
  | .arr [.str "set_value", .str column, v] =>
    (Value.read? v).map fun v => .set (Payload.ofPairs [(column, v)])
  | .arr [.str "clean"] => some .clean
  | .arr (.str method :: args) =>
    ((WhereStep.read? j).map .filter).or ((JoinStep.read? method args).map .join)
  | _ => none

/-- A call about a DELETE statement. -/
def DeleteStep.read? (j : Json) : Option DeleteStep :=
  match j with
  | .arr [.str "from", .str table] => some (.target table)
  | .arr [.str "clean"] => some .clean
  | .arr (.str method :: args) =>
    ((WhereStep.read? j).map .filter).or ((JoinStep.read? method args).map .join)
  | _ => none

/-- A call about a statement written by hand. -/
def RawStep.read? : Json → Option RawStep
  | .arr [.str "bind", .str name, v] => (Value.read? v).map fun v => .bind [(name, v)]
  | .arr [.str "bind_all", bindings] => (readPairs? bindings).map .bind
  | .arr [.str "clean"] => some .clean
  | _ => none

/-- **A call on a statement** of any kind. -/
def Statement.readStep? (s : Statement) (j : Json) : Option Statement :=
  match s with
  | .select q => (SelectStep.read? j).map fun step => .select (q.step step)
  | .insert q => (InsertStep.read? j).map fun step => .insert (q.step step)
  | .update q => (UpdateStep.read? j).map fun step => .update (q.step step)
  | .delete q => (DeleteStep.read? j).map fun step => .delete (q.step step)
  | .raw q => (RawStep.read? j).map fun step => .raw (q.step step)

/-! ## Conditions -/

/-- What a column is compared with. -/
def Operand.read? : Json → Option Operand
  | .null => some .null
  | .obj [("single", v)] => (Value.read? v).map .single
  | .obj [("pair", .arr [low, high])] => do return .pair (← Value.read? low) (← Value.read? high)
  | .obj [("list", vs)] => (list? Value.read? vs).map .list
  | _ => none

mutual

/-- **A test.** -/
def Predicate.read? : Json → Option Predicate
  | .obj [("simple", .arr [c, op, operand])] => do
    return .compare (← Column.read? c) (← Operator.read? op) (← Operand.read? operand)
  | .obj [("raw", .arr [.str sql, bindings])] => do
    return .raw sql (.ofList (← readPairs? bindings))
  | .obj [("exists", .arr [.str table, c, parent, .bool wanted])] => do
    return .related table (← opt? str? c) (← opt? str? parent) wanted
  | .obj [("exists_query", .arr [.arr steps, .bool wanted])] => do
    return .subquery (.ofSteps (← SelectStep.readAll? steps)) wanted
  | .obj [("group", .arr entries)] => (Conditions.readOnto? [] entries).map .group
  | _ => none

/-- Tests with their conjunctions, added to conditions. -/
def Conditions.readOnto? (conditions : Conditions) : List Json → Option Conditions
  | [] => some conditions
  | .arr [joiner, p] :: entries => do
    let joiner ← Conjunction.read? joiner
    let p ← Predicate.read? p
    Conditions.readOnto? (conditions.push joiner p) entries
  | _ => none

end

end FluentSql
