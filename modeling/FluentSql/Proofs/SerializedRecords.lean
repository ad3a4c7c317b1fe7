import FluentSql.Payload
import FluentSql.Proofs.OrderedMaps
import FluentSql.Proofs.StoredValues
/-!
# `FluentSql.Proofs.SerializedRecords` — payloads of records, with and without JSON

The fields of a record become the columns of a payload in two ways: each field is set with the value that
its type is stored as, or the record is written as JSON and the members of the object are taken. The
object holds the members in the order of their names, and a member has the value that the field would have
been set with. Only an unsigned number beyond the signed ones of 64 bits differs. Set directly it is the
text of its digits; a JSON number is tried as a float first, and the float has lost digits.

* `Json.exists_ofMembers` — the object of members that are put in one after the other;
* `Payload.exists_ofJson_ofMembers` — the payload of this object;
* `Record.serialized_agrees_iff` — where the two payloads of a record agree.
-/

namespace FluentSql

open OrderedMap

/-! ## Objects in the order of the names -/

/-- **In the order of the names**, each name once. -/
def Ascending (names : List String) : Prop := names.Pairwise (· < ·)

theorem Ascending.nodup {names : List String} (h : Ascending names) : names.Nodup := by
  apply List.Pairwise.imp _ h
  intro name other hlt heq
  rw [heq] at hlt
  exact String.lt_irrefl other hlt

namespace Json

variable (name : String) (value : Json) (object : List (String × Json))

/-- **What is found after a member was put in**: its value under its name, the old values elsewhere. -/
theorem lookup_insertMember (column : String) :
    lookup column (insertMember name value object) =
      if name = column then some value else lookup column object := by
  induction object with
  | nil => rfl
  | cons member object ih =>
    obtain ⟨other, old⟩ := member
    rw [insertMember]
    split
    · rfl
    · split
      · rename_i heq
        subst heq
        simp only [lookup]
        split <;> rfl
      · rename_i hne
        rw [lookup, ih, lookup]
        by_cases hother : other = column
        · have hname : name ≠ column := by
            intro h
            exact hne (h.trans hother.symm)
          simp [hother, hname]
        · simp [hother]

/-- A name of the object was there before or is the new one. -/
theorem mem_names_insertMember {column : String}
    (h : column ∈ (insertMember name value object).map Prod.fst) :
    column = name ∨ column ∈ object.map Prod.fst := by
  rw [← lookup_isSome_iff, lookup_insertMember] at h
  split at h
  · rename_i heq
    exact .inl heq.symm
  · exact .inr ((lookup_isSome_iff _ _).mp h)

/-- **The order stays** when a member is put in. -/
theorem ascending_insertMember (h : Ascending (object.map Prod.fst)) :
    Ascending ((insertMember name value object).map Prod.fst) := by
  induction object with
  | nil => exact List.pairwise_singleton _ _
  | cons member object ih =>
    obtain ⟨other, old⟩ := member
    obtain ⟨hfirst, hrest⟩ := List.pairwise_cons.mp h
    rw [insertMember]
    split
    · rename_i hlt
      refine List.pairwise_cons.mpr ⟨?_, h⟩
      intro column hcolumn
      rcases List.mem_cons.mp hcolumn with rfl | hmem
      · exact hlt
      · exact String.lt_trans hlt (hfirst column hmem)
    · split
      · rename_i heq
        subst heq
        exact h
      · rename_i hlt hne
        have hgt : other < name := Std.lt_of_le_of_ne (Std.not_lt.mp hlt) (Ne.symm hne)
        refine List.pairwise_cons.mpr ⟨?_, ih hrest⟩
        intro column hcolumn
        rcases mem_names_insertMember name value object hcolumn with rfl | hmem
        · exact hgt
        · exact hfirst column hmem

/-- **The object of members** has them in the order of their names, with the last value of each. -/
theorem exists_ofMembers (members : List (String × Json)) :
    ∃ object, ofMembers members = .obj object ∧ Ascending (object.map Prod.fst) ∧
      ∀ column, lookup column object = lookup column members.reverse := by
  refine ⟨_, rfl, ?_⟩
  -- the member that is put in last wins, so it is the one that is split off
  induction members using List.reverseRecOn with
  | nil => exact ⟨List.Pairwise.nil, fun column => rfl⟩
  | append_singleton members member ih =>
    obtain ⟨name, value⟩ := member
    obtain ⟨hascending, hlookup⟩ := ih
    rw [List.foldl_concat, List.reverse_concat]
    refine ⟨ascending_insertMember name value _ hascending, ?_⟩
    intro column
    rw [lookup_insertMember, hlookup, lookup]

end Json

/-- **The payload of an object of members** has the columns in the order of their names, each with the
    value of the last member of its name. -/
theorem Payload.exists_ofJson_ofMembers (members : List (String × Json)) :
    ∃ data, ofJson (.ofMembers members) = .ok data ∧ Ascending data.keys ∧
      ∀ column, data.get? column = lookup column (members.map (Prod.map id Value.ofJson)).reverse := by
  obtain ⟨object, hobject, hascending, hlookup⟩ := Json.exists_ofMembers members
  have hnames : (object.map (Prod.map id Value.ofJson)).map Prod.fst = object.map Prod.fst := by
    rw [List.map_map]
    rfl
  have hpairs : ofPairs (object.map (Prod.map id Value.ofJson)) =
      ⟨object.map (Prod.map id Value.ofJson)⟩ := by
    apply insertAll_of_nodup []
    rw [List.nil_append, hnames]
    exact hascending.nodup
  refine ⟨⟨object.map (Prod.map id Value.ofJson)⟩, ?_, ?_, ?_⟩
  · rw [hobject, ← hpairs]
    rfl
  · show Ascending ((object.map (Prod.map id Value.ofJson)).map Prod.fst)
    rw [hnames]
    exact hascending
  · intro column
    show lookup column (object.map (Prod.map id Value.ofJson)) = _
    rw [← List.map_reverse, lookup_map, lookup_map, hlookup]

/-! ## Fields -/

/-- **A datum of a record.** -/
inductive Scalar where
  | bool (b : Bool)
  | int (n : Int64)
  | unsigned (n : UInt64)
  | text (s : String)
  deriving DecidableEq, Repr

instance : ToValue Scalar where
  toValue
    | .bool b => toValue b
    | .int n => toValue n
    | .unsigned n => toValue n
    | .text s => toValue s

instance : Serialize Scalar where
  serialize
    | .bool b => serialize b
    | .int n => serialize n
    | .unsigned n => serialize n
    | .text s => serialize s

namespace Scalar

/-- **Whether a datum keeps its value in JSON**: all do but unsigned numbers beyond the signed ones. -/
def isExact : Scalar → Bool
  | .unsigned n => fitsSigned n
  | _ => true

/-- The value of a datum that was written as JSON: an unsigned number beyond the signed ones is rounded
    to a float. -/
def viaJson : Scalar → Value
  | .unsigned n => if fitsSigned n then toValue n else .float (.ofFloat (Float.ofInt n.toNat))
  | x => toValue x

theorem viaJson_eq_toValue_iff (x : Scalar) : x.viaJson = toValue x ↔ x.isExact = true := by
  cases x with
  | unsigned n =>
    cases hfits : fitsSigned n with
    | true => simp [viaJson, isExact, hfits, toValue]
    | false =>
      have hvalue : toValue (Scalar.unsigned n) = .text (toString n.toNat) :=
        ofUnsigned_of_not_fitsSigned hfits
      rw [hvalue]
      simp [viaJson, isExact, hfits]
  | _ => simp [viaJson, isExact]

/-- A datum is written as JSON and its value is taken from there. -/
theorem exists_serialize (x : Scalar) : ∃ j, serialize x = some j ∧ Value.ofJson j = x.viaJson := by
  cases x with
  | bool b => exact ⟨_, rfl, rfl⟩
  | text s => exact ⟨_, rfl, rfl⟩
  | int n =>
    refine ⟨_, rfl, ?_⟩
    have hrange := Number.WholeRange.contains_iff.mp (Number.WholeRange.signed64_contains n)
    show Value.ofJson (.int n.toInt) = .int n
    rw [Value.ofJson, if_pos hrange, n.ofInt_toInt]
  | unsigned n =>
    refine ⟨_, rfl, ?_⟩
    show Value.ofJson (.int n.toNat) = if fitsSigned n then toValue n else _
    cases hfits : fitsSigned n with
    | true =>
      have hle := fitsSigned_iff.mp hfits
      have hvalue : toValue n = .int (Int64.ofNat n.toNat) := (ofUnsigned_of_fitsSigned hfits).1
      rw [if_pos rfl, hvalue, Value.ofJson, if_pos, Int64.ofInt_eq_ofNat]
      simp only [Number.WholeRange.signed64]
      omega
    | false =>
      have hbeyond : ¬ n.toNat ≤ 9223372036854775807 := by
        rw [← fitsSigned_iff, hfits]
        simp
      rw [Value.ofJson, if_neg, if_neg (by simp)]
      simp only [Number.WholeRange.signed64]
      omega

end Scalar

/-- **A field of a record**; it may be of a type whose data may be missing. -/
inductive Field where
  | required (x : Scalar)
  | optional (x : Option Scalar)
  deriving DecidableEq, Repr

instance : ToValue Field where
  toValue
    | .required x => toValue x
    | .optional x => toValue x

instance : Serialize Field where
  serialize
    | .required x => serialize x
    | .optional x => serialize x

namespace Field

/-- The datum of a field, if it is there. -/
def datum? : Field → Option Scalar
  | .required x => some x
  | .optional x => x

/-- Whether a field keeps its value in JSON. -/
def isExact (field : Field) : Bool := field.datum?.all Scalar.isExact

/-- The value of a field that was written as JSON. -/
def viaJson (field : Field) : Value := Value.ofOption (field.datum?.map Scalar.viaJson)

theorem toValue_eq (field : Field) : toValue field = Value.ofOption (field.datum?.map toValue) := by
  cases field <;> rfl

theorem viaJson_eq_toValue_iff (field : Field) :
    field.viaJson = toValue field ↔ field.isExact = true := by
  rw [toValue_eq, viaJson, isExact]
  cases field.datum? with
  | none => simp
  | some x => exact x.viaJson_eq_toValue_iff

/-- A field is written as JSON and its value is taken from there. -/
theorem exists_serialize (field : Field) :
    ∃ j, serialize field = some j ∧ Value.ofJson j = field.viaJson := by
  cases field with
  | required x => exact x.exists_serialize
  | optional x =>
    cases x with
    | none => exact ⟨.null, rfl, rfl⟩
    | some x => exact x.exists_serialize

end Field

/-! ## Records -/

namespace Record

/-- The last field of a name. -/
def field? {α : Type} (r : Record α) (name : String) : Option α := lookup name r.fields.reverse

/-- **The payload of fields that are set** one after the other. -/
def assigned {α : Type} [ToValue α] (r : Record α) : Payload :=
  r.fields.foldl (fun data (name, x) => data.insert name (toValue x)) OrderedMap.empty

theorem get?_assigned {α : Type} [ToValue α] (r : Record α) (column : String) :
    r.assigned.get? column = (r.field? column).map toValue := by
  have hpairs : r.assigned = ofList (r.fields.map (Prod.map id toValue)) := by
    rw [ofList, insertAll, List.foldl_map]
    rfl
  rw [hpairs, get?_ofList, ← List.map_reverse, lookup_map, field?]

/-- Fields are written as members, each with its name and the value that it has in JSON. -/
theorem exists_members (fields : List (String × Field)) :
    ∃ members, (fields.mapM fun (name, x) => (serialize x).map (name, ·)) = some members ∧
      members.map (Prod.map id Value.ofJson) = fields.map (Prod.map id Field.viaJson) := by
  induction fields with
  | nil => exact ⟨[], rfl, rfl⟩
  | cons field fields ih =>
    obtain ⟨name, x⟩ := field
    obtain ⟨j, hj, hvalue⟩ := x.exists_serialize
    obtain ⟨members, hmembers, hvalues⟩ := ih
    refine ⟨(name, j) :: members, ?_, ?_⟩
    · simp only [List.mapM_cons, hj, Option.map_some, hmembers]
      rfl
    · rw [List.map_cons, hvalues, List.map_cons]
      simp [hvalue]

/-- **A record set directly and a record written as JSON.** Both ways give a payload of the same columns,
    the second in the order of their names, and the payload of the record is that of its JSON object. A
    column has the same value in both unless the field is an unsigned number beyond the signed ones of 64
    bits: set directly it is the text of its digits, from JSON it is a float. -/
theorem serialized_agrees_iff (r : Record Field) :
    ∃ j data, serialize r = some j ∧ Payload.ofJson j = .ok data ∧ Payload.ofSerialize r = .ok data ∧
      Ascending data.keys ∧
      ∀ column,
        r.assigned.get? column = (r.field? column).map toValue ∧
          data.get? column = (r.field? column).map Field.viaJson ∧
          (data.get? column = r.assigned.get? column ↔
            (r.field? column).all Field.isExact = true) := by
  obtain ⟨members, hmembers, hvalues⟩ := exists_members r.fields
  obtain ⟨data, hdata, hascending, hget⟩ := Payload.exists_ofJson_ofMembers members
  have hserialize : serialize r = some (.ofMembers members) := by
    show (do let members ← r.fields.mapM _; return Json.ofMembers members) = _
    rw [hmembers]
    rfl
  refine ⟨.ofMembers members, data, hserialize, hdata, ?_, hascending, ?_⟩
  · rw [Payload.ofSerialize, hserialize]
    exact hdata
  · intro column
    have hset := r.get?_assigned column
    have hjson : data.get? column = (r.field? column).map Field.viaJson := by
      rw [hget, hvalues, ← List.map_reverse, lookup_map, field?]
    refine ⟨hset, hjson, ?_⟩
    rw [hset, hjson]
    cases r.field? column with
    | none => simp
    | some x => simp [x.viaJson_eq_toValue_iff]

/-- The greatest unsigned number is set as its digits, and in JSON it is rounded to a power of two. -/
theorem greatestUnsigned_rounded :
    (⟨[("n", .required (.unsigned 18446744073709551615))]⟩ : Record Field).assigned =
        ⟨[("n", .text "18446744073709551615")]⟩ ∧
      Payload.ofSerialize (⟨[("n", .required (.unsigned 18446744073709551615))]⟩ : Record Field) =
        .ok ⟨[("n", .float (.ofFloat (Float.ofBits 0x43F0000000000000)))]⟩ ∧
      Value.float (.ofFloat (Float.ofBits 0x43F0000000000000)) ≠ .text "18446744073709551615" := by
  refine ⟨by decide, rfl, ?_⟩
  intro h
  cases h

end Record

end FluentSql
