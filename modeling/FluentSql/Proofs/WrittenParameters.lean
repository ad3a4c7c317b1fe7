import FluentSql.Postgres.Write
import FluentSql.Proofs.ByteOffsets
/-!
# `FluentSql.Proofs.WrittenParameters` — what is written of a parameter

A value is written in steps: something is read and may be a fault, then bytes go behind those in the
buffer. All reading comes before all writing, so a value writes its bytes as a whole or leaves the buffer
as it was, and the bytes do not depend on what is in the buffer.

* `Writing.Appends` — a computation that writes given bytes, or fails and writes nothing;
* `outcome_write` — writing a value is encoding it and putting its bytes behind the others;
* `decode_textBytes` — the bytes of an ASCII text read back.
-/

namespace FluentSql.Postgres

open FluentSql.Number FluentSql.Text

variable {ε α : Type}

namespace Writing

/-- **All or nothing.** The computation puts the bytes behind those of any buffer, or it fails with the
    fault and leaves the buffer alone. -/
def Appends (w : Writing Unit) (bytes : Except EncodeFault (List UInt8)) : Prop :=
  ∀ out, w.outcome out =
    match bytes with
    | .ok bytes => (.ok (), out ++ bytes)
    | .error fault => (.error fault, out)

/-! ## Steps -/

theorem appends_put (bytes : List UInt8) : Appends (put bytes) (.ok bytes) := by
  intro out
  rfl

/-- More bytes behind the first ones. -/
theorem appends_put_put (first second : List UInt8) :
    Appends (do put first; put second) (.ok (first ++ second)) := by
  intro out
  show (Except.ok (), out ++ first ++ second) = (Except.ok (), out ++ (first ++ second))
  rw [List.append_assoc]

/-- **A reading** that comes before all writing and may be a fault. -/
theorem appends_obtain {read : Except ε α} {fault : ε → EncodeFault} {w : α → Writing Unit}
    {bytes : Except EncodeFault (List UInt8)} (hok : ∀ x, read = .ok x → Appends (w x) bytes)
    (herror : ∀ e, read = .error e → bytes = .error (fault e)) :
    Appends (obtain read fault >>= w) bytes := by
  cases hread : read with
  | ok x => exact hok x hread
  | error e =>
    intro out
    rw [herror e hread]
    rfl

/-! ## Values of each kind -/

theorem appends_putNarrowed (range : WholeRange) (width : Nat) (n : Int) :
    Appends (putNarrowed range width n) ((narrowBytes range width n).mapError .whole) := by
  apply appends_obtain
  · intro m hm
    rw [narrowBytes, hm]
    exact appends_put _
  · intro fault hfault
    rw [narrowBytes, hfault]
    rfl

/-- **A whole number.** -/
theorem appends_putWhole (n : Int64) (type : ColumnType) :
    Appends (putWhole n type) ((encodeWhole n type).mapError .whole) := by
  cases type with
  | int2 => exact appends_putNarrowed .signed16 2 n.toInt
  | int4 => exact appends_putNarrowed .signed32 4 n.toInt
  | _ => exact appends_put _

/-- **A float.** -/
theorem appends_putFloat (x : Double) (type : ColumnType) :
    Appends (putFloat x type) (.ok (encodeFloat x type)) := by
  cases type <;> exact appends_put _

theorem appends_putDigits (s : String) (type : ColumnType) :
    Appends (putDigits s type) (encodeDigits s type) := by
  apply appends_obtain
  · intro n hn
    rw [encodeDigits, hn]
    exact appends_putWhole (Int64.ofInt n) type
  · intro fault hfault
    rw [encodeDigits, hfault]

theorem appends_putDecimal (s : String) (type : ColumnType) :
    Appends (putDecimal s type) (encodeDecimal s (encodeFloat · type)) := by
  apply appends_obtain
  · intro x hx
    rw [encodeDecimal, hx]
    exact appends_putFloat x type
  · intro fault hfault
    rw [encodeDecimal, hfault]

theorem appends_putDateTime (s : String) : Appends (putDateTime s) (encodeDateTime s) := by
  apply appends_obtain
  · intro t ht
    rw [encodeDateTime, ht]
    exact appends_put _
  · intro fault hfault
    rw [encodeDateTime, hfault]

theorem appends_putDate (s : String) : Appends (putDate s) (encodeDate s) := by
  apply appends_obtain
  · intro d hd
    rw [encodeDate, hd]
    exact appends_put _
  · intro fault hfault
    rw [encodeDate, hfault]

theorem appends_putUuid (s : String) :
    Appends (putUuid s) ((Uuid.parse? s).elim (.error .notUuid) .ok) := by
  apply appends_obtain
  · intro bytes hbytes
    rw [hbytes]
    exact appends_put bytes
  · intro fault hfault
    exact hfault

theorem appends_putJson (s : String) (version : List UInt8) :
    Appends (putJson s version) (encodeJson s version) := by
  rw [encodeJson]
  cases hparse : Json.parse? s with
  | none =>
    intro out
    rw [putJson, hparse]
    rfl
  | some j =>
    rw [putJson, hparse]
    exact appends_put_put version (textBytes j.compact)

/-- **A text** is read before anything is written, whatever the type. -/
theorem appends_putText (s : String) (type : ColumnType) :
    Appends (putText s type) (encodeText s type) := by
  cases type with
  | timestamp => exact appends_putDateTime s
  | timestamptz => exact appends_putDateTime s
  | date => exact appends_putDate s
  | uuid => exact appends_putUuid s
  | json => exact appends_putJson s []
  | jsonb => exact appends_putJson s [1]
  | int2 => exact appends_putDigits s .int2
  | int4 => exact appends_putDigits s .int4
  | int8 => exact appends_putDigits s .int8
  | float4 => exact appends_putDecimal s .float4
  | float8 => exact appends_putDecimal s .float8
  | _ => exact appends_put_put _ (textBytes s)

end Writing

open Writing

/-! ## Values -/

/-- **What an encoded value leaves in a buffer**: its bytes behind the others, and nothing more if it is
    null or could not be encoded. -/
def appended (out : List UInt8) :
    Except EncodeFault (Option (List UInt8)) → Except EncodeFault Presence × List UInt8
  | .ok (some bytes) => (.ok .present, out ++ bytes)
  | .ok none => (.ok .absent, out)
  | .error fault => (.error fault, out)

/-- A value that is not null is present once its bytes are written. -/
theorem Writing.Appends.outcome_present {w : Writing Unit} {bytes : Except EncodeFault (List UInt8)}
    (h : Appends w bytes) (out : List UInt8) :
    (do w; return Presence.present : Writing Presence).outcome out = appended out (bytes.map some) := by
  have hout : w.run.run out = _ := h out
  rw [outcome, ExceptT.run_bind, StateT.run_bind, hout]
  cases bytes <;> rfl

/-- **Writing a value is encoding it** and putting the bytes behind those of the buffer. -/
theorem outcome_write (v : Value) (type : ColumnType) (out : List UInt8) :
    (write v type).outcome out = appended out (encode v type) := by
  cases v with
  | null => rfl
  | bool b => exact (appends_put (boolBytes b)).outcome_present out
  | int n => exact (appends_putWhole n type).outcome_present out
  | float x => exact (appends_putFloat x type).outcome_present out
  | text s => exact (appends_putText s type).outcome_present out
  | blob bytes => exact (appends_put bytes).outcome_present out

/-! ## The bytes of a text -/

/-- The bytes from an offset on are taken one after the other. -/
theorem toList_loop_eq (bytes : ByteArray) (i : Nat) (read : List UInt8) :
    ByteArray.toList.loop bytes i read = read.reverse ++ bytes.data.toList.drop i := by
  fun_induction ByteArray.toList.loop bytes i read with
  | case1 i read h ih =>
    have hget : bytes.get! i = bytes.data.toList[i] := getElem!_pos bytes.data i h
    rw [ih, hget, List.reverse_cons, List.append_assoc, List.drop_eq_getElem_cons h]
    rfl
  | case2 i read h =>
    have hall : bytes.data.toList.drop i = [] := List.drop_eq_nil_of_le (Nat.le_of_not_lt h)
    rw [hall, List.append_nil]

theorem textBytes_eq (s : String) : textBytes s = Placeholder.encoded s.toList := by
  rw [← Placeholder.bytesOf_eq, textBytes, ByteArray.toList, toList_loop_eq]
  rfl

/-- A byte below 128 is a whole character. -/
theorem decodeFrom_encoded {cs : List Char} (h : ∀ c ∈ cs, c.toNat < 128) (index : Nat) :
    Utf8.decodeFrom index none (Placeholder.encoded cs) = .ok cs := by
  induction cs generalizing index with
  | nil => rfl
  | cons c cs ih =>
    have hc : c.toNat < 128 := h c List.mem_cons_self
    have hbyte : (UInt8.ofNat c.toNat).toNat = c.toNat := by
      rw [UInt8.toNat_ofNat']
      omega
    have hlead : Utf8.lead (UInt8.ofNat c.toNat) = .whole c := by
      simp only [Utf8.lead, hbyte, if_pos hc, Char.ofNat_toNat]
    have hrest := ih (fun c hmem => h c (List.mem_cons_of_mem _ hmem)) (index + 1)
    rw [Placeholder.encoded_cons, Placeholder.utf8EncodeChar_of_lt hc, List.singleton_append,
      Utf8.decodeFrom, hlead]
    simp only [hrest]
    rfl

/-- **The bytes of an ASCII text** are read as the text. -/
theorem decode_textBytes {s : String} (h : ∀ c ∈ s.toList, c.toNat < 128) :
    Utf8.decode (textBytes s) = .ok s := by
  rw [textBytes_eq, Utf8.decode, decodeFrom_encoded h]
  exact congrArg Except.ok String.ofList_toList

end FluentSql.Postgres
