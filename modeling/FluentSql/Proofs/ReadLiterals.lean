import FluentSql.Proofs.Literals
import FluentSql.Proofs.QuotedNames
/-!
# `FluentSql.Proofs.ReadLiterals` — literals read back

A value is shown in a log as a literal: a word, a number, a text in quotes or digits in quotes. One reader
takes them all apart (`Value.ofLiteral?`): the word or the first character tells the kind. Floats are left
out, since a float may be written like a whole number.

* `Value.ofLiteral?_literal` — every other value is read back from its literal;
* `Value.rest_of_literal_text` — wherever a token could end in the literal of a text, a quote goes on;
* `Value.literals_readBack` — both, so that values that differ have literals that differ.
-/

namespace FluentSql

open FluentSql.Text FluentSql.Number

/-! ## Digits of bytes -/

namespace Text.Hex

theorem digit?_upperDigit {n : Nat} (h : n < 16) : digit? (upperDigit n) = some n := by
  have hdigit : ∀ k : Fin 16, digit? (upperDigit k.val) = some k.val := by decide
  exact hdigit ⟨n, h⟩

/-- **Bytes are read back** from their digits. -/
theorem toBytes?_ofBytes (bytes : List UInt8) : toBytes? (ofBytes upperDigit bytes) = some bytes := by
  induction bytes with
  | nil => rfl
  | cons b bytes ih =>
    have hlt : b.toNat < 256 := b.toNat_lt
    have hhigh : digit? (upperDigit (b.toNat / 16)) = some (b.toNat / 16) := digit?_upperDigit (by omega)
    have hlow : digit? (upperDigit (b.toNat % 16)) = some (b.toNat % 16) := digit?_upperDigit (by omega)
    have hbyte : UInt8.ofNat (16 * (b.toNat / 16) + b.toNat % 16) = b := by
      rw [Nat.div_add_mod, UInt8.ofNat_toNat]
    rw [ofBytes, toBytes?, hhigh, hlow, ih]
    show some (UInt8.ofNat (16 * (b.toNat / 16) + b.toNat % 16) :: bytes) = some (b :: bytes)
    rw [hbyte]

end Text.Hex

namespace Value

/-! ## Reading a literal -/

/-- **The value that a literal stands for**: a word, a text in quotes, digits of bytes in quotes behind
    their mark, or a whole number of 64 bits. -/
def ofLiteral? (literal : String) : Option Value :=
  match literal.toList with
  | ['N', 'U', 'L', 'L'] => some .null
  | ['t', 'r', 'u', 'e'] => some (.bool true)
  | ['f', 'a', 'l', 's', 'e'] => some (.bool false)
  | '\'' :: cs => (undouble? '\'' cs).map fun text => .text (String.ofList text)
  | 'X' :: cs => ((unwrap? '\'' cs).bind Hex.toBytes?).map .blob
  | cs => (parseWhole .signed64 cs).toOption.map fun n => .int (Int64.ofInt n)

theorem ofLiteral?_text (s : String) : ofLiteral? (Value.text s).literal = some (.text s) := by
  rw [ofLiteral?, toList_literal_text]
  show (undouble? '\'' (doubled '\'' s.toList ++ ['\''])).map (fun text => Value.text (String.ofList text)) =
    some (.text s)
  rw [undouble?_doubled, Option.map_some, String.ofList_toList]

theorem ofLiteral?_blob (bytes : List UInt8) :
    ofLiteral? (Value.blob bytes).literal = some (.blob bytes) := by
  rw [ofLiteral?, toList_literal_blob]
  show ((unwrap? '\'' (wrap '\'' (Hex.ofBytes Hex.upperDigit bytes))).bind Hex.toBytes?).map Value.blob =
    some (.blob bytes)
  rw [unwrap?_wrap, Option.bind_some, Hex.toBytes?_ofBytes, Option.map_some]

/-- A number begins with a sign or a digit, so it is no word and not in quotes. -/
theorem ofLiteral?_int (n : Int64) : ofLiteral? (Value.int n).literal = some (.int n) := by
  have hread : parseWhole .signed64 (toString n.toInt).toList = .ok n.toInt :=
    parseWhole_signed64_eq_ok_iff.mpr ⟨spelled?_toString n.toInt, WholeRange.signed64_contains n⟩
  have hchars : ∀ c ∈ (toString n.toInt).toList, c = '-' ∨ c.isDigit = true :=
    fun c hc => eq_minus_or_isDigit_of_mem_toString hc
  rw [literal, ofLiteral?]
  split
  iterate 5
    · rename_i hword
      rw [hword] at hchars
      exact absurd (hchars _ List.mem_cons_self) (by decide)
  · rw [hread]
    exact congrArg (fun m => some (Value.int m)) n.ofInt_toInt

/-- **Every value but a float** is read back from its literal. -/
theorem ofLiteral?_literal {v : Value} (h : ∀ x, v ≠ .float x) : ofLiteral? v.literal = some v := by
  cases v with
  | null => decide
  | bool b => cases b <;> decide
  | int n => exact ofLiteral?_int n
  | float x => exact absurd rfl (h x)
  | text s => exact ofLiteral?_text s
  | blob bytes => exact ofLiteral?_blob bytes

/-- Floats are left out because one of them may be written like a whole number. -/
example : (Value.float ⟨0x3FF0000000000000⟩).literal = (Value.int 1).literal := by decide +kernel

/-! ## Texts in their quotes -/

/-- **No text ends its own literal**: a token at the beginning of the literal is all of it, or a quote
    stands behind the token, so that it does not end there. -/
theorem rest_of_literal_text {s : String} {contents rest : List Char}
    (h : (Value.text s).literal.toList = wrap '\'' contents ++ rest) :
    contents = s.toList ∧ rest = [] ∨ rest.head? = some '\'' := by
  by_cases hquote : rest.head? = some '\''
  · exact .inr hquote
  · rw [toList_literal_text] at h
    have hbody : doubled '\'' contents ++ ['\''] ++ rest = doubled '\'' s.toList ++ ['\''] :=
      (List.cons.inj h).2.symm
    rw [List.append_assoc] at hbody
    have hstop : IsStop '\'' ('\'' :: rest) := ⟨rfl, hquote⟩
    have hend : IsStop '\'' ['\''] := ⟨rfl, by simp⟩
    obtain ⟨hcontents, hrest⟩ := doubled_inj hstop hend hbody
    exact .inl ⟨hcontents, (List.cons.inj hrest).2⟩

/-- **Literals read back**, for all values but floats. One reader takes every literal back to its value,
    so values that differ have literals that differ. The literal of a text, whatever the text holds, is a
    single quoted token that stands for the text, and it is so in front of anything that does not begin
    with a quote: no token ends inside of it. -/
theorem literals_readBack :
    (∀ v : Value, (∀ x, v ≠ .float x) → ofLiteral? v.literal = some v) ∧
    (∀ v w : Value, (∀ x, v ≠ .float x) → (∀ x, w ≠ .float x) → v.literal = w.literal → v = w) ∧
    ∀ s : String,
      unwrap? '\'' (Value.text s).literal.toList = some s.toList ∧
      pieces? '\'' (Value.text s).literal.toList = some [.quoted s.toList] ∧
      (∀ rest, rest.head? ≠ some '\'' →
        pieces? '\'' ((Value.text s).literal.toList ++ rest) =
          (pieces? '\'' rest).map (.quoted s.toList :: ·)) ∧
      ∀ contents rest, (Value.text s).literal.toList = wrap '\'' contents ++ rest →
        contents = s.toList ∧ rest = [] ∨ rest.head? = some '\'' := by
  refine ⟨fun v hv => ofLiteral?_literal hv, fun v w hv hw heq => ?_, fun s => ?_⟩
  · have hread : some v = some w := by
      rw [← ofLiteral?_literal hv, heq, ofLiteral?_literal hw]
    exact Option.some.inj hread
  · have hpieces : ∀ rest : List Char, rest.head? ≠ some '\'' →
        pieces? '\'' ((Value.text s).literal.toList ++ rest) =
          (pieces? '\'' rest).map (.quoted s.toList :: ·) := by
      intro rest hrest
      rw [toList_literal_text]
      exact pieces?_wrap_append s.toList hrest
    refine ⟨?_, ?_, hpieces, fun contents rest h => rest_of_literal_text h⟩
    · rw [toList_literal_text]
      exact unwrap?_wrap '\'' s.toList
    · have halone := hpieces [] (by simp)
      rw [List.append_nil] at halone
      exact halone

/-- A text with quotes at both ends, a text that is written like a word, and bytes. -/
theorem quotedWords_readBack :
    (∀ x, Value.text "''a'" ≠ .float x) ∧ (∀ x, Value.text "NULL" ≠ .float x) ∧
      ofLiteral? "'''''a'''" = some (.text "''a'") ∧
      ofLiteral? "X'273A'" = some (.blob [39, 58]) ∧
      ofLiteral? "-9223372036854775808" = some (.int Int64.minValue) ∧
      (Value.text "NULL").literal ≠ Value.null.literal ∧
      pieces? '\'' "'''''a''' --".toList =
        some [.quoted "''a'".toList, .bare ' ', .bare '-', .bare '-'] := by
  obtain ⟨hread, hinj, htext⟩ := literals_readBack
  obtain ⟨-, -, hpieces, -⟩ := htext "''a'"
  have hquoted : ∀ x, Value.text "''a'" ≠ .float x := fun x h => Value.noConfusion h
  have hword : ∀ x, Value.text "NULL" ≠ .float x := fun x h => Value.noConfusion h
  refine ⟨hquoted, hword, hread _ hquoted, hread (.blob [39, 58]) (fun x h => Value.noConfusion h),
    hread (.int Int64.minValue) (fun x h => Value.noConfusion h), fun heq => ?_, ?_⟩
  · exact Value.noConfusion (hinj _ _ hword (fun x h => Value.noConfusion h) heq)
  · exact hpieces " --".toList (by decide)

end Value
end FluentSql
