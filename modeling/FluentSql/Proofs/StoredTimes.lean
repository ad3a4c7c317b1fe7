import FluentSql.Proofs.DayNumbers
import FluentSql.Proofs.PaddedNumbers
import FluentSql.Row
/-!
# `FluentSql.Proofs.StoredTimes` — stored times and their order

A time in a zone is stored as the text of what UTC clocks show at the same instant. An instant is given by
its minute, counted from the beginning of 1970 in UTC, and the second within the minute; there are 61 of
them in a minute with a leap second. With four digits for the year, the texts are in the order of the
instants, and a text is read as the date-time that it was made from.

* `ZonedTime.Before`, `ZonedTime.SameSecond` — the order of instants, to the second;
* `DateTime.text_lt_iff` — the order of texts is the order of the date-times;
* `DateTime.readDateTime_text` — what is read from a text;
* `stored_order` — stored times are in the order of the instants.
-/

namespace FluentSql

open FluentSql.Calendar FluentSql.Number FluentSql.Text

/-! ## Instants -/

namespace DateTime

/-- **A date-time that clocks show.** -/
structure IsReal (t : DateTime) : Prop where
  date : t.date.IsReal
  hour_lt : t.hour < 24
  minute_lt : t.minute < 60
  second_le : t.second ≤ 60

/-- **The order of date-times**, to the second. -/
def Before (t u : DateTime) : Prop :=
  t.date.Before u.date ∨ t.date = u.date ∧ (t.hour < u.hour ∨ t.hour = u.hour ∧
    (t.minute < u.minute ∨ t.minute = u.minute ∧ t.second < u.second))

/-- The minutes on the clock since the beginning of 1970. -/
def minutes (t : DateTime) : Int := t.date.dayNumber * 1440 + t.hour * 60 + t.minute

/-- **A date-time without its fraction.** -/
def whole (t : DateTime) : DateTime := { t with nanosecond := 0 }

/-- The years that are written with four digits and no sign. -/
def HasShortYear (t : DateTime) : Prop := 0 ≤ t.date.year ∧ t.date.year ≤ 9999

end DateTime

namespace ZonedTime

/-- **The minute of an instant**, counted from the beginning of 1970 in UTC. -/
def minutes (t : ZonedTime) : Int := t.shown.minutes - t.ahead

/-- **The order of instants**, to the second. -/
def Before (t u : ZonedTime) : Prop :=
  t.minutes < u.minutes ∨ t.minutes = u.minutes ∧ t.shown.second < u.shown.second

/-- **Instants within the same second.** -/
def SameSecond (t u : ZonedTime) : Prop := t.minutes = u.minutes ∧ t.shown.second = u.shown.second

/-- **Times whose text has a year of four digits.** -/
structure IsStorable (t : ZonedTime) : Prop where
  shown : t.shown.IsReal
  shortYear : t.utc.HasShortYear

end ZonedTime

variable {t u : DateTime}

namespace DateTime

/-- **Date-times are in the order of their minutes and seconds.** -/
theorem before_iff (ht : t.IsReal) (hu : u.IsReal) :
    t.Before u ↔ t.minutes < u.minutes ∨ t.minutes = u.minutes ∧ t.second < u.second := by
  have hhour := ht.hour_lt
  have hminute := ht.minute_lt
  have hhour' := hu.hour_lt
  have hminute' := hu.minute_lt
  rw [Before, ← Date.dayNumber_lt_iff ht.date hu.date, ← Date.dayNumber_inj ht.date hu.date]
  unfold minutes
  omega

/-- **Date-times of the same minute and second** differ in the fraction only. -/
theorem whole_eq_iff (ht : t.IsReal) (hu : u.IsReal) :
    t.whole = u.whole ↔ t.minutes = u.minutes ∧ t.second = u.second := by
  have hhour := ht.hour_lt
  have hminute := ht.minute_lt
  have hhour' := hu.hour_lt
  have hminute' := hu.minute_lt
  have hdate := Date.dayNumber_inj ht.date hu.date
  rw [whole, whole, DateTime.mk.injEq, ← hdate]
  unfold minutes
  omega

end DateTime

/-! ## UTC -/

namespace ZonedTime

/-- UTC clocks show the minute of the instant. -/
theorem utc_eq (t : ZonedTime) :
    t.utc = ⟨Date.ofDayNumber (t.minutes / 1440), (t.minutes % 1440).toNat / 60,
      (t.minutes % 1440).toNat % 60, t.shown.second, t.shown.nanosecond⟩ := rfl

theorem minutes_utc (t : ZonedTime) : t.utc.minutes = t.minutes := by
  rw [utc_eq, DateTime.minutes, Date.dayNumber_ofDayNumber]
  dsimp only
  omega

/-- **UTC clocks show a date-time that exists.** -/
theorem isReal_utc {t : ZonedTime} (h : t.shown.IsReal) : t.utc.IsReal := by
  rw [utc_eq]
  refine ⟨Date.isReal_ofDayNumber _, ?_, Nat.mod_lt _ (by decide), h.second_le⟩
  show (t.minutes % 1440).toNat / 60 < 24
  omega

end ZonedTime

/-! ## Texts -/

/-- The digits of a number in a stored text. -/
def Calendar.Field.width : Calendar.Field → Nat
  | .year => 4
  | _ => 2

theorem Calendar.Field.width_pos (f : Calendar.Field) : 0 < f.width := by cases f <;> decide

namespace DateTime

/-- **The numbers of a date-time.** -/
def number (t : DateTime) : Calendar.Field → Nat
  | .year => t.date.year.toNat
  | .month => t.date.month
  | .day => t.date.day
  | .hour => t.hour
  | .minute => t.minute
  | .second => t.second

/-- The digits of a number of a date-time. -/
def digits (t : DateTime) (f : Calendar.Field) : List Char := (Date.padded f.width (t.number f)).toList

/-- **Each number of a date-time** is in its range. -/
theorem contains_number (ht : t.IsReal) (hyear : t.HasShortYear) (f : Calendar.Field) :
    f.range.contains (t.number f) = true := by
  have hdays : Date.daysInMonth t.date.year t.date.month ≤ 31 := by
    unfold Date.daysInMonth
    split
    · split <;> decide
    all_goals decide
  rw [WholeRange.contains_iff]
  cases f with
  | year =>
    have := hyear.2
    simp only [Calendar.Field.range, number, WholeRange.signed32]
    omega
  | month =>
    have := ht.date.one_le_month
    have := ht.date.month_le
    simp only [Calendar.Field.range, number]
    omega
  | day =>
    have := ht.date.one_le_day
    have := ht.date.day_le
    simp only [Calendar.Field.range, number]
    omega
  | hour =>
    have := ht.hour_lt
    simp only [Calendar.Field.range, number]
    omega
  | minute =>
    have := ht.minute_lt
    simp only [Calendar.Field.range, number]
    omega
  | second =>
    have := ht.second_le
    simp only [Calendar.Field.range, number]
    omega

/-- **Each number of a date-time** fits its digits. -/
theorem number_lt (ht : t.IsReal) (hyear : t.HasShortYear) (f : Calendar.Field) : t.number f < 10 ^ f.width := by
  have hrange := WholeRange.contains_iff.mp (contains_number ht hyear f)
  have := hyear.2
  cases f <;> simp only [Calendar.Field.range, number, Calendar.Field.width] at hrange ⊢ <;> omega

/-- **Texts that begin with the same number of two date-times.** -/
theorem digits_append_lt_iff (ht : t.IsReal) (hu : u.IsReal) (hyear : t.HasShortYear)
    (hyear' : u.HasShortYear) (f : Calendar.Field) (mark : Char) (back back' : List Char) :
    t.digits f ++ mark :: back < u.digits f ++ mark :: back' ↔
      t.number f < u.number f ∨ t.number f = u.number f ∧ back < back' :=
  Date.padded_append_lt_iff f.width_pos (number_lt ht hyear f) (number_lt hu hyear' f) mark back back'

/-- **The parts of a stored text.** -/
theorem toList_text (h : t.HasShortYear) :
    t.text.toList =
      t.digits .year ++ '-' :: (t.digits .month ++ '-' :: (t.digits .day ++
        ' ' :: (t.digits .hour ++ ':' :: (t.digits .minute ++ ':' :: t.digits .second)))) := by
  have hyear : Date.yearText t.date.year = Date.padded 4 t.date.year.toNat := by
    rw [Date.yearText, if_pos (by simpa [HasShortYear] using h)]
  have htext : t.text = Date.padded 4 t.date.year.toNat ++ "-" ++ Date.padded 2 t.date.month ++ "-" ++
      Date.padded 2 t.date.day ++ " " ++ Date.padded 2 t.hour ++ ":" ++ Date.padded 2 t.minute ++ ":" ++
      Date.padded 2 t.second := by
    rw [text, Date.text, hyear]
    rfl
  simp [htext, String.toList_append, digits, Calendar.Field.width, number]

/-- **Stored texts are in the order of the date-times.** -/
theorem text_lt_iff (ht : t.IsReal) (hu : u.IsReal) (hyear : t.HasShortYear) (hyear' : u.HasShortYear) :
    t.text.toList < u.text.toList ↔ t.Before u := by
  have hlow := hyear.1
  have hlow' := hyear'.1
  have hparts := digits_append_lt_iff ht hu hyear hyear'
  have hsecond : t.digits .second < u.digits .second ↔ t.second < u.second :=
    Date.padded_lt_padded_iff (by decide) (number_lt ht hyear .second) (number_lt hu hyear' .second)
  have hdate : t.date = u.date ↔
      t.date.year = u.date.year ∧ t.date.month = u.date.month ∧ t.date.day = u.date.day := by
    rw [← Date.mk.injEq]
  rw [toList_text hyear, toList_text hyear', hparts, hparts, hparts, hparts, hparts, hsecond, Before,
    Date.Before, hdate]
  simp only [number]
  omega

/-- A stored text has ASCII characters only. -/
theorem toNat_lt_of_mem_text (h : t.HasShortYear) {c : Char} (hc : c ∈ t.text.toList) : c.toNat < 128 := by
  have hdigit {f : Calendar.Field} (hc : c ∈ t.digits f) : c.toNat < 128 := by
    have := toNat_of_isDigit (Date.isDigit_of_mem_padded hc)
    omega
  rw [toList_text h] at hc
  simp only [List.mem_append, List.mem_cons] at hc
  obtain hc | rfl | hc | rfl | hc | rfl | hc | rfl | hc | rfl | hc := hc
  all_goals first | exact hdigit hc | decide

end DateTime

/-! ## Reading texts -/

namespace Calendar

variable {f : Field} {item : Item} {items : List Item} {n : Nat} {cs rest : List Char}

/-- A consumed item is followed by the others. -/
theorem readItems_cons (h : item.read t cs = .ok (u, rest)) :
    readItems (item :: items) t cs = readItems items u rest := by
  rw [readItems, h]
  rfl

theorem Item.read_mark (c : Char) (t : DateTime) (rest : List Char) :
    (Item.mark c).read t (c :: rest) = .ok (t, rest) := by
  rw [Item.read, if_pos rfl]

/-- **A number that begins with a digit** is read at once: no blanks and no sign are before it. -/
theorem readField_cons {c : Char} (hc : c.isDigit = true) (cs : List Char) :
    readField f (c :: cs) = (readNumber (some f.width) (c :: cs)).map fun (n, rest) => ((n : Int), rest) := by
  have hblank : (c :: cs).dropWhile isBlank = c :: cs :=
    List.dropWhile_cons_of_neg (by simp [isBlank_of_isDigit hc])
  have hminus : c ≠ '-' := by
    rintro rfl
    exact absurd hc (by decide)
  have hplus : c ≠ '+' := by
    rintro rfl
    exact absurd hc (by decide)
  cases f <;> simp [readField, hblank, Field.width, hminus, hplus]

/-- **A padded number is the number of its field**, whatever is behind it. -/
theorem readField_padded (hn : n < 10 ^ f.width) (rest : List Char) :
    readField f ((Date.padded f.width n).toList ++ rest) = .ok ((n : Int), rest) := by
  have hnumber := readNumber_padded f.width_pos hn rest
  obtain ⟨c, cs, hcs, hc⟩ := Date.exists_padded_eq_cons f.width_pos hn
  rw [hcs, List.cons_append] at hnumber ⊢
  rw [readField_cons hc, hnumber]
  rfl

/-- **A padded number is read into its field.** -/
theorem Item.read_field (hn : n < 10 ^ f.width) (hrange : f.range.contains n = true) (t : DateTime)
    (rest : List Char) :
    (Item.field f).read t ((Date.padded f.width n).toList ++ rest) = .ok (f.store n t, rest) := by
  have hnarrow := WholeRange.narrow_of_contains hrange
  simp [Item.read, readField_padded hn, hnarrow, bind, Except.bind]

/-- A blank before a padded number is consumed. -/
theorem Item.read_blanks (hn : n < 10 ^ f.width) (t : DateTime) (rest : List Char) :
    Item.blanks.read t (' ' :: ((Date.padded f.width n).toList ++ rest)) =
      .ok (t, (Date.padded f.width n).toList ++ rest) := by
  obtain ⟨c, cs, hcs, hc⟩ := Date.exists_padded_eq_cons f.width_pos hn
  rw [hcs, List.cons_append, Item.read, List.dropWhile_cons_of_pos (by decide),
    List.dropWhile_cons_of_neg (by simp [isBlank_of_isDigit hc])]

end Calendar

namespace DateTime

/-- **The text of a date-time is read as this date-time**, without its fraction. -/
theorem readDateTime_text (ht : t.IsReal) (hyear : t.HasShortYear) :
    readDateTime t.text = .ok t.whole := by
  have hfits := number_lt ht hyear
  have hrange := contains_number ht hyear
  have hvalid : t.whole.date.isValid = true := by
    refine Date.isValid_iff.mpr ⟨ht.date, ?_, ?_⟩
    · exact Int.le_trans (by decide) hyear.1
    · exact Int.le_trans hyear.2 (by decide)
  have hitems : readItems storedLayout midnight t.text.toList = .ok (t.whole, []) := by
    rw [toList_text hyear, ← List.append_nil (t.digits .second)]
    refine (readItems_cons (Item.read_field (hfits .year) (hrange .year) _ _)).trans ?_
    refine (readItems_cons (Item.read_mark '-' _ _)).trans ?_
    refine (readItems_cons (Item.read_field (hfits .month) (hrange .month) _ _)).trans ?_
    refine (readItems_cons (Item.read_mark '-' _ _)).trans ?_
    refine (readItems_cons (Item.read_field (hfits .day) (hrange .day) _ _)).trans ?_
    refine (readItems_cons (Item.read_blanks (hfits .hour) _ _)).trans ?_
    refine (readItems_cons (Item.read_field (hfits .hour) (hrange .hour) _ _)).trans ?_
    refine (readItems_cons (Item.read_mark ':' _ _)).trans ?_
    refine (readItems_cons (Item.read_field (hfits .minute) (hrange .minute) _ _)).trans ?_
    refine (readItems_cons (Item.read_mark ':' _ _)).trans ?_
    refine (readItems_cons (Item.read_field (hfits .second) (hrange .second) _ _)).trans ?_
    have hcast : (t.date.year.toNat : Int) = t.date.year := Int.toNat_of_nonneg hyear.1
    show Except.ok ((⟨⟨(t.date.year.toNat : Int), _, _⟩, _, _, _, _⟩ : DateTime), []) = _
    rw [hcast]
    rfl
  have hread : Calendar.read storedLayout t.text = .ok t.whole := by
    rw [Calendar.read, hitems]
    show (if t.whole.date.isValid = true then Except.ok t.whole else .error Fault.outOfRange) = _
    rw [if_pos hvalid]
  rw [readDateTime, hread]

/-- Date-times that differ in the fraction only have the same text, and no others have it. -/
theorem text_eq_iff (ht : t.IsReal) (hu : u.IsReal) (hyear : t.HasShortYear) (hyear' : u.HasShortYear) :
    t.text = u.text ↔ t.whole = u.whole := by
  constructor
  · intro h
    have hread := readDateTime_text ht hyear
    rw [h, readDateTime_text hu hyear'] at hread
    exact (Except.ok.inj hread).symm
  · intro h
    show t.whole.text = u.whole.text
    rw [h]

end DateTime

/-! ## Stored times -/

/-- **Stored times are in the order of the instants.** Of two times in any zones, with UTC years of four
    digits, the one that comes first is stored as the smaller text, byte by byte; the texts are the same for
    times within one second, a leap second being one of its own; and a text is read as what UTC clocks show,
    without the fraction. -/
theorem stored_order {a b : ZonedTime} (ha : a.IsStorable) (hb : b.IsStorable) :
    ∃ s u, toValue a = .text s ∧ toValue b = .text u ∧
      (Postgres.textBytes s < Postgres.textBytes u ↔ a.Before b) ∧ (s = u ↔ a.SameSecond b) ∧
      (fromValue (.text s) : Except DecodeFault DateTime) = .ok { a.utc with nanosecond := 0 } := by
  have hreal := ZonedTime.isReal_utc ha.shown
  have hreal' := ZonedTime.isReal_utc hb.shown
  refine ⟨a.utc.text, b.utc.text, rfl, rfl, ?_, ?_, ?_⟩
  · rw [Postgres.textBytes_lt_iff (fun _ => DateTime.toNat_lt_of_mem_text ha.shortYear)
        (fun _ => DateTime.toNat_lt_of_mem_text hb.shortYear),
      DateTime.text_lt_iff hreal hreal' ha.shortYear hb.shortYear, DateTime.before_iff hreal hreal',
      ZonedTime.minutes_utc, ZonedTime.minutes_utc]
    rfl
  · rw [DateTime.text_eq_iff hreal hreal' ha.shortYear hb.shortYear, DateTime.whole_eq_iff hreal hreal',
      ZonedTime.minutes_utc, ZonedTime.minutes_utc]
    rfl
  · show calendarOfValue "datetime text" readDateTime (.text a.utc.text) = .ok a.utc.whole
    simp only [calendarOfValue, Value.asText, DateTime.readDateTime_text hreal ha.shortYear]

/-- The leap second at the end of 2016, on clocks that are an hour ahead of UTC. -/
def leapSecond : ZonedTime := ⟨⟨⟨2017, 1, 1⟩, 0, 59, 60, 250000000⟩, 60⟩

/-- The beginning of 2017, on clocks that are five hours behind UTC. -/
def newYear : ZonedTime := ⟨⟨⟨2016, 12, 31⟩, 19, 0, 0, 0⟩, -300⟩

/-- The leap second is before the new year, though its clocks show a later time, and it is read as a
    second on its own. -/
theorem leapSecond_stored :
    leapSecond.IsStorable ∧ newYear.IsStorable ∧ toValue leapSecond = .text "2016-12-31 23:59:60" ∧
      toValue newYear = .text "2017-01-01 00:00:00" ∧
      Postgres.textBytes "2016-12-31 23:59:60" < Postgres.textBytes "2017-01-01 00:00:00" ∧
      (fromValue (.text "2016-12-31 23:59:60") : Except DecodeFault DateTime) =
        .ok ⟨⟨2016, 12, 31⟩, 23, 59, 60, 0⟩ := by
  have hleap : leapSecond.IsStorable := ⟨⟨⟨by decide, by decide, by decide, by decide⟩, by decide, by decide,
    by decide⟩, by decide, by decide⟩
  have hnew : newYear.IsStorable := ⟨⟨⟨by decide, by decide, by decide, by decide⟩, by decide, by decide,
    by decide⟩, by decide, by decide⟩
  have hutc : leapSecond.utc = ⟨⟨2016, 12, 31⟩, 23, 59, 60, 250000000⟩ := by decide
  obtain ⟨s, u, hs, hu, hbefore, -, hread⟩ := stored_order hleap hnew
  obtain rfl : "2016-12-31 23:59:60" = s := Value.text.inj hs
  obtain rfl : "2017-01-01 00:00:00" = u := Value.text.inj hu
  rw [hutc] at hread
  exact ⟨hleap, hnew, hs, hu, hbefore.mpr (.inl (by decide)), hread⟩

end FluentSql
