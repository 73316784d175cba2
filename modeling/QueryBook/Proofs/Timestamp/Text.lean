import QueryBook.Proofs.Timestamp.Calendar
import QueryBook.Sqlite.Cell

namespace QueryBook

open Decimal

/-!
# The order of timestamps and of their texts

A fraction is written with nothing, three, six or nine digits, so that one text may be the start of
another one. The groups of digits that are left out are zeros, and the shorter text comes first.

* `Timestamp.compareInTime` — the order in time; without leap seconds it is that of the nanoseconds
  (`Timestamp.compareInTime_eq`).
* `compare_writeFraction`, `Clock.compare_write`, `Date.compare_write_append` — the order of the
  parts of a text.
* `Sqlite.Cell.compareBytes_timestamp` — timestamps are bound as texts in the order of time.
-/

/-! ### The order in time -/

/-- The parts of a time of day are in their bounds, and only the last second of a minute goes on
    beyond its end. -/
theorem Clock.bounds (c : Clock) :
    c.hour < 24 ∧ c.minute < 60 ∧ c.second < 60 ∧ c.nano < 2000000000 ∧
      (1000000000 ≤ c.nano → c.second = 59) :=
  ⟨c.hour_lt, c.minute_lt, c.second_lt, c.nano_lt, c.leap⟩

/-- The seconds since midnight; a leap second counts as the second before. -/
def Clock.secondOfDay (c : Clock) : Nat := (c.hour * 60 + c.minute) * 60 + c.second

/-- The seconds of a time are fewer than those of a day. -/
theorem Clock.secondOfDay_lt (c : Clock) : c.secondOfDay < 86400 := by
  have hc := c.bounds
  unfold secondOfDay
  omega

/-- The order of timestamps in time: by their days, then by their seconds, and then by the
    nanoseconds since the second. A leap second goes on counting from the second before. -/
def Timestamp.compareInTime (t u : Timestamp) : Ordering :=
  (compare t.date.dayNumber u.date.dayNumber).then
    ((compare t.clock.secondOfDay u.clock.secondOfDay).then (compare t.clock.nano u.clock.nano))

/-- Where no second is a leap second, the order is that of the distances. -/
theorem Timestamp.compareInTime_eq {t u : Timestamp} (ht : t.clock.nano < 1000000000)
    (hu : u.clock.nano < 1000000000) :
    t.compareInTime u = compare t.nanosecondsSince2000 u.nanosecondsSince2000 := by
  have htime : ∀ c : Clock, c.nanoseconds = c.secondOfDay * 1000000000 + c.nano := fun _ => rfl
  have htday := t.clock.secondOfDay_lt
  have huday := u.clock.secondOfDay_lt
  unfold compareInTime nanosecondsSince2000
  rw [htime, htime]
  symm
  refine compare_eq_then ?_ ?_ fun hday => compare_eq_then ?_ ?_ fun hsecond =>
    compare_congr ?_ ?_ ?_ <;> omega

/-! ### Fractions -/

/-- A fraction is written in groups of three digits behind a point, and none is for zero. -/
theorem writeFraction_eq {n : Nat} (hn : n < 1000000000) :
    writeFraction n = if n = 0 then [] else '.' :: groups 3 n := by
  unfold writeFraction
  by_cases hzero : n = 0
  · rw [if_pos hzero, if_pos hzero]
  have hfirst : groups 3 n = places 3 (n / 1000000) ++ groups 2 (n % 1000000) := if_neg hzero
  have hsecond : ∀ m ≠ 0, groups 2 m = places 3 (m / 1000) ++ groups 1 (m % 1000) :=
    fun m hm => if_neg hm
  have hthird : ∀ m ≠ 0, groups 1 m = places 3 m := by
    intro m hm
    rw [groups, if_neg hm, Nat.pow_zero, Nat.div_one, groups, List.append_nil]
  have hsix : ∀ m, places 6 m = places 3 (m / 1000) ++ places 3 m := fun m => places_add 3 3 m
  have hnine : places 9 n = places 3 (n / 1000000) ++ places 6 n := places_add 3 6 n
  have hmod : ∀ m, places 3 (m % 1000) = places 3 m := fun m => places_mod 3 m
  have hmiddle : n % 1000000 / 1000 = n / 1000 % 1000 := by omega
  have hlast : n % 1000000 % 1000 = n % 1000 := by omega
  rw [if_neg hzero, if_neg hzero, hfirst]
  -- Three, six or nine digits, by the last group that is not zero.
  split_ifs with hmillion hthousand
  · rw [hmillion, groups_zero, List.append_nil, padded_eq_places (by decide) (by omega)]
  · have hquotient : n / 1000 / 1000 = n / 1000000 := by omega
    rw [hsecond _ hmillion, hlast, hthousand, groups_zero, List.append_nil, hmiddle, hmod,
      padded_eq_places (by decide) (by omega), hsix, hquotient]
  · rw [hsecond _ hmillion, hlast, hthird _ hthousand, hmiddle, hmod, hmod,
      padded_eq_places (by decide) (by omega), hnine, hsix]

/-- Fractions compare as they are written. -/
theorem compare_writeFraction {a b : Nat} (ha : a < 1000000000) (hb : b < 1000000000) :
    compare (writeFraction a) (writeFraction b) = compare a b := by
  rw [writeFraction_eq ha, writeFraction_eq hb]
  refine compare_unless_zero (fun n => '.' :: groups 3 n) (fun n => List.cons_ne_nil _ _) ?_
  rw [Text.compare_cons_self, compare_groups ha hb]

/-! ### Days and times -/

/-- Seconds of a day compare by hour, minute and second. -/
theorem Clock.compare_secondOfDay (c d : Clock) :
    compare c.secondOfDay d.secondOfDay = (compare c.hour d.hour).then
      ((compare c.minute d.minute).then (compare c.second d.second)) := by
  have hc := c.bounds
  have hd := d.bounds
  unfold secondOfDay
  refine compare_eq_then ?_ ?_ fun hhour => compare_eq_then ?_ ?_ fun hminute =>
    compare_congr ?_ ?_ ?_ <;> omega

/-- A leap second is written behind second 59 and before the next minute. -/
theorem Clock.compare_second (c d : Clock) :
    (compare (c.second + c.nano / 1000000000) (d.second + d.nano / 1000000000)).then
        (compare (c.nano % 1000000000) (d.nano % 1000000000)) =
      (compare c.second d.second).then (compare c.nano d.nano) := by
  have hc := c.bounds
  have hd := d.bounds
  have hsplit : ∀ c : Clock, c.second + c.nano / 1000000000 =
      (c.second * 1000000000 + c.nano) / 1000000000 ∧ c.nano % 1000000000 =
        (c.second * 1000000000 + c.nano) % 1000000000 := by
    intro c
    omega
  rw [(hsplit c).1, (hsplit c).2, (hsplit d).1, (hsplit d).2, ← compare_eq_div_then_mod]
  refine compare_eq_then ?_ ?_ fun hsecond => compare_congr ?_ ?_ ?_ <;> omega

/-- Times of day compare as they are written: by their seconds and then by their nanoseconds. -/
theorem Clock.compare_write (c d : Clock) :
    compare c.write d.write =
      (compare c.secondOfDay d.secondOfDay).then (compare c.nano d.nano) := by
  have hc := c.bounds
  have hd := d.bounds
  rw [write, write, compare_padded_append (by decide) (by omega) (by omega), Text.compare_cons_self,
    compare_padded_append (by decide) (by omega) (by omega), Text.compare_cons_self,
    compare_padded_append (by decide) (by omega) (by omega),
    compare_writeFraction (Nat.mod_lt _ (by decide)) (Nat.mod_lt _ (by decide)), compare_second,
    compare_secondOfDay, Ordering.then_assoc, Ordering.then_assoc]

/-- No month has more days than two digits can write. -/
theorem daysInMonth_le (year : Int) (month : Nat) : daysInMonth year month ≤ 31 := by
  unfold daysInMonth
  split_ifs <;> decide

/-- Days of four-digit years compare as they are written, and then what follows them. -/
theorem Date.compare_write_append {d e : Date} (hd : 0 ≤ d.year ∧ d.year ≤ 9999)
    (he : 0 ≤ e.year ∧ e.year ≤ 9999) (xs ys : List Char) :
    compare (d.write ++ xs) (e.write ++ ys) =
      (compare d.dayNumber e.dayNumber).then (compare xs ys) := by
  have hfits : ∀ d : Date, d.month < 10 ^ 2 ∧ d.day < 10 ^ 2 := by
    intro d
    have hmonth := d.month_le
    have hday := Nat.le_trans d.day_le (daysInMonth_le d.year d.month)
    omega
  have hyear : compare d.year.toNat e.year.toNat = compare d.year e.year := by
    refine compare_congr ?_ ?_ ?_ <;> omega
  rw [write, write, writeYear, writeYear, if_pos hd, if_pos he]
  simp only [List.append_assoc, List.cons_append]
  rw [compare_padded_append (by decide) (by omega) (by omega), Text.compare_cons_self,
    compare_padded_append (by decide) (hfits d).1 (hfits e).1, Text.compare_cons_self,
    compare_padded_append (by decide) (hfits d).2 (hfits e).2, hyear, compare_dayNumber,
    Ordering.then_assoc, Ordering.then_assoc]

/-! ### Timestamps -/

/-- No two times of day are at one time. -/
theorem Clock.secondOfDay_inj {c d : Clock} :
    c.secondOfDay = d.secondOfDay ∧ c.nano = d.nano ↔ c = d := by
  constructor
  · rintro ⟨hseconds, hnano⟩
    have hc := c.bounds
    have hd := d.bounds
    unfold secondOfDay at hseconds
    -- The parts are digits of mixed bases, and the bounds make them unique.
    have hhour : c.hour = d.hour := by omega
    have hminute : c.minute = d.minute := by omega
    have hsecond : c.second = d.second := by omega
    cases c
    cases d
    simp only [mk.injEq]
    exact ⟨hhour, hminute, hsecond, hnano⟩
  · rintro rfl
    exact ⟨rfl, rfl⟩

/-- No two timestamps are at one time. -/
theorem Timestamp.compareInTime_eq_eq {t u : Timestamp} : t.compareInTime u = .eq ↔ t = u := by
  rw [compareInTime, Ordering.then_eq_eq, Ordering.then_eq_eq, compare_eq_iff_eq,
    compare_eq_iff_eq, compare_eq_iff_eq, Date.dayNumber_inj, Clock.secondOfDay_inj]
  cases t
  cases u
  rw [mk.injEq]

/-- Timestamps of four-digit years are in the order of their bytes as in time. -/
theorem Timestamp.compareBytes_text {t u : Timestamp} (ht : 0 ≤ t.date.year ∧ t.date.year ≤ 9999)
    (hu : 0 ≤ u.date.year ∧ u.date.year ≤ 9999) :
    Text.compareBytes t.text u.text = t.compareInTime u := by
  rw [Text.compareBytes_eq, text, text, write, write, String.toList_ofList, String.toList_ofList,
    Date.compare_write_append ht hu, Text.compare_cons_self, Clock.compare_write, compareInTime]

/-- **Timestamps are bound as texts in the order of time.** The bytes of the texts of two timestamps
    of the years 0 to 9999 compare as the timestamps do, and different ones have different texts. -/
theorem Sqlite.Cell.compareBytes_timestamp (t u : Timestamp)
    (ht : 0 ≤ t.date.year ∧ t.date.year ≤ 9999) (hu : 0 ≤ u.date.year ∧ u.date.year ≤ 9999) :
    ∃ a b, ofValue (.timestamp t) = .text a ∧ ofValue (.timestamp u) = .text b ∧
      Text.compareBytes a b = t.compareInTime u ∧ (a = b ↔ t = u) := by
  have horder := Timestamp.compareBytes_text ht hu
  refine ⟨t.text, u.text, rfl, rfl, horder, ?_, congrArg Timestamp.text⟩
  intro htext
  rw [htext, Text.compareBytes, Std.compare_self] at horder
  exact Timestamp.compareInTime_eq_eq.1 horder.symm

/-- Half a second into a leap second. -/
def leapSecond : Timestamp :=
  ⟨⟨2016, 12, 31, by decide, by decide, by decide, by decide⟩,
    ⟨23, 59, 59, 1500000000, by decide, by decide, by decide, by decide, fun _ => rfl⟩⟩

/-- The second behind it. -/
def newYear : Timestamp :=
  ⟨⟨2017, 1, 1, by decide, by decide, by decide, by decide⟩,
    ⟨0, 0, 0, 0, by decide, by decide, by decide, by decide, fun h => absurd h (by decide)⟩⟩

/-- The leap second is counted beyond the day that it ends, and its text is less all the same. -/
theorem Sqlite.Cell.compareBytes_timestamp_leap :
    leapSecond.text = "2016-12-31 23:59:60.500" ∧
      newYear.nanosecondsSince2000 < leapSecond.nanosecondsSince2000 ∧
      ∃ a b, ofValue (.timestamp leapSecond) = .text a ∧ ofValue (.timestamp newYear) = .text b ∧
        Text.compareBytes a b = .lt ∧ a ≠ b := by
  obtain ⟨a, b, ha, hb, horder, heq⟩ :=
    compareBytes_timestamp leapSecond newYear (by decide) (by decide)
  refine ⟨by decide +kernel, by decide +kernel, a, b, ha, hb, ?_, ?_⟩
  · rw [horder]
    decide +kernel
  · rw [ne_eq, heq]
    decide

end QueryBook
