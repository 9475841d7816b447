import Mathlib.Algebra.Group.Nat.Defs
import TrainingJobs.Proofs.Names
import TrainingJobs.Proofs.Time.Calendar
import TrainingJobs.Time.Timestamp

/-!
# Written timestamps are read back

A number that is written with so many digits is read back from just these digits
(`fixedDigits?_padded`), so each part of a timestamp is read off the front of the text and leaves
the next one. What was written of an instant of the years 0 to 9999 names that instant again, to the
nanosecond (`read?_write`).
-/

namespace TrainingJobs

namespace Text

/-! ## Digits -/

theorem readNat?_of_isDigit {cs : List Char} (hne : cs ≠ []) (h : ∀ c ∈ cs, c.isDigit = true) :
    readNat? 10 cs = some (Nat.ofDigitChars 10 cs 0) := by
  cases cs with
  | nil => exact absurd rfl hne
  | cons c rest => exact readDigits_of_isDigit h 0

theorem toList_padded (width n : Nat) :
    (padded width n).toList =
      List.replicate (width - (Nat.toDigits 10 n).length) '0' ++ Nat.toDigits 10 n := by
  simp [padded]

theorem isDigit_of_mem_padded {width n : Nat} {c : Char} (h : c ∈ (padded width n).toList) :
    c.isDigit = true := by
  rw [toList_padded, List.mem_append] at h
  rcases h with h | h
  · rw [List.eq_of_mem_replicate h]
    rfl
  · exact Nat.isDigit_of_mem_toDigits (by decide) (by decide) h

theorem length_padded {width n : Nat} (hwidth : 0 < width) (h : n < 10 ^ width) :
    (padded width n).toList.length = width := by
  have hle : (Nat.toDigits 10 n).length ≤ width :=
    (Nat.length_toDigits_le_iff (by decide) hwidth).2 h
  rw [toList_padded, List.length_append, List.length_replicate]
  omega

theorem readNat?_padded (width n : Nat) : readNat? 10 (padded width n).toList = some n := by
  have hne : (padded width n).toList ≠ [] := by
    rw [toList_padded]
    exact List.append_ne_nil_of_right_ne_nil _ Nat.toDigits_ne_nil
  rw [readNat?_of_isDigit hne fun c hc => isDigit_of_mem_padded hc, toList_padded,
    Nat.ofDigitChars_append, Nat.ofDigitChars_replicate_zero, Nat.mul_zero,
    Nat.ofDigitChars_ten_toDigits]

theorem fixedDigits?_padded {width n : Nat} (hwidth : 0 < width) (h : n < 10 ^ width)
    (rest : List Char) : fixedDigits? width ((padded width n).toList ++ rest) = some (n, rest) := by
  have hlength := length_padded hwidth h
  have htake : ((padded width n).toList ++ rest).take width = (padded width n).toList :=
    List.take_left' hlength
  have hdrop : ((padded width n).toList ++ rest).drop width = rest := List.drop_left' hlength
  unfold fixedDigits?
  simp only [htake, hdrop, hlength, if_true, readNat?_padded, Option.map_some]

end Text

namespace Timestamp

open Text

variable {t : Instant} {rest : List Char}

/-- The instant can be written: it lies in a year of four digits, and if in a leap second, then in
one that ends a minute. -/
structure Writable (t : Instant) : Prop where
  year : 0 ≤ t.date.year ∧ t.date.year ≤ 9999
  leap : t.isLeap = true → t.secondOfDay % 60 = 59

theorem mark?_cons {isMark : Char → Bool} {c : Char} (h : isMark c = true) (rest : List Char) :
    mark? isMark (c :: rest) = some rest := if_pos h

/-! ## The parts of a timestamp -/

theorem readDate?_dateText {d : Date} (hd : d.Exists) (hyear : 0 ≤ d.year ∧ d.year ≤ 9999)
    (rest : List Char) : readDate? ((dateText d).toList ++ rest) = some (d, rest) := by
  have hmonth := hd.month_le
  have hday := hd.day_le
  have htext : (dateText d).toList ++ rest =
      (padded 4 d.year.natAbs).toList ++ '-' :: ((padded 2 d.month).toList ++ '-' ::
        ((padded 2 d.day).toList ++ rest)) := by
    unfold dateText yearText
    rw [if_neg (by omega), if_neg (by omega)]
    simp
  have habs : (d.year.natAbs : Int) = d.year := by omega
  unfold readDate?
  rw [htext, fixedDigits?_padded (by decide) (by omega)]
  simp only [Option.bind_eq_bind, Option.bind_some]
  rw [mark?_cons rfl, Option.bind_some, fixedDigits?_padded (by decide) (by omega),
    Option.bind_some]
  dsimp only
  rw [mark?_cons rfl, Option.bind_some, fixedDigits?_padded (by decide) (by omega),
    Option.bind_some]
  dsimp only
  rw [habs, if_pos hd]

theorem readTime?_timeText (hleap : t.isLeap = true → t.secondOfDay % 60 = 59)
    (rest : List Char) :
    readTime? ((timeText t).toList ++ rest) = some ((t.secondOfDay, t.isLeap), rest) := by
  have hday : t.secondOfDay < 86400 := by
    unfold Instant.secondOfDay
    omega
  -- the second of the minute as it is written, 60 in a leap second
  obtain ⟨second, hsecond, hwritten⟩ : ∃ second, second < 100 ∧
      second = t.secondOfDay % 60 + if t.isLeap then 1 else 0 := by
    refine ⟨_, ?_, rfl⟩
    split <;> omega
  have htext : (timeText t).toList ++ rest =
      (padded 2 (t.secondOfDay / 3600)).toList ++ ':' ::
        ((padded 2 (t.secondOfDay / 60 % 60)).toList ++ ':' ::
          ((padded 2 second).toList ++ rest)) := by
    rw [hwritten]
    simp [timeText]
  unfold readTime?
  rw [htext, fixedDigits?_padded (by decide) (by omega)]
  simp only [Option.bind_eq_bind, Option.bind_some]
  rw [mark?_cons rfl, Option.bind_some, fixedDigits?_padded (by decide) (by omega),
    Option.bind_some]
  dsimp only
  rw [mark?_cons rfl, Option.bind_some, fixedDigits?_padded (by decide) (by omega),
    Option.bind_some]
  dsimp only
  cases hisLeap : t.isLeap with
  | false =>
    rw [hisLeap, if_neg Bool.false_ne_true] at hwritten
    rw [if_pos (by omega)]
    have hsum : t.secondOfDay / 3600 * 3600 + t.secondOfDay / 60 % 60 * 60 + second =
        t.secondOfDay := by omega
    rw [hsum]
  | true =>
    have hlast := hleap hisLeap
    rw [hisLeap, if_pos rfl] at hwritten
    rw [if_neg (by omega), if_pos (by omega)]
    have hsum : t.secondOfDay / 3600 * 3600 + t.secondOfDay / 60 % 60 * 60 + 59 =
        t.secondOfDay := by omega
    rw [hsum]

theorem readFraction?_padded {places n : Nat} (hplaces : 0 < places ∧ places ≤ 9)
    (h : n < 10 ^ places) (hrest : ∀ c ∈ rest.head?, c.isDigit = false) :
    readFraction? ('.' :: ((padded places n).toList ++ rest)) =
      some (n * 10 ^ (9 - places), rest) := by
  have hdigits : ∀ c ∈ (padded places n).toList, c.isDigit = true :=
    fun c hc => isDigit_of_mem_padded hc
  have hlength := length_padded hplaces.1 h
  have hstop : rest.takeWhile Char.isDigit = [] ∧ rest.dropWhile Char.isDigit = rest := by
    cases rest with
    | nil => exact ⟨rfl, rfl⟩
    | cons c more =>
      have hc : c.isDigit = false := hrest c rfl
      simp [hc]
  have htake : ((padded places n).toList ++ rest).takeWhile Char.isDigit =
      (padded places n).toList := by
    rw [List.takeWhile_append_of_pos hdigits, hstop.1, List.append_nil]
  have hdrop : ((padded places n).toList ++ rest).dropWhile Char.isDigit = rest := by
    rw [List.dropWhile_append_of_pos hdigits, hstop.2]
  have hnine : (padded places n).toList.take 9 = (padded places n).toList :=
    List.take_of_length_le (by omega)
  simp only [readFraction?, htake, hdrop, hnine, readNat?_padded, hlength, Option.map_some]
  rfl

theorem readFraction?_fractionText {nanos : Nat} (h : nanos < 1000000000) (rest : List Char) :
    readFraction? ((fractionText nanos).toList ++ '+' :: rest) = some (nanos, '+' :: rest) := by
  have hstop : ∀ c ∈ ('+' :: rest).head?, c.isDigit = false := by
    intro c hc
    rw [← Option.some.inj hc]
    rfl
  have hpoint : ∀ places n : Nat, ("." ++ padded places n).toList ++ '+' :: rest =
      '.' :: ((padded places n).toList ++ '+' :: rest) := by
    intro places n
    simp
  unfold fractionText
  split
  next hzero =>
    rw [hzero]
    rfl
  split
  next hmillis =>
    rw [hpoint, readFraction?_padded (by decide) (by omega) hstop]
    congr 2
    omega
  split
  next hmicros =>
    rw [hpoint, readFraction?_padded (by decide) (by omega) hstop]
    congr 2
    omega
  · rw [hpoint, readFraction?_padded (by decide) (by omega) hstop]
    congr 2
    omega

theorem instantOf?_self (t : Instant) :
    instantOf? (t.date.toDays * 86400 + t.secondOfDay - 0) (t.nanos % nanosPerSecond) t.isLeap =
      some t := by
  have hsecs : t.date.toDays * 86400 + t.secondOfDay - 0 = t.secs := by
    show (Date.ofDays t.day).toDays * 86400 + ((t.secs % 86400).toNat : Int) - 0 = t.secs
    rw [Date.toDays_ofDays, Instant.day]
    omega
  have hnanos : (if t.isLeap = true then t.nanos % nanosPerSecond + nanosPerSecond
      else t.nanos % nanosPerSecond) = t.nanos := by
    have hlt := t.nanos_lt
    unfold Instant.isLeap nanosPerSecond
    simp only [decide_eq_true_eq]
    split <;> omega
  unfold instantOf?
  simp only [hnanos, hsecs]
  rw [dif_pos t.nanos_lt]

/-- **What is written of an instant names it,** to the nanosecond. -/
theorem read?_write (h : Writable t) : read? (write t) = some t := by
  have htext : (write t).toList = (dateText t.date).toList ++ 'T' :: ((timeText t).toList ++
      ((fractionText (t.nanos % nanosPerSecond)).toList ++ ['+', '0', '0', ':', '0', '0'])) := by
    simp [write]
  have hfraction : t.nanos % nanosPerSecond < 1000000000 := Nat.mod_lt _ (by decide)
  have hdate : t.date.Exists := Date.exists_ofDays t.day
  unfold read?
  rw [htext, readDate?_dateText hdate h.year]
  simp only [Option.bind_eq_bind, Option.bind_some]
  rw [mark?_cons rfl, Option.bind_some, readTime?_timeText h.leap, Option.bind_some]
  dsimp only
  rw [readFraction?_fractionText hfraction, Option.bind_some]
  exact instantOf?_self t

end Timestamp

end TrainingJobs
