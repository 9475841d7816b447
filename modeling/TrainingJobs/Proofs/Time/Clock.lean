import TrainingJobs.Proofs.Time.Timestamp

/-!
# Times on a clock

A clock shows no leap second, so its times are plain numbers of nanoseconds (`clock`): what lies
between two of them is their difference (`since_eq`), and a delay is added to them (`later?_eq`).
The time that remains until a delay is over is then plain arithmetic (`remaining?_eq`).

An instant in a leap second is in order with the others (`Instant.le_iff`), but it has no such
number; what is behind it is told by `le_of_since_nonpos`.
-/

namespace TrainingJobs.Instant

variable {t e : Instant} {delay : Int}

/-- The order of instants. A leap second comes after the second whose number it has. -/
instance : LE Instant := ⟨fun e t => e.secs < t.secs ∨ e.secs = t.secs ∧ e.nanos ≤ t.nanos⟩

instance (e t : Instant) : Decidable (e ≤ t) :=
  inferInstanceAs (Decidable (_ ∨ _))

theorem le_iff : e ≤ t ↔ e.secs < t.secs ∨ e.secs = t.secs ∧ e.nanos ≤ t.nanos := Iff.rfl

/-- Nanoseconds since the beginning of 1970, as a clock counts them. -/
def clock (t : Instant) : Int := t.secs * 1000000000 + t.nanos

theorem nanos_lt_of_not_leap (h : t.isLeap = false) : t.nanos < 1000000000 :=
  Nat.lt_of_not_le (of_decide_eq_false h)

theorem since_eq (he : e.isLeap = false) (ht : t.isLeap = false) :
    e.since t = e.clock - t.clock := by
  unfold since clock nanosPerSecond
  rw [he, ht]
  simp only [Bool.false_eq_true, and_false, if_false]
  omega

/-- What no time is left until has come, seen from a clock. -/
theorem le_of_since_nonpos (ht : t.isLeap = false) (h : e.since t ≤ 0) : e ≤ t := by
  have hnanos := nanos_lt_of_not_leap ht
  have hlt := e.nanos_lt
  rw [le_iff]
  unfold since secondOfDay nanosPerSecond at h
  rw [ht] at h
  simp only [Bool.false_eq_true, and_false, if_false] at h
  cases hleap : e.isLeap with
  | false =>
    have hnanos' := nanos_lt_of_not_leap hleap
    simp only [hleap, Bool.false_eq_true, and_false, if_false] at h
    omega
  | true =>
    have hlate : 1000000000 ≤ e.nanos := of_decide_eq_true hleap
    simp only [hleap, and_true] at h
    -- a leap second that is still to come today is counted, one on another day is not
    split at h <;> omega

/-- The years that a timestamp can tell leave room for any delay of 32 bits. -/
theorem secs_bounds_of_year (h : 0 ≤ t.date.year ∧ t.date.year ≤ 9999) :
    -100000000000 ≤ t.secs ∧ t.secs ≤ 400000000000 := by
  obtain ⟨d, cycle, hdays, hdate⟩ := Date.ofDays_eq t.day
  have hyear : t.date.year = (d.date cycle).year := congrArg Date.year hdate
  have hcycle : (d.date cycle).year = d.yearOfCycle + cycle * 400 ∨
      (d.date cycle).year = d.yearOfCycle + cycle * 400 + 1 := by
    by_cases hearly : d.marchMonth < 10
    · exact .inl (congrArg Date.year (d.date_of_early hearly cycle))
    · exact .inr (congrArg Date.year (d.date_of_late hearly cycle))
  have hbounds := d.yearOfCycle_bounds
  have hday := d.day_bounds
  have hnumber := d.number_eq
  unfold day at hdays
  omega

/-- A clock may show the time, and a timestamp may tell it. -/
structure Recordable (t : Instant) : Prop where
  year : 0 ≤ t.date.year ∧ t.date.year ≤ 9999
  ordinary : t.isLeap = false

theorem Recordable.read?_write (h : t.Recordable) :
    Timestamp.read? (Timestamp.write t) = some t :=
  Timestamp.read?_write ⟨h.year, fun hleap => absurd hleap (Bool.eq_false_iff.1 h.ordinary)⟩

/-- When so many seconds after a time are over, in nanoseconds of the clock. -/
def due (t : Instant) (seconds : Int) : Int := t.clock + seconds * 1000000000

theorem Recordable.later?_eq (h : t.Recordable)
    (hdelay : -2147483648 ≤ delay ∧ delay ≤ 2147483647) :
    ∃ e, t.later? delay = some e ∧ e.isLeap = false ∧ e.clock = t.due delay := by
  have hsecs := secs_bounds_of_year h.year
  have hshift : t.shift delay = ⟨t.secs + delay, t.nanos, t.nanos_lt⟩ := by
    unfold shift
    rw [h.ordinary, if_neg (fun h => Bool.false_ne_true h.1)]
  refine ⟨⟨t.secs + delay, t.nanos, t.nanos_lt⟩, ?_, h.ordinary, ?_⟩
  · have hfits : -longestDelay ≤ delay ∧ delay ≤ longestDelay ∧ firstSecond ≤ t.secs + delay ∧
        t.secs + delay ≤ lastSecond := by
      unfold longestDelay firstSecond lastSecond
      omega
    unfold later?
    rw [hshift]
    exact if_pos hfits
  · show (t.secs + delay) * 1000000000 + t.nanos = t.secs * 1000000000 + t.nanos + _
    omega

theorem nanoseconds_ofNanoseconds? (n : Int) :
    ((Span.ofNanoseconds? n).getD Span.zero).nanoseconds = n.toNat := by
  cases n <;> rfl

theorem Recordable.remaining?_eq {now : Instant} (h : t.Recordable) (hnow : now.isLeap = false)
    (hdelay : -2147483648 ≤ delay ∧ delay ≤ 2147483647) :
    t.remaining? delay now = some ⟨(t.due delay - now.clock).toNat⟩ := by
  obtain ⟨e, hlater, he, hclock⟩ := h.later?_eq hdelay
  rw [remaining?, hlater, Option.map_some, since_eq he hnow, hclock]
  congr 1
  rw [← nanoseconds_ofNanoseconds?]

end TrainingJobs.Instant
