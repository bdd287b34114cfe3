import Mathlib.Order.SuccPred.IntervalSucc
import Mathlib.Data.Int.SuccPred
import Mathlib.Tactic.IntervalCases

/-! Days and months of the proleptic Gregorian calendar, counted from one fixed day on, and the time
zones in which a date is read and written. Instants are Unix times in seconds. A change of the
clocks does no harm to the beginnings of days as long as it leaves the midnights alone.
-/

namespace HelsterApi.Clock

def leapDays (year : ℤ) : ℤ :=
  if year % 4 = 0 ∧ (year % 100 ≠ 0 ∨ year % 400 = 0) then 1 else 0

/-- Days from the first of January 1970 to the first day of a year. -/
def yearStart (year : ℤ) : ℤ :=
  365 * year + (year + 3) / 4 - (year + 99) / 100 + (year + 399) / 400 - 719528

def daysBefore (month : ℤ) : ℤ :=
  [0, 31, 59, 90, 120, 151, 181, 212, 243, 273, 304, 334].getD month.toNat 0

/-- Days from the first of January 1970 to the first day of a month, counted from January of the
year zero on.
-/
def monthStart (month : ℤ) : ℤ :=
  yearStart (month / 12) + daysBefore (month % 12)
    + if 2 ≤ month % 12 then leapDays (month / 12) else 0

def monthOf (day : ℤ) : ℤ :=
  let first := 4800 * ((day + 719528) / 146097)
  first + Nat.findGreatest (fun month : ℕ => monthStart (first + month) ≤ day) 4799

theorem yearStart_succ (year) : yearStart (year + 1) = yearStart year + 365 + leapDays year := by
  unfold yearStart leapDays
  split <;> omega

theorem monthStart_succ (month)
    : monthStart month < monthStart (month + 1)
      ∧ monthStart (month + 1) ≤ monthStart month + 31 := by
  have leap : 0 ≤ leapDays (month / 12) ∧ leapDays (month / 12) ≤ 1 := by
    unfold leapDays
    split <;> decide
  unfold monthStart
  by_cases december : month % 12 = 11
  · have year : (month + 1) / 12 = month / 12 + 1 := by omega
    have january : (month + 1) % 12 = 0 := by omega
    have first : daysBefore 0 = 0 := rfl
    have last : daysBefore 11 = 334 := rfl
    rw [year, january, december, yearStart_succ, first, last, if_pos (by decide),
      if_neg (by decide)]
    omega
  · have year : (month + 1) / 12 = month / 12 := by omega
    have following : (month + 1) % 12 = month % 12 + 1 := by omega
    rw [year, following]
    have low : 0 ≤ month % 12 := by omega
    have high : month % 12 < 11 := by omega
    generalize month % 12 = ofYear at low high
    interval_cases ofYear <;> simp [daysBefore] <;> omega

theorem lt_of_monthStart_lt {month other} (earlier : monthStart month < monthStart other)
    : month < other := by
  have mono := strictMono_int_of_lt_succ fun month => (monthStart_succ month).1
  exact mono.lt_iff_lt.mp earlier

theorem monthStart_era (era) : monthStart (4800 * era) = 146097 * era - 719528 := by
  have year : 4800 * era / 12 = 400 * era := by omega
  have january : 4800 * era % 12 = 0 := by omega
  unfold monthStart yearStart
  rw [year, january]
  simp [daysBefore]
  omega

theorem monthOf_spec (day)
    : monthStart (monthOf day) ≤ day ∧ day < monthStart (monthOf day + 1) := by
  unfold monthOf
  generalize found : (day + 719528) / 146097 = era
  have starts := monthStart_era era
  have ends := monthStart_era (era + 1)
  dsimp only
  generalize last : Nat.findGreatest (fun month : ℕ => monthStart (4800 * era + month) ≤ day)
    4799 = month
  have lower : monthStart (4800 * era + month) ≤ day := by
    rw [← last]
    refine Nat.findGreatest_spec (P := fun month : ℕ => monthStart (4800 * era + month) ≤ day)
      (Nat.zero_le 4799) ?_
    simp only [Nat.cast_zero, add_zero]
    omega
  refine ⟨lower, ?_⟩
  have bound := last ▸ Nat.findGreatest_le 4799
  rcases bound.eq_or_lt with final | inside
  · -- The last month of the 400 years: the next ones begin after the day.
    have next : 4800 * era + (month : ℤ) + 1 = 4800 * (era + 1) := by omega
    rw [next]
    omega
  · have later :=
      Nat.findGreatest_is_greatest (P := fun month : ℕ => monthStart (4800 * era + month) ≤ day)
        (last.trans_lt (Nat.lt_succ_self month)) inside
    rw [Nat.cast_succ, ← add_assoc] at later
    exact not_le.mp later

theorem monthOf_eq {day month} (starts : monthStart month ≤ day)
    (ends : day < monthStart (month + 1))
    : monthOf day = month := by
  have spec := monthOf_spec day
  have below := lt_of_monthStart_lt (starts.trans_lt spec.2)
  have above := lt_of_monthStart_lt (spec.1.trans_lt ends)
  omega

/-- An offset from UTC and the span of time in which the clocks show it, from `start` on and before
`finish`.
-/
structure Zone where
  offset : ℤ
  (start finish : Option ℤ)

def Zone.covers (zone : Zone) (instant : ℤ) : Bool :=
  zone.start.all (· ≤ instant) && zone.finish.all (instant < ·)

/-- A place with the zones its clocks show one after the other. -/
structure Location where
  lookup : ℤ → Zone
  covers_lookup : ∀ instant, (lookup instant).covers instant = true
  lookup_eq : ∀ {instant other}, (lookup instant).covers other = true
    → lookup other = lookup instant
  offset_lt : ∀ instant, |(lookup instant).offset| < 86400

namespace Location

/-- The place whose clocks change their offset once. -/
def changing (before after change : ℤ) (small : |before| < 86400 ∧ |after| < 86400) : Location where
  lookup instant :=
    if instant < change then ⟨before, none, some change⟩ else ⟨after, some change, none⟩
  covers_lookup instant := by
    split <;> simp_all [Zone.covers]
  lookup_eq := by
    intro instant other covered
    split at covered
    next early =>
      have alike : other < change := by simpa [Zone.covers] using covered
      rw [if_pos alike, if_pos early]
    next late =>
      have alike : ¬ other < change := by simpa [Zone.covers] using covered
      rw [if_neg alike, if_neg late]
  offset_lt instant := by
    split
    · exact small.1
    · exact small.2

variable (loc : Location) (instant : ℤ)

def clock : ℤ := instant + (loc.lookup instant).offset

/-- `time.Date` of what the clocks show. The zone is looked up as if they showed UTC, and once more
if the instant found lies outside of it.
-/
def date (shown : ℤ) : ℤ :=
  let zone := loc.lookup shown
  if zone.offset = 0 then shown
  else
    let utc := shown - zone.offset
    if zone.covers utc then utc else shown - (loc.lookup utc).offset

def day : ℤ := loc.clock instant / 86400

/-- `t.Weekday()`: Sunday is zero. The first of January 1970 was a Thursday. -/
def weekday : ℤ := (loc.day instant + 4) % 7

/-- `t.AddDate(0, 0, days)`. -/
def addDays (days : ℤ) : ℤ := loc.date (loc.clock instant + days * 86400)

/-- `t.AddDate(0, months, 0)`: the same day of another month, or as many days after its last one as
it has too few, at the same time.
-/
def addMonths (months : ℤ) : ℤ :=
  let month := monthOf (loc.day instant)
  let ofMonth := loc.day instant - monthStart month
  loc.date ((monthStart (month + months) + ofMonth) * 86400 + loc.clock instant % 86400)

/-- The clocks show one offset from `first` to `last`. -/
def Steady (first last : ℤ) : Prop :=
  ∀ instant, first ≤ instant → instant ≤ last
    → (loc.lookup instant).offset = (loc.lookup first).offset

variable {loc}

/-- Where the clocks are steady, `time.Date` undoes their offset. The instants looked up are less
than a day away.
-/
theorem date_of_steady {first last shown} (steady : loc.Steady first last)
    (after : first + 86400 ≤ shown) (before : shown + 86400 ≤ last)
    : loc.date shown = shown - (loc.lookup first).offset := by
  have small := abs_lt.mp (loc.offset_lt first)
  have read := steady shown (by omega) (by omega)
  dsimp only [date]
  rw [read]
  split
  · omega
  · split
    · rfl
    · rw [steady _ (by omega) (by omega)]

theorem clock_date {first last shown} (steady : loc.Steady first last)
    (after : first + 86400 ≤ shown) (before : shown + 86400 ≤ last)
    : loc.clock (loc.date shown) = shown := by
  have small := abs_lt.mp (loc.offset_lt first)
  have read := steady (shown - (loc.lookup first).offset) (by omega) (by omega)
  rw [date_of_steady steady after before, clock, read, sub_add_cancel]

end Location

/-- `next` is the first instant after `base` that meets `B`. -/
structure FirstAfter (B : ℤ → Prop) (base next : ℤ) : Prop where
  holds : B next
  later : base < next
  least : ∀ instant, B instant → base < instant → next ≤ instant

namespace Location

variable (loc : Location)

/-- The instant `time.Date` takes for the midnight at which a day begins. -/
def midnight (day : ℤ) : ℤ := loc.date (day * 86400)

/-- The clocks show another day than a second before. -/
def DayBegins (instant : ℤ) : Prop := loc.day (instant - 1) ≠ loc.day instant

/-- The clocks show midnight at the midnight of the day. -/
def Shown (day : ℤ) : Prop := loc.clock (loc.midnight day) = day * 86400

/-- The clocks show midnight at the midnight of the day, and the day from then until the next one,
and at no other time.
-/
structure RegularDay (day : ℤ) : Prop where
  shows : loc.Shown day
  spans : ∀ instant, loc.day instant = day
    ↔ loc.midnight day ≤ instant ∧ instant < loc.midnight (day + 1)

/-- All days from `first` to `last` are regular. -/
def RegularDays (first last : ℤ) : Prop := ∀ day, first ≤ day → day ≤ last → loc.RegularDay day

variable {loc}

theorem day_bounds (loc : Location) (instant)
    : instant - 2 * 86400 < loc.day instant * 86400
      ∧ loc.day instant * 86400 < instant + 86400 := by
  have small := abs_lt.mp (loc.offset_lt instant)
  unfold day clock
  omega

variable {first last : ℤ}

theorem RegularDays.within {first' last'} (regular : loc.RegularDays first last)
    (later : first ≤ first') (earlier : last' ≤ last)
    : loc.RegularDays first' last' :=
  fun day low high => regular day (later.trans low) (high.trans earlier)

variable {day : ℤ}

theorem Shown.day_midnight (shown : loc.Shown day) : loc.day (loc.midnight day) = day := by
  rw [Location.day, shown]
  omega

theorem Shown.addDays (shown : loc.Shown day) (days)
    : loc.addDays (loc.midnight day) days = loc.midnight (day + days) := by
  rw [Location.addDays, shown, ← add_mul, midnight]

theorem Shown.addMonths {month} (shown : loc.Shown (monthStart month)) (months)
    : loc.addMonths (loc.midnight (monthStart month)) months
      = loc.midnight (monthStart (month + months)) := by
  have ofMonth := monthOf_eq le_rfl (monthStart_succ month).1
  dsimp only [Location.addMonths]
  rw [shown.day_midnight, ofMonth, shown, sub_self, add_zero, Int.mul_emod_left, add_zero,
    midnight]

theorem RegularDay.midnight_lt (regular : loc.RegularDay day)
    : loc.midnight day < loc.midnight (day + 1) :=
  ((regular.spans _).mp regular.shows.day_midnight).2

theorem RegularDay.dayBegins (before : loc.RegularDay day) (regular : loc.RegularDay (day + 1))
    : loc.DayBegins (loc.midnight (day + 1)) := by
  have earlier := before.midnight_lt
  have eve : loc.day (loc.midnight (day + 1) - 1) = day := (before.spans _).mpr ⟨by omega, by omega⟩
  rw [DayBegins, eve, regular.shows.day_midnight]
  omega

/-- The midnights of regular days follow each other, by induction on the later day. -/
theorem RegularDays.midnight_le (regular : loc.RegularDays first last) (ordered : first ≤ last)
    : loc.midnight first ≤ loc.midnight last := by
  induction last, ordered using Int.leInduction with
  | base => exact le_rfl
  | succ last ordered ih =>
    have earlier := ih (regular.within le_rfl (by omega))
    exact earlier.trans (regular last ordered (by omega)).midnight_lt.le

variable {instant : ℤ}

/-- The instants between two midnights belong to the days in between, by induction on the
later day.
-/
theorem RegularDays.day_between (regular : loc.RegularDays first last) (ordered : first ≤ last)
    (after : loc.midnight first ≤ instant) (before : instant < loc.midnight last)
    : first ≤ loc.day instant ∧ loc.day instant < last := by
  induction last, ordered using Int.leInduction with
  | base => omega
  | succ last ordered ih =>
    by_cases earlier : instant < loc.midnight last
    · have between := ih (regular.within le_rfl (by omega)) earlier
      omega
    · have same := ((regular last ordered (by omega)).spans instant).mpr ⟨not_lt.mp earlier, before⟩
      omega

theorem RegularDay.not_dayBegins (regular : loc.RegularDay (loc.day instant))
    (after : loc.midnight (loc.day instant) < instant)
    : ¬ loc.DayBegins instant := by
  have ends := ((regular.spans instant).mp rfl).2
  have same := (regular.spans (instant - 1)).mpr ⟨by omega, by omega⟩
  exact fun begins => begins same

/-- The first instant after a given one at which a day of some kind begins is the midnight
of the first such day, if the days until then are regular.
-/
theorem RegularDays.firstAfter {P : ℤ → Prop} {next}
    (regular : loc.RegularDays (loc.day instant) next) (later : loc.day instant < next)
    (holds : P next) (first : ∀ day, loc.day instant < day → day < next → ¬ P day)
    : FirstAfter (fun t => loc.DayBegins t ∧ P (loc.day t)) instant (loc.midnight next) := by
  have today := regular _ le_rfl later.le
  have onDay := regular next later.le le_rfl
  have began := (today.spans instant).mp rfl
  refine ⟨⟨?_, ?_⟩, ?_, ?_⟩
  · have begins := (regular (next - 1) (by omega) (by omega)).dayBegins
    rw [sub_add_cancel] at begins
    exact begins onDay
  · rwa [onDay.shows.day_midnight]
  · exact began.2.trans_le ((regular.within (by omega) le_rfl).midnight_le (by omega))
  · rintro t ⟨begins, ofKind⟩ after
    by_contra early
    obtain ⟨low, high⟩ := regular.day_between later.le (by omega) (not_le.mp early)
    have midnight := (((regular _ low high.le).spans t).mp rfl).1
    rcases low.eq_or_lt with same | below
    · -- The day of the given instant began no later than that instant.
      refine (regular _ low high.le).not_dayBegins ?_ begins
      rw [← same]
      omega
    · exact first _ below high ofKind

/-- The days on which the clocks are not changed are regular. Only instants less than two days away
matter.
-/
theorem Steady.regularDay (steady : loc.Steady first last) (after : first + 2 * 86400 ≤ day * 86400)
    (before : day * 86400 + 3 * 86400 ≤ last)
    : loc.RegularDay day := by
  have small := abs_lt.mp (loc.offset_lt first)
  have begins : loc.midnight day = day * 86400 - (loc.lookup first).offset :=
    date_of_steady steady (by omega) (by omega)
  have ends : loc.midnight (day + 1) = (day + 1) * 86400 - (loc.lookup first).offset :=
    date_of_steady steady (by omega) (by omega)
  refine ⟨clock_date steady (by omega) (by omega), fun instant => ?_⟩
  have near := day_bounds loc instant
  rw [begins, ends]
  constructor
  · intro onDay
    have read := steady instant (by omega) (by omega)
    unfold Location.day clock at onDay
    omega
  · intro between
    have read := steady instant (by omega) (by omega)
    unfold Location.day clock
    omega

end Location

end HelsterApi.Clock
