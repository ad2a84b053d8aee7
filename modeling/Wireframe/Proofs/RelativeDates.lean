import Wireframe.Converter
import Wireframe.Proofs.WrittenDays

/-!
# Relative dates

What becomes of a text that names a day: words for how many days that day is from the one of the
reference, both at Greenwich. So a moment is converted alike however it is written.
-/

namespace Wireframe

open Text Calendar

namespace Calendar

variable {days day now : Int} {words : String} {cs cs' : List Char} {date : Date}
  {timestamp other : Timestamp}

/-- The words for a day that is so many days after today. -/
inductive Says : Int → String → Prop
  | today : Says 0 "today"
  | yesterday : Says (-1) "yesterday"
  | tomorrow : Says 1 "tomorrow"
  | past {n : Nat} (h : 2 ≤ n) : Says (-n) (Nat.repr n ++ " days ago")
  | future {n : Nat} (h : 2 ≤ n) : Says n ("in " ++ Nat.repr n ++ " days")

/-- There are words for each number of days. -/
lemma says_relativeDay (days : Int) : Says days (relativeDay days) := by
  obtain ⟨n, rfl | rfl⟩ := Int.eq_nat_or_neg days
  · match n with
    | 0 => exact .today
    | 1 => exact .tomorrow
    | n + 2 => exact .future (Nat.le_add_left 2 n)
  · match n with
    | 0 => exact .today
    | 1 => exact .yesterday
    | n + 2 => exact .past (Nat.le_add_left 2 n)

/-! ### The day of a moment -/

/-- The day is that of the moment, whatever date, time and offset it is written with. -/
lemma Timestamp.day_congr (h : timestamp.instant = other.instant) : timestamp.day = other.day := by
  have hminute : timestamp.minute = other.minute := congrArg Prod.fst h
  rw [Timestamp.day, Timestamp.day, hminute]

/-- At Greenwich the day is the one that is written. -/
lemma Timestamp.day_of_zulu (h : timestamp.clock.InDay) (hoffset : timestamp.offset = 0) :
    timestamp.day = timestamp.date.dayNumber := by
  obtain ⟨hhour, hminute, -⟩ := h
  rw [Timestamp.day, Timestamp.minute, hoffset]
  omega

end Calendar

/-! ### Conversion -/

namespace Converter

variable {now day : Int} {text other : String} {cs cs' : List Char}

/-- What a text becomes at a moment, in seconds since the start of 1970 at Greenwich. -/
def relativeTo (now : Int) (text : String) : Json :=
  apply (dayOfSeconds now) (.string text) relativeDate

lemma relativeTo_of_namesDay (h : Trims text.toList cs) (hday : NamesDay cs day) :
    relativeTo now text = .string (relativeDay (day - dayOfSeconds now)) := by
  have hread := (day?_eq_some_iff h).mpr hday
  simp only [relativeTo, apply, Json.string?, Option.bind_some, hread]

lemma relativeTo_of_nameless (h : Trims text.toList cs) (hday : ∀ day, ¬NamesDay cs day) :
    relativeTo now text = .string text := by
  have hread : day? text = none :=
    Option.eq_none_iff_forall_ne_some.mpr fun day hread => hday day ((day?_eq_some_iff h).mp hread)
  simp only [relativeTo, apply, Json.string?, Option.bind_some, hread]

/-- Texts that name one day become the same words. -/
lemma relativeTo_congr (h : Trims text.toList cs) (hday : NamesDay cs day)
    (hother : Trims other.toList cs') (hday' : NamesDay cs' day) :
    relativeTo now text = relativeTo now other := by
  rw [relativeTo_of_namesDay h hday, relativeTo_of_namesDay hother hday']

/-- A text becomes the words for how many days the day that it names is after that of the reference,
and a text that names none stays as it is. A moment becomes the same words in all the timestamps that
are written for it, and a date becomes those of any time of that day at Greenwich. Days are counted in
the calendar: each number is that of one date, and the difference of two numbers is how many days one
date is after the other. Blanks around a text do not count. -/
theorem relativeTo_laws (now : Int) :
    (∀ text cs day, Trims text.toList cs → NamesDay cs day →
      ∃ words, Says (day - dayOfSeconds now) words ∧ relativeTo now text = .string words)
    ∧ (∀ text cs, Trims text.toList cs → (∀ day, ¬NamesDay cs day) →
      relativeTo now text = .string text)
    ∧ (∀ text other cs cs' timestamp timestamp', Trims text.toList cs → Trims other.toList cs' →
      IsTimestamp cs timestamp → IsTimestamp cs' timestamp' →
      timestamp.instant = timestamp'.instant → relativeTo now text = relativeTo now other)
    ∧ (∀ date clock day time, FullDate day date → FullTime time clock →
      ∀ plain naive zulu : String, Trims plain.toList day → Trims naive.toList (day ++ 'T' :: time) →
      Trims zulu.toList (day ++ 'T' :: (time ++ ['Z'])) →
      relativeTo now plain = relativeTo now zulu ∧ relativeTo now naive = relativeTo now zulu)
    ∧ (∀ number : Int, ∃! date : Date, date.InCalendar ∧ date.dayNumber = number)
    ∧ (∀ date other : Date, date.InCalendar → other.InCalendar → ∀ days,
      date.dayNumber - other.dayNumber = days ↔ date.IsAfter other days)
    ∧ dayOfSeconds now = (Date.mk 1970 1 1).dayNumber + now / 86400 := by
  refine ⟨fun text cs day h hday => ⟨_, says_relativeDay _, relativeTo_of_namesDay h hday⟩,
    fun text cs h hday => relativeTo_of_nameless h hday, ?instant, ?greenwich, ?dates,
    fun date other h hother => Date.dayNumber_sub_eq_iff h hother, rfl⟩
  case instant =>
    intro text other cs cs' timestamp timestamp' h h' htimestamp htimestamp' hinstant
    have hday := NamesDay.timestamp htimestamp'
    rw [← Timestamp.day_congr hinstant] at hday
    exact relativeTo_congr h (.timestamp htimestamp) h' hday
  case greenwich =>
    intro date clock day time hdate htime plain naive zulu hplain hnaive hzulu
    have htimestamp : IsTimestamp (day ++ 'T' :: (time ++ ([] ++ ['Z']))) ⟨date, clock, 0, 0⟩ :=
      .intro hdate (.inl rfl) htime .absent (.zulu (.inl rfl))
    have hday := NamesDay.timestamp htimestamp
    rw [Timestamp.day_of_zulu htime.inDay rfl] at hday
    exact ⟨relativeTo_congr hplain (.date hdate.isDate) hzulu hday,
      relativeTo_congr hnaive (.dateTime ⟨hdate.isDate, htime.isTime⟩) hzulu hday⟩
  case dates =>
    intro number
    obtain ⟨date, h, hnumber⟩ := Date.exists_dayNumber_eq number
    refine ⟨date, ⟨h, hnumber⟩, fun other ⟨hother, hnumber'⟩ => ?_⟩
    exact (hother.dayNumber_inj h).mp (hnumber'.trans hnumber.symm)

/-- Where clocks are an hour ahead, March has begun, but at Greenwich it is the day before. -/
example : relativeTo 1709290800 " 2024-03-01T00:30:00+01:00" = .string "yesterday" := by
  rfl

end Converter

end Wireframe
