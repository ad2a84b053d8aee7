import Wireframe.Proofs.BindingGrammar
import Wireframe.Proofs.CalendarDays
import Mathlib.Algebra.Order.Field.Rat
import Mathlib.Tactic.Common
import Mathlib.Tactic.Ring

/-!
# Timestamps

The texts that are timestamps with an offset, as rules that derive them, and the moment that each one
stands for. The numbers of a timestamp have fixed widths, so it is read in one way, and the day read
from it is the one that it is at that moment at Greenwich.
-/

namespace Wireframe.Calendar

open Text
open Binding (MadeOf Stops)

variable {cs rest digits : List Char} {least most n : Nat}

/-! ### Numbers -/

/-- Whether characters are the digits of a number, and as many as there may be. -/
structure IsNumber (least most : Nat) (cs : List Char) (n : Nat) : Prop where
  digits : MadeOf Char.isDigit cs
  least : least ≤ cs.length
  most : cs.length ≤ most
  value : digitsValue 0 cs = n

/-! ### Timestamps -/

/-- `YYYY-MM-DD`, for a date of the calendar. -/
inductive FullDate : List Char → Date → Prop
  | intro {year month day : List Char} {y m d : Nat} (hyear : IsNumber 4 4 year y)
      (hmonth : IsNumber 2 2 month m) (hday : IsNumber 2 2 day d)
      (hdate : Date.InCalendar ⟨y, m, d⟩) :
      FullDate (year ++ '-' :: (month ++ '-' :: day)) ⟨y, m, d⟩

/-- A time of day. A minute may have a sixtieth second. -/
structure Clock where
  hour : Nat
  minute : Nat
  second : Nat

/-- Whether a day has the time. -/
structure Clock.InDay (clock : Clock) : Prop where
  hour : clock.hour < 24
  minute : clock.minute < 60
  second : clock.second ≤ 60

/-- `HH:MM:SS`. -/
inductive FullTime : List Char → Clock → Prop
  | intro {hour minute second : List Char} {clock : Clock} (hhour : IsNumber 2 2 hour clock.hour)
      (hminute : IsNumber 2 2 minute clock.minute) (hsecond : IsNumber 2 2 second clock.second)
      (htime : clock.InDay) : FullTime (hour ++ ':' :: (minute ++ ':' :: second)) clock

lemma FullTime.inDay {text : List Char} {clock : Clock} (h : FullTime text clock) : clock.InDay := by
  obtain ⟨-, -, -, hclock⟩ := h
  exact hclock

/-- A fraction of a second, or none. -/
inductive SecondFraction : List Char → Rat → Prop
  | absent : SecondFraction [] 0
  | present {digits : List Char} {n : Nat} (hdigits : IsNumber 1 digits.length digits n) :
      SecondFraction ('.' :: digits) (n / 10 ^ digits.length)

/-- How many minutes a local time is ahead of that at Greenwich: less than a day. -/
inductive Offset : List Char → Int → Prop
  | zulu {c : Char} (h : c = 'Z' ∨ c = 'z') : Offset [c] 0
  | ahead {hours minutes : List Char} {h m : Nat} (hhours : IsNumber 2 2 hours h) (hh : h < 24)
      (hminutes : IsNumber 2 2 minutes m) (hm : m < 60) :
      Offset ('+' :: (hours ++ ':' :: minutes)) (60 * h + m)
  | behind {sign : Char} {hours minutes : List Char} {h m : Nat} (hsign : sign = '-' ∨ sign = '\u2212')
      (hhours : IsNumber 2 2 hours h) (hh : h < 24) (hminutes : IsNumber 2 2 minutes m) (hm : m < 60) :
      Offset (sign :: (hours ++ ':' :: minutes)) (-(60 * h + m))

/-- A local date and time with its offset in minutes. -/
structure Timestamp where
  date : Date
  clock : Clock
  fraction : Rat
  offset : Int

namespace Timestamp

/-- The minute at Greenwich, counted through from day to day. -/
def minute (timestamp : Timestamp) : Int :=
  timestamp.date.dayNumber * 1440
    + (timestamp.clock.hour * 60 + timestamp.clock.minute - timestamp.offset)

/-- The moment that a timestamp stands for: a minute at Greenwich, and the seconds that have passed of
it. There are up to 61, so a sixtieth second is a moment of its own. -/
def instant (timestamp : Timestamp) : Int × Rat :=
  (timestamp.minute, timestamp.clock.second + timestamp.fraction)

/-- The number of the day that it is then at Greenwich. -/
def day (timestamp : Timestamp) : Int :=
  timestamp.minute / 1440

end Timestamp

/-- `YYYY-MM-DDTHH:MM:SS` with an offset, and perhaps with a fraction. -/
inductive IsTimestamp : List Char → Timestamp → Prop
  | intro {separator : Char} {date time fraction offset : List Char} {timestamp : Timestamp}
      (hdate : FullDate date timestamp.date)
      (hseparator : separator = 'T' ∨ separator = 't' ∨ separator = ' ')
      (htime : FullTime time timestamp.clock) (hfraction : SecondFraction fraction timestamp.fraction)
      (hoffset : Offset offset timestamp.offset) :
      IsTimestamp (date ++ separator :: (time ++ (fraction ++ offset))) timestamp

/-! ### Reading numbers -/

lemma stops_take {p : Char → Bool} (h : Stops p rest) (k : Nat) : Stops p (rest.take k) := by
  cases k with
  | zero => exact Binding.stops_nil
  | succ k =>
    cases rest with
    | nil => exact Binding.stops_nil
    | cons c rest => exact Binding.stops_cons (h c rfl) _

/-- A number is read where its digits end, be it for their number or for what follows. -/
lemma number?_append (h : IsNumber least most digits n)
    (hrest : digits.length = most ∨ Stops Char.isDigit rest) :
    number? least most (digits ++ rest) = some (n, rest) := by
  have hstops : Stops Char.isDigit (rest.take (most - digits.length)) := by
    rcases hrest with hmost | hrest
    · rw [hmost, Nat.sub_self]
      exact Binding.stops_nil
    · exact stops_take hrest _
  have hread : ((digits ++ rest).take most).takeWhile Char.isDigit = digits := by
    rw [List.take_append, List.take_of_length_le h.most, Binding.takeWhile_append h.digits hstops]
  rw [number?, hread, if_pos h.least, h.value, List.drop_left]

lemma of_number? (h : number? least most cs = some (n, rest)) :
    ∃ digits, IsNumber least most digits n ∧ cs = digits ++ rest := by
  obtain ⟨hleast, heq⟩ := Option.ite_none_right_eq_some.mp h
  cases heq
  have hdigits := List.takeWhile_prefix (l := cs.take most) Char.isDigit
  exact ⟨_, ⟨Binding.madeOf_takeWhile _, hleast,
    hdigits.length_le.trans (List.length_take_le _ _), rfl⟩,
    (List.prefix_iff_eq_append.mp (hdigits.trans (List.take_prefix most cs))).symm⟩

/-- A number of a fixed width ends by itself. -/
lemma number?_full {width : Nat} (h : IsNumber width width digits n) (rest : List Char) :
    number? width width (digits ++ rest) = some (n, rest) :=
  number?_append h (.inl (Nat.le_antisymm h.most h.least))

@[simp] lemma expect?_cons (c : Char) (cs : List Char) : expect? c (c :: cs) = some cs :=
  if_pos rfl

lemma eq_of_expect? {c : Char} (h : expect? c cs = some rest) : cs = c :: rest := by
  cases cs with
  | nil => cases h
  | cons d cs =>
    obtain ⟨rfl, heq⟩ := Option.ite_none_right_eq_some.mp h
    cases heq
    rfl

lemma isDigit_iff {c : Char} : c.isDigit = true ↔ 48 ≤ c.toNat ∧ c.toNat ≤ 57 := by
  simp only [Char.isDigit, Bool.and_eq_true, decide_eq_true_eq, ge_iff_le, UInt32.le_iff_toNat_le]
  rfl

lemma digitsValue_lt (start : Nat) (h : MadeOf Char.isDigit cs) :
    digitsValue start cs < (start + 1) * 10 ^ cs.length := by
  induction cs generalizing start with
  | nil => simp [digitsValue]
  | cons c cs ih =>
    have hc := isDigit_iff.mp (h c List.mem_cons_self)
    have hdigit : c.toNat - '0'.toNat < 10 := by
      change c.toNat - 48 < 10
      omega
    calc digitsValue start (c :: cs) = digitsValue (10 * start + (c.toNat - '0'.toNat)) cs := rfl
      _ < (10 * start + (c.toNat - '0'.toNat) + 1) * 10 ^ cs.length :=
        ih _ fun d hd => h d (List.mem_cons_of_mem c hd)
      _ ≤ (start + 1) * 10 * 10 ^ cs.length := Nat.mul_le_mul_right _ (by omega)
      _ = (start + 1) * 10 ^ (c :: cs).length := by
        rw [List.length_cons, Nat.pow_succ', Nat.mul_assoc]

lemma IsNumber.lt (h : IsNumber least most digits n) : n < 10 ^ most := by
  have hvalue := digitsValue_lt 0 h.digits
  rw [h.value, Nat.zero_add, Nat.one_mul] at hvalue
  exact hvalue.trans_le (Nat.pow_le_pow_right (by decide) h.most)

/-! ### Reading timestamps -/

lemma date?_eq_some_iff {year : Int} {month day : Nat} {date : Date} :
    date? year month day = some date ↔ date = ⟨year, month, day⟩ ∧ date.isValid = true := by
  rw [date?, Option.ite_none_right_eq_some, Option.some_inj, eq_comm (a := date)]
  constructor
  · rintro ⟨hvalid, rfl⟩
    exact ⟨rfl, hvalid⟩
  · rintro ⟨rfl, hvalid⟩
    exact ⟨hvalid, rfl⟩

lemma secondOfDay?_eq_some_iff {hour minute second time : Nat} :
    secondOfDay? hour minute second = some time
      ↔ (Clock.mk hour minute second).InDay
        ∧ time = hour * 3600 + minute * 60 + min second 59 := by
  rw [secondOfDay?, Option.ite_none_right_eq_some, Option.some_inj, eq_comm (a := time)]
  exact and_congr_left fun _ => ⟨fun ⟨h, h', h''⟩ => ⟨h, h', h''⟩, fun ⟨h, h', h''⟩ => ⟨h, h', h''⟩⟩

lemma dropFraction?_append {fraction : List Char} {q : Rat} (h : SecondFraction fraction q)
    (hdigit : Stops Char.isDigit rest) (hpoint : rest.head? ≠ some '.') :
    dropFraction? (fraction ++ rest) = some rest := by
  cases h with
  | absent =>
    rw [List.nil_append, dropFraction?]
    rintro cs rfl
    exact hpoint rfl
  | @present digits n hdigits =>
    obtain ⟨c, digits', hcons⟩ := List.exists_cons_of_length_pos hdigits.least
    rw [List.cons_append, dropFraction?, spanDigits, Binding.takeWhile_append hdigits.digits hdigit,
      Binding.dropWhile_append hdigits.digits hdigit, hcons]

lemma of_dropFraction? (h : dropFraction? cs = some rest) :
    ∃ fraction q, SecondFraction fraction q ∧ cs = fraction ++ rest := by
  unfold dropFraction? at h
  split at h
  · next cs =>
    split at h
    · cases h
    · next digits tail hne hspan =>
      cases h
      cases hspan
      refine ⟨_, _, .present ⟨Binding.madeOf_takeWhile cs, List.length_pos_iff.mpr hne,
        Nat.le_refl _, rfl⟩, ?_⟩
      rw [List.cons_append, List.takeWhile_append_dropWhile]
  · cases h
    exact ⟨[], 0, .absent, rfl⟩

/-- Hours and minutes with a colon between them, up to the end of the text. -/
lemma hourMinute_eq_some_iff {f : Nat → Nat → Int} {seconds : Int} :
    (do
      let (hours, cs) ← number? 2 2 cs
      let cs ← expect? ':' cs
      let (minutes, cs) ← number? 2 2 cs
      if cs = [] ∧ hours < 24 ∧ minutes < 60 then some (f hours minutes) else none) = some seconds
      ↔ ∃ hours minutes h m, (IsNumber 2 2 hours h ∧ h < 24) ∧ (IsNumber 2 2 minutes m ∧ m < 60)
        ∧ cs = hours ++ ':' :: minutes ∧ f h m = seconds := by
  simp only [Option.bind_eq_bind, Option.bind_eq_some_iff, Prod.exists]
  constructor
  · rintro ⟨h, _, hfirst, _, hcolon, m, tail, hsecond, hread⟩
    obtain ⟨⟨rfl, hh, hm⟩, hseconds⟩ := Option.ite_none_right_eq_some.mp hread
    obtain ⟨hours, hhours, rfl⟩ := of_number? hfirst
    obtain rfl := eq_of_expect? hcolon
    obtain ⟨minutes, hminutes, rfl⟩ := of_number? hsecond
    rw [List.append_nil]
    exact ⟨hours, minutes, h, m, ⟨hhours, hh⟩, ⟨hminutes, hm⟩, rfl, Option.some.inj hseconds⟩
  · rintro ⟨hours, minutes, h, m, ⟨hhours, hh⟩, ⟨hminutes, hm⟩, rfl, rfl⟩
    have hsecond := number?_full hminutes []
    rw [List.append_nil] at hsecond
    exact ⟨h, _, number?_full hhours _, _, expect?_cons _ _, m, [], hsecond, if_pos ⟨rfl, hh, hm⟩⟩

lemma of_offset? {seconds : Int} (h : offset? cs = some seconds) :
    ∃ minutes, Offset cs minutes ∧ seconds = 60 * minutes := by
  unfold offset? at h
  split at h
  · cases h
    exact ⟨0, .zulu (.inl rfl), rfl⟩
  · cases h
    exact ⟨0, .zulu (.inr rfl), rfl⟩
  · split at h
    · next hsign =>
      obtain ⟨_, _, hour, minute, ⟨hhours, hh⟩, ⟨hminutes, hm⟩, rfl, rfl⟩ :=
        (hourMinute_eq_some_iff (f := fun h m => (h : Int) * 3600 + m * 60)).mp h
      subst hsign
      exact ⟨_, .ahead hhours hh hminutes hm, by ring⟩
    · split at h
      · next hsign =>
        obtain ⟨_, _, hour, minute, ⟨hhours, hh⟩, ⟨hminutes, hm⟩, rfl, rfl⟩ :=
          (hourMinute_eq_some_iff (f := fun h m => -((h : Int) * 3600 + m * 60))).mp h
        exact ⟨_, .behind hsign hhours hh hminutes hm, by ring⟩
      · cases h
  · cases h

lemma offset?_of {minutes : Int} (h : Offset cs minutes) : offset? cs = some (60 * minutes) := by
  cases h with
  | zulu h => rcases h with rfl | rfl <;> rfl
  | @ahead hours minutes h m hhours hh hminutes hm =>
    have hread := (hourMinute_eq_some_iff (f := fun h m => (h : Int) * 3600 + m * 60)).mpr
      ⟨hours, minutes, h, m, ⟨hhours, hh⟩, ⟨hminutes, hm⟩, rfl, rfl⟩
    rw [show (60 * (60 * h + m) : Int) = h * 3600 + m * 60 by ring, ← hread]
    rfl
  | @behind sign hours minutes h m hsign hhours hh hminutes hm =>
    have hread := (hourMinute_eq_some_iff (f := fun h m => -((h : Int) * 3600 + m * 60))).mpr
      ⟨hours, minutes, h, m, ⟨hhours, hh⟩, ⟨hminutes, hm⟩, rfl, rfl⟩
    rw [show (60 * -(60 * h + m) : Int) = -(h * 3600 + m * 60) by ring, ← hread]
    rcases hsign with rfl | rfl <;> rfl

/-- Dates and times alike are three numbers of fixed widths with a character between them. -/
lemma of_triple {width x y z : Nat} {c : Char} {cs₁ cs₂ cs₃ cs₄ : List Char}
    (hx : number? width width cs = some (x, cs₁)) (hc : expect? c cs₁ = some cs₂)
    (hy : number? 2 2 cs₂ = some (y, cs₃)) (hc' : expect? c cs₃ = some cs₄)
    (hz : number? 2 2 cs₄ = some (z, rest)) :
    ∃ first second third, (IsNumber width width first x ∧ IsNumber 2 2 second y
      ∧ IsNumber 2 2 third z) ∧ cs = (first ++ c :: (second ++ c :: third)) ++ rest := by
  obtain ⟨first, hfirst, rfl⟩ := of_number? hx
  obtain rfl := eq_of_expect? hc
  obtain ⟨second, hsecond, rfl⟩ := of_number? hy
  obtain rfl := eq_of_expect? hc'
  obtain ⟨third, hthird, rfl⟩ := of_number? hz
  exact ⟨first, second, third, ⟨hfirst, hsecond, hthird⟩, by simp⟩

lemma Offset.stops {offset : List Char} {minutes : Int} (h : Offset offset minutes) :
    Stops Char.isDigit offset ∧ offset.head? ≠ some '.' := by
  cases h with
  | zulu h => rcases h with rfl | rfl <;> exact ⟨Binding.stops_cons rfl _, by decide⟩
  | ahead => exact ⟨Binding.stops_cons rfl _, by simp⟩
  | behind hsign => rcases hsign with rfl | rfl <;> exact ⟨Binding.stops_cons rfl _, by simp⟩

/-- The seconds of a minute are less than a minute, so they do not count for the day. -/
lemma Timestamp.day_eq (timestamp : Timestamp) :
    timestamp.day = timestamp.date.dayNumber + (((timestamp.clock.hour * 3600
      + timestamp.clock.minute * 60 + min timestamp.clock.second 59 : Nat) : Int)
        - 60 * timestamp.offset) / 86400 := by
  rw [Timestamp.day, Timestamp.minute]
  omega

/-- A year of four digits is one that a date can have. -/
lemma isValid_of_digits {year : List Char} {y m d : Nat} (hyear : IsNumber 4 4 year y)
    (h : Date.InCalendar ⟨y, m, d⟩) : (Date.mk y m d).isValid = true := by
  have hlt := hyear.lt
  refine Date.isValid_iff.mpr ⟨h, ?_⟩
  simp only [Date.yearRange]
  omega

lemma of_timestampDay? {day : Int} (h : timestampDay? cs = some day) :
    ∃ timestamp, IsTimestamp cs timestamp ∧ timestamp.day = day := by
  obtain ⟨⟨y, _⟩, hy, h⟩ := Option.bind_eq_some_iff.mp h
  obtain ⟨_, hhyphen, h⟩ := Option.bind_eq_some_iff.mp h
  obtain ⟨⟨m, _⟩, hm, h⟩ := Option.bind_eq_some_iff.mp h
  obtain ⟨_, hhyphen', h⟩ := Option.bind_eq_some_iff.mp h
  obtain ⟨⟨d, tail⟩, hd, h⟩ := Option.bind_eq_some_iff.mp h
  dsimp only at h
  split at h
  · split at h
    · next separator cs hseparator =>
      simp only [Option.bind_eq_bind, Option.bind_some, Option.bind_eq_some_iff, Prod.exists,
        date?_eq_some_iff, secondOfDay?_eq_some_iff, Option.pure_def, Option.some_inj] at h
      obtain ⟨hour, _, hh, _, hcolon, minute, _, hn, _, hcolon', second, _, hs, _, hdrop, seconds,
        hread, date, ⟨rfl, hvalid⟩, time, ⟨htime, rfl⟩, rfl⟩ := h
      obtain ⟨years, months, days, ⟨hyear, hmonth, hday⟩, rfl⟩ :=
        of_triple hy hhyphen hm hhyphen' hd
      obtain ⟨hours, minutes, seconds', ⟨hhour, hminute, hsecond⟩, rfl⟩ :=
        of_triple hh hcolon hn hcolon' hs
      obtain ⟨fraction, q, hfraction, rfl⟩ := of_dropFraction? hdrop
      obtain ⟨offset, hoffset, rfl⟩ := of_offset? hread
      have hdate := (Date.isValid_iff.mp hvalid).1
      exact ⟨⟨⟨y, m, d⟩, ⟨hour, minute, second⟩, q, offset⟩,
        ⟨⟨hyear, hmonth, hday, hdate⟩, hseparator, ⟨hhour, hminute, hsecond, htime⟩, hfraction,
          hoffset⟩,
        Timestamp.day_eq _⟩
    · cases h
  · cases h

lemma IsTimestamp.timestampDay? {timestamp : Timestamp} (h : IsTimestamp cs timestamp) :
    timestampDay? cs = some timestamp.day := by
  obtain ⟨date, clock, q, minutes⟩ := timestamp
  obtain ⟨hdate, hseparator, htime, hfraction, hoffset⟩ := h
  obtain ⟨hyear, hmonth, hday, hdate⟩ := hdate
  obtain ⟨hhour, hminute, hsecond, htime⟩ := htime
  have hvalid := date?_eq_some_iff.mpr ⟨rfl, isValid_of_digits hyear hdate⟩
  have hdrop := dropFraction?_append hfraction hoffset.stops.1 hoffset.stops.2
  have hread := secondOfDay?_eq_some_iff.mpr ⟨htime, rfl⟩
  rw [List.append_assoc, List.cons_append, List.append_assoc, List.cons_append]
  refine Option.bind_eq_some_iff.mpr ⟨_, number?_full hyear _, ?_⟩
  refine Option.bind_eq_some_iff.mpr ⟨_, expect?_cons _ _, ?_⟩
  refine Option.bind_eq_some_iff.mpr ⟨_, number?_full hmonth _, ?_⟩
  refine Option.bind_eq_some_iff.mpr ⟨_, expect?_cons _ _, ?_⟩
  refine Option.bind_eq_some_iff.mpr ⟨_, number?_full hday _, ?_⟩
  refine (if_pos hseparator).trans (Option.bind_eq_some_iff.mpr ⟨_, rfl, ?_⟩)
  rw [List.append_assoc, List.cons_append, List.append_assoc, List.cons_append]
  refine Option.bind_eq_some_iff.mpr ⟨_, number?_full hhour _, ?_⟩
  refine Option.bind_eq_some_iff.mpr ⟨_, expect?_cons _ _, ?_⟩
  refine Option.bind_eq_some_iff.mpr ⟨_, number?_full hminute _, ?_⟩
  refine Option.bind_eq_some_iff.mpr ⟨_, expect?_cons _ _, ?_⟩
  refine Option.bind_eq_some_iff.mpr ⟨_, number?_full hsecond _, ?_⟩
  refine Option.bind_eq_some_iff.mpr ⟨_, hdrop, ?_⟩
  refine Option.bind_eq_some_iff.mpr ⟨_, offset?_of hoffset, ?_⟩
  refine Option.bind_eq_some_iff.mpr ⟨_, hvalid, ?_⟩
  refine Option.bind_eq_some_iff.mpr ⟨_, hread, ?_⟩
  rw [Timestamp.day_eq]
  rfl

end Wireframe.Calendar
