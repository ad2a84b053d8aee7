import Wireframe.Proofs.DottedPaths
import Wireframe.Proofs.Timestamps

/-!
# Written days

The three forms in which a text names a day: a timestamp, a date with a time, and a date. Where one of
their numbers may have more than one width, no digit follows it, so the reader takes it whole. No text
has two of the forms, so the order in which they are tried does not count.
-/

namespace Wireframe.Calendar

open Text
open Binding (MadeOf Stops)

variable {cs rest digits : List Char} {least most n : Nat}

/-! ### Dates without an offset -/

/-- A number with blanks before it, of at most so many digits. -/
inductive LooseNumber (most : Nat) : List Char → Nat → Prop
  | intro {blanks digits : List Char} {n : Nat} (hblanks : MadeOf isBlank blanks)
      (hdigits : IsNumber 1 most digits n) : LooseNumber most (blanks ++ digits) n

/-- A year: up to four digits, or any number of them after a sign. Blanks may come first. -/
inductive LooseYear : List Char → Int → Prop
  | plain {blanks digits : List Char} {n : Nat} (hblanks : MadeOf isBlank blanks)
      (hdigits : IsNumber 1 4 digits n) : LooseYear (blanks ++ digits) n
  | plus {blanks digits : List Char} {n : Nat} (hblanks : MadeOf isBlank blanks)
      (hdigits : IsNumber 1 digits.length digits n) : LooseYear (blanks ++ '+' :: digits) n
  | minus {blanks digits : List Char} {n : Nat} (hblanks : MadeOf isBlank blanks)
      (hdigits : IsNumber 1 digits.length digits n) : LooseYear (blanks ++ '-' :: digits) (-n)

/-- Year, month and day with hyphens between them, for a date of the calendar in the range of years. -/
inductive IsDate : List Char → Date → Prop
  | intro {year month day : List Char} {y : Int} {m d : Nat} (hyear : LooseYear year y)
      (hmonth : LooseNumber 2 month m) (hday : LooseNumber 2 day d)
      (hdate : Date.InCalendar ⟨y, m, d⟩) (hrange : Date.yearRange.1 ≤ y ∧ y ≤ Date.yearRange.2) :
      IsDate (year ++ '-' :: (month ++ '-' :: day)) ⟨y, m, d⟩

/-- Hour, minute and second with colons between them. -/
inductive IsTime : List Char → Prop
  | intro {hour minute second : List Char} {clock : Clock} (hhour : LooseNumber 2 hour clock.hour)
      (hminute : LooseNumber 2 minute clock.minute) (hsecond : LooseNumber 2 second clock.second)
      (htime : clock.InDay) : IsTime (hour ++ ':' :: (minute ++ ':' :: second))

/-- A date, and after a `T` a time. -/
inductive IsDateTime : List Char → Date → Prop
  | intro {day time : List Char} {date : Date} (hdate : IsDate day date) (htime : IsTime time) :
      IsDateTime (day ++ 'T' :: time) date

/-- The number of the day that a text names in one of the three forms. -/
inductive NamesDay : List Char → Int → Prop
  | timestamp {cs : List Char} {timestamp : Timestamp} (h : IsTimestamp cs timestamp) :
      NamesDay cs timestamp.day
  | dateTime {cs : List Char} {date : Date} (h : IsDateTime cs date) : NamesDay cs date.dayNumber
  | date {cs : List Char} {date : Date} (h : IsDate cs date) : NamesDay cs date.dayNumber

/-! ### Reading dates without an offset -/

lemma not_isBlank_of_isDigit {c : Char} (h : c.isDigit = true) : isBlank c = false := by
  rw [isDigit_iff] at h
  simp [isBlank]
  omega

lemma IsNumber.stops_isBlank {digits : List Char} (h : IsNumber 1 most digits n) (rest : List Char) :
    Stops isBlank (digits ++ rest) := by
  obtain ⟨c, tail, rfl⟩ := List.exists_cons_of_length_pos h.least
  exact Binding.stops_cons (not_isBlank_of_isDigit (h.digits c List.mem_cons_self)) _

lemma LooseNumber.loose?_append {text : List Char} (h : LooseNumber most text n)
    (hrest : Stops Char.isDigit rest) : loose? most (text ++ rest) = some (n, rest) := by
  obtain ⟨hblanks, hdigits⟩ := h
  rw [loose?, List.append_assoc, Binding.dropWhile_append hblanks (hdigits.stops_isBlank rest),
    number?_append hdigits (.inr hrest)]

lemma of_loose? (h : loose? most cs = some (n, rest)) :
    ∃ text, LooseNumber most text n ∧ cs = text ++ rest := by
  obtain ⟨digits, hdigits, heq⟩ := of_number? h
  refine ⟨_, ⟨Binding.madeOf_takeWhile cs, hdigits⟩, ?_⟩
  rw [List.append_assoc, ← heq, List.takeWhile_append_dropWhile]

/-- The digits of a year with a sign are all that there are. -/
lemma number?_signed {digits : List Char} (h : IsNumber 1 digits.length digits n)
    (hrest : Stops Char.isDigit rest) :
    number? 1 (digits ++ rest).length (digits ++ rest) = some (n, rest) :=
  number?_append ⟨h.digits, h.least, by simp, h.value⟩ (.inr hrest)

lemma LooseYear.year?_append {text : List Char} {year : Int} (h : LooseYear text year)
    (hrest : Stops Char.isDigit rest) : year? (text ++ rest) = some (year, rest) := by
  cases h with
  | plain hblanks hdigits =>
    rw [year?, List.append_assoc, Binding.dropWhile_append hblanks (hdigits.stops_isBlank rest)]
    have hread := number?_append hdigits (.inr hrest)
    obtain ⟨c, tail, rfl⟩ := List.exists_cons_of_length_pos hdigits.least
    have hc := hdigits.digits c List.mem_cons_self
    split
    · next heq =>
      cases heq
      cases hc
    · next heq =>
      cases heq
      cases hc
    · rw [hread]
      rfl
  | plus hblanks hdigits =>
    rw [year?, List.append_assoc, List.cons_append,
      Binding.dropWhile_append hblanks (Binding.stops_cons rfl _)]
    simp only [number?_signed hdigits hrest, Option.map_some]
  | minus hblanks hdigits =>
    rw [year?, List.append_assoc, List.cons_append,
      Binding.dropWhile_append hblanks (Binding.stops_cons rfl _)]
    simp only [number?_signed hdigits hrest, Option.map_some]

lemma of_year? {year : Int} (h : year? cs = some (year, rest)) :
    ∃ text, LooseYear text year ∧ cs = text ++ rest := by
  have hcs := List.takeWhile_append_dropWhile (p := isBlank) (l := cs)
  have hblanks := Binding.madeOf_takeWhile (p := isBlank) cs
  unfold year? at h
  split at h
  · next tail hdrop =>
    obtain ⟨⟨n, _⟩, hread, heq⟩ := Option.map_eq_some_iff.mp h
    cases heq
    obtain ⟨digits, hdigits, rfl⟩ := of_number? hread
    rw [hdrop] at hcs
    exact ⟨_, .minus hblanks ⟨hdigits.digits, hdigits.least, le_rfl, hdigits.value⟩,
      by rw [List.append_assoc, List.cons_append, hcs]⟩
  · next tail hdrop =>
    obtain ⟨⟨n, _⟩, hread, heq⟩ := Option.map_eq_some_iff.mp h
    cases heq
    obtain ⟨digits, hdigits, rfl⟩ := of_number? hread
    rw [hdrop] at hcs
    exact ⟨_, .plus hblanks ⟨hdigits.digits, hdigits.least, le_rfl, hdigits.value⟩,
      by rw [List.append_assoc, List.cons_append, hcs]⟩
  · obtain ⟨⟨n, _⟩, hread, heq⟩ := Option.map_eq_some_iff.mp h
    cases heq
    obtain ⟨digits, hdigits, heq⟩ := of_number? hread
    refine ⟨_, .plain hblanks hdigits, ?_⟩
    rw [List.append_assoc, ← heq, hcs]

/-- A date is read where its last number ends. -/
lemma IsDate.looseDate?_append {text : List Char} {date : Date} (h : IsDate text date)
    (hrest : Stops Char.isDigit rest) : looseDate? (text ++ rest) = some (date, rest) := by
  obtain ⟨hyear, hmonth, hday, hdate, hrange⟩ := h
  have hhyphen (cs : List Char) : Stops Char.isDigit ('-' :: cs) := Binding.stops_cons rfl cs
  have hvalid := date?_eq_some_iff.mpr ⟨rfl, Date.isValid_iff.mpr ⟨hdate, hrange⟩⟩
  rw [List.append_assoc, List.cons_append, List.append_assoc, List.cons_append]
  refine Option.bind_eq_some_iff.mpr ⟨_, hyear.year?_append (hhyphen _), ?_⟩
  refine Option.bind_eq_some_iff.mpr ⟨_, expect?_cons _ _, ?_⟩
  refine Option.bind_eq_some_iff.mpr ⟨_, hmonth.loose?_append (hhyphen _), ?_⟩
  refine Option.bind_eq_some_iff.mpr ⟨_, expect?_cons _ _, ?_⟩
  refine Option.bind_eq_some_iff.mpr ⟨_, hday.loose?_append hrest, ?_⟩
  exact Option.bind_eq_some_iff.mpr ⟨_, hvalid, rfl⟩

lemma of_looseDate? {date : Date} (h : looseDate? cs = some (date, rest)) :
    ∃ text, IsDate text date ∧ cs = text ++ rest := by
  simp only [looseDate?, Option.bind_eq_bind, Option.bind_eq_some_iff, Prod.exists,
    date?_eq_some_iff, Option.pure_def, Option.some_inj, Prod.mk.injEq] at h
  obtain ⟨y, _, hy, _, hhyphen, m, _, hm, _, hhyphen', d, _, hd, _, ⟨rfl, hvalid⟩, rfl, rfl⟩ := h
  obtain ⟨year, hyear, rfl⟩ := of_year? hy
  obtain rfl := eq_of_expect? hhyphen
  obtain ⟨month, hmonth, rfl⟩ := of_loose? hm
  obtain rfl := eq_of_expect? hhyphen'
  obtain ⟨day, hday, rfl⟩ := of_loose? hd
  obtain ⟨hdate, hrange⟩ := Date.isValid_iff.mp hvalid
  exact ⟨_, ⟨hyear, hmonth, hday, hdate, hrange⟩, by simp⟩

lemma dateDay?_eq_some_iff {day : Int} :
    dateDay? cs = some day ↔ ∃ date, IsDate cs date ∧ date.dayNumber = day := by
  constructor
  · intro h
    simp only [dateDay?, Option.bind_eq_bind, Option.bind_eq_some_iff, Prod.exists, Option.pure_def,
      Option.ite_none_right_eq_some, Option.some_inj] at h
    obtain ⟨date, _, hread, rfl, rfl⟩ := h
    obtain ⟨text, hdate, rfl⟩ := of_looseDate? hread
    rw [List.append_nil]
    exact ⟨date, hdate, rfl⟩
  · rintro ⟨date, hdate, rfl⟩
    have hread := hdate.looseDate?_append Binding.stops_nil
    rw [List.append_nil] at hread
    exact Option.bind_eq_some_iff.mpr ⟨_, hread, rfl⟩

lemma dateTimeDay?_eq_some_iff {day : Int} :
    dateTimeDay? cs = some day ↔ ∃ date, IsDateTime cs date ∧ date.dayNumber = day := by
  constructor
  · intro h
    simp only [dateTimeDay?, Option.bind_eq_bind, Option.bind_eq_some_iff, Prod.exists,
      secondOfDay?_eq_some_iff, Option.pure_def, Option.ite_none_right_eq_some, Option.some_inj] at h
    obtain ⟨date, _, hread, _, ht, h, _, hh, _, hcolon, n, _, hn, _, hcolon', s, _, hs, _,
      ⟨htime, -⟩, rfl, rfl⟩ := h
    obtain ⟨text, hdate, rfl⟩ := of_looseDate? hread
    obtain rfl := eq_of_expect? ht
    obtain ⟨hour, hhour, rfl⟩ := of_loose? hh
    obtain rfl := eq_of_expect? hcolon
    obtain ⟨minute, hminute, rfl⟩ := of_loose? hn
    obtain rfl := eq_of_expect? hcolon'
    obtain ⟨second, hsecond, rfl⟩ := of_loose? hs
    rw [List.append_nil]
    exact ⟨date, ⟨hdate, hhour, hminute, hsecond, htime⟩, rfl⟩
  · rintro ⟨date, ⟨hdate, htime⟩, rfl⟩
    obtain ⟨hhour, hminute, hsecond, htime⟩ := htime
    have hcolon (cs : List Char) : Stops Char.isDigit (':' :: cs) := Binding.stops_cons rfl cs
    have hread := hsecond.loose?_append Binding.stops_nil
    rw [List.append_nil] at hread
    refine Option.bind_eq_some_iff.mpr ⟨_, hdate.looseDate?_append (Binding.stops_cons rfl _), ?_⟩
    refine Option.bind_eq_some_iff.mpr ⟨_, expect?_cons _ _, ?_⟩
    refine Option.bind_eq_some_iff.mpr ⟨_, hhour.loose?_append (hcolon _), ?_⟩
    refine Option.bind_eq_some_iff.mpr ⟨_, expect?_cons _ _, ?_⟩
    refine Option.bind_eq_some_iff.mpr ⟨_, hminute.loose?_append (hcolon _), ?_⟩
    refine Option.bind_eq_some_iff.mpr ⟨_, expect?_cons _ _, ?_⟩
    refine Option.bind_eq_some_iff.mpr ⟨_, hread, ?_⟩
    exact Option.bind_eq_some_iff.mpr ⟨_, secondOfDay?_eq_some_iff.mpr ⟨htime, rfl⟩, rfl⟩

/-! ### Which form a text has -/

lemma IsNumber.loose (h : IsNumber most most digits n) (hmost : 1 ≤ most) :
    LooseNumber most digits n :=
  .intro Binding.madeOf_nil ⟨h.digits, hmost.trans h.least, h.most, h.value⟩

/-- The date of a timestamp can stand by itself. -/
lemma FullDate.isDate {text : List Char} {date : Date} (h : FullDate text date) :
    IsDate text date := by
  obtain ⟨hyear, hmonth, hday, hdate⟩ := h
  obtain ⟨-, hrange⟩ := Date.isValid_iff.mp (isValid_of_digits hyear hdate)
  have hleast := Nat.le_trans (show 1 ≤ 4 by decide) hyear.least
  exact ⟨.plain Binding.madeOf_nil ⟨hyear.digits, hleast, hyear.most, hyear.value⟩,
    hmonth.loose (by decide), hday.loose (by decide), hdate, hrange⟩

lemma FullTime.isTime {text : List Char} {clock : Clock} (h : FullTime text clock) : IsTime text := by
  obtain ⟨hhour, hminute, hsecond, htime⟩ := h
  exact ⟨hhour.loose (by decide), hminute.loose (by decide), hsecond.loose (by decide), htime⟩

lemma count_colon_of_madeOf {p : Char → Bool} (h : MadeOf p cs) (hp : p ':' = false) :
    cs.count ':' = 0 := by
  refine List.count_eq_zero.mpr fun hmem => ?_
  rw [h _ hmem] at hp
  cases hp

lemma IsNumber.count_colon (h : IsNumber least most digits n) : digits.count ':' = 0 :=
  count_colon_of_madeOf h.digits rfl

lemma LooseNumber.count_colon {text : List Char} (h : LooseNumber most text n) :
    text.count ':' = 0 := by
  obtain ⟨hblanks, hdigits⟩ := h
  rw [List.count_append, count_colon_of_madeOf hblanks rfl, hdigits.count_colon]

lemma LooseYear.count_colon {text : List Char} {year : Int} (h : LooseYear text year) :
    text.count ':' = 0 := by
  cases h with
  | plain hblanks hdigits =>
    rw [List.count_append, count_colon_of_madeOf hblanks rfl, hdigits.count_colon]
  | plus hblanks hdigits =>
    simp [count_colon_of_madeOf hblanks rfl, hdigits.count_colon]
  | minus hblanks hdigits =>
    simp [count_colon_of_madeOf hblanks rfl, hdigits.count_colon]

lemma IsDate.count_colon {date : Date} (h : IsDate cs date) : cs.count ':' = 0 := by
  obtain ⟨hyear, hmonth, hday, -⟩ := h
  simp [hyear.count_colon, hmonth.count_colon, hday.count_colon]

lemma IsTime.count_colon (h : IsTime cs) : cs.count ':' = 2 := by
  obtain ⟨hhour, hminute, hsecond, -⟩ := h
  simp [hhour.count_colon, hminute.count_colon, hsecond.count_colon]

lemma IsDateTime.count_colon {date : Date} (h : IsDateTime cs date) : cs.count ':' = 2 := by
  obtain ⟨hdate, htime⟩ := h
  simp [hdate.count_colon, htime.count_colon]

lemma SecondFraction.count_colon {q : Rat} (h : SecondFraction cs q) : cs.count ':' = 0 := by
  cases h with
  | absent => rfl
  | present hdigits => simp [hdigits.count_colon]

/-- The last character is a digit. -/
def EndsInDigit (cs : List Char) : Prop :=
  ∃ c ∈ cs.getLast?, c.isDigit = true

lemma EndsInDigit.append (h : EndsInDigit cs) (front : List Char) : EndsInDigit (front ++ cs) := by
  obtain ⟨c, hlast, hc⟩ := h
  refine ⟨c, ?_, hc⟩
  rw [List.getLast?_append, hlast]
  rfl

lemma LooseNumber.endsInDigit {text : List Char} (h : LooseNumber most text n) :
    EndsInDigit text := by
  obtain ⟨-, hdigits⟩ := h
  have hne := List.ne_nil_of_length_pos hdigits.least
  exact .append ⟨_, List.getLast?_eq_some_getLast hne, hdigits.digits _ (List.getLast_mem hne)⟩ _

lemma IsDateTime.endsInDigit {date : Date} (h : IsDateTime cs date) : EndsInDigit cs := by
  obtain ⟨_, ⟨_, _, hsecond, -⟩⟩ := h
  simpa using hsecond.endsInDigit.append (_ ++ 'T' :: (_ ++ ':' :: (_ ++ [':'])))

/-- With its offset, a timestamp has a third colon or ends in a letter. -/
lemma IsTimestamp.count_colon {timestamp : Timestamp} (h : IsTimestamp cs timestamp) :
    cs.count ':' = 3 ∨ cs.count ':' = 2 ∧ ¬EndsInDigit cs := by
  obtain ⟨date, clock, q, minutes⟩ := timestamp
  obtain ⟨hdate, hseparator, htime, hfraction, hoffset⟩ := h
  have hcount : ∀ separator, separator = 'T' ∨ separator = 't' ∨ separator = ' ' →
      separator ≠ ':' := by
    rintro separator (rfl | rfl | rfl) <;> decide
  simp only [List.count_append, List.count_cons_of_ne (hcount _ hseparator),
    hdate.isDate.count_colon, htime.isTime.count_colon, hfraction.count_colon]
  cases hoffset with
  | @zulu c h =>
    right
    rcases h with rfl | rfl <;> simp [EndsInDigit, List.getLast?_cons]
  | ahead hhours _ hminutes _ =>
    left
    simp [hhours.count_colon, hminutes.count_colon]
  | behind hsign hhours _ hminutes _ =>
    left
    rcases hsign with rfl | rfl <;> simp [hhours.count_colon, hminutes.count_colon]

lemma IsDateTime.timestampDay?_eq_none {date : Date} (h : IsDateTime cs date) :
    timestampDay? cs = none := by
  refine Option.eq_none_iff_forall_ne_some.mpr fun day hday => ?_
  obtain ⟨timestamp, htimestamp, -⟩ := of_timestampDay? hday
  rcases htimestamp.count_colon with hcount | ⟨-, hends⟩
  · have heq := h.count_colon
    omega
  · exact hends h.endsInDigit

lemma IsDate.timestampDay?_eq_none {date : Date} (h : IsDate cs date) : timestampDay? cs = none := by
  refine Option.eq_none_iff_forall_ne_some.mpr fun day hday => ?_
  obtain ⟨timestamp, htimestamp, -⟩ := of_timestampDay? hday
  have hcount := h.count_colon
  have hcount' := htimestamp.count_colon
  omega

lemma IsDate.dateTimeDay?_eq_none {date : Date} (h : IsDate cs date) : dateTimeDay? cs = none := by
  refine Option.eq_none_iff_forall_ne_some.mpr fun day hday => ?_
  obtain ⟨other, hother, -⟩ := dateTimeDay?_eq_some_iff.mp hday
  have hcount := h.count_colon
  have hcount' := hother.count_colon
  omega

/-- A text has the day of the form that it has. -/
theorem day?_eq_some_iff {text : String} {day : Int} (h : Trims text.toList cs) :
    day? text = some day ↔ NamesDay cs day := by
  rw [day?, h.eq]
  constructor
  · intro hday
    obtain htimestamp | ⟨-, hday⟩ := Option.or_eq_some_iff.mp hday
    · obtain ⟨timestamp, hform, rfl⟩ := of_timestampDay? htimestamp
      exact .timestamp hform
    obtain hdateTime | ⟨-, hdate⟩ := Option.or_eq_some_iff.mp hday
    · obtain ⟨date, hform, rfl⟩ := dateTimeDay?_eq_some_iff.mp hdateTime
      exact .dateTime hform
    · obtain ⟨date, hform, rfl⟩ := dateDay?_eq_some_iff.mp hdate
      exact .date hform
  · intro hday
    cases hday with
    | timestamp hform => simp only [hform.timestampDay?, Option.some_or]
    | dateTime hform =>
      simp only [hform.timestampDay?_eq_none, dateTimeDay?_eq_some_iff.mpr ⟨_, hform, rfl⟩,
        Option.none_or, Option.some_or]
    | date hform =>
      simp only [hform.timestampDay?_eq_none, hform.dateTimeDay?_eq_none,
        dateDay?_eq_some_iff.mpr ⟨_, hform, rfl⟩, Option.none_or]

end Wireframe.Calendar
