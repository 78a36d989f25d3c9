import ContextQuery.Proofs.Calendar
import ContextQuery.Proofs.Field.Answers

/-!
# What timestamps denote

The texts of timestamps are laid down apart from the reader (`Denotes`): which digits stand where,
which of the numbers make a day and a time, and which moment they name. A timestamp field takes
exactly these texts, and puts the canonical text of the moment into the condition. That text denotes
the same moment and no other, so that it is its own canonical text, and that two date-times have one
text just when they are the same instant (`Field.condition_timestamp`).
-/

namespace ContextQuery

namespace Timestamp

/-! ## Texts of timestamps -/

/-- The characters are decimal digits, as many as the width, and write the number. -/
structure Written (width : Nat) (n : Nat) (cs : List Char) : Prop where
  length : cs.length = width
  digits : ∀ c ∈ cs, c.isDigit = true
  value : Nat.ofDigitChars 10 cs 0 = n

/-- `YYYY-MM-DD`. -/
inductive DateText : List Char → Date → Prop where
  | date {ys ms ds : List Char} {y m d : Nat} (year : Written 4 y ys) (month : Written 2 m ms)
      (day : Written 2 d ds) : DateText (ys ++ '-' :: (ms ++ '-' :: ds)) ⟨y, m, d⟩

/-- `HH:MM`, `HH:MM:SS`, or the latter with a point and one to nine digits. -/
inductive ClockText : List Char → ClockFields → Prop where
  | minutes {hs ms : List Char} {h m : Nat} (hour : Written 2 h hs) (minute : Written 2 m ms) :
      ClockText (hs ++ ':' :: ms) ⟨h, m, none, 0⟩
  | seconds {hs ms ss : List Char} {h m s : Nat} (hour : Written 2 h hs) (minute : Written 2 m ms)
      (second : Written 2 s ss) :
      ClockText (hs ++ ':' :: (ms ++ ':' :: ss)) ⟨h, m, some s, 0⟩
  | fraction {hs ms ss fs : List Char} {h m s f k : Nat} (hour : Written 2 h hs)
      (minute : Written 2 m ms) (second : Written 2 s ss) (fraction : Written k f fs)
      (digits : 1 ≤ k ∧ k ≤ 9) :
      ClockText (hs ++ ':' :: (ms ++ ':' :: (ss ++ '.' :: fs))) ⟨h, m, some s, f * 10 ^ (9 - k)⟩

/-- The text is that of a day that exists, or of such a day and a time that the clock shows. Seconds
that are not written are nought. -/
inductive Denotes : List Char → Moment → Prop where
  | day {cs : List Char} {d : Date} (date : DateText cs d) (isDay : d.isDay = true) :
      Denotes cs (.day d)
  | time {cs cs' : List Char} {d : Date} {c : ClockFields} (date : DateText cs d)
      (clock : ClockText cs' c) (isDay : d.isDay = true) (hour : c.hour ≤ 23)
      (minute : c.minute ≤ 59) (second : c.second.getD 0 ≤ 59) :
      Denotes (cs ++ 'T' :: cs') (.time d ⟨c.hour, c.minute, c.second.getD 0, c.nanosecond⟩)

/-! ## Reading numbers -/

theorem digitsAfter_eq_some {start n v : Nat} {cs rest : List Char} :
    digitsAfter start n cs = some (v, rest) ↔
      ∃ ds, cs = ds ++ rest ∧ ds.length = n ∧ (∀ c ∈ ds, c.isDigit = true) ∧
        Nat.ofDigitChars 10 ds start = v := by
  induction n generalizing start cs with
  | zero =>
      constructor
      · intro read
        cases read
        exact ⟨[], rfl, rfl, nofun, rfl⟩
      · rintro ⟨ds, rfl, none, -, same⟩
        cases List.length_eq_zero_iff.mp none
        cases same
        rfl
  | succ n ih =>
      constructor
      · intro read
        cases cs with
        | nil => cases read
        | cons c cs =>
            rw [digitsAfter] at read
            split at read
            · next isDigit =>
              obtain ⟨ds, rfl, length, digits, same⟩ := ih.mp read
              refine ⟨c :: ds, rfl, congrArg Nat.succ length, ?_, ?_⟩
              · exact List.forall_mem_cons.mpr ⟨isDigit, digits⟩
              · rw [Nat.ofDigitChars_cons, Nat.mul_comm]
                exact same
            · cases read
      · rintro ⟨ds, rfl, length, digits, same⟩
        cases ds with
        | nil => cases length
        | cons c ds =>
            obtain ⟨isDigit, digits⟩ := List.forall_mem_cons.mp digits
            rw [Nat.ofDigitChars_cons, Nat.mul_comm] at same
            rw [List.cons_append, digitsAfter, if_pos isDigit]
            exact ih.mpr ⟨ds, rfl, Nat.succ.inj length, digits, same⟩

theorem digits_eq_some {n v : Nat} {cs rest : List Char} :
    digits n cs = some (v, rest) ↔ ∃ ds, cs = ds ++ rest ∧ Written n v ds := by
  rw [digits, digitsAfter_eq_some]
  constructor
  · rintro ⟨ds, split, length, digits, value⟩
    exact ⟨ds, split, length, digits, value⟩
  · rintro ⟨ds, split, length, digits, value⟩
    exact ⟨ds, split, length, digits, value⟩

theorem digits_append {n v : Nat} {ds : List Char} (written : Written n v ds) (rest : List Char) :
    digits n (ds ++ rest) = some (v, rest) :=
  digits_eq_some.mpr ⟨ds, rfl, written⟩

theorem digits_end {n v : Nat} {ds : List Char} (written : Written n v ds) :
    digits n ds = some (v, []) :=
  digits_eq_some.mpr ⟨ds, (List.append_nil ds).symm, written⟩

/-- Reading starts with a number, and goes on after its digits. -/
theorem digits_bind_eq_some {α : Type} {n : Nat} {cs : List Char}
    {f : Nat × List Char → Option α} {a : α} :
    (digits n cs >>= f) = some a ↔
      ∃ v ds rest, cs = ds ++ rest ∧ Written n v ds ∧ f (v, rest) = some a := by
  constructor
  · intro read
    obtain ⟨⟨v, rest⟩, first, last⟩ := Option.bind_eq_some_iff.mp read
    obtain ⟨ds, split, written⟩ := digits_eq_some.mp first
    exact ⟨v, ds, rest, split, written, last⟩
  · rintro ⟨v, ds, rest, rfl, written, last⟩
    rw [digits_append written]
    exact last

theorem skip_bind_eq_some {α : Type} {c : Char} {cs : List Char} {f : List Char → Option α}
    {a : α} : (skip c cs >>= f) = some a ↔ ∃ rest, cs = c :: rest ∧ f rest = some a := by
  cases cs with
  | nil => simp [skip]
  | cons d cs => by_cases same : d = c <;> simp [skip, same]

/-- One to nine digits are a fraction. -/
theorem readFraction_eq_some {n : Nat} {cs : List Char} :
    readFraction cs = some n ↔
      ∃ f k, Written k f cs ∧ (1 ≤ k ∧ k ≤ 9) ∧ f * 10 ^ (9 - k) = n := by
  constructor
  · intro read
    unfold readFraction at read
    split at read
    · cases read
    · next within =>
      obtain ⟨f, ds, rest, split, written, last⟩ := digits_bind_eq_some.mp read
      -- the digits are as many as the characters
      have all : rest = [] := by
        have length := congrArg List.length split
        rw [List.length_append, written.length] at length
        exact List.length_eq_zero_iff.mp (by omega)
      rw [all, List.append_nil] at split
      rw [← split] at written
      refine ⟨f, cs.length, written, ?_, Option.some.inj last⟩
      simp only [Bool.or_eq_true, decide_eq_true_eq] at within
      omega
  · rintro ⟨f, k, written, within, rfl⟩
    have inside : ¬ (decide (cs.length < 1) || decide (9 < cs.length)) = true := by
      rw [written.length]
      simp only [Bool.or_eq_true, decide_eq_true_eq]
      omega
    rw [readFraction, if_neg inside, written.length, digits_end written]
    rfl

/-! ## Reading fields -/

/-- A time of day is read just when it is written in one of its forms. -/
theorem readClock_eq_some {c : ClockFields} {cs : List Char} :
    readClock cs = some c ↔ ClockText cs c := by
  constructor
  · intro read
    unfold readClock at read
    obtain ⟨h, hs, _, rfl, hour, colon⟩ := digits_bind_eq_some.mp read
    obtain ⟨_, rfl, minutes⟩ := skip_bind_eq_some.mp colon
    obtain ⟨m, ms, _, rfl, minute, afterMinute⟩ := digits_bind_eq_some.mp minutes
    -- the time ends after the minutes, after the seconds or after a fraction
    dsimp only at afterMinute
    split at afterMinute
    · next last =>
      cases afterMinute
      rw [List.isEmpty_iff.mp last, List.append_nil]
      exact .minutes hour minute
    · obtain ⟨_, rfl, seconds⟩ := skip_bind_eq_some.mp afterMinute
      obtain ⟨s, ss, _, rfl, second, afterSecond⟩ := digits_bind_eq_some.mp seconds
      dsimp only at afterSecond
      split at afterSecond
      · next last =>
        cases afterSecond
        rw [List.isEmpty_iff.mp last, List.append_nil]
        exact .seconds hour minute second
      · obtain ⟨_, rfl, point⟩ := skip_bind_eq_some.mp afterSecond
        obtain ⟨n, taken, last⟩ := Option.bind_eq_some_iff.mp point
        obtain ⟨f, k, fraction, within, rfl⟩ := readFraction_eq_some.mp taken
        cases last
        exact .fraction hour minute second fraction within
  · intro text
    unfold readClock
    cases text with
    | minutes hour minute =>
      rw [digits_append hour]
      simp [skip, digits_end minute]
    | seconds hour minute second =>
      rw [digits_append hour]
      simp [skip, digits_append minute, digits_end second]
    | fraction hour minute second fraction within =>
      rw [digits_append hour]
      simp [skip, digits_append minute, digits_append second,
        readFraction_eq_some.mpr ⟨_, _, fraction, within, rfl⟩]

/-- A day is read alone or with a time behind a `T`. -/
theorem readFields_eq_some {d : Date} {clock : Option ClockFields} {cs : List Char} :
    readFields cs = some (d, clock) ↔
      clock = none ∧ DateText cs d ∨
        ∃ c ds ts, clock = some c ∧ cs = ds ++ 'T' :: ts ∧ DateText ds d ∧ ClockText ts c := by
  constructor
  · intro read
    unfold readFields at read
    obtain ⟨y, ys, _, rfl, year, hyphen⟩ := digits_bind_eq_some.mp read
    obtain ⟨_, rfl, months⟩ := skip_bind_eq_some.mp hyphen
    obtain ⟨m, ms, _, rfl, month, hyphen'⟩ := digits_bind_eq_some.mp months
    obtain ⟨_, rfl, days⟩ := skip_bind_eq_some.mp hyphen'
    obtain ⟨d, ds, _, rfl, day, afterDay⟩ := digits_bind_eq_some.mp days
    dsimp only at afterDay
    split at afterDay
    · next last =>
      cases afterDay
      rw [List.isEmpty_iff.mp last, List.append_nil]
      exact .inl ⟨rfl, .date year month day⟩
    · obtain ⟨ts, rfl, time⟩ := skip_bind_eq_some.mp afterDay
      obtain ⟨c, clock, last⟩ := Option.bind_eq_some_iff.mp time
      cases last
      refine .inr ⟨c, ys ++ '-' :: (ms ++ '-' :: ds), ts, rfl, by simp, .date year month day, ?_⟩
      exact readClock_eq_some.mp clock
  · rintro (⟨rfl, date⟩ | ⟨c, ds, ts, rfl, rfl, date, clock⟩)
    · cases date with
      | date year month day =>
        rw [readFields, digits_append year]
        simp [skip, digits_append month, digits_end day]
    · cases date with
      | date year month day =>
        have read := readClock_eq_some.mpr clock
        rw [readFields, List.append_assoc, digits_append year]
        simp [skip, digits_append month, digits_append day, read]

/-! ## Reading moments -/

theorem hasDateRange_of_isDay {d : Date} (isDay : d.isDay = true) : hasDateRange d = true := by
  have month := Date.month_le_of_isDay isDay
  have day := Date.day_le_of_isDay isDay
  have longest := daysInMonth_le d.year d.month
  simp only [hasDateRange, Bool.and_eq_true, decide_eq_true_eq]
  omega

theorem hasClockRange_iff {c : ClockFields} :
    hasClockRange c = true ↔ c.hour ≤ 23 ∧ c.minute ≤ 59 := by
  simp only [hasClockRange, Bool.and_eq_true, decide_eq_true_eq]
  omega

theorem ofFields_day_eq_ok {d : Date} {m : Moment} :
    Moment.ofFields d none = .ok m ↔ d.isDay = true ∧ m = .day d := by
  constructor
  · intro read
    unfold Moment.ofFields at read
    dsimp only at read
    split at read
    · next isDay =>
      cases read
      exact ⟨(Bool.and_eq_true_iff.mp isDay).2, rfl⟩
    · cases read
  · rintro ⟨isDay, rfl⟩
    simp [Moment.ofFields, hasDateRange_of_isDay isDay, isDay]

/-- A day and a time are a moment where the day exists and the clock shows the time; a leap second
is refused. -/
theorem ofFields_time_eq_ok {d : Date} {c : ClockFields} {m : Moment}
    (whole : c.second = none → c.nanosecond = 0) :
    Moment.ofFields d (some c) = .ok m ↔
      d.isDay = true ∧ c.hour ≤ 23 ∧ c.minute ≤ 59 ∧ c.second.getD 0 ≤ 59 ∧
        m = .time d ⟨c.hour, c.minute, c.second.getD 0, c.nanosecond⟩ := by
  constructor
  · intro read
    unfold Moment.ofFields at read
    dsimp only at read
    split at read
    · cases read
    · next inRange =>
      rw [Bool.not_eq_true', Bool.not_eq_false, Bool.and_eq_true, hasClockRange_iff] at inRange
      obtain ⟨-, hour, minute⟩ := inRange
      -- with seconds, what the rest does not make a moment of is left over, as a leap second is
      split at read
      · next none =>
        split at read
        · next isDay =>
          cases read
          refine ⟨isDay, hour, minute, ?_, ?_⟩
          · rw [none]
            exact Nat.zero_le 59
          · rw [none, whole none]
            rfl
        · cases read
      · next s some =>
        split at read
        · cases read
        · next possible =>
          split at read
          · cases read
          · cases read
            simp only [Bool.or_eq_true, Bool.not_eq_true', decide_eq_true_eq, not_or,
              Bool.not_eq_false] at possible
            rw [some]
            refine ⟨possible.1, hour, minute, ?_, rfl⟩
            rw [Option.getD_some]
            omega
  · rintro ⟨isDay, hour, minute, second, rfl⟩
    unfold Moment.ofFields
    dsimp only
    rw [hasDateRange_of_isDay isDay, hasClockRange_iff.mpr ⟨hour, minute⟩, isDay]
    cases found : c.second with
    | none =>
        rw [whole found]
        rfl
    | some s =>
        rw [found, Option.getD_some] at second
        have notOver : ¬ 60 < s := by omega
        have notLeap : ¬ s = 60 := by omega
        simp [notOver, notLeap]

/-- What is written as a time without seconds has no fraction. -/
theorem ClockText.whole {cs : List Char} {c : ClockFields} (text : ClockText cs c) :
    c.second = none → c.nanosecond = 0 := by
  cases text with
  | minutes => exact fun _ => rfl
  | seconds | fraction => nofun

/-- The reader reads the texts that denote moments, and no others. -/
theorem read_eq_ok {s : String} {m : Moment} :
    Moment.read s = .ok m ↔ Denotes s.toList m := by
  constructor
  · intro read
    unfold Moment.read at read
    split at read
    · cases read
    · next d clock fields =>
      rcases readFields_eq_some.mp fields with ⟨rfl, date⟩ | ⟨c, ds, ts, rfl, split, date, text⟩
      · obtain ⟨isDay, rfl⟩ := ofFields_day_eq_ok.mp read
        exact .day date isDay
      · obtain ⟨isDay, hour, minute, second, rfl⟩ := (ofFields_time_eq_ok text.whole).mp read
        rw [split]
        exact .time date text isDay hour minute second
  · intro denotes
    unfold Moment.read
    generalize s.toList = cs at denotes
    cases denotes with
    | day date isDay =>
        rw [readFields_eq_some.mpr (.inl ⟨rfl, date⟩)]
        exact ofFields_day_eq_ok.mpr ⟨isDay, rfl⟩
    | time date text isDay hour minute second =>
        rw [readFields_eq_some.mpr (.inr ⟨_, _, _, rfl, rfl, date, text⟩)]
        exact (ofFields_time_eq_ok text.whole).mpr ⟨isDay, hour, minute, second, rfl⟩

/-- A text denotes one moment at most. -/
theorem Denotes.unique {cs : List Char} {m m' : Moment} (denotes : Denotes cs m)
    (denotes' : Denotes cs m') : m = m' := by
  rw [← String.toList_ofList (l := cs)] at denotes denotes'
  exact Except.ok.inj ((read_eq_ok.mpr denotes).symm.trans (read_eq_ok.mpr denotes'))

theorem Denotes.ne_nil {cs : List Char} {m : Moment} (denotes : Denotes cs m) : cs ≠ [] := by
  cases denotes with
  | day date =>
      cases date
      simp
  | time => simp

/-! ## Writing numbers -/

theorem ofDigitChars_lt {cs : List Char} (digits : ∀ c ∈ cs, c.isDigit = true) (start : Nat) :
    Nat.ofDigitChars 10 cs start < (start + 1) * 10 ^ cs.length := by
  induction cs generalizing start with
  | nil => simp
  | cons c cs ih =>
      obtain ⟨isDigit, digits⟩ := List.forall_mem_cons.mp digits
      have digit : c.toNat - '0'.toNat ≤ 9 := by
        have bounds : 48 ≤ c.toNat ∧ c.toNat ≤ 57 := Char.isDigit_iff_toNat.mp isDigit
        show c.toNat - 48 ≤ 9
        omega
      rw [Nat.ofDigitChars_cons, List.length_cons, Nat.pow_succ, Nat.mul_comm _ 10, ← Nat.mul_assoc]
      calc Nat.ofDigitChars 10 cs (10 * start + (c.toNat - '0'.toNat))
          < (10 * start + (c.toNat - '0'.toNat) + 1) * 10 ^ cs.length := ih digits _
        _ ≤ (start + 1) * 10 * 10 ^ cs.length := Nat.mul_le_mul_right _ (by omega)

theorem Written.lt {width n : Nat} {cs : List Char} (written : Written width n cs) :
    n < 10 ^ width := by
  have bound := ofDigitChars_lt written.digits 0
  rwa [written.value, written.length, Nat.zero_add, Nat.one_mul] at bound

theorem isDigit_ofNat : ∀ d < 10, (Char.ofNat (48 + d)).isDigit = true ∧
    (Char.ofNat (48 + d)).toNat - '0'.toNat = d := by
  decide

/-- A number that has no more digits than the width is written with them. -/
theorem written_padded {width n : Nat} (less : n < 10 ^ width) :
    Written width n (padded width n) := by
  induction width generalizing n with
  | zero =>
      have zero : n = 0 := by simpa using less
      rw [zero]
      exact ⟨rfl, nofun, rfl⟩
  | succ width ih =>
      have front := ih (n := n / 10) (by rw [Nat.pow_succ] at less; omega)
      obtain ⟨isDigit, digit⟩ := isDigit_ofNat (n % 10) (Nat.mod_lt n (by decide))
      refine ⟨?_, ?_, ?_⟩
      · rw [padded, List.length_append, front.length, List.length_singleton]
      · rw [padded, List.forall_mem_append]
        exact ⟨front.digits, by simpa using isDigit⟩
      · rw [padded, Nat.ofDigitChars_append, front.value, Nat.ofDigitChars_cons, digit,
          Nat.ofDigitChars_nil]
        omega

/-! ## Writing moments -/

/-- A fraction that is not nought is written after a point. -/
theorem exists_of_fractionText {n : Nat} (nonzero : n ≠ 0) (less : n < 1000000000) :
    ∃ f k fs, fractionText n = '.' :: fs ∧ Written k f fs ∧ (1 ≤ k ∧ k ≤ 9) ∧
      f * 10 ^ (9 - k) = n := by
  unfold fractionText
  rw [if_neg nonzero]
  split
  · exact ⟨n / 1000000, 3, _, rfl, written_padded (by omega), by decide, by omega⟩
  · split
    · exact ⟨n / 1000, 6, _, rfl, written_padded (by omega), by decide, by omega⟩
    · exact ⟨n, 9, _, rfl, written_padded (by omega), by decide, by omega⟩

/-- The canonical text of a time is written in one of the forms, with the numbers of the time. -/
theorem exists_clockText {t : Time} (isTime : t.isTime = true) :
    ∃ c, ClockText (timeText t) c ∧ c.hour = t.hour ∧ c.minute = t.minute ∧
      c.second.getD 0 = t.second ∧ c.nanosecond = t.nanosecond := by
  simp only [Time.isTime, Bool.and_eq_true, decide_eq_true_eq] at isTime
  have hour : Written 2 t.hour (padded 2 t.hour) := written_padded (by omega)
  have minute : Written 2 t.minute (padded 2 t.minute) := written_padded (by omega)
  have second : Written 2 t.second (padded 2 t.second) := written_padded (by omega)
  unfold timeText
  rw [List.append_assoc, List.append_assoc, List.singleton_append]
  split
  · next nought =>
    rw [List.append_nil]
    exact ⟨_, .minutes hour minute, rfl, rfl, nought.1.symm, nought.2.symm⟩
  · by_cases zero : t.nanosecond = 0
    · have none : fractionText t.nanosecond = [] := if_pos zero
      rw [none, List.append_nil]
      exact ⟨_, .seconds hour minute second, rfl, rfl, rfl, zero.symm⟩
    · obtain ⟨f, k, fs, text, fraction, within, value⟩ := exists_of_fractionText zero (by omega)
      rw [text]
      exact ⟨_, .fraction hour minute second fraction within, rfl, rfl, rfl, value⟩

/-- The moment is a day that exists, in a year of four digits, and a time of that day if it has
one. -/
def Moment.IsValid : Moment → Prop
  | .day d => d.year < 10000 ∧ d.isDay = true
  | .time d t => d.year < 10000 ∧ d.isDay = true ∧ t.isTime = true

theorem DateText.year_lt {cs : List Char} {d : Date} (text : DateText cs d) : d.year < 10000 := by
  cases text with
  | date year month day => exact year.lt

theorem ClockText.nanosecond_lt {cs : List Char} {c : ClockFields} (text : ClockText cs c) :
    c.nanosecond < 1000000000 := by
  cases text with
  | minutes | seconds => exact Nat.zero_lt_succ _
  | @fraction hs ms ss fs h m s f k hour minute second fraction within =>
      have whole : 10 ^ k * 10 ^ (9 - k) = 1000000000 := by
        rw [← Nat.pow_add, Nat.add_sub_cancel' within.2]
      show f * 10 ^ (9 - k) < 1000000000
      rw [← whole]
      exact Nat.mul_lt_mul_of_pos_right fraction.lt (Nat.pow_pos (by decide))

/-- What a text denotes is a day that exists, in a year of four digits, and a time that the clock
shows. -/
theorem Denotes.isValid {cs : List Char} {m : Moment} (denotes : Denotes cs m) : m.IsValid := by
  cases denotes with
  | day date isDay => exact ⟨date.year_lt, isDay⟩
  | time date clock isDay hour minute second =>
      refine ⟨date.year_lt, isDay, ?_⟩
      have fraction := clock.nanosecond_lt
      simp only [Time.isTime, Bool.and_eq_true, decide_eq_true_eq]
      omega

theorem dateText_text {d : Date} (isDay : d.isDay = true) (year : d.year < 10000) :
    DateText (dateText d) d := by
  have month := Date.month_le_of_isDay isDay
  have day := Date.day_le_of_isDay isDay
  have longest := daysInMonth_le d.year d.month
  have years : Written 4 d.year (padded 4 d.year) := written_padded year
  have months : Written 2 d.month (padded 2 d.month) := written_padded (by omega)
  have days : Written 2 d.day (padded 2 d.day) := written_padded (by omega)
  rw [dateText, List.append_assoc, List.append_assoc, List.append_assoc]
  exact .date years months days

/-- The canonical text of a moment denotes it. -/
theorem denotes_text {m : Moment} (valid : m.IsValid) : Denotes m.text.toList m := by
  cases m with
  | day d =>
      obtain ⟨year, isDay⟩ := valid
      rw [Moment.text, String.toList_ofList]
      exact .day (dateText_text isDay year) isDay
  | time d t =>
      obtain ⟨year, isDay, isTime⟩ := valid
      obtain ⟨c, clock, hour, minute, second, fraction⟩ := exists_clockText isTime
      rw [Moment.text, String.toList_ofList, List.append_assoc, List.singleton_append]
      simp only [Time.isTime, Bool.and_eq_true, decide_eq_true_eq] at isTime
      have denotes := Denotes.time (dateText_text isDay year) clock isDay (by omega) (by omega)
        (by omega)
      rwa [hour, minute, second, fraction] at denotes

theorem canonical_eq_ok {s text : String} :
    canonical s = .ok text ↔ ∃ m, Denotes s.toList m ∧ m.text = text := by
  rw [canonical, bind_pure_eq_ok]
  simp only [read_eq_ok]

/-- Times of days have one text just when they are the same instant. -/
theorem text_eq_iff_instant_eq {d d' : Date} {t t' : Time} (valid : (Moment.time d t).IsValid)
    (valid' : (Moment.time d' t').IsValid) :
    (Moment.time d t).text = (Moment.time d' t').text ↔ instant d t = instant d' t' := by
  rw [instant_inj valid.2.1 valid'.2.1 valid.2.2 valid'.2.2]
  constructor
  · intro same
    have denotes := denotes_text valid
    rw [same] at denotes
    cases denotes.unique (denotes_text valid')
    exact ⟨rfl, rfl⟩
  · rintro ⟨rfl, rfl⟩
    rfl

end Timestamp

open Timestamp

/-! ## Timestamp fields -/

namespace Field

variable {f : Field} {c : Clause} {op : String}

/-- Which relations are supported is no matter of the term. -/
theorem sameOk_orderOperator_term (c : Clause) (term : String) :
    SameOk (Clause.orderOperator { c with term := term }) c.orderOperator :=
  .ite (.refl _) (.ite (.refl _) (.ite (.refl _) (.error _ _)))

theorem timestampLiteral_eq_ok {literal : String} :
    timestampLiteral c = .ok literal ↔
      ∃ m, Denotes c.term.toList m ∧ Sql.quoted m.text = literal := by
  have read : timestampLiteral c = .ok literal ↔
      ∃ text, Timestamp.canonical c.term = .ok text ∧ Sql.quoted text = literal := by
    unfold timestampLiteral
    cases Timestamp.canonical c.term with
    | ok text => simp
    | error fault => simp
  rw [read]
  simp only [canonical_eq_ok]
  constructor
  · rintro ⟨text, ⟨m, denotes, rfl⟩, same⟩
    exact ⟨m, denotes, same⟩
  · rintro ⟨m, denotes, same⟩
    exact ⟨_, ⟨m, denotes, rfl⟩, same⟩

theorem condition_eq_ok_of_timestamp (isTimestamp : f.kind = .timestamp)
    (supported : c.orderOperator = .ok op) (nonempty : c.term ≠ "") {answer : Option String} :
    f.condition c = .ok answer ↔
      ∃ m, Denotes c.term.toList m ∧ answer = some (f.column ++ op ++ Sql.quoted m.text) := by
  rw [condition, isTimestamp]
  dsimp only
  rw [compare, Clause.nullCondition?_of_ne nonempty, supported]
  dsimp only
  rw [bind_eq_ok]
  simp only [timestampLiteral_eq_ok]
  constructor
  · rintro ⟨literal, ⟨m, denotes, rfl⟩, last⟩
    cases last
    exact ⟨m, denotes, rfl⟩
  · rintro ⟨m, denotes, rfl⟩
    exact ⟨_, ⟨m, denotes, rfl⟩, rfl⟩

/-- **Timestamps.** A timestamp field takes a term just when it denotes a moment, and compares with
the canonical text of the moment. This text denotes the moment alone, so that the field answers it
as it answers the term, and two date-times have one text just when they are the same instant. -/
theorem condition_timestamp (isTimestamp : f.kind = .timestamp)
    (supported : c.orderOperator = .ok op) (nonempty : c.term ≠ "") :
    (∀ answer, f.condition c = .ok answer ↔
      ∃ m, Denotes c.term.toList m ∧ answer = some (f.column ++ op ++ Sql.quoted m.text)) ∧
    ∀ m, Denotes c.term.toList m →
      (∀ m', Denotes m.text.toList m' ↔ m' = m) ∧
      f.condition { c with term := m.text } = f.condition c ∧
      ∀ s d t d' t', m = .time d t → Denotes s (.time d' t') →
        (m.text = (Moment.time d' t').text ↔ instant d t = instant d' t') := by
  have answers {answer : Option String} :
      f.condition c = .ok answer ↔
        ∃ m, Denotes c.term.toList m ∧ answer = some (f.column ++ op ++ Sql.quoted m.text) :=
    condition_eq_ok_of_timestamp isTimestamp supported nonempty
  refine ⟨fun answer => answers, fun m denotes => ?_⟩
  have canonical := denotes_text denotes.isValid
  have only (m' : Moment) : Denotes m.text.toList m' ↔ m' = m :=
    ⟨fun other => other.unique canonical, fun same => same ▸ canonical⟩
  refine ⟨only, ?_, ?_⟩
  · have written : m.text ≠ "" := fun empty => canonical.ne_nil (String.toList_eq_nil_iff.mpr empty)
    have supported' := (sameOk_orderOperator_term c m.text op).mpr supported
    rw [answers.mpr ⟨m, denotes, rfl⟩]
    exact (condition_eq_ok_of_timestamp isTimestamp supported' written).mpr ⟨m, canonical, rfl⟩
  · rintro s d t d' t' rfl denotes'
    exact text_eq_iff_instant_eq denotes.isValid denotes'.isValid

/-- A fraction that ends in noughts, on a leap day. -/
theorem condition_timestamp_of_leapDay :
    condition ⟨"created", .timestamp⟩ ⟨"at", ⟨">=", []⟩, "2024-02-29T07:30:00.2500"⟩ =
        .ok (some "created>='2024-02-29T07:30:00.250'") ∧
      Denotes "2024-02-29T07:30:00.2500".toList (.time ⟨2024, 2, 29⟩ ⟨7, 30, 0, 250000000⟩) ∧
      condition ⟨"created", .timestamp⟩ ⟨"at", ⟨">=", []⟩, "2024-02-29T07:30:00.250"⟩ =
        .ok (some "created>='2024-02-29T07:30:00.250'") := by
  have denotes :
      Denotes "2024-02-29T07:30:00.2500".toList (.time ⟨2024, 2, 29⟩ ⟨7, 30, 0, 250000000⟩) :=
    read_eq_ok.mp (by decide +kernel)
  obtain ⟨answers, moments⟩ := condition_timestamp (f := ⟨"created", .timestamp⟩)
    (c := ⟨"at", ⟨">=", []⟩, "2024-02-29T07:30:00.2500"⟩) rfl rfl (by decide)
  have answer := (answers _).mpr ⟨_, denotes, rfl⟩
  exact ⟨answer, denotes, (moments _ denotes).2.1.trans answer⟩

end Field

end ContextQuery
