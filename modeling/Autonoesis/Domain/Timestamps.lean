import Mathlib.Algebra.Ring.Int.Defs
import Mathlib.Data.List.TakeWhile
import Autonoesis.Domain.Values

/-!
# The text of a timestamp

`isoformat` gives every instant a text of its own: the calendar is injective, a padded
number is read back, and the fields have fixed widths from the right. `fromisoformat` reads
the instant back.
-/

namespace Autonoesis
open Base

namespace Instant

/-! ## The calendar -/

/-- The year of its era a day falls in. -/
def yearOfEra (doe : Int) : Int := (doe - doe / 1460 + doe / 36524 - doe / 146096) / 365

theorem yearOfEra_bounds {doe : Int} (lo : 0 ≤ doe) (hi : doe < 146097) :
    0 ≤ yearOfEra doe ∧ yearOfEra doe ≤ 399 := by
  unfold yearOfEra
  omega

/-- The day of its year, counted from March. -/
def dayOfYear (doe : Int) : Int :=
  doe - (365 * yearOfEra doe + yearOfEra doe / 4 - yearOfEra doe / 100)

def monthIndex (doe : Int) : Int := (5 * dayOfYear doe + 2) / 153

theorem civil_eq (day : Int) :
    civil day =
      (yearOfEra ((day + 719468) % 146097) + (day + 719468) / 146097 * 400 +
          (if (if monthIndex ((day + 719468) % 146097) < 10
            then monthIndex ((day + 719468) % 146097) + 3
            else monthIndex ((day + 719468) % 146097) - 9) ≤ 2 then 1 else 0),
        (if monthIndex ((day + 719468) % 146097) < 10
          then monthIndex ((day + 719468) % 146097) + 3
          else monthIndex ((day + 719468) % 146097) - 9),
        dayOfYear ((day + 719468) % 146097) -
          (153 * monthIndex ((day + 719468) % 146097) + 2) / 5 + 1) := rfl

/-- A year starts at most 365 days before each of its days; the case split is on the
century of the day. -/
theorem dayOfYear_bounds {doe : Int} (low : 0 ≤ doe) (high : doe < 146097) :
    0 ≤ dayOfYear doe ∧ dayOfYear doe ≤ 365 := by
  unfold dayOfYear yearOfEra
  generalize days : doe - doe / 1460 + doe / 36524 - doe / 146096 = n
  have four : n / 365 / 4 = n / 1460 := by omega
  have hundred : n / 365 / 100 = n / 36500 := by omega
  rw [four, hundred]
  have century : doe / 36524 = 0 ∨ doe / 36524 = 1 ∨ doe / 36524 = 2 ∨ doe / 36524 = 3 ∨
      doe / 36524 = 4 := by omega
  rcases century with first | second | third | fourth | last
  · have era : doe / 146096 = 0 := by omega
    have : n / 36500 = 0 := by omega
    omega
  · have era : doe / 146096 = 0 := by omega
    have : n / 36500 = 1 := by omega
    omega
  · have era : doe / 146096 = 0 := by omega
    have : n / 36500 = 2 := by omega
    omega
  · have era : doe / 146096 = 0 := by omega
    have : n / 36500 = 3 := by omega
    omega
  · have day : doe = 146096 := by omega
    subst day
    omega

theorem monthIndex_bounds {doe : Int} (low : 0 ≤ doe) (high : doe < 146097) :
    0 ≤ monthIndex doe ∧ monthIndex doe ≤ 11 := by
  have := dayOfYear_bounds low high
  unfold monthIndex
  omega

theorem civil_bounds (day : Int) :
    (0 ≤ (civil day).2.1 ∧ (civil day).2.1 < 100) ∧
      0 ≤ (civil day).2.2 ∧ (civil day).2.2 < 100 := by
  have months := @monthIndex_bounds ((day + 719468) % 146097) (by omega) (by omega)
  rw [civil_eq]
  dsimp only
  constructor
  · split <;> omega
  · unfold monthIndex
    omega

theorem civil_injective {a b : Int} (same : civil a = civil b) : a = b := by
  rw [civil_eq, civil_eq, Prod.mk.injEq, Prod.mk.injEq] at same
  obtain ⟨year, month, day⟩ := same
  rw [month] at year
  have years (x : Int) := @yearOfEra_bounds ((x + 719468) % 146097) (by omega) (by omega)
  have months (x : Int) := @monthIndex_bounds ((x + 719468) % 146097) (by omega) (by omega)
  have era : yearOfEra ((a + 719468) % 146097) = yearOfEra ((b + 719468) % 146097) ∧
      (a + 719468) / 146097 = (b + 719468) / 146097 := by
    have := years a
    have := years b
    omega
  have index : monthIndex ((a + 719468) % 146097) = monthIndex ((b + 719468) % 146097) := by
    have := months a
    have := months b
    split at month <;> split at month <;> omega
  rw [index] at day
  unfold dayOfYear at day
  rw [era.1] at day
  omega

/-! ## Padded numbers -/

/-- A padded number, read back. -/
def readPadded (text : List Char) : Int :=
  match text.dropWhile (· ≠ '-') with
  | [] => Nat.ofDigitChars 10 text 0
  | _ :: digits => -(Nat.ofDigitChars 10 digits 0 : Nat)

theorem digit_of_mem_repr {m : Nat} {c : Char} (there : c ∈ m.repr.toList) : c.isDigit = true := by
  rw [Nat.toList_repr] at there
  exact Nat.isDigit_of_mem_toDigits (by decide) (by decide) there

theorem toList_padded (width : Nat) (n : Int) :
    (padded width n).toList =
      List.replicate (width - (toString n).toList.length) '0' ++ (toString n).toList := by
  simp [padded]

theorem readPadded_padded (width : Nat) (n : Int) : readPadded (padded width n).toList = n := by
  have digits (m : Nat) : Nat.ofDigitChars 10 m.repr.toList 0 = m := by
    rw [Nat.toList_repr]
    exact Nat.ofDigitChars_toDigits (by decide) (by decide)
  rw [toList_padded]
  generalize width - (toString n).toList.length = zeros
  cases n with
  | ofNat m =>
    have plain : ∀ c ∈ List.replicate zeros '0' ++ m.repr.toList, decide (c ≠ '-') = true := by
      intro c there
      refine decide_eq_true ?_
      rintro rfl
      rcases List.mem_append.mp there with zero | digit
      · exact absurd (List.eq_of_mem_replicate zero) (by decide)
      · exact absurd (digit_of_mem_repr digit) (by decide)
    change readPadded (List.replicate zeros '0' ++ m.repr.toList) = (m : Int)
    rw [readPadded, List.dropWhile_eq_nil_iff.mpr plain]
    dsimp only
    rw [Nat.ofDigitChars_append, Nat.ofDigitChars_replicate_zero, Nat.mul_zero, digits]
  | negSucc m =>
    have zero : ∀ c ∈ List.replicate zeros '0', decide (c ≠ '-') = true := by
      intro c there
      rw [List.eq_of_mem_replicate there]
      decide
    change readPadded (List.replicate zeros '0' ++ ("-" ++ (m + 1).repr).toList) = Int.negSucc m
    have text : ("-" ++ (m + 1).repr).toList = '-' :: (m + 1).repr.toList := by simp
    rw [readPadded, text, List.dropWhile_append_of_pos zero]
    simp only [List.dropWhile_cons, ne_eq, not_true_eq_false, decide_false, Bool.false_eq_true,
      if_false, digits]
    omega

theorem padded_injective {width : Nat} {m n : Int}
    (same : (padded width m).toList = (padded width n).toList) : m = n := by
  rw [← readPadded_padded width m, same, readPadded_padded]

theorem length_padded {width : Nat} {n : Int} (positive : 0 < width) (low : 0 ≤ n)
    (high : n < 10 ^ width) : (padded width n).toList.length = width := by
  obtain ⟨m, rfl⟩ := Int.eq_ofNat_of_zero_le low
  have short : m.repr.toList.length ≤ width := by
    rw [Nat.toList_repr, Nat.length_toDigits_le_iff (by decide) positive]
    exact_mod_cast high
  rw [toList_padded, List.length_append, List.length_replicate]
  change width - m.repr.toList.length + m.repr.toList.length = width
  omega

theorem not_mem_padded {c : Char} (plain : c.isDigit = false) (sign : c ≠ '-') (width : Nat)
    (n : Int) : c ∉ (padded width n).toList := by
  have other {d : Char} (digit : d.isDigit = true) : c ≠ d := by
    rintro rfl
    rw [plain] at digit
    cases digit
  rw [toList_padded, List.mem_append, not_or]
  refine ⟨fun zero => other (by decide) (List.eq_of_mem_replicate zero), ?_⟩
  cases n with
  | ofNat m => exact fun there => other (digit_of_mem_repr there) rfl
  | negSucc m =>
    change c ∉ ("-" ++ (m + 1).repr).toList
    rw [String.toList_append, List.mem_append, not_or]
    exact ⟨by simpa using sign, fun there => other (digit_of_mem_repr there) rfl⟩

theorem dot_not_mem_padded (width : Nat) (n : Int) : '.' ∉ (padded width n).toList :=
  not_mem_padded (by decide) (by decide) width n

/-! ## The whole text -/

/-- The fraction of a second, when there is one. -/
def fraction (micros : Int) : List Char :=
  if micros = 0 then [] else '.' :: (padded 6 micros).toList

theorem toList_isoformat (t : Instant) :
    t.isoformat.toList =
      (padded 4 (civil (t / 86400000000)).1).toList ++ ('-' ::
      (padded 2 (civil (t / 86400000000)).2.1).toList ++ ('-' ::
      (padded 2 (civil (t / 86400000000)).2.2).toList ++ ('T' ::
      (padded 2 (t % 86400000000 / 1000000 / 3600)).toList ++ (':' ::
      (padded 2 (t % 86400000000 / 1000000 / 60 % 60)).toList ++ (':' ::
      (padded 2 (t % 86400000000 / 1000000 % 60)).toList ++
      (fraction (t % 86400000000 % 1000000) ++ "+00:00".toList)))))) := by
  have text : (if t % 86400000000 % 1000000 = 0 then "" else
      "." ++ padded 6 (t % 86400000000 % 1000000)).toList =
      fraction (t % 86400000000 % 1000000) := by
    unfold fraction
    split <;> simp
  rw [← text]
  simp [isoformat]

theorem length_two {n : Int} (low : 0 ≤ n) (high : n < 100) : (padded 2 n).toList.length = 2 :=
  length_padded (by decide) low high

/-- What two texts of one width, each behind the same separator, can be cut into. -/
theorem separated_inj {c : Char} {x x' rest rest' : List Char} (width : x.length = x'.length)
    (same : c :: x ++ rest = c :: x' ++ rest') : x = x' ∧ rest = rest' := by
  rw [List.cons_append, List.cons_append, List.cons.injEq] at same
  exact List.append_inj same.2 width

theorem fraction_inj {m n : Int} (same : fraction m = fraction n) : m = n := by
  unfold fraction at same
  split at same <;> split at same
  · rename_i zero zero'
    rw [zero, zero']
  · cases same
  · cases same
  · exact padded_injective (List.cons.inj same).2

theorem length_fraction {n : Int} (low : 0 ≤ n) (high : n < 1000000) :
    (fraction n).length = if n = 0 then 0 else 7 := by
  unfold fraction
  split
  · rfl
  · rw [List.length_cons, length_padded (by decide) low high]

theorem dot_mem_fraction (n : Int) : '.' ∈ fraction n ↔ n ≠ 0 := by
  unfold fraction
  split <;> simp [*]

/-- A text has a dot exactly when there is a fraction. -/
theorem dot_mem_isoformat (t : Instant) :
    '.' ∈ t.isoformat.toList ↔ t % 86400000000 % 1000000 ≠ 0 := by
  rw [toList_isoformat, ← dot_mem_fraction]
  simp [dot_not_mem_padded]

/-- Hours, minutes and seconds make up the seconds of a day. -/
theorem clock_inj {x y : Int} (hours : x / 3600 = y / 3600) (minutes : x / 60 % 60 = y / 60 % 60)
    (seconds : x % 60 = y % 60) : x = y := by
  have hour (z : Int) : z / 3600 = z / 60 / 60 := by omega
  rw [hour, hour] at hours
  omega

theorem instant_inj {x y : Int} (days : x / 86400000000 = y / 86400000000)
    (seconds : x % 86400000000 / 1000000 = y % 86400000000 / 1000000)
    (micros : x % 86400000000 % 1000000 = y % 86400000000 % 1000000) : x = y := by
  omega

/-- Two instants with one text are one instant. -/
theorem isoformat_injective {t u : Instant} (same : t.isoformat = u.isoformat) : t = u := by
  have dots : t % 86400000000 % 1000000 ≠ 0 ↔ u % 86400000000 % 1000000 ≠ 0 := by
    rw [← dot_mem_isoformat, ← dot_mem_isoformat, same]
  have text := congrArg String.toList same
  rw [toList_isoformat, toList_isoformat] at text
  have two (f : Instant → Int) (range : ∀ x, 0 ≤ f x ∧ f x < 100) :
      (padded 2 (f t)).toList.length = (padded 2 (f u)).toList.length := by
    rw [length_two (range t).1 (range t).2, length_two (range u).1 (range u).2]
  have month := two (fun x => (civil (x / 86400000000)).2.1) fun x => (civil_bounds _).1
  have day := two (fun x => (civil (x / 86400000000)).2.2) fun x => (civil_bounds _).2
  have hour := two (fun x => x % 86400000000 / 1000000 / 3600) fun x => by omega
  have minute := two (fun x => x % 86400000000 / 1000000 / 60 % 60) fun x => by omega
  have second := two (fun x => x % 86400000000 / 1000000 % 60) fun x => by omega
  have part : (fraction (t % 86400000000 % 1000000)).length =
      (fraction (u % 86400000000 % 1000000)).length := by
    rw [length_fraction (by omega) (by omega), length_fraction (by omega) (by omega)]
    simp only [not_iff_not] at dots
    simp only [dots]
  obtain ⟨year, text⟩ := List.append_inj' text (by
    simp only [List.length_append, List.length_cons, month, day, hour, minute, second, part])
  obtain ⟨month, text⟩ := separated_inj month text
  obtain ⟨day, text⟩ := separated_inj day text
  obtain ⟨hour, text⟩ := separated_inj hour text
  obtain ⟨minute, text⟩ := separated_inj minute text
  obtain ⟨second, text⟩ := separated_inj second text
  obtain ⟨part, _⟩ := List.append_inj text part
  have date : civil (t / 86400000000) = civil (u / 86400000000) := by
    rw [Prod.ext_iff, Prod.ext_iff]
    exact ⟨padded_injective year, padded_injective month, padded_injective day⟩
  have days := civil_injective date
  have seconds := clock_inj (padded_injective hour) (padded_injective minute)
    (padded_injective second)
  exact instant_inj days seconds (fraction_inj part)

/-! ## Reading it back -/

/-- The day count of a date, the other way round than `civil`. -/
def dayCount (year month day : Int) : Int :=
  let y := if month ≤ 2 then year - 1 else year
  let yoe := y % 400
  let mp := if 2 < month then month - 3 else month + 9
  y / 400 * 146097 + (yoe * 365 + yoe / 4 - yoe / 100 + ((153 * mp + 2) / 5 + day - 1)) - 719468

theorem dayCount_civil (n : Int) :
    dayCount (civil n).1 (civil n).2.1 (civil n).2.2 = n := by
  have year := @yearOfEra_bounds ((n + 719468) % 146097) (by omega) (by omega)
  have month := @monthIndex_bounds ((n + 719468) % 146097) (by omega) (by omega)
  have days : dayOfYear ((n + 719468) % 146097) = (n + 719468) % 146097 -
      (365 * yearOfEra ((n + 719468) % 146097) + yearOfEra ((n + 719468) % 146097) / 4 -
        yearOfEra ((n + 719468) % 146097) / 100) := rfl
  rw [civil_eq]
  unfold dayCount
  dsimp only
  generalize yearOfEra ((n + 719468) % 146097) = yoe at *
  generalize monthIndex ((n + 719468) % 146097) = mp at *
  generalize dayOfYear ((n + 719468) % 146097) = doy at *
  by_cases spring : mp < 10
  · simp only [if_pos spring]
    have late : ¬ mp + 3 ≤ 2 := by omega
    have later : 2 < mp + 3 := by omega
    simp only [if_neg late, if_pos later]
    omega
  · simp only [if_neg spring]
    have early : mp - 9 ≤ 2 := by omega
    have earlier : ¬ 2 < mp - 9 := by omega
    simp only [if_pos early, if_neg earlier]
    omega

/-- The instant whose text in front of the offset this is, if it is the text of one. -/
def readLocal (text : List Char) : Instant :=
  let date := text.takeWhile (· ≠ 'T')
  let clock := (text.dropWhile (· ≠ 'T')).drop 1
  let ends := date.length
  let day := dayCount (readPadded (date.take (ends - 6)))
    (readPadded ((date.drop (ends - 5)).take 2)) (readPadded (date.drop (ends - 2)))
  let second := readPadded (clock.take 2) * 3600 + readPadded ((clock.drop 3).take 2) * 60 +
    readPadded ((clock.drop 6).take 2)
  (day * 86400 + second) * 1000000 + readPadded (clock.drop 9)

/-- The minutes of an offset such as `+02:00`. -/
def readOffset : List Char → Option Int
  | [sign, h, h', ':', m, m'] =>
    let minutes := readPadded [h, h'] * 60 + readPadded [m, m']
    if [h, h', m, m'].all Char.isDigit && readPadded [h, h'] < 24 && readPadded [m, m'] < 60 then
      if sign = '+' then some minutes else if sign = '-' then some (-minutes) else none
    else none
  | _ => none

/-- `datetime.fromisoformat` on the texts `isoformat` writes, with an offset in minutes. -/
def fromisoformat (text : String) : Except Exc Instant :=
  let chars := text.toList
  let front := chars.take (chars.length - 6)
  let t := readLocal front
  match readOffset (chars.drop (chars.length - 6)) with
  | some offset =>
    if t.isoformat.toList = front ++ "+00:00".toList then .ok (t - offset * 60000000)
    else .error (.valueError ("Invalid isoformat string: '" ++ text ++ "'"))
  | none => .error (.valueError ("Invalid isoformat string: '" ++ text ++ "'"))

theorem two_chars {n : Int} (low : 0 ≤ n) (high : n < 100) :
    ∃ a b, (padded 2 n).toList = [a, b] ∧ readPadded [a, b] = n := by
  obtain ⟨a, b, text⟩ := List.length_eq_two.mp (length_two low high)
  exact ⟨a, b, text, text ▸ readPadded_padded 2 n⟩

theorem readPadded_fraction (n : Int) : readPadded ((fraction n).drop 1) = n := by
  unfold fraction
  split
  · rename_i zero
    exact zero.symm
  · exact readPadded_padded 6 n

/-- The text in front of the offset is read back as its instant. -/
theorem readLocal_front (t : Instant) :
    ∃ front, t.isoformat.toList = front ++ "+00:00".toList ∧ readLocal front = t := by
  have text := toList_isoformat t
  have bounds := civil_bounds (t / 86400000000)
  have day := dayCount_civil (t / 86400000000)
  have year := readPadded_padded 4 (civil (t / 86400000000)).1
  have plain : ∀ c ∈ (padded 4 (civil (t / 86400000000)).1).toList ++ '-' ::
      (padded 2 (civil (t / 86400000000)).2.1).toList ++ '-' ::
      (padded 2 (civil (t / 86400000000)).2.2).toList, decide (c ≠ 'T') = true := by
    intro c there
    refine decide_eq_true ?_
    rintro rfl
    have outside (width : Nat) (n : Int) : 'T' ∉ (padded width n).toList :=
      not_mem_padded (by decide) (by decide) width n
    simp [outside] at there
  obtain ⟨M, M', month, readMonth⟩ := two_chars bounds.1.1 bounds.1.2
  obtain ⟨D, D', date, readDate⟩ := two_chars bounds.2.1 bounds.2.2
  obtain ⟨h, h', hour, readHour⟩ :=
    @two_chars (t % 86400000000 / 1000000 / 3600) (by omega) (by omega)
  obtain ⟨m, m', minute, readMinute⟩ :=
    @two_chars (t % 86400000000 / 1000000 / 60 % 60) (by omega) (by omega)
  obtain ⟨s, s', second, readSecond⟩ :=
    @two_chars (t % 86400000000 / 1000000 % 60) (by omega) (by omega)
  have micros := readPadded_fraction (t % 86400000000 % 1000000)
  rw [month, date] at plain
  rw [month, date, hour, minute, second] at text
  generalize (padded 4 (civil (t / 86400000000)).1).toList = Y at *
  generalize fraction (t % 86400000000 % 1000000) = rest at *
  refine ⟨Y ++ '-' :: [M, M'] ++ '-' :: [D, D'] ++ 'T' :: h :: h' :: ':' :: m :: m' :: ':' ::
    s :: s' :: rest, by simpa using text, ?_⟩
  unfold readLocal
  rw [List.takeWhile_append_of_pos plain, List.dropWhile_append_of_pos plain]
  simp only [List.takeWhile_cons, List.dropWhile_cons, ne_eq, not_true_eq_false, decide_false,
    Bool.false_eq_true, if_false, List.append_nil, List.drop_succ_cons, List.drop_zero,
    List.take_succ_cons, List.take_zero, readHour, readMinute, readSecond]
  have date : Y ++ '-' :: [M, M'] ++ '-' :: [D, D'] = Y ++ ['-', M, M', '-', D, D'] := by
    simp
  have ends : (Y ++ ['-', M, M', '-', D, D']).length = Y.length + 6 := List.length_append
  have behind (n : Nat) : (Y ++ ['-', M, M', '-', D, D']).drop (Y.length + n) =
      ['-', M, M', '-', D, D'].drop n := List.drop_length_add_append ..
  rw [date, ends, show Y.length + 6 - 6 = Y.length from rfl,
    show Y.length + 6 - 5 = Y.length + 1 from rfl, show Y.length + 6 - 2 = Y.length + 4 from rfl,
    List.take_left, behind, behind]
  simp only [List.drop_succ_cons, List.drop_zero, List.take_succ_cons, List.take_zero, year,
    readMonth, readDate, day]
  change (_ * 86400 + _) * 1000000 + readPadded (rest.drop 1) = t
  rw [micros]
  omega

/-- `datetime.fromisoformat(t.isoformat())` is `t`. -/
@[simp] theorem fromisoformat_isoformat (t : Instant) : fromisoformat t.isoformat = .ok t := by
  obtain ⟨front, text, read⟩ := readLocal_front t
  have ends : t.isoformat.toList.length = front.length + 6 := by
    rw [text, List.length_append]
    rfl
  unfold fromisoformat
  simp only [ends, Nat.add_sub_cancel]
  rw [text, List.take_left, List.drop_left, read]
  have utc : readOffset "+00:00".toList = some 0 := by decide
  rw [utc]
  simp [text]

end Instant

example : Instant.fromisoformat "2024-02-29T14:34:56.000007+02:00" = .ok 1709210096000007 := by
  decide +kernel

end Autonoesis
