import ChangeOps.Contracts.Canonical
import Mathlib.Tactic.IntervalCases
import Mathlib.Data.List.TakeWhile

/-!
# ChangeOps.Contracts — the text of an instant determines it

`isoformat` can be read back: the civil date gives the day (`day_civil`), the decimal numbers are
separated by characters that are not digits, and so two instants with the same JSON text are
equal (`isoformat_injective`).
-/

namespace ChangeOps.Time

/-! ## The civil date -/

/-- The year of the era that a day of the era falls in. -/
def yearOfEra (doe : Nat) : Nat := (doe - doe / 1460 + doe / 36524 - doe / 146096) / 365

theorem yearOfEra_lt {doe : Nat} (h : doe < 146097) : yearOfEra doe < 400 := by
  unfold yearOfEra
  omega

/-- A day lies in its year: not before the first day, and at most 365 days after it. -/
theorem yearStart_le {doe : Nat} (h : doe < 146097) :
    365 * yearOfEra doe + yearOfEra doe / 4 - yearOfEra doe / 100 ≤ doe ∧
      doe ≤ 365 * yearOfEra doe + yearOfEra doe / 4 - yearOfEra doe / 100 + 365 := by
  have hyear := yearOfEra_lt h
  have hdef : yearOfEra doe = (doe - doe / 1460 + doe / 36524 - doe / 146096) / 365 := rfl
  generalize yearOfEra doe = year at *
  -- the centuries are few: with them fixed the inequalities are linear
  have hcentury : doe / 36524 < 5 := by omega
  have hera : doe / 146096 < 2 := by omega
  have hyears : year / 100 < 4 := by omega
  generalize hc : doe / 36524 = century at *
  generalize he : doe / 146096 = era at *
  generalize hy : year / 100 = years at *
  interval_cases century <;> interval_cases era <;> interval_cases years <;> omega

/-- The day of a civil date, counted from `0001-01-01`. -/
def day (date : Nat × Nat × Nat) : Nat :=
  let year := if date.2.1 ≤ 2 then date.1 - 1 else date.1
  let mp := if date.2.1 ≤ 2 then date.2.1 + 9 else date.2.1 - 3
  let doy := (153 * mp + 2) / 5 + date.2.2 - 1
  let yoe := year % 400
  year / 400 * 146097 + (365 * yoe + yoe / 4 - yoe / 100 + doy) - 306

theorem day_civil (n : Nat) : day (civil n) = n := by
  have hdoe : (n + 306) % 146097 < 146097 := Nat.mod_lt _ (by omega)
  have hyear := yearOfEra_lt hdoe
  obtain ⟨hle, hlt⟩ := yearStart_le hdoe
  have hsplit := Nat.div_add_mod (n + 306) 146097
  unfold day civil
  simp only [show ((n + 306) % 146097 - (n + 306) % 146097 / 1460 + (n + 306) % 146097 / 36524 -
    (n + 306) % 146097 / 146096) / 365 = yearOfEra ((n + 306) % 146097) from rfl]
  generalize yearOfEra ((n + 306) % 146097) = yoe at *
  generalize (n + 306) % 146097 = doe at *
  generalize (n + 306) / 146097 = era at *
  generalize hstart : 365 * yoe + yoe / 4 - yoe / 100 = start at *
  generalize hmp : (5 * (doe - start) + 2) / 153 = mp
  have hmonth : (153 * mp + 2) / 5 ≤ doe - start := by omega
  have hera : (yoe + era * 400) / 400 = era := by omega
  have hyoe : (yoe + era * 400) % 400 = yoe := by omega
  by_cases hmarch : mp < 10
  · -- March to December: the civil year is the year of the era
    have hm : ¬ mp + 3 ≤ 2 := by omega
    simp only [if_pos hmarch, if_neg hm, Nat.add_zero, Nat.add_sub_cancel, hera, hyoe, hstart]
    omega
  · -- January and February belong to the year before
    have hm : mp - 9 ≤ 2 := by omega
    have hmp' : mp - 9 + 9 = mp := by omega
    simp only [if_neg hmarch, if_pos hm, Nat.add_sub_cancel, hmp', hera, hyoe, hstart]
    omega

/-! ## Decimal numbers -/

theorem toList_pad (width n : Nat) :
    (pad width n).toList =
      List.replicate (width - (toString n).length) '0' ++ Nat.toDigits 10 n := by
  unfold pad
  rw [String.toList_append, String.toList_ofList, Nat.toString_eq_ofList_toDigits,
    String.toList_ofList]

theorem isDigit_pad {width n : Nat} {c : Char} (h : c ∈ (pad width n).toList) :
    c.isDigit = true := by
  rw [toList_pad] at h
  rcases List.mem_append.mp h with hzero | hdigit
  · rw [List.eq_of_mem_replicate hzero]
    rfl
  · exact Nat.isDigit_of_mem_toDigits (by omega) (by omega) hdigit

theorem pad_injective {width m n : Nat} (h : (pad width m).toList = (pad width n).toList) :
    m = n := by
  have hvalue : ∀ n, Nat.ofDigitChars 10 (pad width n).toList 0 = n := by
    intro n
    rw [toList_pad, Nat.ofDigitChars_append, Nat.ofDigitChars_replicate_zero, Nat.mul_zero,
      Nat.ofDigitChars_ten_toDigits]
  rw [← hvalue m, h, hvalue n]

/-- A number ends at the first character that is not a digit. -/
theorem pad_append_inj {width m n : Nat} {c c' : Char} {rest rest' : List Char}
    (hc : c.isDigit = false) (hc' : c'.isDigit = false)
    (h : (pad width m).toList ++ c :: rest = (pad width n).toList ++ c' :: rest') :
    m = n ∧ c :: rest = c' :: rest' := by
  have htake : ∀ {n : Nat} {c : Char} {rest : List Char}, c.isDigit = false →
      ((pad width n).toList ++ c :: rest).takeWhile Char.isDigit = (pad width n).toList := by
    intro n c rest hc
    rw [List.takeWhile_append_of_pos fun c hmem => isDigit_pad hmem,
      List.takeWhile_cons_of_neg (by simp [hc]), List.append_nil]
  have hdigits : (pad width m).toList = (pad width n).toList := by
    rw [← htake hc, h, htake hc']
  refine ⟨pad_injective hdigits, ?_⟩
  rw [hdigits] at h
  exact List.append_cancel_left h

/-! ## The text -/

theorem toList_isoformat (t : Time) :
    t.isoformat.toList =
      (pad 4 (civil (t / 86400000000)).1).toList ++ '-' ::
        ((pad 2 (civil (t / 86400000000)).2.1).toList ++ '-' ::
          ((pad 2 (civil (t / 86400000000)).2.2).toList ++ 'T' ::
            ((pad 2 (t / 1000000 % 86400 / 3600)).toList ++ ':' ::
              ((pad 2 (t / 1000000 % 86400 / 60 % 60)).toList ++ ':' ::
                ((pad 2 (t / 1000000 % 86400 % 60)).toList ++
                  (if t % 1000000 = 0 then ['Z']
                    else '.' :: ((pad 6 (t % 1000000)).toList ++ ['Z']))))))) := by
  unfold isoformat
  dsimp only
  split_ifs with hzero
  · simp [String.toList_append]
  · simp [String.toList_append]

/-- Two instants with the same JSON text are equal. -/
theorem isoformat_injective : Function.Injective isoformat := by
  intro (t : Nat) (t' : Nat) h
  have htext := congrArg String.toList h
  rw [toList_isoformat, toList_isoformat] at htext
  obtain ⟨hyear, htext⟩ := pad_append_inj rfl rfl htext
  obtain ⟨hmonth, htext⟩ := pad_append_inj rfl rfl (List.cons.inj htext).2
  obtain ⟨hdate, htext⟩ := pad_append_inj rfl rfl (List.cons.inj htext).2
  obtain ⟨hhour, htext⟩ := pad_append_inj rfl rfl (List.cons.inj htext).2
  obtain ⟨hminute, htext⟩ := pad_append_inj rfl rfl (List.cons.inj htext).2
  have htail := (List.cons.inj htext).2
  -- the seconds end at the `Z` or at the point before the microseconds
  obtain ⟨hsecond, hmicro⟩ : t / 1000000 % 86400 % 60 = t' / 1000000 % 86400 % 60 ∧
      t % 1000000 = t' % 1000000 := by
    split_ifs at htail with hzero hzero' hzero'
    · exact ⟨(pad_append_inj rfl rfl htail).1, hzero.trans hzero'.symm⟩
    · have hchars := (pad_append_inj rfl rfl htail).2
      exact absurd (List.cons.inj hchars).1 (by decide)
    · have hchars := (pad_append_inj rfl rfl htail).2
      exact absurd (List.cons.inj hchars).1 (by decide)
    · obtain ⟨hsecond, hchars⟩ := pad_append_inj rfl rfl htail
      exact ⟨hsecond, (pad_append_inj rfl rfl (List.cons.inj hchars).2).1⟩
  have hday : t / 86400000000 = t' / 86400000000 := by
    have hcivil : civil (t / 86400000000) = civil (t' / 86400000000) :=
      Prod.ext hyear (Prod.ext hmonth hdate)
    rw [← day_civil (t / 86400000000), hcivil, day_civil]
  have hclock : t / 1000000 % 86400 = t' / 1000000 % 86400 := by
    generalize t / 1000000 % 86400 = clock at *
    generalize t' / 1000000 % 86400 = clock' at *
    have hhours : ∀ s : Nat, s / 60 / 60 = s / 3600 := fun s => Nat.div_div_eq_div_mul s 60 60
    have hof := hhours clock
    have hof' := hhours clock'
    omega
  have hday' : ∀ t : Nat, t / 1000000 / 86400 = t / 86400000000 := fun t => Nat.div_div_eq_div_mul _ _ _
  have hinstant : t / 1000000 = t' / 1000000 := by
    rw [← Nat.div_add_mod (t / 1000000) 86400, ← Nat.div_add_mod (t' / 1000000) 86400, hclock,
      hday', hday', hday]
  rw [← Nat.div_add_mod t 1000000, ← Nat.div_add_mod t' 1000000, hinstant, hmicro]

end ChangeOps.Time
