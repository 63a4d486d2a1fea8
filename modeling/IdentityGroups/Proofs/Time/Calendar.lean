import Mathlib
import IdentityGroups.Time.Rfc3339

/-! # Days on a line

A date has a number, which is one more for the date after it. An instant counts the seconds of its day from
there on, and so an offset from universal time is subtracted, whatever ends of days, months and years it crosses.
-/

namespace IdentityGroups.Time

def daysBeforeYear (year : Int) : Int :=
  365 * (year - 1) + (year - 1) / 4 - (year - 1) / 100 + (year - 1) / 400

def daysThrough (year : Int) : (months : Nat) → Nat
  | 0 => 0
  | m + 1 => daysThrough year m + daysIn year (m + 1)

theorem daysThrough_year (year : Int) : daysThrough year 12 = if isLeapYear year then 366 else 365 := by
  cases h : isLeapYear year <;> simp [daysThrough, daysIn, h]

theorem daysBeforeYear_succ (year : Int) :
    daysBeforeYear (year + 1) = daysBeforeYear year + daysThrough year 12 := by
  rw [daysThrough_year]
  unfold daysBeforeYear isLeapYear
  by_cases h : year % 4 = 0 ∧ (year % 100 ≠ 0 ∨ year % 400 = 0)
  · rw [if_pos (decide_eq_true h)]
    omega
  · rw [if_neg (by rw [decide_eq_false h]; exact Bool.false_ne_true)]
    omega

theorem daysBeforeYear_mono : Monotone daysBeforeYear := by
  refine monotone_int_of_le_succ fun year => ?_
  rw [daysBeforeYear_succ]
  omega

theorem daysThrough_mono (year : Int) : Monotone (daysThrough year) :=
  monotone_nat_of_le_succ fun _ => Nat.le_add_right _ _

theorem one_le_daysIn (year : Int) (month : Nat) : 1 ≤ daysIn year month := by
  unfold daysIn
  split
  · split <;> decide
  · split <;> decide

namespace Date

def number (d : Date) : Int := daysBeforeYear d.year + daysThrough d.year (d.month - 1) + d.day

theorem of?_eq_some {year : Int} {month day : Nat} {d : Date} (h : of? year month day = some d) :
    d.year = year ∧ d.month = month ∧ d.day = day := by
  unfold of? at h
  split at h
  · cases h
    exact ⟨rfl, rfl, rfl⟩
  · cases h

theorem daysThrough_month (d : Date) :
    daysThrough d.year d.month = daysThrough d.year (d.month - 1) + daysIn d.year d.month := by
  obtain ⟨-, ⟨hm, -⟩, -⟩ := d.isDate
  obtain ⟨m, hm'⟩ := Nat.exists_eq_add_one.2 hm
  rw [hm']
  rfl

theorem number_of_next? {d d' : Date} (h : d.next? = some d') : d'.number = d.number + 1 := by
  obtain ⟨-, ⟨hm, hm12⟩, hd, hday⟩ := d.isDate
  have hmonth := d.daysThrough_month
  unfold next? at h
  unfold number
  split at h
  · obtain ⟨hy, hm', hd'⟩ := of?_eq_some h
    rw [hy, hm', hd']
    omega
  · split at h
    · obtain ⟨hy, hm', hd'⟩ := of?_eq_some h
      rw [hy, hm', hd', Nat.add_sub_cancel, hmonth]
      omega
    · obtain ⟨hy, hm', hd'⟩ := of?_eq_some h
      have h12 : d.month = 12 := by omega
      have hfirst : daysThrough (d.year + 1) (1 - 1) = 0 := rfl
      rw [hy, hm', hd', daysBeforeYear_succ, hfirst, ← h12, hmonth]
      omega

theorem number_of_previous? {d d' : Date} (h : d.previous? = some d') : d'.number = d.number - 1 := by
  obtain ⟨-, ⟨hm, hm12⟩, hd, hday⟩ := d.isDate
  unfold previous? at h
  unfold number
  split at h
  · obtain ⟨hy, hm', hd'⟩ := of?_eq_some h
    rw [hy, hm', hd']
    omega
  · split at h
    · obtain ⟨hy, hm', hd'⟩ := of?_eq_some h
      have hmonth := d'.daysThrough_month
      rw [hy, hm'] at hmonth
      rw [hy, hm', hd', hmonth]
      omega
    · obtain ⟨hy, hm', hd'⟩ := of?_eq_some h
      have h1 : d.month = 1 := by omega
      have hyear := daysBeforeYear_succ (d.year - 1)
      have hdecember : daysThrough (d.year - 1) 12 = daysThrough (d.year - 1) (12 - 1) + 31 := rfl
      have hfirst : daysThrough d.year (1 - 1) = 0 := rfl
      rw [Int.sub_add_cancel] at hyear
      rw [hy, hm', hd', h1, hfirst, hyear, hdecember]
      omega

theorem number_le (d : Date) : d.number ≤ daysBeforeYear (d.year + 1) := by
  obtain ⟨-, ⟨-, hm12⟩, -, hday⟩ := d.isDate
  have hmonth := d.daysThrough_month
  have hyear := daysThrough_mono d.year hm12
  rw [daysBeforeYear_succ]
  unfold number
  omega

theorem lt_number (d : Date) : daysBeforeYear d.year < d.number := by
  obtain ⟨-, -, hd, -⟩ := d.isDate
  unfold number
  omega

theorem year_le_of_number {d d' : Date} (h : d.number = d'.number) : d.year ≤ d'.year := by
  by_contra hlt
  have hyears := daysBeforeYear_mono (show d'.year + 1 ≤ d.year by omega)
  have hlow := d.lt_number
  have hhigh := d'.number_le
  omega

theorem month_le_of_number {d d' : Date} (h : d.number = d'.number) (hy : d.year = d'.year) :
    d.month ≤ d'.month := by
  by_contra hlt
  obtain ⟨-, -, hd, -⟩ := d.isDate
  obtain ⟨-, -, -, hday⟩ := d'.isDate
  have hmonths := daysThrough_mono d'.year (show d'.month ≤ d.month - 1 by omega)
  have hmonth := d'.daysThrough_month
  unfold number at h
  rw [hy] at h
  omega

/-- No two dates have one number. -/
theorem number_injective : Function.Injective number := by
  intro d d' h
  have hy : d.year = d'.year := le_antisymm (year_le_of_number h) (year_le_of_number h.symm)
  have hm : d.month = d'.month :=
    le_antisymm (month_le_of_number h hy) (month_le_of_number h.symm hy.symm)
  have hd : d.day = d'.day := by
    unfold number at h
    rw [hy, hm] at h
    omega
  obtain ⟨year, month, day, _⟩ := d
  obtain ⟨year', month', day', _⟩ := d'
  obtain rfl : year = year' := hy
  obtain rfl : month = month' := hm
  obtain rfl : day = day' := hd
  rfl

theorem of?_isSome {year : Int} {month day : Nat} (h : IsDate year month day) :
    ∃ d, of? year month day = some d := ⟨_, dif_pos h⟩

/-- Before the last year, each date has one after it. -/
theorem exists_next? {d : Date} (h : d.year < lastYear) : ∃ d', d.next? = some d' := by
  obtain ⟨⟨hlow, hhigh⟩, ⟨hm, hm12⟩, hd, hday⟩ := d.isDate
  unfold next?
  split
  · exact of?_isSome ⟨⟨hlow, hhigh⟩, ⟨hm, hm12⟩, by omega, by omega⟩
  · split
    · refine of?_isSome ⟨⟨hlow, hhigh⟩, ⟨by omega, by omega⟩, le_rfl, ?_⟩
      exact one_le_daysIn d.year (d.month + 1)
    · exact of?_isSome ⟨⟨by omega, by omega⟩, by decide, le_rfl, one_le_daysIn _ _⟩

theorem exists_previous? {d : Date} (h : firstYear < d.year) : ∃ d', d.previous? = some d' := by
  obtain ⟨⟨hlow, hhigh⟩, ⟨hm, hm12⟩, hd, hday⟩ := d.isDate
  unfold previous?
  split
  · exact of?_isSome ⟨⟨hlow, hhigh⟩, ⟨hm, hm12⟩, by omega, by omega⟩
  · split
    · exact of?_isSome ⟨⟨hlow, hhigh⟩, ⟨by omega, by omega⟩, one_le_daysIn _ _, le_rfl⟩
    · exact of?_isSome ⟨⟨by omega, by omega⟩, by decide, by decide, le_rfl⟩

end Date

/-! ## Seconds -/

namespace Instant

/-- The seconds up to an instant, from the day before the year 1 on. A leap second has those of the second before
it. -/
def seconds (t : Instant) : Int := t.date.number * 86400 + t.secondOfDay

theorem eq_of_seconds {t t' : Instant} (hs : t.seconds = t'.seconds) (hn : t.nano = t'.nano) : t = t' := by
  obtain ⟨hlt, -⟩ := t.isClock
  obtain ⟨hlt', -⟩ := t'.isClock
  unfold seconds at hs
  have hnumber : t.date.number = t'.date.number := by omega
  have hd : t.date = t'.date := Date.number_injective hnumber
  have hsec : t.secondOfDay = t'.secondOfDay := by omega
  obtain ⟨date, sec, nano, _⟩ := t
  obtain ⟨date', sec', nano', _⟩ := t'
  obtain rfl : date = date' := hd
  obtain rfl : sec = sec' := hsec
  obtain rfl : nano = nano' := hn
  rfl

theorem of?_eq_some {date : Date} {sec nano : Nat} {t : Instant} (h : of? date sec nano = some t) :
    t.date = date ∧ t.secondOfDay = sec ∧ t.nano = nano := by
  unfold of? at h
  split at h
  · cases h
    exact ⟨rfl, rfl, rfl⟩
  · cases h

end Instant

variable {date : Date} {sec nano : Nat} {offset : Int}

/-- The date on which an offset from universal time ends up. -/
theorem toUniversal_eq : toUniversal date sec nano offset =
    match (if (sec : Int) - offset < 0 then date.previous?
      else if (sec : Int) - offset < 86400 then some date else date.next?) with
    | none => .error .impossible
    | some date =>
      match Instant.of? date (((sec : Int) - offset) % 86400).toNat nano with
      | none => .error .outOfRange
      | some t => .ok t := rfl

/-- The offset is taken from the seconds, and the nanoseconds stay. -/
theorem seconds_of_toUniversal {t : Instant} (hs : sec < 86400) (hlow : -86400 < offset) (hhigh : offset < 86400)
    (h : toUniversal date sec nano offset = .ok t) :
    t.seconds = date.number * 86400 + sec - offset ∧ t.nano = nano := by
  have hfinish {d : Date} (h : (match Instant.of? d (((sec : Int) - offset) % 86400).toNat nano with
      | none => .error .outOfRange
      | some t => .ok t : Except Fault Instant) = .ok t) :
      t.date = d ∧ t.secondOfDay = (((sec : Int) - offset) % 86400).toNat ∧ t.nano = nano := by
    split at h
    · cases h
    · rename_i ht
      cases h
      exact Instant.of?_eq_some ht
  rw [toUniversal_eq] at h
  unfold Instant.seconds
  split at h
  · cases h
  · rename_i d hd
    obtain ⟨hdate, hsec, hnano⟩ := hfinish h
    rw [hdate, hsec]
    refine ⟨?_, hnano⟩
    split at hd
    · rw [Date.number_of_previous? hd]
      omega
    · split at hd
      · cases hd
        omega
      · rw [Date.number_of_next? hd]
        omega

/-- Away from both ends of the calendar there is an instant for any offset of whole minutes. -/
theorem toUniversal_ok (hlow : firstYear < date.year) (hhigh : date.year < lastYear) (hc : IsClock sec nano)
    (hminutes : offset % 60 = 0) : ∃ t, toUniversal date sec nano offset = .ok t := by
  obtain ⟨hs, hn, hleap⟩ := hc
  have hclock : IsClock (((sec : Int) - offset) % 86400).toNat nano :=
    ⟨by omega, hn, fun h => by have := hleap h; omega⟩
  have hdate : ∃ d, (if (sec : Int) - offset < 0 then date.previous?
      else if (sec : Int) - offset < 86400 then some date else date.next?) = some d := by
    split
    · exact Date.exists_previous? hlow
    · split
      · exact ⟨date, rfl⟩
      · exact Date.exists_next? hhigh
  obtain ⟨d, hd⟩ := hdate
  refine ⟨⟨d, _, nano, hclock⟩, ?_⟩
  rw [toUniversal_eq, hd]
  simp only
  rw [Instant.of?, dif_pos hclock]

end IdentityGroups.Time
