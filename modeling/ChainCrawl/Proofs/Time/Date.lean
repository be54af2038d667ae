import ChainCrawl.Time.Date

namespace ChainCrawl.Time.Date

/-- The day of a year that starts in March. Within an era the centuries are alike but for the last
day of the fourth one, and then a year is found from the four years it stands in. -/
private theorem dayOfYear_bounds {d y fours centuries eras leaps skips : Int} (hd : 0 ≤ d)
    (hlast : d ≤ 146096) (hfours : fours = d / 1460) (hcenturies : centuries = d / 36524)
    (heras : eras = d / 146096) (hy : y = (d - fours + centuries - eras) / 365)
    (hleaps : leaps = y / 4) (hskips : skips = y / 100) :
    0 ≤ d - (365 * y + leaps - skips) ∧ d - (365 * y + leaps - skips) ≤ 365 := by
  have hcentury : (centuries = 0 ∧ eras = 0) ∨ (centuries = 1 ∧ eras = 0) ∨
      (centuries = 2 ∧ eras = 0) ∨ (centuries = 3 ∧ eras = 0) ∨ (centuries = 4 ∧ eras = 1) := by
    omega
  have hskips' : skips = centuries - eras := by
    obtain ⟨hc, he⟩ | ⟨hc, he⟩ | ⟨hc, he⟩ | ⟨hc, he⟩ | ⟨hc, he⟩ := hcentury <;> omega
  have hfours' : fours = leaps ∨ fours = leaps + 1 := by
    obtain ⟨hc, he⟩ | ⟨hc, he⟩ | ⟨hc, he⟩ | ⟨hc, he⟩ | ⟨hc, he⟩ := hcentury <;> omega
  obtain ⟨hc, he⟩ | ⟨hc, he⟩ | ⟨hc, he⟩ | ⟨hc, he⟩ | ⟨hc, he⟩ := hcentury <;>
    obtain hf | hf := hfours' <;> omega

/-- A day number by its era, the year of the era, the month and the day of the month, where years
start in March, and the date that these make. -/
theorem ofDays_eq (n : Int) :
    ∃ era year month day : Int, 0 ≤ year ∧ year ≤ 399 ∧ 0 ≤ month ∧ month ≤ 11 ∧ 1 ≤ day ∧
      day ≤ 31 ∧
      n + epochDay = era * eraDays + (year * 365 + year / 4 - year / 100) +
        ((153 * month + 2) / 5 + day - 1) ∧
      ofDays n = if month < 10 then ⟨year + era * 400, month + 3, day⟩
        else ⟨year + era * 400 + 1, month - 9, day⟩ := by
  have hd : 0 ≤ (n + epochDay) % eraDays ∧ (n + epochDay) % eraDays ≤ 146096 := by
    simp only [eraDays]
    omega
  have hsplit : n + epochDay = (n + epochDay) / eraDays * eraDays + (n + epochDay) % eraDays := by
    simp only [eraDays]
    omega
  generalize hera : (n + epochDay) / eraDays = era at hsplit
  generalize hdoe : (n + epochDay) % eraDays = d at hd hsplit
  have hbounds := dayOfYear_bounds hd.1 hd.2 rfl rfl rfl rfl rfl rfl
  generalize hyear : (d - d / 1460 + d / 36524 - d / 146096) / 365 = year at hbounds
  have hyear0 : 0 ≤ year := by omega
  have hyear1 : year ≤ 399 := by omega
  generalize hdoy : d - (365 * year + year / 4 - year / 100) = dayOfYear at hbounds
  refine ⟨era, year, (5 * dayOfYear + 2) / 153,
    dayOfYear - (153 * ((5 * dayOfYear + 2) / 153) + 2) / 5 + 1, hyear0, hyear1, by omega, by omega,
    by omega, by omega, by omega, ?_⟩
  simp only [ofDays, hera, hdoe, hyear, hdoy]
  split
  · rw [if_neg (show ¬ (5 * dayOfYear + 2) / 153 + 3 ≤ 2 by omega), Int.add_zero]
  · rw [if_pos (show (5 * dayOfYear + 2) / 153 - 9 ≤ 2 by omega)]

/-- The date of a day number has that day number. -/
theorem toDays_ofDays (n : Int) : (ofDays n).toDays = n := by
  obtain ⟨era, year, month, day, hyear0, hyear1, hmonth0, hmonth1, -, -, hn, hdate⟩ := ofDays_eq n
  have hera : (year + era * 400) / 400 = era := by omega
  have hofEra : (year + era * 400) % 400 = year := by omega
  rw [hdate]
  split
  · have hlate : ¬ month + 3 ≤ 2 := by omega
    have hlate' : 2 < month + 3 := by omega
    simp only [toDays, if_neg hlate, if_pos hlate', hera, hofEra, Int.add_sub_cancel]
    omega
  · have hearly : month - 9 ≤ 2 := by omega
    have hearly' : ¬ 2 < month - 9 := by omega
    simp only [toDays, if_pos hearly, if_neg hearly', hera, hofEra, Int.add_sub_cancel,
      Int.sub_add_cancel]
    omega

theorem exists?_ofDays (n : Int) : (ofDays n).exists? = true := by
  rw [exists?, toDays_ofDays]
  exact decide_eq_true rfl

theorem month_ofDays (n : Int) : 1 ≤ (ofDays n).month ∧ (ofDays n).month ≤ 12 := by
  obtain ⟨era, year, month, day, -, -, hmonth0, hmonth1, -, -, -, hdate⟩ := ofDays_eq n
  rw [hdate]
  split <;> constructor <;> dsimp only <;> omega

theorem day_ofDays (n : Int) : 1 ≤ (ofDays n).day ∧ (ofDays n).day ≤ 31 := by
  obtain ⟨era, year, month, day, -, -, -, -, hday0, hday1, -, hdate⟩ := ofDays_eq n
  rw [hdate]
  split
  · exact ⟨hday0, hday1⟩
  · exact ⟨hday0, hday1⟩

/-- The days from -96465292 on are those of the years from -262143 on. -/
theorem le_year_ofDays {n : Int} (h : -96465292 ≤ n) : -262143 ≤ (ofDays n).year := by
  obtain ⟨era, year, month, day, hyear0, hyear1, hmonth0, hmonth1, hday0, hday1, hn, hdate⟩ :=
    ofDays_eq n
  simp only [epochDay, eraDays] at hn
  rw [hdate]
  split <;> dsimp only <;> omega

/-- The days up to 95026236 are those of the years up to 262142. -/
theorem year_ofDays_le {n : Int} (h : n ≤ 95026236) : (ofDays n).year ≤ 262142 := by
  obtain ⟨era, year, month, day, hyear0, hyear1, hmonth0, hmonth1, hday0, hday1, hn, hdate⟩ :=
    ofDays_eq n
  simp only [epochDay, eraDays] at hn
  rw [hdate]
  split <;> dsimp only <;> omega

end ChainCrawl.Time.Date
