/-
What `solarToLunar` puts beside a day: the stems of its year, the festivals of
the new year and of weeks, the solar terms. The names of the year come from one table of
new years and the lunar date from another, so on the three days where the
tables differ the names are those of the year before.
-/
import LearningDemo.LunarNameFacts

namespace LearningDemo.LunarCore

open Imperative Gregorian Blocks

variable {year : Int} {c c' : Gregorian.Date} {lunar : LunarDate} {device : Device}
  {memoryCache : LCMemoryCache} {res res' : LunarDay} {i j m d : Nat}

/-! ## Stems and animals -/

/-- A name of the cycle is its two signs, and each sign has its own number: the
names come back after 60 years. -/
theorem sexagenary_inj {year' : Int} : sexagenary year = sexagenary year' ↔ (60 : Int) ∣ year - year' := by
  have hlen : ∀ s ∈ heavenlyStems, s.toList.length = 1 := by decide
  have hstems : heavenlyStems.Nodup := by decide
  have hbranches : earthlyBranches.Nodup := by decide
  have hlt : ∀ n : Int, (n % 10).toNat < heavenlyStems.length := fun n => by
    show _ < 10
    omega
  have hlt' : ∀ n : Int, (n % 12).toNat < earthlyBranches.length := fun n => by
    show _ < 12
    omega
  have hstem : ∀ n : Int, (heavenlyStems.getD (n % 10).toNat "").toList.length = 1 := by
    intro n
    rw [List.getD_eq_getElem?_getD, List.getElem?_eq_getElem (hlt n), Option.getD_some]
    exact hlen _ (List.getElem_mem (hlt n))
  have hparts : sexagenary year = sexagenary year' ↔
      ((year - 4) % 10).toNat = ((year' - 4) % 10).toNat ∧ ((year - 4) % 12).toNat = ((year' - 4) % 12).toNat := by
    rw [← List.getD_inj (hlt _) (hlt _) hstems, ← List.getD_inj (hlt' _) (hlt' _) hbranches, sexagenary, sexagenary]
    constructor
    · intro heq
      have hlist := congrArg String.toList heq
      rw [String.toList_append, String.toList_append] at hlist
      obtain ⟨hs, hb⟩ := List.append_inj hlist ((hstem _).trans (hstem _).symm)
      exact ⟨String.toList_inj.mp hs, String.toList_inj.mp hb⟩
    · rintro ⟨hs, hb⟩
      rw [hs, hb]
  rw [hparts]
  omega

/-- The animals come back after 12 years. -/
theorem animal_inj {year' : Int} : animal year = animal year' ↔ (12 : Int) ∣ year - year' := by
  have hnodup : zodiac.Nodup := by decide
  have hlt : ∀ n : Int, (n % 12).toNat < zodiac.length := fun n => by
    show _ < 12
    omega
  rw [animal, animal, List.getD_inj (hlt _) (hlt _) hnodup]
  omega

/-- **The year's names.** The stems and the animal an answer gives are those of
its lunar year on every day but the new years of 1896, 1900 and 1916. -/
theorem stems_of_lunarYear (h : Says device memoryCache c res) (hc : c.Valid) (hco : memoryCache.Coherent) :
    (res.GanZhiYear = sexagenary (lunarYear c) ↔
      ¬ ((c.year = 1896 ∨ c.year = 1900 ∨ c.year = 1916) ∧ c.number = zheng c.year)) ∧
    (res.zodiac = animal (lunarYear c) ↔
      ¬ ((c.year = 1896 ∨ c.year = 1900 ∨ c.year = 1916) ∧ c.number = zheng c.year)) := by
  obtain ⟨-, lunar, -, -, -, htells⟩ := h.tells hc hco
  have hlate : late c.year = 1 ∧ (c.year = 1896 ∨ c.year = 1900 ∨ c.year = 1916) ∨
      late c.year = 0 ∧ ¬ (c.year = 1896 ∨ c.year = 1900 ∨ c.year = 1916) := by
    unfold late
    split <;> omega
  have hdiff : stemYear c = lunarYear c ↔
      ¬ ((c.year = 1896 ∨ c.year = 1900 ∨ c.year = 1916) ∧ c.number = zheng c.year) := by
    unfold stemYear lunarYear
    split <;> split <;> omega
  have hnear : stemYear c = lunarYear c ∨ stemYear c = lunarYear c - 1 := by
    unfold stemYear lunarYear
    split <;> split <;> omega
  rw [htells.ganZhi, htells.zodiac, sexagenary_inj, animal_inj, ← hdiff]
  omega

/-- The new year of 1916, one of the three. -/
theorem stems_of_lunarYear_1916 :
    ∃ res, Says gmtDevice {} { year := 1916, month := 1, day := 3 } res ∧
      (res.GanZhiYear = sexagenary (lunarYear { year := 1916, month := 1, day := 3 }) ↔
        ¬ (((1916 : Int) = 1896 ∨ (1916 : Int) = 1900 ∨ (1916 : Int) = 1916) ∧
          Date.number { year := 1916, month := 1, day := 3 } = zheng 1916)) ∧
      (res.zodiac = animal (lunarYear { year := 1916, month := 1, day := 3 }) ↔
        ¬ (((1916 : Int) = 1896 ∨ (1916 : Int) = 1900 ∨ (1916 : Int) = 1916) ∧
          Date.number { year := 1916, month := 1, day := 3 } = zheng 1916)) := by
  have hc : Date.Valid { year := 1916, month := 1, day := 3 } := ⟨by decide, 29, by decide, by decide⟩
  obtain ⟨res, h⟩ := Answered.says gmtDevice ⟨hc, by decide, by decide⟩ coherent_fresh
  exact ⟨res, h, stems_of_lunarYear h hc coherent_fresh⟩

/-! ## Festivals of the lunar year -/

theorem lunarFestival_names : ∀ e ∈ lunarFestival,
    (e.2 = "除夕" → e.1 = 100) ∧ (e.2 = "春节" ↔ e.1 = 101) := by decide

theorem find_festival {name : String} {n : Nat} (hname : name ≠ "") :
    ((lunarFestival.find? fun e => e.1 == n).map Prod.snd).getD "" = name ↔
      ∃ e ∈ lunarFestival, e.2 = name ∧ e.1 = n := by
  constructor
  · intro heq
    cases hfind : lunarFestival.find? fun e => e.1 == n with
    | none => rw [hfind] at heq; exact absurd heq.symm hname
    | some e =>
      rw [hfind] at heq
      exact ⟨e, List.mem_of_find?_eq_some hfind, heq, by simpa using List.find?_some hfind⟩
  · rintro ⟨e, he, rfl, rfl⟩
    have hfirst : ∀ e ∈ lunarFestival, lunarFestival.find? (fun e' => e'.1 == e.1) = some e := by decide
    rw [hfirst e he]
    rfl

/-- The name of a date that is not the year's last is one of the table under the date's key. -/
theorem Tells.festival_iff {stems : Int} {name : String} (h : Tells lunar stems res) (hname : name ≠ "") :
    res.lunarFestival = name ↔
      if lunar.number + 1 = zheng lunar.year + (months lunar.year).sum then name = "除夕"
      else ∃ e ∈ lunarFestival, e.2 = name ∧
        e.1 = 100 * monthNumber (rowOf lunar.year).1 lunar.month.toNat + lunar.day.toNat := by
  rw [h.festival, festivalOf]
  by_cases heq : lunar.number + 1 = zheng lunar.year + (months lunar.year).sum
  · simp only [heq, if_true, Option.getD_some, eq_comm]
  · simp only [heq, if_false]
    obtain ⟨n, hn⟩ : ∃ n, 100 * monthNumber (rowOf lunar.year).1 lunar.month.toNat + lunar.day.toNat = n := ⟨_, rfl⟩
    rw [hn]
    exact find_festival hname

theorem Tells.eve_iff {stems : Int} (h : Tells lunar stems res) (hvalid : lunar.Valid) :
    res.lunarFestival = "除夕" ↔ lunar.number + 1 = zheng lunar.year + (months lunar.year).sum := by
  rw [h.festival_iff (by decide)]
  split
  · rename_i heq
    exact ⟨fun _ => heq, fun _ => rfl⟩
  · rename_i hne
    refine ⟨fun ⟨e, he, hname, hkey⟩ => ?_, fun heq => absurd heq hne⟩
    have hd := hvalid.2.2.1
    have hd' := hvalid.day_le
    have := (lunarFestival_names e he).1 hname
    omega

theorem Tells.spring_iff {stems : Int} (h : Tells lunar stems res) (hvalid : lunar.Valid) :
    res.lunarFestival = "春节" ↔ lunar.number = zheng lunar.year := by
  have hfirst := hvalid.2.2.2.offset_eq_zero months_pos
  have hlast := hvalid.2.2.2.offset_succ_eq_sum months_pos
  have hsum := sum_months_ge lunar.year
  have hm := hvalid.2.1
  have hd := hvalid.2.2.1
  have hd' := hvalid.day_le
  have hleap := (lunarInfo_rows _ hvalid.1.rowOf_mem).1.2
  have hnum : lunar.number = zheng lunar.year ↔ lunar.month.toNat = 0 ∧ (lunar.day - 1).toNat = 0 := by
    rw [← hfirst, LunarDate.number]
    omega
  rw [h.festival_iff (by decide)]
  split
  · rename_i heq
    refine ⟨fun hname => absurd hname (by decide), fun hzero => ?_⟩
    omega
  · rw [hnum]
    constructor
    · rintro ⟨e, he, hname, hkey⟩
      have := (lunarFestival_names e he).2.mp hname
      unfold monthNumber at hkey
      split at hkey <;> omega
    · rintro ⟨hm0, hd0⟩
      refine ⟨(101, "春节"), by decide, rfl, ?_⟩
      rw [monthNumber, if_neg (by omega)]
      omega

/-- **New year.** A day is named new year's eve if and only if the new year of
its solar year is the next day, and new year's day if and only if it is that day. -/
theorem newYear_festivals (h : Says device memoryCache c res) (hc : c.Valid) (hco : memoryCache.Coherent) :
    (res.lunarFestival = "除夕" ↔ c.number + 1 = zheng c.year) ∧
    (res.lunarFestival = "春节" ↔ c.number = zheng c.year) := by
  obtain ⟨⟨-, htab, hfirst⟩, lunar, hvalid, hnum, hyear, htells⟩ := h.tells hc hco
  rw [htells.eve_iff hvalid, htells.spring_iff hvalid, hnum, hyear]
  have hmem := hc.number_mem
  have hz := htab.zheng_mem
  have hnext := newYear_succ (y := c.year)
  have hlen := yearLen_le (leap c.year)
  unfold lunarYear
  by_cases hbefore : c.number < zheng c.year
  · have hprev : minYear < c.year := by
      by_contra hlo
      have h90 : c.year = 1890 := by
        have := htab.1
        simp only [minYear] at *
        omega
      rw [h90, zheng_1890] at hbefore
      omega
    have hslip := slip_before hprev htab.2 hbefore
    have hmem' := hvalid.number_mem
    have hsum := sum_months_ge (c.year - 1)
    rw [if_pos hbefore]
    simp only [hyear, lunarYear, if_pos hbefore] at hmem'
    have htab' : InTable (c.year - 1) := ⟨by omega, by have := htab.2; omega⟩
    have hz' := htab'.zheng_mem
    have hprevYear := newYear_succ (y := c.year - 1)
    have hlen' := yearLen_le (leap (c.year - 1))
    have hs := slip_mem c
    rw [Int.sub_add_cancel] at hprevYear
    omega
  · have hslip := slip_after (c := c) (by omega)
    have hsum := sum_months_ge c.year
    rw [if_neg hbefore]
    omega

/-- The last day of the lunar year 2017. -/
theorem newYear_festivals_2018 :
    ∃ res, Says gmtDevice {} { year := 2018, month := 1, day := 15 } res ∧
      (res.lunarFestival = "除夕" ↔ Date.number { year := 2018, month := 1, day := 15 } + 1 = zheng 2018) ∧
      (res.lunarFestival = "春节" ↔ Date.number { year := 2018, month := 1, day := 15 } = zheng 2018) := by
  have hc : Date.Valid { year := 2018, month := 1, day := 15 } := ⟨by decide, 28, by decide, by decide⟩
  obtain ⟨res, h⟩ := Answered.says gmtDevice ⟨hc, by decide, by decide⟩ coherent_fresh
  exact ⟨res, h, newYear_festivals h hc coherent_fresh⟩

/-! ## Solar terms -/

theorem lookup_eq_some_iff_mem {l : TermList} (h : (l.map Prod.fst).Nodup) {key name : String} :
    l.lookup key = some name ↔ (key, name) ∈ l := by
  induction l with
  | nil => simp
  | cons e l ih =>
    obtain ⟨k, v⟩ := e
    obtain ⟨hnot, hnodup⟩ := List.nodup_cons.mp h
    by_cases hk : key = k
    · subst hk
      simp only [List.lookup_cons, BEq.rfl, Option.some.injEq, List.mem_cons, Prod.mk.injEq, true_and]
      exact ⟨fun hv => .inl hv.symm, fun hor => hor.elim Eq.symm fun hmem =>
        absurd (List.mem_map_of_mem (f := Prod.fst) hmem) hnot⟩
    · have hbeq : (key == k) = false := by simpa using hk
      simp [List.lookup_cons, hbeq, hk, ih hnodup]

theorem termRow_get (h : InTable year) {n : Nat} (hi : (termRow year)[i]? = some n) :
    i < 24 ∧ n / 100 = (i / 2 + 1) % 12 + 1 ∧
      (if i % 2 = 0 then 1 ≤ n % 100 ∧ n % 100 ≤ 15 else 16 ≤ n % 100 ∧ n % 100 ≤ 28) := by
  obtain ⟨hlen, hhalves⟩ := solarTermRows_halves _ h.termRow_mem
  have hlt : i < 24 := by
    have := (List.getElem?_eq_some_iff.mp hi).1
    omega
  have hget : (termRow year).getD i 0 = n := by rw [List.getD_eq_getElem?_getD, hi, Option.getD_some]
  obtain ⟨hm, hlo, hhi, hm', hlo', hhi'⟩ := hhalves (i / 2) (by omega)
  refine ⟨hlt, ?_⟩
  by_cases heven : i % 2 = 0
  · rw [show 2 * (i / 2) = i by omega, hget] at hm hlo hhi
    rw [if_pos heven]
    exact ⟨hm, hlo, hhi⟩
  · rw [show 2 * (i / 2) + 1 = i by omega, hget] at hm' hlo' hhi'
    rw [if_neg heven]
    exact ⟨hm', hlo', hhi'⟩

theorem mem_termRow (h : InTable year) {n : Nat} (hn : n ∈ termRow year) : n / 100 < 32 ∧ n % 100 < 32 := by
  obtain ⟨i, hi⟩ := List.mem_iff_getElem?.mp hn
  obtain ⟨-, hm, hd⟩ := termRow_get h hi
  split at hd <;> omega

theorem nodup_termRow (h : InTable year) : (termRow year).Nodup := by
  rw [List.nodup_iff_injective_get]
  intro a b hab
  have ha : (termRow year)[a.val]? = some ((termRow year).get a) := List.getElem?_eq_getElem a.isLt
  have hb : (termRow year)[b.val]? = some ((termRow year).get a) := by
    rw [hab]
    exact List.getElem?_eq_getElem b.isLt
  obtain ⟨halt, ham, had⟩ := termRow_get h ha
  obtain ⟨hblt, hbm, hbd⟩ := termRow_get h hb
  refine Fin.ext ?_
  split at had <;> split at hbd <;> omega

theorem termKey_inj {n n' : Nat} (h : InTable year) (hn : n ∈ termRow year) (hn' : n' ∈ termRow year)
    (heq : termKey n = termKey n') : n = n' := by
  have hk := mem_termRow h hn
  have hk' := mem_termRow h hn'
  have := (formatDay_inj hk.1 hk.2 hk'.1 hk'.2).mp heq
  omega

/-- The list of a year's terms, as it is built. -/
theorem term_lookup (h : InTable year) (hm : m < 12) (hd : d < 32) {name : String} :
    (termsOf year).lookup (formatDay m d) = some name ↔
      ∃ i : Nat, (termRow year)[i]? = some (100 * (m + 1) + d) ∧ solarTerm[i]? = some name := by
  have hlen : ((termRow year).map termKey).length = solarTerm.length := by
    rw [List.length_map, (solarTermRows_halves _ h.termRow_mem).1]
    rfl
  have hnodup : ((termsOf year).map Prod.fst).Nodup := by
    rw [termsOf, List.map_reverse, List.nodup_reverse, List.map_fst_zip (by omega)]
    exact (nodup_termRow h).map_on fun n hn n' hn' heq => termKey_inj h hn hn' heq
  rw [lookup_eq_some_iff_mem hnodup, termsOf, List.mem_reverse, List.mem_iff_getElem?]
  refine exists_congr fun i => ?_
  rw [List.getElem?_zip_eq_some, List.getElem?_map, Option.map_eq_some_iff]
  refine and_congr_left fun _ => ⟨?_, fun hn => ⟨_, hn, ?_⟩⟩
  · rintro ⟨n, hn, hkey⟩
    have hk := mem_termRow h (List.mem_of_getElem? hn)
    have heq : formatDay ((n / 100 : Nat) - 1) (n % 100 : Nat) = formatDay (((m + 1 : Nat) : Int) - 1) d := by
      rw [Nat.cast_succ, Int.add_sub_cancel]
      exact hkey
    have := (formatDay_inj hk.1 hk.2 (by omega) hd).mp heq
    rw [hn, Option.some.injEq]
    omega
  · rw [termKey, show (100 * (m + 1) + d) / 100 = m + 1 by omega, show (100 * (m + 1) + d) % 100 = d by omega]
    rw [Nat.cast_succ, Int.add_sub_cancel]

/-- The same, by the numbers of the terms. -/
theorem term_lookup_iff (h : InTable year) (hm : m < 12) (hd : d < 32) {name : String} :
    (termsOf year).lookup (formatDay m d) = some name ↔
      ∃ i < 24, (termRow year).getD i 0 = 100 * (m + 1) + d ∧ solarTerm.getD i "" = name := by
  have hlen := (solarTermRows_halves _ h.termRow_mem).1
  have hget : ∀ i < 24, (termRow year)[i]? = some ((termRow year).getD i 0) ∧
      solarTerm[i]? = some (solarTerm.getD i "") := by
    intro i hi
    have hi' : i < solarTerm.length := hi
    simp [List.getD_eq_getElem?_getD, hlen ▸ hi, hi']
  rw [term_lookup h hm hd]
  constructor
  · rintro ⟨i, hi, hname⟩
    have hlt : i < 24 := (List.getElem?_eq_some_iff.mp hname).1
    exact ⟨i, hlt, Option.some.inj ((hget i hlt).1.symm.trans hi), Option.some.inj ((hget i hlt).2.symm.trans hname)⟩
  · rintro ⟨i, hlt, hi, hname⟩
    exact ⟨i, (hget i hlt).1.trans (congrArg some hi), (hget i hlt).2.trans (congrArg some hname)⟩

theorem lunarDayOf_rest {y m d stems : Int} {termList : TermList}
    (h : lunarDayOf device y m d stems lunar termList = .ok res) :
    res.term = (termList.lookup (formatDay m d)).getD "" ∧
      res.weekFestival = (getWeekFestival device y (m + 1) d).getD "" := by
  simp only [lunarDayOf, bind_ok, pure_ok, Except.ok.injEq] at h
  obtain ⟨_, -, _, -, _, -, _, -, _, -, _, -, _, -, rfl⟩ := h
  exact ⟨rfl, rfl⟩

theorem Says.rest (h : Says device memoryCache c res) (hc : c.Valid) (hco : memoryCache.Coherent) :
    res.term = ((termsOf c.year).lookup (formatDay c.month c.day)).getD "" ∧
    res.weekFestival = (getWeekFestival device c.year (c.month + 1) c.day).getD "" := by
  have hplain : plainSolarToLunar device c.year (c.month + 1) c.day = .ok (.ok res) :=
    ((agrees_solarToLunar device _ _ _).run' hco).symm.trans h
  obtain ⟨⟨-, htab, -⟩, -⟩ := h.tells hc hco
  simp only [plainSolarToLunar, formatDate_date hc htab, htab.getYearTerm_eq, ok_bind, solarToLunarWith,
    bind_ok, pure_ok, Except.ok.injEq] at hplain
  obtain ⟨_, ⟨_, -, _, -, hday⟩, rfl⟩ := hplain
  exact lunarDayOf_rest hday

theorem answered_of (hc : c.Valid) (htab : InTable c.year)
    (hfirst : c.year = 1890 → c.month = 0 → 21 ≤ c.day) : Answered c := by
  refine ⟨hc, htab, ?_⟩
  by_cases h90 : c.year = 1890
  · have hvalid : Date.Valid { year := 1890, month := 0, day := 21 } := ⟨by decide, 31, rfl, by decide⟩
    have hle := (hvalid.le_iff hc h90.symm).mpr (by have := hfirst h90; dsimp only; omega)
    rw [← hvalid.number_eq] at hle
    exact hle
  · have hmem := hc.number_mem
    have hsecond : dayNumber 1890 0 21 ≤ newYear 1891 := by decide
    have := newYear_le (y := 1891) (m := c.year) (by have := htab.1; simp only [minYear] at this; omega)
    omega

/-- **Solar terms.** In every year two days of each month are answered with a
term, one in each half, and the terms come in the order of the table from
February on. The two of January 1890 come before the days that are answered. -/
theorem terms_of_month (htab : InTable year) {month : Nat} (hm : month < 12) :
    ∃ first second : Nat, 1 ≤ first ∧ first ≤ 15 ∧ 16 ≤ second ∧ second ≤ 28 ∧
      (year = 1890 → month = 0 → second < 21) ∧
      ∀ (device : Device) (memoryCache : LCMemoryCache) (c : Gregorian.Date), memoryCache.Coherent → c.Valid →
        c.year = year → c.month = month → (year = 1890 → month = 0 → 21 ≤ c.day) →
        ∃ res, Says device memoryCache c res ∧ res.term =
          if c.day = first then solarTerm.getD (2 * ((month + 11) % 12)) ""
          else if c.day = second then solarTerm.getD (2 * ((month + 11) % 12) + 1) "" else "" := by
  obtain ⟨k, hk⟩ : ∃ k, (month + 11) % 12 = k := ⟨_, rfl⟩
  obtain ⟨-, hrow⟩ := solarTermRows_halves _ htab.termRow_mem
  obtain ⟨hmonth, hlo, hhi, hmonth', hlo', hhi'⟩ := hrow k (by omega)
  have hjanuary : year = 1890 → month = 0 → (termRow year).getD (2 * k + 1) 0 % 100 < 21 := by
    rintro rfl rfl
    rw [← hk]
    decide
  refine ⟨(termRow year).getD (2 * k) 0 % 100, (termRow year).getD (2 * k + 1) 0 % 100, hlo, hhi, hlo', hhi',
    hjanuary, fun device memoryCache c hco hc hy hm' hfirst => ?_⟩
  subst hy hm'
  obtain ⟨res, h⟩ := Answered.says device (answered_of hc htab hfirst) hco
  refine ⟨res, h, ?_⟩
  have hday : c.day < 32 := by have := hc.day_le; omega
  rw [(h.rest hc hco).1]
  by_cases hfirst : c.day = (termRow c.year).getD (2 * k) 0 % 100
  · rw [if_pos hfirst, (term_lookup_iff htab hm hday).mpr ⟨2 * k, by omega, by omega, rfl⟩, hk]
    rfl
  · rw [if_neg hfirst]
    by_cases hsecond : c.day = (termRow c.year).getD (2 * k + 1) 0 % 100
    · rw [if_pos hsecond, (term_lookup_iff htab hm hday).mpr ⟨2 * k + 1, by omega, by omega, rfl⟩, hk]
      rfl
    · rw [if_neg hsecond]
      cases hfound : (termsOf c.year).lookup (formatDay c.month c.day) with
      | none => rfl
      | some name =>
        -- the term's month tells its number, up to the half
        obtain ⟨i, hlt, hi, -⟩ := (term_lookup_iff htab hm hday).mp hfound
        obtain ⟨h1, -, -, h2, -, -⟩ := hrow (i / 2) (by omega)
        rcases Nat.mod_two_eq_zero_or_one i with heven | hodd
        · rw [show 2 * (i / 2) = i by omega] at h1
          obtain rfl : 2 * k = i := by omega
          omega
        · rw [show 2 * (i / 2) + 1 = i by omega] at h2
          obtain rfl : 2 * k + 1 = i := by omega
          omega

/-- The terms of February 2018. -/
theorem terms_of_february_2018 :
    ∃ first second : Nat, 1 ≤ first ∧ first ≤ 15 ∧ 16 ≤ second ∧ second ≤ 28 ∧
      ((2018 : Int) = 1890 → 1 = 0 → second < 21) ∧
      ∀ (device : Device) (memoryCache : LCMemoryCache) (c : Gregorian.Date), memoryCache.Coherent → c.Valid →
        c.year = 2018 → c.month = 1 → ((2018 : Int) = 1890 → 1 = 0 → 21 ≤ c.day) →
        ∃ res, Says device memoryCache c res ∧ res.term =
          if c.day = first then solarTerm.getD (2 * ((1 + 11) % 12)) ""
          else if c.day = second then solarTerm.getD (2 * ((1 + 11) % 12) + 1) "" else "" :=
  terms_of_month (by decide) (by decide)

/-! ## Festivals of weeks -/

/-- A Gregorian device: each date of the tables' years is an instant of that
day (its zone leaves none of them out), and its locale names no other calendar. -/
structure Device.Gregorian (device : Device) : Prop where
  date : ∀ c : Gregorian.Date, c.Valid → InTable c.year →
    device.day (NewDate device c.year (c.month + 1) c.day) = c.number
  locale : (hasSuffix device.localeIdentifier.toLower "japanese" ||
    hasSuffix device.localeIdentifier.toLower "buddhist") = false

theorem gregorian_gmtDevice : gmtDevice.Gregorian where
  date c hc _ := by
    rw [← hc.number_eq]
    simp [Device.day, NewDate, Date, gmtDevice, gmtDate]
  locale := by
    show (hasSuffix (gmtDevice.localeIdentifier.map Char.toLower) "japanese" ||
      hasSuffix (gmtDevice.localeIdentifier.map Char.toLower) "buddhist") = false
    simp only [hasSuffix, String.toList_map]
    decide

/-- On a Gregorian device a day has its weekday, and so have the days before it in the month. -/
theorem Device.Gregorian.weekday_eq (hdev : device.Gregorian) (hc : c.Valid) (htab : InTable c.year) {cur : Int}
    (hcur : 1 ≤ cur) (hle : cur ≤ c.day) :
    device.weekday (NewDate device c.year (c.month + 1) cur) = Gregorian.weekday (c.number - (c.day - cur)) + 1 := by
  obtain ⟨hday, len, hlen, hlt⟩ := hc
  have hvalid : Date.Valid { year := c.year, month := c.month, day := cur.toNat } :=
    ⟨by dsimp only; omega, len, hlen, by dsimp only; omega⟩
  have hdate := hdev.date _ hvalid htab
  have hnumber : dayNumber c.year c.month c.day = dayNumber c.year c.month cur + (c.day - cur) := by
    rw [← dayNumber_add_day, add_sub_cancel]
  rw [← hvalid.number_eq] at hdate
  simp only [Int.toNat_of_nonneg (show 0 ≤ cur by omega)] at hdate
  rw [Device.weekday, hdate, ← Date.Valid.number_eq ⟨hday, len, hlen, hlt⟩, hnumber, Int.add_sub_cancel]

theorem countWeekDays_eq (hdev : device.Gregorian) (hc : c.Valid) (htab : InTable c.year) {turns : Nat}
    {cur count : Int} (hcur : 1 ≤ cur) (hturns : cur + turns = c.day + 1) :
    countWeekDays device c.year (c.month + 1) (device.weekday (NewDate device c.year (c.month + 1) c.day)) turns cur
      count = count + (turns + 6) / 7 := by
  induction turns generalizing cur count with
  | zero => simp [countWeekDays]
  | succ turns ih =>
    have hday := hc.1
    have hsame : device.weekday (NewDate device c.year (c.month + 1) cur) =
        device.weekday (NewDate device c.year (c.month + 1) c.day) ↔ (turns : Int) % 7 = 0 := by
      rw [hdev.weekday_eq hc htab hcur (by omega), hdev.weekday_eq hc htab (by omega) (by omega)]
      unfold Gregorian.weekday
      omega
    rw [countWeekDays, ih (by omega) (by omega)]
    by_cases hweek : (turns : Int) % 7 = 0
    · rw [if_pos (hsame.mpr hweek)]
      omega
    · rw [if_neg (fun h => hweek (hsame.mp h))]
      omega

theorem digit_inj : ∀ i < 10, ∀ j < 10, s!"{(i : Nat)}" = s!"{((j : Nat) : Int)}" → i = j := by decide

theorem length_digit : ∀ i < 10, s!"{(i : Nat)}".toList.length = 1 ∧ s!"{((i : Nat) : Int)}".toList.length = 1 := by
  decide

theorem weekKey_iff {k n w : Nat} (hk : k < 3200) (hm : m < 32) (hn : n < 10) (hw : w < 10) :
    pad2 (k / 100 : Nat) ++ s!"{k / 10 % 10}" ++ s!"{k % 10}" =
      pad2 (m : Nat) ++ s!"{((n : Nat) : Int)}" ++ s!"{((w : Nat) : Int)}" ↔ k = 100 * m + 10 * n + w := by
  have hk' : k / 100 < 32 := by omega
  have hn' : k / 10 % 10 < 10 := by omega
  have hw' : k % 10 < 10 := by omega
  constructor
  · intro heq
    have hlist := congrArg String.toList heq
    rw [String.toList_append, String.toList_append, String.toList_append, String.toList_append] at hlist
    obtain ⟨hlist, hlast⟩ := List.append_inj' hlist ((length_digit _ hw').1.trans (length_digit _ hw).2.symm)
    obtain ⟨hfirst, hmiddle⟩ := List.append_inj' hlist ((length_digit _ hn').1.trans (length_digit _ hn).2.symm)
    have h1 := pad2_inj hk' hm (String.toList_inj.mp hfirst)
    have h2 := digit_inj _ hn' _ hn (String.toList_inj.mp hmiddle)
    have h3 := digit_inj _ hw' _ hw (String.toList_inj.mp hlast)
    omega
  · intro heq
    rw [show k / 100 = m by omega, show k / 10 % 10 = n by omega, show k % 10 = w by omega]
    rfl

/-- The number a day is looked up by among the festivals of weeks. -/
def weekNumber (c : Gregorian.Date) : Nat :=
  100 * (c.month + 1) + 10 * ((c.day - 1) / 7 + 1) + ((Gregorian.weekday c.number).toNat + 1)

theorem getWeekFestival_eq (hdev : device.Gregorian) (hc : c.Valid) (htab : InTable c.year) :
    getWeekFestival device c.year (c.month + 1) c.day =
      (weekFestival.find? fun e => e.1 == weekNumber c).map Prod.snd := by
  have hkeys : ∀ e ∈ weekFestival, e.1 < 3200 := by decide
  have hday := hc.day_le
  have hpos := hc.1
  have hmonth := hc.month_lt
  have hweek : 0 ≤ Gregorian.weekday c.number ∧ Gregorian.weekday c.number < 7 := by
    unfold Gregorian.weekday
    omega
  have hcount : countWeekDays device c.year (c.month + 1)
      (device.weekday (NewDate device c.year (c.month + 1) c.day)) c.day 1 0 = ((c.day - 1) / 7 + 1 : Nat) := by
    rw [countWeekDays_eq hdev hc htab (by omega) (by omega)]
    omega
  have hday' : device.weekday (NewDate device c.year (c.month + 1) c.day) =
      ((Gregorian.weekday c.number).toNat + 1 : Nat) := by
    rw [hdev.weekday_eq hc htab (by omega) (by omega), Int.sub_self, Int.sub_zero]
    omega
  have hcode : getWeekFestival device c.year (c.month + 1) c.day = lookupWeek weekFestival
      (pad2 (c.month + 1 : Nat) ++ s!"{(((c.day - 1) / 7 + 1 : Nat) : Int)}" ++
        s!"{(((Gregorian.weekday c.number).toNat + 1 : Nat) : Int)}") := by
    rw [← hcount, ← hday', Nat.cast_succ]
    rfl
  rw [hcode, lookupWeek]
  congr 1
  refine List.find?_congr fun e he => ?_
  rw [Bool.eq_iff_iff, beq_iff_eq, beq_iff_eq, weekNumber]
  exact weekKey_iff (hkeys e he) (by omega) (by omega) (by omega)

theorem weekFestival_rows : ∀ e ∈ weekFestival, weekFestival.find? (fun e' => e'.1 == e.1) = some e ∧
    1 ≤ e.1 / 100 ∧ e.1 / 100 ≤ 12 ∧ 1 ≤ e.1 % 10 ∧ e.1 % 10 ≤ 7 ∧
    1 ≤ e.1 / 10 % 10 ∧ (e.1 ≠ 951 → e.1 / 10 % 10 ≤ 4) := by decide +kernel

theorem weekFestival_name {e e' : Nat × String} (he : e ∈ weekFestival) (he' : e' ∈ weekFestival)
    (h : e'.2 = e.2) : e' = e := by
  have hnodup : (weekFestival.map Prod.snd).Nodup := by decide
  exact List.inj_on_of_nodup_map hnodup he' he h

theorem getWeekFestival_iff (hdev : device.Gregorian) (hc : c.Valid) (htab : InTable c.year) {e : Nat × String}
    (he : e ∈ weekFestival) :
    getWeekFestival device c.year (c.month + 1) c.day = some e.2 ↔ weekNumber c = e.1 := by
  obtain ⟨hfind, -⟩ := weekFestival_rows e he
  rw [getWeekFestival_eq hdev hc htab, Option.map_eq_some_iff]
  constructor
  · rintro ⟨e', hfound, hsame⟩
    obtain rfl := weekFestival_name he (List.mem_of_find?_eq_some hfound) hsame
    have hkey := List.find?_some hfound
    simp only [beq_iff_eq] at hkey
    exact hkey.symm
  · intro hnumber
    rw [hnumber]
    exact ⟨e, hfind, rfl⟩

/-- The day of the `n`-th weekday `w` (1 for Sunday) of a month. -/
def nthWeekday (year : Int) (month n w : Nat) : Nat :=
  7 * (n - 1) + 1 + (((w : Int) - 1 - Gregorian.weekday (dayNumber year month 1)) % 7).toNat

theorem nthWeekday_pos {year : Int} {month n w : Nat} : 1 ≤ nthWeekday year month n w := by
  unfold nthWeekday
  omega

theorem nthWeekday_le {year : Int} {month n w : Nat} (hn : 1 ≤ n) (hn' : n ≤ 4) :
    nthWeekday year month n w ≤ 28 := by
  unfold nthWeekday
  omega

/-- September has five Sundays when it begins with the weekend. -/
theorem fifthSunday_le_iff {year : Int} : nthWeekday year 8 5 1 ≤ 30 ↔
    Gregorian.weekday (dayNumber year 8 1) = 0 ∨ Gregorian.weekday (dayNumber year 8 1) = 6 := by
  unfold nthWeekday Gregorian.weekday
  norm_num
  omega

/-- The day of a week that falls on a weekday, when its first day falls on `f`. -/
theorem weekday_shift {f : Int} {b w : Nat} (hf : 0 ≤ f) (hf' : f < 7) (hb : b < 7) (hw : 1 ≤ w) (hw' : w ≤ 7) :
    ((f + b) % 7).toNat + 1 = w ↔ b = (((w : Int) - 1 - f) % 7).toNat := by
  have hleft : (f + b) % 7 = if f + b < 7 then f + b else f + b - 7 := by
    split <;> omega
  have hright : ((w : Int) - 1 - f) % 7 = if f ≤ (w : Int) - 1 then (w : Int) - 1 - f else (w : Int) - 1 - f + 7 := by
    split <;> omega
  rw [hleft, hright]
  split <;> split <;> omega

theorem digits_iff {k m q v : Nat} (hq : q < 10) (hv : v < 10) :
    100 * m + 10 * q + v = k ↔ m = k / 100 ∧ q = k / 10 % 10 ∧ v = k % 10 := by
  omega

theorem weekNumber_iff (hc : c.Valid) {k : Nat} (hn : 1 ≤ k / 10 % 10) (hw : 1 ≤ k % 10 ∧ k % 10 ≤ 7) :
    weekNumber c = k ↔ c.month + 1 = k / 100 ∧ c.day = nthWeekday c.year c.month (k / 10 % 10) (k % 10) := by
  have hday := hc.day_le
  have hpos := hc.1
  obtain ⟨f, hf, hf0, hf6⟩ : ∃ f : Int, Gregorian.weekday (dayNumber c.year c.month 1) = f ∧ 0 ≤ f ∧ f < 7 := by
    refine ⟨_, rfl, ?_⟩
    unfold Gregorian.weekday
    omega
  obtain ⟨q, b, hd, hb⟩ : ∃ q b, c.day = 7 * q + b + 1 ∧ b < 7 :=
    ⟨(c.day - 1) / 7, (c.day - 1) % 7, by omega, by omega⟩
  have hnumber : c.number = dayNumber c.year c.month 1 + (7 * q + b : Nat) := by
    rw [← hc.number_eq, ← dayNumber_add_day, hd]
    congr 1
    omega
  have hweek : Gregorian.weekday c.number = (f + b) % 7 := by
    rw [hnumber, ← hf]
    unfold Gregorian.weekday
    omega
  have hq : (c.day - 1) / 7 = q := by omega
  have hlt : ((f + b) % 7).toNat + 1 < 10 := by omega
  rw [weekNumber, hweek, hq, digits_iff (by omega) hlt, weekday_shift hf0 hf6 hb hw.1 hw.2, nthWeekday, hf, hd]
  have hs : (((k % 10 : Nat) : Int) - 1 - f) % 7 < 7 := Int.emod_lt_of_pos _ (by omega)
  have hs0 : 0 ≤ (((k % 10 : Nat) : Int) - 1 - f) % 7 := Int.emod_nonneg _ (by omega)
  generalize (((k % 10 : Nat) : Int) - 1 - f) % 7 = s at *
  generalize k / 10 % 10 = n at *
  omega

/-- **Festivals of weeks.** In every year of the tables each festival of weeks
is on one day and on no other. Only the one of the fifth Sunday of September is
on no day at all in the years whose September begins neither on a Saturday nor
on a Sunday. -/
theorem weekFestival_once (hdev : device.Gregorian) (htab : InTable year) {e : Nat × String}
    (he : e ∈ weekFestival) :
    if e.1 = 951 ∧ Gregorian.weekday (dayNumber year 8 1) ≠ 0 ∧ Gregorian.weekday (dayNumber year 8 1) ≠ 6 then
      ∀ c : Gregorian.Date, c.Valid → c.year = year →
        getWeekFestival device c.year (c.month + 1) c.day ≠ some e.2
    else ∃! c : Gregorian.Date, c.Valid ∧ c.year = year ∧
      getWeekFestival device c.year (c.month + 1) c.day = some e.2 := by
  obtain ⟨-, hmonth, hmonth', hw, hw', hn, hn'⟩ := weekFestival_rows e he
  have hiff : ∀ c : Gregorian.Date, c.Valid → c.year = year →
      (getWeekFestival device c.year (c.month + 1) c.day = some e.2 ↔
        c.month + 1 = e.1 / 100 ∧ c.day = nthWeekday year (e.1 / 100 - 1) (e.1 / 10 % 10) (e.1 % 10)) := by
    intro c hc hyear
    rw [getWeekFestival_iff hdev hc (by rwa [hyear]) he, weekNumber_iff hc hn ⟨hw, hw'⟩, hyear]
    refine and_congr_right fun hm => ?_
    rw [← hm, Nat.add_sub_cancel]
  by_cases hnone : e.1 = 951 ∧ Gregorian.weekday (dayNumber year 8 1) ≠ 0 ∧
      Gregorian.weekday (dayNumber year 8 1) ≠ 6
  · rw [if_pos hnone]
    intro c hc hyear hshown
    obtain ⟨h951, hsunday, hsaturday⟩ := hnone
    obtain ⟨hm, hd⟩ := (hiff c hc hyear).mp hshown
    have hseptember : c.day ≤ 30 := by
      obtain ⟨-, len, hlen, hlt⟩ := hc
      rw [show c.month = 8 by omega] at hlen
      obtain rfl : 30 = len := Option.some.inj hlen
      omega
    rw [h951] at hd
    exact (fifthSunday_le_iff.mp (hd ▸ hseptember)).elim hsunday hsaturday
  · rw [if_neg hnone]
    have hvalid : Date.Valid ⟨year, e.1 / 100 - 1, nthWeekday year (e.1 / 100 - 1) (e.1 / 10 % 10) (e.1 % 10)⟩ := by
      by_cases h951 : e.1 = 951
      · have hle : nthWeekday year 8 5 1 ≤ 30 := by
          rw [fifthSunday_le_iff]
          by_contra hno
          exact hnone ⟨h951, not_or.mp hno⟩
        rw [h951]
        exact ⟨nthWeekday_pos, 30, rfl, by show nthWeekday year 8 5 1 - 1 < 30; omega⟩
      · exact Date.valid_of_le (by dsimp only; omega) nthWeekday_pos (nthWeekday_le hn (hn' h951))
    refine ⟨_, ⟨hvalid, rfl, (hiff _ hvalid rfl).mpr ⟨by dsimp only; omega, rfl⟩⟩, ?_⟩
    rintro ⟨y, m, d⟩ ⟨hc, hyear, hshown⟩
    obtain ⟨hm, hd⟩ := (hiff _ hc hyear).mp hshown
    simp only at hyear hm hd
    rw [Date.mk.injEq]
    exact ⟨hyear, by omega, hd⟩

/-- The fifth Sunday of September 2019, on a device in GMT. -/
theorem weekFestival_once_2019 :
    if 951 = 951 ∧ Gregorian.weekday (dayNumber 2019 8 1) ≠ 0 ∧ Gregorian.weekday (dayNumber 2019 8 1) ≠ 6 then
      ∀ c : Gregorian.Date, c.Valid → c.year = 2019 →
        getWeekFestival gmtDevice c.year (c.month + 1) c.day ≠ some "*世界海事日 世界心脏病日"
    else ∃! c : Gregorian.Date, c.Valid ∧ c.year = 2019 ∧
      getWeekFestival gmtDevice c.year (c.month + 1) c.day = some "*世界海事日 世界心脏病日" :=
  weekFestival_once (e := (951, "*世界海事日 世界心脏病日")) gregorian_gmtDevice (by decide) (by decide)

end LearningDemo.LunarCore
