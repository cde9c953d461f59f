import PanelDock.Instant.Text
/-!
# Instants are read as they are written

Every number in the text of an instant has a width of its own or a sign in front, so the reader,
which takes as many digits as it may, finds each where it ends. Only a year with its sign may be
longer than it has to be; it ends at the separator. A fraction is written with as few groups of
three digits as it takes, and read by the number of its digits.
-/

namespace PanelDock

/-! ## Digits -/

theorem Text.isBlank_of_isDigit {c : Char} (hc : c.isDigit = true) : Text.isBlank c = false := by
  have hrange : 48 ≤ c.toNat ∧ c.toNat ≤ 57 := by
    simpa [Char.isDigit, UInt32.le_iff_toNat_le] using hc
  simp only [Text.isBlank, Text.inRanges, Text.blankRanges, List.any_cons, List.any_nil,
    Bool.or_false, Bool.or_eq_false_iff, Bool.and_eq_false_iff, decide_eq_false_iff_not]
  omega

theorem Text.trimLeft_cons {c : Char} (hc : Text.isBlank c = false) (s : List Char) :
    Text.trimLeft (c :: s) = c :: s :=
  List.dropWhile_cons_of_neg (by simp [hc])

namespace Instant

open Text (trimLeft)

theorem digit?_eq (c : Char) :
    digit? c = if c.isDigit then some (c.toNat - '0'.toNat) else none := by
  simp [digit?, Char.isDigit, Char.le_def]

/-- Digits are taken up to the width, or up to the first character that is none. -/
theorem takeDigits_append {cs s : List Char} (hcs : ∀ c ∈ cs, c.isDigit = true) {width : Nat}
    (hwidth : cs.length ≤ width) (hs : cs.length = width ∨ ∀ c ∈ s.head?, c.isDigit = false) :
    takeDigits width (cs ++ s) = (Nat.ofDigitChars 10 cs 0, cs.length, s) := by
  induction cs generalizing width with
  | nil =>
      cases width with
      | zero => rfl
      | succ width =>
          cases s with
          | nil => rfl
          | cons c s =>
              have hc := hs.elim (fun h => absurd h.symm (Nat.succ_ne_zero _)) (fun h => h c rfl)
              simp [takeDigits, digit?_eq, hc]
  | cons c cs ih =>
      rw [List.forall_mem_cons] at hcs
      rw [List.length_cons] at hwidth hs
      obtain ⟨width, rfl⟩ := Nat.exists_eq_add_one_of_ne_zero (by omega : width ≠ 0)
      have hrest := ih hcs.2 (by omega) (hs.imp_left Nat.succ.inj)
      have hvalue : (c.toNat - '0'.toNat) * Nat.pow 10 cs.length + Nat.ofDigitChars 10 cs 0 =
          Nat.ofDigitChars 10 (c :: cs) 0 := by
        rw [Nat.ofDigitChars_cons, Nat.mul_zero, Nat.zero_add, Nat.mul_comm]
        exact Nat.ofDigitChars_eq_ofDigitChars_zero.symm
      rw [List.cons_append, takeDigits, digit?_eq, if_pos hcs.1]
      dsimp only
      rw [hrest, hvalue]
      rfl

theorem padded_digits (width n : Nat) : ∀ c ∈ padded width n, c.isDigit = true := by
  intro c hc
  rcases List.mem_append.mp hc with hc | hc
  · rw [List.eq_of_mem_replicate hc]
    rfl
  · exact Nat.isDigit_of_mem_toDigits (by decide) (by decide) hc

theorem ofDigitChars_padded (width n : Nat) : Nat.ofDigitChars 10 (padded width n) 0 = n := by
  rw [padded, Nat.ofDigitChars_append, Nat.ofDigitChars_replicate_zero, Nat.mul_zero,
    Nat.ofDigitChars_ten_toDigits]

theorem length_padded_pos (width n : Nat) : 0 < (padded width n).length := by
  rw [padded, List.length_append]
  exact Nat.add_pos_right _ Nat.length_toDigits_pos

/-- A number that has room is written in the width. -/
theorem length_padded {width n : Nat} (hwidth : 0 < width) (hn : n < Nat.pow 10 width) :
    (padded width n).length = width := by
  have := (Nat.length_toDigits_le_iff (by decide) hwidth).mpr hn
  rw [padded, List.length_append, List.length_replicate]
  omega

theorem padded_head (width n : Nat) (s : List Char) :
    ∃ c cs, padded width n ++ s = c :: cs ∧ c.isDigit = true := by
  obtain ⟨c, cs, hcons⟩ := List.exists_cons_of_length_pos (length_padded_pos width n)
  refine ⟨c, cs ++ s, by rw [hcons]; rfl, padded_digits width n c ?_⟩
  rw [hcons]
  exact List.mem_cons_self

theorem trimLeft_padded (width n : Nat) (s : List Char) :
    trimLeft (padded width n ++ s) = padded width n ++ s := by
  obtain ⟨c, cs, hcons, hc⟩ := padded_head width n s
  rw [hcons]
  exact Text.trimLeft_cons (Text.isBlank_of_isDigit hc) cs

/-- A number is read in its width, whatever stands behind it. -/
theorem number?_padded {width n : Nat} (hwidth : 0 < width) (hn : n < Nat.pow 10 width)
    (s : List Char) : number? width (padded width n ++ s) = some (n, s) := by
  have hlength := length_padded hwidth hn
  rw [number?, trimLeft_padded,
    takeDigits_append (padded_digits width n) (Nat.le_of_eq hlength) (Or.inl hlength),
    ofDigitChars_padded, hlength]
  split
  · rename_i he
    cases he
    cases hwidth
  · rename_i he
    cases he
    rfl

theorem separator?_cons {c : Char} (hc : Text.isBlank c = false) (s : List Char) :
    separator? c (c :: s) = some s := by
  rw [separator?, Text.trimLeft_cons hc]
  exact if_pos rfl

/-! ## The parts of an instant -/

/-- A year with its sign is read up to the separator. -/
theorem takeDigits_signed (n : Nat) (s : List Char) : ∃ k,
    takeDigits (padded 4 n ++ '-' :: s).length (padded 4 n ++ '-' :: s) = (n, k + 1, '-' :: s) := by
  have hlength : (padded 4 n).length ≤ (padded 4 n ++ '-' :: s).length := by
    rw [List.length_append]
    exact Nat.le_add_right _ _
  have hend : ∀ c ∈ ('-' :: s).head?, c.isDigit = false := fun _ h => Option.some.inj h ▸ rfl
  obtain ⟨k, hk⟩ := Nat.exists_eq_add_of_lt (length_padded_pos 4 n)
  rw [takeDigits_append (padded_digits 4 n) hlength (Or.inr hend), ofDigitChars_padded,
    hk, Nat.zero_add]
  exact ⟨k, rfl⟩

theorem year?_text (year : Int) (s : List Char) :
    year? (yearText year ++ '-' :: s) = some (year, '-' :: s) := by
  obtain ⟨k, hsigned⟩ := takeDigits_signed year.natAbs s
  rw [yearText]
  split
  · rename_i hplain
    obtain ⟨c, cs, hcons, hc⟩ := padded_head 4 year.toNat ('-' :: s)
    have hread : number? 4 (c :: cs) = some (year.toNat, '-' :: s) := by
      rw [← hcons]
      exact number?_padded (by decide) (show year.toNat < 10000 by omega) _
    rw [hcons, year?, Text.trimLeft_cons (Text.isBlank_of_isDigit hc)]
    split
    · rename_i he
      cases he
      cases hc
    · rename_i he
      cases he
      cases hc
    · simp only [hread, Option.map_some, Int.toNat_of_nonneg hplain.1]
  · by_cases hneg : year < 0
    · have hyear : -(year.natAbs : Int) = year := by omega
      rw [if_pos hneg, List.cons_append, year?, Text.trimLeft_cons (by decide)]
      simp only [hsigned, hyear]
    · have hyear : (year.natAbs : Int) = year := by omega
      rw [if_neg hneg, List.cons_append, year?, Text.trimLeft_cons (by decide)]
      simp only [hsigned, hyear]

theorem nanosecond?_padded {width n : Nat} (hwidth : 0 < width) (hnine : width ≤ 9)
    (hn : n < Nat.pow 10 width) :
    nanosecond? ('.' :: (padded width n ++ ['Z'])) = some (n * Nat.pow 10 (9 - width), ['Z']) := by
  have hlength := length_padded hwidth hn
  have hend : ∀ c ∈ ['Z'].head?, c.isDigit = false := fun _ h => Option.some.inj h ▸ rfl
  rw [nanosecond?, takeDigits_append (padded_digits width n) (by omega) (Or.inr hend),
    ofDigitChars_padded, hlength]
  split
  · rename_i he
    cases he
    cases hwidth
  · rename_i he
    cases he
    rfl

theorem nanosecond?_text {n : Nat} (hn : n < 1000000000) :
    nanosecond? (fractionText n ++ ['Z']) = some (n, ['Z']) := by
  rw [fractionText]
  split
  · rename_i hzero
    rw [hzero]
    rfl
  · split
    · rename_i hmillis
      rw [List.cons_append, nanosecond?_padded (by decide) (by decide)
        (show n / 1000000 < 1000 by omega)]
      exact congrArg (fun k => some (k, ['Z'])) (by omega : n / 1000000 * 1000000 = n)
    · split
      · rename_i hmicros
        rw [List.cons_append, nanosecond?_padded (by decide) (by decide)
          (show n / 1000 < 1000000 by omega)]
        exact congrArg (fun k => some (k, ['Z'])) (by omega : n / 1000 * 1000 = n)
      · rw [List.cons_append, nanosecond?_padded (by decide) (by decide) hn]
        exact congrArg (fun k => some (k, ['Z'])) (Nat.mul_one n)

/-- An instant is its own reading in UTC. -/
theorem ofLocal?_utc (t : Instant) : ofLocal? t.date t.time 0 = some t := by
  obtain ⟨hhour, hminute, _, _⟩ := t.time_valid
  have hclock : (t.time.hour * 60 + t.time.minute - 0 : Int).toNat =
      t.time.hour * 60 + t.time.minute := by
    omega
  have hhours : (t.time.hour * 60 + t.time.minute) / 60 = t.time.hour := by omega
  have hminutes : (t.time.hour * 60 + t.time.minute) % 60 = t.time.minute := by omega
  rw [ofLocal?, if_pos ⟨t.date_valid, t.time_valid, by decide, by decide⟩]
  dsimp only
  rw [if_neg (by omega), if_neg (by omega)]
  dsimp only
  rw [hclock, hhours, hminutes, of?, dif_pos t.date_valid, dif_pos t.time_valid]

/-- **An instant is read as it is written.** -/
theorem ofText?_text (t : Instant) : ofText? t.text = some t := by
  obtain ⟨_, _, _, hmonth, _, hday⟩ := t.date_valid
  obtain ⟨hhour, hminute, hsecond, hnanosecond⟩ := t.time_valid
  have hdays : daysInMonth t.date.year t.date.month ≤ 31 := by
    unfold daysInMonth
    repeat' split
    all_goals decide
  have hdash : ∀ s, separator? '-' ('-' :: s) = some s := separator?_cons (by decide)
  have hcolon : ∀ s, separator? ':' (':' :: s) = some s := separator?_cons (by decide)
  have htwo : ∀ {n : Nat}, n < 100 → ∀ s, number? 2 (padded 2 n ++ s) = some (n, s) :=
    number?_padded (by decide : 0 < 2)
  have hmonths := htwo (by omega : t.date.month < 100)
  have hdate := htwo (by omega : t.date.day < 100)
  have hhours := htwo (by omega : t.time.hour < 100)
  have hminutes := htwo (by omega : t.time.minute < 100)
  have hseconds := htwo (by omega : t.time.second < 100)
  have hzulu : offset? (trimLeft ['Z']) = some (0, []) := by decide
  rw [ofText?, text, String.toList_ofList, toChars]
  simp only [List.append_assoc, List.cons_append]
  -- each reader takes what its writer wrote and leaves the rest to the next
  refine Option.bind_eq_some_iff.mpr ⟨_, year?_text _ _, ?_⟩
  refine Option.bind_eq_some_iff.mpr ⟨_, hdash _, ?_⟩
  refine Option.bind_eq_some_iff.mpr ⟨_, hmonths _, ?_⟩
  refine Option.bind_eq_some_iff.mpr ⟨_, hdash _, ?_⟩
  refine Option.bind_eq_some_iff.mpr ⟨_, hdate _, ?_⟩
  refine Option.bind_eq_some_iff.mpr ⟨'T', rfl, ?_⟩
  refine Option.bind_eq_some_iff.mpr ⟨_, hhours _, ?_⟩
  refine Option.bind_eq_some_iff.mpr ⟨_, hcolon _, ?_⟩
  refine Option.bind_eq_some_iff.mpr ⟨_, hminutes _, ?_⟩
  refine Option.bind_eq_some_iff.mpr ⟨_, hcolon _, ?_⟩
  refine Option.bind_eq_some_iff.mpr ⟨_, hseconds _, ?_⟩
  refine Option.bind_eq_some_iff.mpr ⟨_, nanosecond?_text hnanosecond, ?_⟩
  refine Option.bind_eq_some_iff.mpr ⟨_, hzulu, ?_⟩
  exact ofLocal?_utc t

end Instant

end PanelDock
