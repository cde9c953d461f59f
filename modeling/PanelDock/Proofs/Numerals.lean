import PanelDock.Json.Printer
import PanelDock.Json.Reader
/-!
# Numerals stand for themselves

A numeral is kept as it was written, so to read it back needs no arithmetic: its digits are taken
until something else stands in front. What has to hold is its shape. There is a digit on either side
of a point, and a leading zero stands alone (`Numeral.Proper`). Whole numbers have this shape, and
so have floats, because the shortest decimal of a float other than zero has a digit other than zero.
-/

namespace PanelDock

/-! ## Digits -/

namespace Decimal.Numeral

/-- The digits of a number are that of its tens followed by that of its units. -/
theorem digitsOf_eq (n : Nat) :
    digitsOf n = if n < 10 then [n] else digitsOf (n / 10) ++ [n % 10] := by
  have hunit : ∀ d < 10, d.digitChar.toNat - '0'.toNat = d := by decide
  rw [digitsOf, Nat.toDigits_eq_if (by decide)]
  split
  · rename_i hn
    rw [List.map_singleton, hunit n hn]
  · rw [List.map_append, List.map_singleton, hunit _ (Nat.mod_lt n (by decide))]
    rfl

theorem digitsOf_ne_nil (n : Nat) : digitsOf n ≠ [] := by
  rw [digitsOf, ne_eq, List.map_eq_nil_iff]
  exact Nat.toDigits_ne_nil

theorem lt_of_mem_digitsOf {n d : Nat} (h : d ∈ digitsOf n) : d < 10 := by
  induction n using Nat.strongRecOn with
  | ind n ih =>
      rw [digitsOf_eq] at h
      split at h
      · rename_i hn
        rw [List.mem_singleton] at h
        omega
      · rcases List.mem_append.mp h with h | h
        · exact ih (n / 10) (by omega) h
        · rw [List.mem_singleton] at h
          omega

theorem head?_append {l : List Nat} (h : l ≠ []) (m : List Nat) : (l ++ m).head? = l.head? := by
  rw [List.head?_append, List.head?_eq_some_head h]
  rfl

/-- No number but zero is written with a zero in front. -/
theorem digitsOf_head {n : Nat} (h : (digitsOf n).head? = some 0) : n = 0 := by
  induction n using Nat.strongRecOn with
  | ind n ih =>
      rw [digitsOf_eq] at h
      split at h
      · exact Option.some.inj h
      · rename_i hn
        rw [head?_append (digitsOf_ne_nil _)] at h
        have := ih (n / 10) (by omega) h
        omega

theorem ofDigits_digitsOf (n : Nat) : ofDigits (digitsOf n) = n := by
  rw [ofDigits, digitsOf, List.foldl_map, ← Nat.ofDigitChars_eq_foldl,
    Nat.ofDigitChars_ten_toDigits]

/-! ## The shape of a numeral -/

/-- A row of digits. -/
def IsDigits (digits : List Nat) : Prop := digits ≠ [] ∧ ∀ d ∈ digits, d < 10

/-- The numeral is written by the rules. -/
structure Proper (n : Numeral) : Prop where
  whole : IsDigits n.whole
  /-- A leading zero stands alone. -/
  leading : n.whole.head? = some 0 → n.whole = [0]
  fraction : ∀ digits ∈ n.fraction, IsDigits digits

theorem IsDigits.take {digits : List Nat} (h : IsDigits digits) {k : Nat} (hk : 0 < k) :
    IsDigits (digits.take k) := by
  refine ⟨fun hnil => ?_, fun d hd => h.2 d (List.mem_of_mem_take hd)⟩
  exact (List.take_eq_nil_iff.mp hnil).elim (by omega) h.1

theorem IsDigits.drop {digits : List Nat} (h : IsDigits digits) {k : Nat} (hk : k < digits.length) :
    IsDigits (digits.drop k) := by
  refine ⟨fun hnil => ?_, fun d hd => h.2 d (List.mem_of_mem_drop hd)⟩
  have := List.drop_eq_nil_iff.mp hnil
  omega

theorem lt_of_mem_zeros {k x : Nat} (hx : x ∈ List.replicate k 0) : x < 10 := by
  rw [List.eq_of_mem_replicate hx]
  decide

theorem IsDigits.zeros_before {digits : List Nat} (h : IsDigits digits) (k : Nat) :
    IsDigits (List.replicate k 0 ++ digits) :=
  ⟨List.append_ne_nil_of_right_ne_nil _ h.1,
    fun x hx => (List.mem_append.mp hx).elim lt_of_mem_zeros (h.2 x)⟩

theorem IsDigits.zeros_after {digits : List Nat} (h : IsDigits digits) (k : Nat) :
    IsDigits (digits ++ List.replicate k 0) :=
  ⟨List.append_ne_nil_of_left_ne_nil h.1 _,
    fun x hx => (List.mem_append.mp hx).elim (h.2 x) lt_of_mem_zeros⟩

theorem isDigits_zero : IsDigits [0] := ⟨List.cons_ne_nil _ _, by decide⟩

theorem isDigits_digitsOf (n : Nat) : IsDigits (digitsOf n) :=
  ⟨digitsOf_ne_nil n, fun _ => lt_of_mem_digitsOf⟩

theorem digitsOf_leading {n : Nat} (h : (digitsOf n).head? = some 0) : digitsOf n = [0] := by
  rw [digitsOf_head h]
  rfl

/-! ## Whole numbers -/

theorem ofInt_proper (n : Int) : (ofInt n).Proper where
  whole := isDigits_digitsOf _
  leading := digitsOf_leading
  fraction _ h := nomatch h

theorem toInt?_ofInt (n : Int) : (ofInt n).toInt? = some n := by
  simp only [ofInt, toInt?, ofDigits_digitsOf, decide_eq_true_eq]
  split
  · rename_i hneg
    rw [if_neg (by omega)]
    exact congrArg some (by omega)
  · exact congrArg some (by omega)

/-! ## Floats -/

theorem ofDecimal_proper (negative : Bool) {d : Decimal} (hd : d.digits ≠ 0) :
    (ofDecimal negative d).Proper := by
  have hdigits := isDigits_digitsOf d.digits
  have hhead : (digitsOf d.digits).head? ≠ some 0 := fun h => hd (digitsOf_head h)
  have hlength := List.length_pos_iff.mpr hdigits.1
  have hleading : ∀ k, 0 < k → ((digitsOf d.digits).take k).head? ≠ some 0 := fun k hk => by
    rw [List.head?_take, if_neg (by omega)]
    exact hhead
  rw [ofDecimal]
  split
  · -- one digit before the point, and an exponent
    refine ⟨hdigits.take (by decide), fun h => absurd h (hleading 1 (by decide)),
      fun digits h => ?_⟩
    dsimp only at h
    split at h
    · cases h
    · obtain rfl := Option.some.inj h
      exact hdigits.drop (by omega)
  split
  · -- below one: zeros behind the point
    refine ⟨isDigits_zero, fun _ => rfl, fun digits h => ?_⟩
    obtain rfl := Option.some.inj h
    exact hdigits.zeros_before _
  split
  · -- the point among the digits
    refine ⟨hdigits.take (by omega), fun h => absurd h (hleading _ (by omega)), fun digits h => ?_⟩
    obtain rfl := Option.some.inj h
    exact hdigits.drop (by omega)
  · -- zeros up to the point
    refine ⟨hdigits.zeros_after _, fun h => ?_, fun digits h => ?_⟩
    · rw [head?_append hdigits.1] at h
      exact absurd h hhead
    · obtain rfl := Option.some.inj h
      exact isDigits_zero

end Decimal.Numeral

namespace Decimal

/-- Zero does not read back to a positive double. -/
theorem Binary.digits_ne_zero_of_readsBack {x : Binary} (hx : 0 < x.mantissa) {d : Decimal}
    (h : x.readsBack d = true) : d.digits ≠ 0 := by
  intro hd
  have hbelow : ∀ n, 0 < n → compareScaled 0 d.exponent n (x.exponent - 2) = .lt := by
    intro n hn
    have hpos : 0 < n * Nat.pow 2 (x.exponent - 2).toNat * Nat.pow 10 (-d.exponent).toNat :=
      Nat.mul_pos (Nat.mul_pos hn (Nat.pow_pos (by decide))) (Nat.pow_pos (by decide))
    rw [compareScaled, Nat.zero_mul, Nat.zero_mul]
    exact Nat.compare_eq_lt.mpr hpos
  have hlow : 0 < (if x.narrowBelow then 4 * x.mantissa - 1 else 4 * x.mantissa - 2) := by
    split <;> omega
  rw [readsBack, hd] at h
  simp [hbelow _ hlow] at h

theorem Binary.readsBack_of_onGrid? {x : Binary} {g : Int} {d : Decimal}
    (h : x.onGrid? g = some d) : x.readsBack d = true := by
  rw [onGrid?] at h
  dsimp only at h
  split at h
  · rename_i hlow hhigh
    split at h
    · exact Option.some.inj h ▸ hlow
    · exact Option.some.inj h ▸ hhigh
  · rename_i hlow _
    exact Option.some.inj h ▸ hlow
  · rename_i _ hhigh
    exact Option.some.inj h ▸ hhigh
  · cases h

theorem stripZeros_digits_ne_zero (fuel : Nat) {d : Decimal} (h : d.digits ≠ 0) :
    (d.stripZeros fuel).digits ≠ 0 := by
  induction fuel generalizing d with
  | zero => exact h
  | succ fuel ih =>
      rw [stripZeros]
      split
      · exact ih (by dsimp only; omega)
      · exact h

/-- The shortest decimal of a positive double is not zero. -/
theorem Binary.shortest_digits_ne_zero {x : Binary} (hx : 0 < x.mantissa) :
    x.shortest.digits ≠ 0 := by
  unfold shortest
  dsimp only
  split
  · rename_i d hd
    obtain ⟨n, _, hgrid⟩ := List.exists_of_findSome?_eq_some hd
    exact stripZeros_digits_ne_zero 20 (digits_ne_zero_of_readsBack hx (readsBack_of_onGrid? hgrid))
  · have htwo : 0 < Nat.pow 2 x.exponent.toNat := Nat.pow_pos (by decide)
    have hfive : 0 < Nat.pow 5 (-x.exponent).toNat := Nat.pow_pos (by decide)
    exact Nat.ne_of_gt (Nat.mul_pos (Nat.mul_pos hx htwo) hfive)

/-- A double with other bits than that of its sign has a mantissa other than zero. -/
theorem Binary.ofBits_mantissa_pos {bits : UInt64} (h : bits <<< 1 ≠ 0) :
    0 < (ofBits bits).mantissa := by
  unfold ofBits
  dsimp only
  split
  · rename_i hexponent
    refine Nat.pos_of_ne_zero fun hfraction => h (UInt64.toNat_inj.mp ?_)
    have hlow : bits.toNat % 4503599627370496 = 0 := by
      rw [← hfraction]
      exact (Nat.and_two_pow_sub_one_eq_mod bits.toNat 52).symm
    have hhigh : bits.toNat / 4503599627370496 % 2048 = 0 := by
      rw [← hexponent, UInt64.toNat_and, UInt64.toNat_shiftRight, Nat.shiftRight_eq_div_pow]
      exact (Nat.and_two_pow_sub_one_eq_mod _ 11).symm
    -- the one bit that may be left is shifted out
    have hshifted : (bits <<< 1).toNat = bits.toNat * 2 % 18446744073709551616 := by
      rw [UInt64.toNat_shiftLeft, Nat.shiftLeft_eq]
      rfl
    have hbound : bits.toNat < 18446744073709551616 := bits.toNat_lt
    rw [hshifted, UInt64.toNat_zero]
    omega
  · exact Nat.add_pos_left (Nat.pow_pos (by decide)) _

theorem Numeral.ofFloat_proper (x : Float) : (Numeral.ofFloat x).Proper := by
  rw [ofFloat]
  split
  · exact ⟨isDigits_zero, fun _ => rfl, fun _ h => Option.some.inj h ▸ isDigits_zero⟩
  · rename_i h
    exact ofDecimal_proper _ (Binary.shortest_digits_ne_zero (Binary.ofBits_mantissa_pos h))

/-- A float that is written without an exponent has a point. -/
theorem Numeral.ofFloatPlain_proper (x : Float) : (Numeral.ofFloatPlain x).Proper ∧
    (Numeral.ofFloatPlain x).exponent = none ∧ (Numeral.ofFloatPlain x).fraction.isSome = true := by
  rw [ofFloatPlain]
  split
  · exact ⟨⟨isDigits_zero, fun _ => rfl, fun _ h => Option.some.inj h ▸ isDigits_zero⟩, rfl, rfl⟩
  · rename_i h
    have hne := Binary.shortest_digits_ne_zero (Binary.ofBits_mantissa_pos h)
    generalize (Binary.ofBits x.toBits).shortest = d at hne
    have hdigits := isDigits_digitsOf d.digits
    have hhead : (digitsOf d.digits).head? ≠ some 0 := fun h => hne (digitsOf_head h)
    have hlength := List.length_pos_iff.mpr hdigits.1
    dsimp only
    split
    · refine ⟨⟨hdigits.zeros_after _, fun h => ?_, fun _ h => Option.some.inj h ▸ isDigits_zero⟩,
        rfl, rfl⟩
      rw [head?_append hdigits.1] at h
      exact absurd h hhead
    split
    · exact ⟨⟨isDigits_zero, fun _ => rfl, fun _ h => Option.some.inj h ▸ hdigits.zeros_before _⟩,
        rfl, rfl⟩
    · rename_i hplaces hfew
      refine ⟨⟨hdigits.take (by omega), fun h => ?_,
        fun _ h => Option.some.inj h ▸ hdigits.drop (by omega)⟩, rfl, rfl⟩
      rw [List.head?_take, if_neg (by omega)] at h
      exact absurd h hhead

end Decimal

/-! ## Reading a numeral -/

namespace Json

open Decimal (Numeral)
open Decimal.Numeral (IsDigits digitsOf)

/-- What stands behind a numeral and is no part of it. -/
def Ends (s : List Char) : Prop :=
  ∀ c ∈ s.head?, c.isDigit = false ∧ c ≠ '.' ∧ c ≠ 'e' ∧ c ≠ 'E'

theorem ends_nil : Ends [] := fun _ h => nomatch h

theorem ends_cons {c : Char} (h : c.isDigit = false ∧ c ≠ '.' ∧ c ≠ 'e' ∧ c ≠ 'E') (s : List Char) :
    Ends (c :: s) := fun _ hc => Option.some.inj hc ▸ h

theorem digit?_eq (c : Char) :
    digit? c = if c.isDigit then some (c.toNat - '0'.toNat) else none := by
  simp [digit?, Char.isDigit, Char.le_def]

/-- Digits are taken up to the first character that is none. -/
theorem takeDigits_append {cs s : List Char} (hcs : ∀ c ∈ cs, c.isDigit = true)
    (hs : ∀ c ∈ s.head?, c.isDigit = false) :
    takeDigits (cs ++ s) = (cs.map (fun c => c.toNat - '0'.toNat), s) := by
  induction cs with
  | nil =>
      cases s with
      | nil => rfl
      | cons c s => simp [takeDigits, digit?_eq, hs c rfl]
  | cons c cs ih =>
      rw [List.forall_mem_cons] at hcs
      rw [List.cons_append, takeDigits, digit?_eq, if_pos hcs.1, ih hcs.2]
      rfl

theorem takeDigits_digits {digits : List Nat} (hdigits : ∀ d ∈ digits, d < 10) {s : List Char}
    (hs : ∀ c ∈ s.head?, c.isDigit = false) :
    takeDigits (digits.map digitChar ++ s) = (digits, s) := by
  have hdigit : ∀ d < 10, (digitChar d).isDigit = true ∧ (digitChar d).toNat - '0'.toNat = d := by
    decide
  have hchars : ∀ c ∈ digits.map digitChar, c.isDigit = true := fun c hc => by
    obtain ⟨d, hd, rfl⟩ := List.mem_map.mp hc
    exact (hdigit d (hdigits d hd)).1
  have hvalues : (digits.map digitChar).map (fun c => c.toNat - '0'.toNat) = digits := by
    rw [List.map_map]
    exact (List.map_congr_left fun d hd => (hdigit d (hdigits d hd)).2).trans (List.map_id _)
  rw [takeDigits_append hchars hs, hvalues]

theorem takeDigits_toDigits (n : Nat) {s : List Char} (hs : ∀ c ∈ s.head?, c.isDigit = false) :
    takeDigits (Nat.toDigits 10 n ++ s) = (digitsOf n, s) :=
  takeDigits_append (fun _ hc => Nat.isDigit_of_mem_toDigits (by decide) (by decide) hc) hs

/-- The text of a fraction. -/
def fractionText : Option (List Nat) → List Char
  | none => []
  | some digits => '.' :: digits.map digitChar

/-- The text of an exponent. -/
def exponentText : Option Int → List Char
  | none => []
  | some e => 'e' :: (if e < 0 then ['-'] else []) ++ Nat.toDigits 10 e.natAbs

theorem numeralText_eq (n : Numeral) : numeralText n =
    (if n.negative then ['-'] else []) ++
      (n.whole.map digitChar ++ (fractionText n.fraction ++ exponentText n.exponent)) := by
  rw [numeralText]
  simp only [List.append_assoc]
  cases n.fraction <;> cases n.exponent <;> rfl

theorem fraction?_text {fraction : Option (List Nat)} (h : ∀ digits ∈ fraction, IsDigits digits)
    {s : List Char} (hs : ∀ c ∈ s.head?, c.isDigit = false ∧ c ≠ '.') :
    fraction? (fractionText fraction ++ s) = some (fraction, s) := by
  cases fraction with
  | none =>
      rw [fractionText, List.nil_append]
      unfold fraction?
      split
      · exact absurd rfl (hs '.' rfl).2
      · rfl
  | some digits =>
      obtain ⟨hne, hlt⟩ := h digits rfl
      rw [fractionText, List.cons_append, fraction?, takeDigits_digits hlt fun c hc => (hs c hc).1]
      split
      · rename_i he
        exact absurd (congrArg Prod.fst he) hne
      · rename_i he
        cases he
        rfl

theorem exponentDigits?_text (negative : Bool) (n : Nat) {s : List Char}
    (hs : ∀ c ∈ s.head?, c.isDigit = false) :
    exponentDigits? negative (Nat.toDigits 10 n ++ s) =
      some (some (if negative then -(n : Int) else n), s) := by
  rw [exponentDigits?, takeDigits_toDigits n hs]
  split
  · rename_i he
    exact absurd (congrArg Prod.fst he) (Decimal.Numeral.digitsOf_ne_nil n)
  · rename_i he
    cases he
    rw [Decimal.Numeral.ofDigits_digitsOf]

theorem toDigits_eq_cons (n : Nat) : ∃ c cs, Nat.toDigits 10 n = c :: cs ∧ c.isDigit = true := by
  obtain ⟨c, cs, he⟩ := List.exists_cons_of_ne_nil (Nat.toDigits_ne_nil (n := n) (b := 10))
  refine ⟨c, cs, he, Nat.isDigit_of_mem_toDigits (n := n) (b := 10) (by decide) (by decide) ?_⟩
  rw [he]
  exact List.mem_cons_self

theorem exponent?_text (exponent : Option Int) {s : List Char} (hs : Ends s) :
    exponent? (exponentText exponent ++ s) = some (exponent, s) := by
  cases exponent with
  | none =>
      cases s with
      | nil => rfl
      | cons c s =>
          obtain ⟨_, _, hsmall, hcapital⟩ := hs c rfl
          exact if_neg (not_or.mpr ⟨hsmall, hcapital⟩)
  | some e =>
      have hdigits := fun c hc => (hs c hc).1
      have hread : exponent? (exponentText (some e) ++ s) =
          exponentDigits? (decide (e < 0)) (Nat.toDigits 10 e.natAbs ++ s) := by
        unfold exponent?
        by_cases he : e < 0
        · simp [exponentText, he]
        · obtain ⟨c, cs, hcons, hc⟩ := toDigits_eq_cons e.natAbs
          have hplus : c ≠ '+' := fun h => by rw [h] at hc; cases hc
          have hminus : c ≠ '-' := fun h => by rw [h] at hc; cases hc
          simp [exponentText, he, hcons, hplus, hminus]
      rw [hread, exponentDigits?_text _ _ hdigits]
      have hvalue : (if decide (e < 0) = true then -(e.natAbs : Int) else e.natAbs) = e := by
        simp only [decide_eq_true_eq]
        split <;> omega
      rw [hvalue]

/-- **A proper numeral is read as it is written.** -/
theorem number?_text {n : Numeral} (h : n.Proper) {s : List Char} (hs : Ends s) :
    number? n.negative
      (n.whole.map digitChar ++ (fractionText n.fraction ++ exponentText n.exponent) ++ s) =
      some (.number n, s) := by
  obtain ⟨negative, whole, fraction, exponent⟩ := n
  have hexponent : ∀ c ∈ (exponentText exponent ++ s).head?, c.isDigit = false ∧ c ≠ '.' := by
    cases exponent with
    | none => exact fun c hc => ⟨(hs c hc).1, (hs c hc).2.1⟩
    | some e => exact fun c hc => Option.some.inj hc ▸ by decide
  have hfraction :
      ∀ c ∈ (fractionText fraction ++ (exponentText exponent ++ s)).head?, c.isDigit = false := by
    cases fraction with
    | none => exact fun c hc => (hexponent c hc).1
    | some digits => exact fun c hc => Option.some.inj hc ▸ by decide
  rw [List.append_assoc, List.append_assoc, number?, takeDigits_digits h.whole.2 hfraction]
  split
  · rename_i he
    exact absurd (congrArg Prod.fst he) h.whole.1
  · rename_i he
    cases he
    cases h.leading rfl
  · rename_i he
    cases he
    rw [fraction?_text h.fraction hexponent, Option.bind_eq_bind, Option.bind_some]
    dsimp only
    rw [exponent?_text exponent hs]
    rfl

end Json

end PanelDock
