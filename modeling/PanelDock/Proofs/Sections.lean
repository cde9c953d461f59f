import Mathlib.Data.List.Nodup
import PanelDock.Proofs.Numerals
import PanelDock.Proofs.Quoting
/-!
# Sections are read as they are printed

A document of sections is printed line by line, and so it is read. A line ends with a line feed, so
that every value is read from its text with a line feed behind it. The reader leaves the rest of the
document alone. What is found on the lines then has to be put together: no name may be met twice,
neither of a section nor of an entry within one.
-/

namespace PanelDock.Toml

open Decimal (Numeral)
open Decimal.Numeral (IsDigits digitsOf)

variable {c : Char} {s rest : List Char}

/-! ## Numbers -/

/-- What stands behind the digits of a number: a point, or the end of the line. -/
def Stops (s : List Char) : Prop := ∀ c ∈ s.head?, c = '.' ∨ c = '\n'

theorem digit?_digitChar {d : Nat} (h : d < 10) : digit? 10 (digitChar d) = some d := by
  revert d
  decide

theorem digit?_stops (h : c = '.' ∨ c = '\n') : digit? 10 c = none := by
  rcases h with rfl | rfl <;> rfl

/-- Digits are taken up to where they stop. -/
theorem takeDigits?_digits {digits : List Nat} (hdigits : ∀ d ∈ digits, d < 10) (hs : Stops s) :
    takeDigits? 10 (digits.map digitChar ++ s) = some (digits, s) := by
  induction digits with
  | nil =>
      cases s with
      | nil => rfl
      | cons c s =>
          have hc := hs c rfl
          have hunder : c ≠ '_' := by rcases hc with rfl | rfl <;> decide
          rw [List.map_nil, List.nil_append, takeDigits?, digit?_stops hc]
          simp [hunder]
  | cons d digits ih =>
      rw [List.forall_mem_cons] at hdigits
      rw [List.map_cons, List.cons_append, takeDigits?, digit?_digitChar hdigits.1]
      simp [ih hdigits.2]

theorem digits?_digits {digits : List Nat} (h : IsDigits digits) (hs : Stops s) :
    digits? 10 (digits.map digitChar ++ s) = some (digits, s) := by
  obtain ⟨d, ds, rfl⟩ := List.exists_cons_of_ne_nil h.1
  have hd := digit?_digitChar (h.2 d List.mem_cons_self)
  have htake := takeDigits?_digits h.2 hs
  rw [List.map_cons, List.cons_append] at htake ⊢
  rw [digits?, List.head?_cons, Option.bind_some, hd]
  exact htake

/-- Digits are followed by no mark of a date or a time, however many of them are counted off. -/
theorem fixed?_digits {mark : Char}
    (hmark : ∀ c, (digit? 10 c).isSome ∨ c = '.' ∨ c = '\n' → c ≠ mark) {digits : List Nat}
    (hdigits : ∀ d ∈ digits, d < 10) (hs : Stops s) (width : Nat) :
    (fixed? width (digits.map digitChar ++ s)).bind (fun (_, s) => char? mark s) = none := by
  induction width generalizing digits with
  | zero =>
      rw [fixed?, Option.bind_some]
      cases digits with
      | nil =>
          cases s with
          | nil => rfl
          | cons c s => exact if_neg (hmark c (Or.inr (hs c rfl)))
      | cons d digits =>
          refine if_neg (hmark _ (Or.inl ?_))
          rw [digit?_digitChar (hdigits d List.mem_cons_self)]
          rfl
  | succ width ih =>
      cases digits with
      | nil =>
          cases s with
          | nil => rfl
          | cons c s =>
              rw [List.map_nil, List.nil_append, fixed?, digit?_stops (hs c rfl)]
              rfl
      | cons d digits =>
          rw [List.forall_mem_cons] at hdigits
          have hrest := ih hdigits.2
          rw [List.map_cons, List.cons_append, fixed?, digit?_digitChar hdigits.1]
          cases hfixed : fixed? width (digits.map digitChar ++ s) with
          | none => rfl
          | some found =>
              rw [hfixed] at hrest
              exact hrest

/-- Digits that stop start neither a date nor a time. -/
theorem starts_digits {digits : List Nat} (hdigits : ∀ d ∈ digits, d < 10) (hs : Stops s) :
    startsDate (digits.map digitChar ++ s) = false ∧
    startsTime (digits.map digitChar ++ s) = false := by
  have hmark : ∀ mark, digit? 10 mark = none ∧ mark ≠ '.' ∧ mark ≠ '\n' →
      ∀ c, (digit? 10 c).isSome ∨ c = '.' ∨ c = '\n' → c ≠ mark := by
    rintro mark ⟨hdigit, hpoint, hline⟩ c (hc | rfl | rfl)
    · rintro rfl
      rw [hdigit] at hc
      cases hc
    · exact Ne.symm hpoint
    · exact Ne.symm hline
  have hdate := fixed?_digits (hmark '-' (by decide)) hdigits hs 4
  have htime := fixed?_digits (hmark ':' (by decide)) hdigits hs 2
  rw [startsDate, startsTime, hdate, htime]
  exact ⟨rfl, rfl⟩

/-- Behind a sign or none, digits start a decimal number. -/
theorem number?_digits (negative : Bool) {digits : List Nat} (h : IsDigits digits) (hs : Stops s) :
    number? ((if negative then ['-'] else []) ++ (digits.map digitChar ++ s)) =
      decimal? negative (digits.map digitChar ++ s) := by
  obtain ⟨hdate, htime⟩ := starts_digits h.2 hs
  obtain ⟨d, ds, rfl⟩ := List.exists_cons_of_ne_nil h.1
  have hfirst : ∀ d < 10, (digitChar d).isDigit = true := by decide
  have hd := hfirst d (h.2 d List.mem_cons_self)
  rw [List.map_cons, List.cons_append] at hdate htime ⊢
  -- a letter behind the first digit would name another base
  have hsecond : ∀ c ∈ (ds.map digitChar ++ s).head?, c ≠ 'x' ∧ c ≠ 'o' ∧ c ≠ 'b' := by
    have hletter : ∀ d < 10, digitChar d ≠ 'x' ∧ digitChar d ≠ 'o' ∧ digitChar d ≠ 'b' := by decide
    intro c hc
    cases ds with
    | nil => rcases hs c hc with rfl | rfl <;> decide
    | cons e ds =>
        exact Option.some.inj hc ▸ hletter e (h.2 e (List.mem_cons_of_mem _ List.mem_cons_self))
  generalize ds.map digitChar ++ s = t at hdate htime hsecond ⊢
  generalize digitChar d = c at hdate htime hd ⊢
  have hsigned : signed? negative (c :: t) = decimal? negative (c :: t) := by
    unfold signed?
    split
    · rename_i he
      cases he
      cases hd
    · rename_i he
      cases he
      cases hd
    · rfl
  rw [← hsigned]
  cases negative with
  | true => rfl
  | false =>
      rw [if_neg Bool.false_ne_true, List.nil_append, number?, hdate, htime]
      · rfl
      · rintro u he
        cases he
        cases hd
      · rintro u he
        cases he
        cases hd
      · rintro u he
        cases he
        exact (hsecond 'x' rfl).1 rfl
      · rintro u he
        cases he
        exact (hsecond 'o' rfl).2.1 rfl
      · rintro u he
        cases he
        exact (hsecond 'b' rfl).2.2 rfl

theorem wholeDigits?_digits {digits : List Nat} (h : IsDigits digits)
    (leading : digits.head? = some 0 → digits = [0]) (hs : Stops s) :
    wholeDigits? (digits.map digitChar ++ s) = some (digits, s) := by
  obtain ⟨d, ds, rfl⟩ := List.exists_cons_of_ne_nil h.1
  have hread := digits?_digits h hs
  by_cases hzero : d = 0
  · subst hzero
    rw [leading rfl]
    rfl
  · have hfirst : ∀ d < 10, d ≠ 0 → digitChar d ≠ '0' := by decide
    unfold wholeDigits?
    split
    · rename_i he
      exact absurd (List.cons.inj he).1 (hfirst d (h.2 d List.mem_cons_self) hzero)
    · exact hread

theorem fraction?_line (s : List Char) : fraction? ('\n' :: s) = some (none, '\n' :: s) := rfl

theorem exponent?_line (s : List Char) : exponent? ('\n' :: s) = some (none, '\n' :: s) := rfl

/-- A numeral with a point and without an exponent. -/
structure Pointed (n : Numeral) : Prop extends n.Proper where
  point : n.fraction.isSome = true
  bare : n.exponent = none

/-- A number with a point is read up to the end of the line. -/
theorem number?_pointed {n : Numeral} (h : Pointed n) (finite : n.nearest.isFinite = true)
    (s : List Char) :
    number? (numberText (.finite n) ++ '\n' :: s) = some (.float (.finite n), '\n' :: s) := by
  obtain ⟨⟨hwhole, hleading, hfraction⟩, hpoint, hbare⟩ := h
  obtain ⟨negative, whole, fraction, exponent⟩ := n
  dsimp only at hwhole hleading hfraction hpoint hbare
  obtain ⟨digits, rfl⟩ := Option.isSome_iff_exists.mp hpoint
  subst hbare
  have hpoint : Stops ('.' :: (digits.map digitChar ++ '\n' :: s)) :=
    fun c hc => Or.inl (Option.some.inj hc).symm
  have hline : Stops ('\n' :: s) := fun c hc => Or.inr (Option.some.inj hc).symm
  have htext : numberText
      (.finite { negative, whole, fraction := some digits, exponent := none }) ++ '\n' :: s =
      (if negative then ['-'] else []) ++
        (whole.map digitChar ++ '.' :: (digits.map digitChar ++ '\n' :: s)) := by
    simp [numberText]
  rw [htext, number?_digits negative hwhole hpoint, decimal?,
    wholeDigits?_digits hwhole hleading hpoint]
  simp [fraction?, digits?_digits (hfraction digits rfl) hline, exponent?_line, finite]

theorem map_digitChar_digitsOf (n : Nat) : (digitsOf n).map digitChar = Nat.toDigits 10 n := by
  have hchar : ∀ c : Char, c.isDigit = true → digitChar (c.toNat - '0'.toNat) = c := by
    intro c hc
    rw [Char.isDigit, Bool.and_eq_true, decide_eq_true_iff, decide_eq_true_iff] at hc
    have hzero : '0'.toNat = 48 := rfl
    have hlow : 48 ≤ c.toNat := hc.1
    rw [digitChar, Nat.add_sub_cancel' (hzero ▸ hlow), Char.ofNat_toNat]
  rw [digitsOf, List.map_map]
  refine (List.map_congr_left fun c hc => ?_).trans (List.map_id _)
  exact hchar c (Nat.isDigit_of_mem_toDigits (by decide) (by decide) hc)

theorem valueText_integer (n : Nat) : valueText (.integer n) = Nat.toDigits 10 n := by
  show (Nat.repr n).toList = _
  rw [Nat.repr, String.toList_ofList]

/-- A whole number is read up to the end of the line. -/
theorem number?_integer {n : Nat} (h : n < Nat.pow 2 63) (s : List Char) :
    number? (valueText (.integer n) ++ '\n' :: s) = some (.integer n, '\n' :: s) := by
  have hdigits := Decimal.Numeral.isDigits_digitsOf n
  have hline : Stops ('\n' :: s) := fun c hc => Or.inr (Option.some.inj hc).symm
  have htext : valueText (.integer n) = (digitsOf n).map digitChar :=
    (valueText_integer n).trans (map_digitChar_digitsOf n).symm
  have hrange : -Int.pow 2 63 ≤ (n : Int) ∧ (n : Int) < Int.pow 2 63 := by
    have hpower : Int.pow 2 63 = 9223372036854775808 := by decide
    have hbound : n < 9223372036854775808 := h
    rw [hpower]
    omega
  have hread := number?_digits false hdigits hline
  rw [if_neg Bool.false_ne_true, List.nil_append, decimal?,
    wholeDigits?_digits hdigits Decimal.Numeral.digitsOf_leading hline] at hread
  rw [htext, hread, Option.bind_eq_bind, Option.bind_some]
  dsimp only
  rw [fraction?_line, Option.bind_eq_bind, Option.bind_some]
  dsimp only
  rw [exponent?_line, Option.bind_eq_bind, Option.bind_some]
  dsimp only
  rw [Decimal.Numeral.ofDigits_digitsOf]
  exact (if_pos ⟨rfl, rfl⟩).trans (if_pos hrange)

/-! ## Values -/

/-- The value has a text that stands for it: its numbers are floats of the range with a point, or
whole numbers of it. -/
inductive Printable : Toml → Prop where
  | string (text : String) : Printable (.string text)
  | integer {n : Nat} (fits : n < Nat.pow 2 63) : Printable (.integer n)
  | float {n : Numeral} (pointed : Pointed n) (finite : n.nearest.isFinite = true) :
      Printable (.float (.finite n))
  | boolean (b : Bool) : Printable (.boolean b)

theorem value?_quoted {fuel depth : Nat} {text t : List Char} (hc : c = '"' ∨ c = '\'')
    (h : string? (c :: t) = some (text, rest)) :
    value? (fuel + 1) depth (c :: t) = some (.string (String.ofList text), rest) := by
  rw [Toml.value?, if_pos hc, h]
  rfl

theorem value?_number {fuel depth : Nat} {t : List Char} (hc : c = '-' ∨ c.isDigit = true) :
    value? (fuel + 1) depth (c :: t) = number? (c :: t) := by
  have hne : ∀ d : Char, d ≠ '-' → d.isDigit = false → c ≠ d := by
    rintro d hminus hdigit rfl
    rcases hc with rfl | hc
    · exact hminus rfl
    · exact Bool.false_ne_true (hdigit.symm.trans hc)
  have hquotes : ¬ (c = '"' ∨ c = '\'') :=
    not_or.mpr ⟨hne '"' (by decide) rfl, hne '\'' (by decide) rfl⟩
  rw [Toml.value?, if_neg hquotes, if_neg (hne '[' (by decide) rfl),
    if_neg (hne '\x7b' (by decide) rfl)]
  split
  · rename_i he
    exact absurd (List.cons.inj he).1 (hne 't' (by decide) rfl)
  · rename_i he
    exact absurd (List.cons.inj he).1 (hne 'f' (by decide) rfl)
  · rfl

theorem integer_head (n : Nat) : ∃ c t, valueText (.integer n) = c :: t ∧ c.isDigit = true := by
  obtain ⟨c, t, htext, hc⟩ := Json.toDigits_eq_cons n
  exact ⟨c, t, (valueText_integer n).trans htext, hc⟩

theorem float_head {n : Numeral} (h : Pointed n) :
    ∃ c t, numberText (.finite n) = c :: t ∧ (c = '-' ∨ c.isDigit = true) := by
  have hdigit : ∀ d < 10, (digitChar d).isDigit = true := by decide
  obtain ⟨d, ds, hwhole⟩ := List.exists_cons_of_ne_nil h.whole.1
  have hd : d < 10 := h.whole.2 d (by rw [hwhole]; exact List.mem_cons_self)
  unfold numberText
  dsimp only
  rw [hwhole]
  cases n.negative with
  | true => exact ⟨_, _, rfl, Or.inl rfl⟩
  | false => exact ⟨_, _, rfl, Or.inr (hdigit d hd)⟩

theorem stringText_head (s : List Char) : ∃ c t, stringText s = c :: t ∧ (c = '"' ∨ c = '\'') := by
  unfold stringText
  dsimp only
  split
  · exact ⟨_, _, rfl, Or.inl rfl⟩
  · exact ⟨_, _, rfl, Or.inr rfl⟩
  · exact ⟨_, _, rfl, Or.inl rfl⟩
  · exact ⟨_, _, rfl, Or.inr rfl⟩

/-- **A value is read from its text**, up to the end of the line. -/
theorem Printable.value? {v : Toml} (h : Printable v) (fuel depth : Nat) (s : List Char) :
    value? (fuel + 1) depth (valueText v ++ '\n' :: s) = some (v, '\n' :: s) := by
  cases h with
  | string text =>
      have hline : ∀ c ∈ ('\n' :: s).head?, c ≠ '"' ∧ c ≠ '\'' :=
        fun c hc => Option.some.inj hc ▸ by decide
      have hread := string?_stringText text.toList hline
      obtain ⟨c, t, htext, hc⟩ := stringText_head text.toList
      rw [valueText]
      rw [htext, List.cons_append] at hread ⊢
      rw [value?_quoted hc hread, String.ofList_toList]
  | @integer n fits =>
      have hread := number?_integer fits s
      obtain ⟨c, t, htext, hc⟩ := integer_head n
      rw [htext, List.cons_append] at hread ⊢
      rw [value?_number (Or.inr hc), hread]
  | @float n pointed finite =>
      have hread := number?_pointed pointed finite s
      obtain ⟨c, t, htext, hc⟩ := float_head pointed
      rw [valueText]
      rw [htext, List.cons_append] at hread ⊢
      rw [value?_number hc, hread]
  | boolean b => cases b <;> rfl

theorem Printable.head {v : Toml} (h : Printable v) :
    ∃ c t, valueText v = c :: t ∧ isSpace c = false := by
  have hdigit : ∀ c : Char, c = '-' ∨ c.isDigit = true → isSpace c = false := by
    rintro c (rfl | hc)
    · rfl
    · have hblank : c ≠ ' ' := by rintro rfl; cases hc
      have htab : c ≠ '\t' := by rintro rfl; cases hc
      simp [isSpace, hblank, htab]
  cases h with
  | string text =>
      obtain ⟨c, t, htext, hc⟩ := stringText_head text.toList
      exact ⟨c, t, htext, by rcases hc with rfl | rfl <;> rfl⟩
  | @integer n fits =>
      obtain ⟨c, t, htext, hc⟩ := integer_head n
      exact ⟨c, t, htext, hdigit c (Or.inr hc)⟩
  | @float n pointed finite =>
      obtain ⟨c, t, htext, hc⟩ := float_head pointed
      exact ⟨c, t, htext, hdigit c hc⟩
  | boolean b => cases b <;> exact ⟨_, _, rfl, rfl⟩

/-! ## Lines -/

/-- The name can stand without quotes. -/
def IsBare (name : String) : Prop := name.toList ≠ [] ∧ ∀ c ∈ name.toList, isKeyChar c = true

instance (name : String) : Decidable (IsBare name) :=
  decidable_of_iff (name.toList ≠ [] ∧ name.toList.all isKeyChar = true)
    (and_congr_right' List.all_eq_true)

theorem ne_of_isKeyChar {d : Char} (hc : isKeyChar c = true) (hd : isKeyChar d = false) :
    c ≠ d := by
  rintro rfl
  exact Bool.false_ne_true (hd.symm.trans hc)

/-- Nothing is passed over before a character that is no blank. -/
theorem skipSpace_cons (hc : isSpace c = false) (t : List Char) : skipSpace (c :: t) = c :: t :=
  List.dropWhile_cons_of_neg (by simp [hc])

theorem isSpace_of_isKeyChar (hc : isKeyChar c = true) : isSpace c = false := by
  simp [isSpace, ne_of_isKeyChar hc (rfl : isKeyChar ' ' = false),
    ne_of_isKeyChar hc (rfl : isKeyChar '\t' = false)]

theorem simpleKey?_bare {name : String} (h : IsBare name) {t : List Char}
    (ht : ∀ c ∈ t.head?, isKeyChar c = false) : simpleKey? (name.toList ++ t) = some (name, t) := by
  have htake : (name.toList ++ t).takeWhile isKeyChar = name.toList := by
    rw [List.takeWhile_append_of_pos h.2]
    cases t with
    | nil => simp
    | cons c t => simp [ht c rfl]
  have hfirst : ∀ d u, name.toList ++ t = d :: u → isKeyChar d = true := by
    intro d u he
    obtain ⟨c, cs, hname⟩ := List.exists_cons_of_ne_nil h.1
    rw [hname, List.cons_append] at he
    exact (List.cons.inj he).1 ▸ h.2 c (by rw [hname]; exact List.mem_cons_self)
  unfold simpleKey?
  split
  · rename_i he
    exact absurd (hfirst _ _ he) (by decide)
  · rename_i he
    exact absurd (hfirst _ _ he) (by decide)
  · dsimp only
    rw [htake, if_neg h.1, List.drop_left, String.ofList_toList]

/-- A name without quotes is read up to a character that no name has; blanks behind it are passed
over. -/
theorem key?_bare {name : String} (h : IsBare name) {t u : List Char}
    (ht : ∀ c ∈ t.head?, isKeyChar c = false) (hblanks : skipSpace t = u)
    (hend : ∀ v, u ≠ '.' :: v) : key? (name.toList ++ t) = some ([], name, u) := by
  obtain ⟨c, cs, hname⟩ := List.exists_cons_of_ne_nil h.1
  have hc : isKeyChar c = true := h.2 c (by rw [hname]; exact List.mem_cons_self)
  have hstart : skipSpace (name.toList ++ t) = name.toList ++ t := by
    rw [hname]
    exact skipSpace_cons (isSpace_of_isKeyChar hc) _
  have hparts : keyParts? ((name.toList ++ t).length + 1) (name.toList ++ t) =
      some ([name], u) := by
    rw [keyParts?, hstart, simpleKey?_bare h ht, Option.bind_eq_bind, Option.bind_some]
    dsimp only
    rw [hblanks]
    split
    · exact absurd rfl (hend _)
    · rfl
  rw [key?, hparts]
  rfl

/-- A header is read with the end of its line. -/
theorem line?_header {name : String} (h : IsBare name) (t : List Char) :
    line? ('[' :: (name.toList ++ ']' :: '\n' :: t)) = some (.header [] name, t) := by
  have hkey : key? (name.toList ++ ']' :: '\n' :: t) = some ([], name, ']' :: '\n' :: t) :=
    key?_bare h (fun c hc => Option.some.inj hc ▸ rfl) rfl (fun v he => by cases he)
  obtain ⟨c, cs, hname⟩ := List.exists_cons_of_ne_nil h.1
  have hc : isKeyChar c = true := h.2 c (by rw [hname]; exact List.mem_cons_self)
  unfold line?
  split
  · rename_i he
    rw [hname] at he
    exact absurd (List.cons.inj (List.cons.inj he).2).1 (ne_of_isKeyChar hc rfl)
  · rename_i he
    cases he
    rw [hkey]
    rfl
  · rename_i hother
    exact absurd rfl (hother _)

/-- An entry is read with the end of its line. -/
theorem line?_entry {name : String} (h : IsBare name) {v : Toml} (hv : Printable v)
    (t : List Char) :
    line? (name.toList ++ ' ' :: '=' :: ' ' :: (valueText v ++ '\n' :: t)) =
      some (.entry [] name v, t) := by
  have hkey : key? (name.toList ++ ' ' :: '=' :: ' ' :: (valueText v ++ '\n' :: t)) =
      some ([], name, '=' :: ' ' :: (valueText v ++ '\n' :: t)) :=
    key?_bare h (fun c hc => Option.some.inj hc ▸ rfl) rfl (fun v he => by cases he)
  obtain ⟨c, cs, hname⟩ := List.exists_cons_of_ne_nil h.1
  have hc : isKeyChar c = true := h.2 c (by rw [hname]; exact List.mem_cons_self)
  obtain ⟨d, u, htext, hd⟩ := hv.head
  have hblank : skipSpace (' ' :: (valueText v ++ '\n' :: t)) = valueText v ++ '\n' :: t := by
    rw [htext]
    exact skipSpace_cons hd _
  unfold line?
  split
  · rename_i he
    rw [hname] at he
    exact absurd (List.cons.inj he).1 (ne_of_isKeyChar hc rfl)
  · rename_i he
    rw [hname] at he
    exact absurd (List.cons.inj he).1 (ne_of_isKeyChar hc rfl)
  · rw [hkey, Option.bind_eq_bind, Option.bind_some]
    show (Toml.value? (2 * (skipSpace (' ' :: (valueText v ++ '\n' :: t))).length + 2) 0
      (skipSpace (' ' :: (valueText v ++ '\n' :: t))) >>= _) = _
    rw [hblank, hv.value?, Option.bind_eq_bind, Option.bind_some]
    rfl

/-! ## Documents -/

/-- These are the lines of the text, and no more steps are needed than it has characters. -/
def Listed (t : List Char) (lines : List Line) : Prop :=
  ∀ fuel, t.length < fuel → lines? fuel t = some lines

variable {t : List Char} {first : Line} {lines : List Line}

theorem listed_nil : Listed [] [] := by
  intro fuel hfuel
  obtain ⟨fuel, rfl⟩ := Nat.exists_eq_add_one_of_ne_zero (by omega : fuel ≠ 0)
  rfl

/-- An empty line is passed over. -/
theorem Listed.blank (h : Listed t lines) : Listed ('\n' :: t) lines := by
  intro fuel hfuel
  obtain ⟨fuel, rfl⟩ := Nat.exists_eq_add_one_of_ne_zero (by omega : fuel ≠ 0)
  rw [List.length_cons] at hfuel
  rw [← h (fuel + 1) (by omega), lines?, lines?]
  rfl

theorem skipLines_cons (hc : isSpace c = false ∧ c ≠ '#' ∧ c ≠ '\n' ∧ c ≠ '\r') (fuel : Nat)
    (s : List Char) : skipLines fuel (c :: s) = c :: s := by
  obtain ⟨hspace, hcomment, hbreak⟩ := hc
  cases fuel with
  | zero => rfl
  | succ fuel =>
      have hskip : skipComment (c :: s) = c :: s := by
        unfold skipComment
        split
        · rename_i he
          exact absurd (List.cons.inj he).1 hcomment
        · rfl
      have hline : newline? (c :: s) = none :=
        newline?_eq_none fun d hd => Option.some.inj hd ▸ hbreak
      rw [skipLines, skipSpace_cons hspace, hskip]
      dsimp only
      rw [hline]

/-- A line that can be read is the first of the lines. -/
theorem Listed.cons (hc : isSpace c = false ∧ c ≠ '#' ∧ c ≠ '\n' ∧ c ≠ '\r')
    (hread : line? (c :: s) = some (first, t)) (shorter : t.length ≤ s.length)
    (h : Listed t lines) : Listed (c :: s) (first :: lines) := by
  intro fuel hfuel
  obtain ⟨fuel, rfl⟩ := Nat.exists_eq_add_one_of_ne_zero (by omega : fuel ≠ 0)
  rw [List.length_cons] at hfuel
  rw [lines?, skipLines_cons hc]
  dsimp only
  rw [hread, Option.bind_eq_bind, Option.bind_some]
  dsimp only
  rw [h fuel (by omega)]
  rfl

/-- The line of an entry. -/
def entryLine (e : String × Toml) : Line := .entry [] e.1 e.2

/-- The lines of a section. -/
def sectionLines (s : String × Entries) : List Line := .header [] s.1 :: s.2.map entryLine

/-- The entries have names of their own, without quotes, and values with a text. -/
structure Tidy (entries : Entries) : Prop where
  distinct : (entries.map (·.1)).Nodup
  bare : ∀ e ∈ entries, IsBare e.1
  printable : ∀ e ∈ entries, Printable e.2

/-- The sections have names of their own, without quotes, and tidy entries. -/
structure Orderly (sections : List (String × Entries)) : Prop where
  distinct : (sections.map (·.1)).Nodup
  bare : ∀ s ∈ sections, IsBare s.1
  tidy : ∀ s ∈ sections, Tidy s.2

theorem Listed.entries {entries : Entries} (bare : ∀ e ∈ entries, IsBare e.1)
    (printable : ∀ e ∈ entries, Printable e.2) (h : Listed t lines) :
    Listed (entries.flatMap entryText ++ t) (entries.map entryLine ++ lines) := by
  induction entries with
  | nil => exact h
  | cons e entries ih =>
      rw [List.forall_mem_cons] at bare printable
      have hrest := ih bare.2 printable.2
      obtain ⟨c, cs, hname⟩ := List.exists_cons_of_ne_nil bare.1.1
      have hc : isKeyChar c = true := bare.1.2 c (by rw [hname]; exact List.mem_cons_self)
      have hread := line?_entry bare.1 printable.1 (entries.flatMap entryText ++ t)
      -- the reader goes by the first character of the line, which is that of the name
      have htext : (e :: entries).flatMap entryText ++ t =
          e.1.toList ++ ' ' :: '=' :: ' ' ::
            (valueText e.2 ++ '\n' :: (entries.flatMap entryText ++ t)) := by
        simp [entryText]
      rw [htext, List.map_cons, List.cons_append]
      rw [hname, List.cons_append] at hread ⊢
      refine Listed.cons ⟨isSpace_of_isKeyChar hc, ne_of_isKeyChar hc rfl, ne_of_isKeyChar hc rfl,
        ne_of_isKeyChar hc rfl⟩ hread ?_ hrest
      simp only [List.length_append, List.length_cons]
      omega

theorem Listed.headed {s : String × Entries} (bare : IsBare s.1) (tidy : Tidy s.2)
    (h : Listed t lines) : Listed (sectionText s ++ t) (sectionLines s ++ lines) := by
  have htext : sectionText s ++ t =
      '[' :: (s.1.toList ++ ']' :: '\n' :: (s.2.flatMap entryText ++ t)) := by
    simp [sectionText]
  rw [htext]
  refine Listed.cons (by decide) (line?_header bare _) ?_ (h.entries tidy.bare tidy.printable)
  simp only [List.length_append, List.length_cons]
  omega

/-- The lines of a document are read from its text. -/
theorem listed_documentText {sections : List (String × Entries)} (bare : ∀ s ∈ sections, IsBare s.1)
    (tidy : ∀ s ∈ sections, Tidy s.2) :
    Listed (documentText sections) (sections.flatMap sectionLines) := by
  induction sections with
  | nil => exact listed_nil
  | cons s sections ih =>
      rw [List.forall_mem_cons] at bare tidy
      have hrest := ih bare.2 tidy.2
      cases sections with
      | nil =>
          have hsection := listed_nil.headed bare.1 tidy.1
          have htext : documentText [s] = sectionText s ++ [] := by simp [documentText]
          rw [htext, List.flatMap_cons]
          exact hsection
      | cons next sections =>
          have hsection := hrest.blank.headed bare.1 tidy.1
          have htext : documentText (s :: next :: sections) =
              sectionText s ++ '\n' :: documentText (next :: sections) := by
                simp [documentText, List.intercalate]
          rw [htext, List.flatMap_cons]
          exact hsection

/-! ## What the lines say -/

variable {name key : String} {value : Toml} {entries before : Entries}

theorem lookup_eq_none_iff : lookup key entries = none ↔ key ∉ entries.map (·.1) := by
  rw [lookup, Option.map_eq_none_iff, List.find?_eq_none, List.mem_map]
  constructor
  · rintro h ⟨e, he, rfl⟩
    exact h e he (beq_self_eq_true _)
  · rintro h e he hkey
    exact h ⟨e, he, eq_of_beq hkey⟩

theorem lookup_eq_some_iff (distinct : (entries.map (·.1)).Nodup) :
    lookup key entries = some value ↔ (key, value) ∈ entries := by
  rw [lookup, Option.map_eq_some_iff]
  constructor
  · rintro ⟨e, hfound, rfl⟩
    have hkey := List.find?_some hfound
    rw [← eq_of_beq hkey]
    exact List.mem_of_find?_eq_some hfound
  · intro hmem
    have hsome : (entries.find? (fun e => e.1 == key)).isSome = true :=
      List.find?_isSome.mpr ⟨_, hmem, beq_self_eq_true key⟩
    obtain ⟨e, hfound⟩ := Option.isSome_iff_exists.mp hsome
    have hkey := List.find?_some hfound
    have he :=
      List.inj_on_of_nodup_map distinct (List.mem_of_find?_eq_some hfound) hmem (eq_of_beq hkey)
    exact ⟨e, hfound, congrArg Prod.snd he⟩

theorem lookup_concat (h : lookup name before = none) (value : Toml) :
    lookup name (before ++ [(name, value)]) = some value := by
  rw [lookup, Option.map_eq_none_iff] at h
  rw [lookup, List.find?_append, h]
  simp

theorem overwrite_concat (h : lookup name before = none) (old value : Toml) :
    overwrite name value (before ++ [(name, old)]) = before ++ [(name, value)] := by
  have hbefore : before.map (fun e => if e.1 == name then (name, value) else e) = before := by
    refine (List.map_congr_left fun e he => ?_).trans (List.map_id _)
    have hne : e.1 ≠ name := fun hname => lookup_eq_none_iff.mp h (List.mem_map.mpr ⟨e, he, hname⟩)
    exact if_neg (by simpa using hne)
  rw [overwrite, List.map_append, hbefore]
  simp

theorem openTable_new (h : lookup name before = none) :
    openTable [] name before = some (before ++ [(name, .table .header [])]) := by
  rw [openTable, edit, h]

/-- An entry goes to the end of the table that was opened last. -/
theorem assign_last (hname : lookup name before = none) (hkey : lookup key entries = none)
    (value : Toml) :
    edit false (fun _ inner => assign [] key value inner)
    [name] .header (before ++ [(name, .table .header entries)]) =
      some (before ++ [(name, .table .header (entries ++ [(key, value)]))]) := by
  have hassign : assign [] key value entries = some (entries ++ [(key, value)]) := by
    rw [assign, edit, hkey]
    rfl
  rw [edit, lookup_concat hname]
  dsimp only
  have henter : mayEnter false .header = true := rfl
  rw [if_pos henter, edit, hassign, Option.map_some, overwrite_concat hname]

theorem build_entries {more : Entries} (hname : lookup name before = none)
    (distinct : ((entries ++ more).map (·.1)).Nodup) (lines : List Line) :
    build [name] (before ++ [(name, .table .header entries)]) (more.map entryLine ++ lines) =
      build [name] (before ++ [(name, .table .header (entries ++ more))]) lines := by
  induction more generalizing entries with
  | nil => rw [List.map_nil, List.nil_append, List.append_nil]
  | cons e more ih =>
      have hkey : lookup e.1 entries = none := by
        rw [List.map_append, List.map_cons] at distinct
        exact lookup_eq_none_iff.mpr fun hmem =>
          (List.nodup_append.mp distinct).2.2 e.1 hmem e.1 List.mem_cons_self rfl
      rw [List.append_cons] at distinct
      rw [List.map_cons, List.cons_append, entryLine, build, assign_last hname hkey]
      dsimp only
      rw [ih distinct, List.append_assoc, List.singleton_append]

/-- A section with its entries as a table that was opened by its header. -/
def tabled (s : String × Entries) : String × Toml := (s.1, .table .header s.2)

/-- The lines of sections build their tables, one after the other. -/
theorem build_sections {sections : List (String × Entries)} {current : List String}
    (distinct : (before.map (·.1) ++ sections.map (·.1)).Nodup) (tidy : ∀ s ∈ sections, Tidy s.2) :
    build current before (sections.flatMap sectionLines) =
      some (before ++ sections.map tabled) := by
  induction sections generalizing before current with
  | nil => rw [List.flatMap_nil, build, List.map_nil, List.append_nil]
  | cons s sections ih =>
      rw [List.forall_mem_cons] at tidy
      have hname : lookup s.1 before = none := lookup_eq_none_iff.mpr fun hmem =>
        (List.nodup_append.mp distinct).2.2 s.1 hmem s.1 List.mem_cons_self rfl
      have hdistinct : ((([] : Entries) ++ s.2).map (·.1)).Nodup := tidy.1.distinct
      have hentries := build_entries hname hdistinct (sections.flatMap sectionLines)
      -- with the table of this section behind the others, the names are the same in the same order
      have hrest : ((before ++ [tabled s]).map (·.1) ++ sections.map (·.1)).Nodup := by
        rw [List.map_append, List.append_assoc]
        exact distinct
      rw [List.flatMap_cons, sectionLines, List.cons_append, build, openTable_new hname]
      dsimp only
      rw [List.nil_append, hentries, List.nil_append]
      exact (ih hrest tidy.2).trans
        (by rw [List.map_cons, List.append_assoc, List.singleton_append])

theorem dropMark_documentText (sections : List (String × Entries)) :
    dropMark (documentText sections) = documentText sections := by
  have hhead : ∀ c ∈ (documentText sections).head?, c = '[' := by
    intro c hc
    cases sections with
    | nil => cases hc
    | cons s sections =>
        cases sections with
        | nil => exact (Option.some.inj hc).symm
        | cons next sections => exact (Option.some.inj hc).symm
  generalize documentText sections = text at hhead
  unfold dropMark
  split
  · exact absurd (hhead _ rfl) (by decide)
  · rfl

/-- **Sections are read as they are printed.** -/
theorem read?_printed {sections : List (String × Entries)} (h : Orderly sections) :
    read? (printed sections) = some (sections.map tabled) := by
  have hlines :=
    listed_documentText h.bare h.tidy ((documentText sections).length + 1) (Nat.lt_succ_self _)
  rw [read?, printed, String.toList_ofList, dropMark_documentText]
  rw [hlines, Option.bind_eq_bind, Option.bind_some]
  have hdistinct : ((([] : Entries).map (·.1)) ++ sections.map (·.1)).Nodup := h.distinct
  exact (build_sections hdistinct h.tidy).trans (by rw [List.nil_append])

end PanelDock.Toml
