import Mathlib.Data.List.TakeWhile
import PanelDock.Toml.Printer
import PanelDock.Toml.Reader
/-!
# Every text can be quoted

A text is written in one of four forms, and the reader sees by the quotes in front which one it is.
Between double quotes every character can stand, if need be by an escape (`escape_cases`), so that
these forms hold any text. The others have no escapes: they are taken only for a text that needs
none.

Where three quotes end the text, what has to be seen is that no three stand together before its end.
Quotes at the end of the text stand together with the three behind it, and the reader takes the last
three of them for the end; so there must not be more than two. `closing?_end` and `closing?_inside`
say both for any of the two quotes.
-/

namespace PanelDock.Toml

variable {s rest : List Char} {c quote : Char}

/-! ## Characters -/

/-- What needs no escape stands for itself, or is a line feed. -/
theorem isPlain_of_needsEscape (h : needsEscape c = false) (hline : c ≠ '\n') :
    isPlain c = true := by
  simp only [needsEscape, isPlain, Bool.or_eq_false_iff, Bool.and_eq_false_iff, Bool.or_eq_true,
    Bool.and_eq_true, decide_eq_false_iff_not, decide_eq_true_eq] at h ⊢
  by_cases htab : c = '\t'
  · exact Or.inl htab
  · refine Or.inr ⟨?_, h.2⟩
    rcases h.1 with (hcontrol | hc) | hc
    · omega
    · exact absurd htab hc
    · exact absurd hline hc

theorem hexDigits_eq {n : Nat} (h : n < 128) : hexDigits n =
    ['0', '0', (Nat.digitChar (n / 16)).toUpper, (Nat.digitChar (n % 16)).toUpper] := by
  revert n
  decide +kernel

/-- A control character is read from its four digits. -/
theorem escaped?_control (h : c.toNat < 128) (s : List Char) :
    escaped? ('u' :: (hexDigits c.toNat ++ s)) = some (c, s) := by
  have hdigit : ∀ d < 16, digit? 16 (Nat.digitChar d).toUpper = some d := by decide
  have hzero : digit? 16 '0' = some 0 := by decide
  have hvalue : 16 * (16 * (16 * (16 * 0 + 0) + 0) + c.toNat / 16) + c.toNat % 16 = c.toNat := by
    omega
  rw [hexDigits_eq h]
  simp only [escaped?, List.cons_append, List.nil_append, codePoint?, hzero, Option.bind_eq_bind,
    Option.bind_some,
    hdigit _ (by omega : c.toNat / 16 < 16), hdigit _ (by omega : c.toNat % 16 < 16), hvalue]
  rw [scalar?, if_pos (by omega), Char.ofNat_toNat]
  rfl

/-- A character stands for itself, breaks the line, or is read from what follows a backslash, which
is then not taken for a backslash at the end of a line. -/
theorem escape_cases (long : Bool) (c : Char) :
    (escape long c = [c] ∧ isPlain c = true ∧ c ≠ '\\') ∨
    (long = true ∧ c = '\n' ∧ escape long c = ['\n']) ∨
      ∃ e, escape long c = '\\' :: e ∧ ∀ s, escaped? (e ++ s) = some (c, s) ∧
        continued? (e ++ s) = none := by
  unfold escape
  split
  · rename_i hc
    exact Or.inr (Or.inr ⟨['b'], rfl, fun s => hc ▸ ⟨rfl, rfl⟩⟩)
  split
  · rename_i hc
    exact Or.inr (Or.inr ⟨['t'], rfl, fun s => hc ▸ ⟨rfl, rfl⟩⟩)
  split
  · rename_i hc
    cases long with
    | true => exact Or.inr (Or.inl ⟨rfl, hc, rfl⟩)
    | false => exact Or.inr (Or.inr ⟨['n'], rfl, fun s => hc ▸ ⟨rfl, rfl⟩⟩)
  split
  · rename_i hc
    exact Or.inr (Or.inr ⟨['f'], rfl, fun s => hc ▸ ⟨rfl, rfl⟩⟩)
  split
  · rename_i hc
    exact Or.inr (Or.inr ⟨['r'], rfl, fun s => hc ▸ ⟨rfl, rfl⟩⟩)
  split
  · rename_i hc
    exact Or.inr (Or.inr ⟨['\\'], rfl, fun s => by rw [hc]; exact ⟨rfl, rfl⟩⟩)
  rename_i hslash
  split
  · rename_i hcontrol
    simp only [Bool.or_eq_true, decide_eq_true_eq] at hcontrol
    exact Or.inr
      (Or.inr ⟨'u' :: hexDigits c.toNat, rfl, fun s => ⟨escaped?_control (by omega) s, rfl⟩⟩)
  · rename_i hcontrol
    simp only [Bool.or_eq_true, decide_eq_true_eq, not_or] at hcontrol
    refine Or.inl ⟨rfl, ?_, hslash⟩
    simp only [isPlain, Bool.or_eq_true, Bool.and_eq_true, decide_eq_true_eq]
    exact Or.inr ⟨by omega, hcontrol.2⟩

theorem escape_ne_nil (long : Bool) (c : Char) : escape long c ≠ [] := by
  unfold escape
  repeat' split
  all_goals exact List.cons_ne_nil _ _

theorem length_le_basicBody (long : Bool) (allowed run : Nat) (s : List Char) :
    s.length ≤ (basicBody long allowed run s).length := by
  induction s generalizing run with
  | nil => exact Nat.le_refl 0
  | cons c s ih =>
      have hzero := ih 0
      have hnext := ih (run + 1)
      have hlength := List.length_pos_iff.mpr (escape_ne_nil long c)
      rw [basicBody]
      split
      · split
        · rw [List.length_cons, List.length_cons]
          omega
        · rw [List.length_cons, List.length_cons, List.length_cons]
          omega
      · rw [List.length_append, List.length_cons]
        omega

/-! ## One line -/

/-- A text is read from between double quotes on a line. -/
theorem basicTail?_basicBody {fuel : Nat} (hfuel : s.length < fuel) (rest : List Char) :
    basicTail? fuel (basicBody false 0 0 s ++ '"' :: rest) = some (s, rest) := by
  induction s generalizing fuel with
  | nil =>
      obtain ⟨fuel, rfl⟩ := Nat.exists_eq_add_of_lt hfuel
      rfl
  | cons c s ih =>
      obtain ⟨fuel, rfl⟩ := Nat.exists_eq_add_one_of_ne_zero (by omega : fuel ≠ 0)
      rw [List.length_cons] at hfuel
      have hrest := ih (by omega : s.length < fuel)
      rw [basicBody]
      by_cases hquote : c = '"'
      · rw [if_pos hquote, if_neg (Nat.lt_irrefl 0), hquote]
        simp [basicTail?, escaped?, hrest]
      · rw [if_neg hquote, List.append_assoc]
        rcases escape_cases false c with ⟨he, hplain, hslash⟩ | ⟨hlong, _⟩ | ⟨e, he, hread⟩
        · simp [he, basicTail?, hquote, hslash, hplain, hrest]
        · cases hlong
        · simp [he, basicTail?, (hread _).1, hrest]

/-- A text without single quotes is read from between two of them. -/
theorem literalTail?_text (hplain : ∀ c ∈ s, isPlain c = true) (hquote : '\'' ∉ s)
    (rest : List Char) : literalTail? (s ++ '\'' :: rest) = some (s, rest) := by
  induction s with
  | nil => rfl
  | cons c s ih =>
      rw [List.forall_mem_cons] at hplain
      rw [List.mem_cons, not_or] at hquote
      rw [List.cons_append, literalTail?, if_neg (Ne.symm hquote.1), if_pos hplain.1,
        ih hplain.2 hquote.2]
      rfl

/-! ## Three quotes -/

/-- The reader stops where only quotes are left of the text. -/
theorem closing?_end (hs : ∀ c ∈ s, c = quote) (few : s.length ≤ 2)
    (hrest : ∀ c ∈ rest.head?, c ≠ quote) :
    closing? quote (s ++ quote :: quote :: quote :: rest) = some (s, rest) := by
  have hreplicate : s = List.replicate s.length quote := List.eq_replicate_iff.mpr ⟨rfl, hs⟩
  have hstop : rest.takeWhile (· = quote) = [] := by
    cases rest with
    | nil => rfl
    | cons c rest => exact List.takeWhile_cons_of_neg (by simpa using hrest c rfl)
  have htake : (s ++ quote :: quote :: quote :: rest).takeWhile (· = quote) =
      s ++ [quote, quote, quote] := by
    rw [List.takeWhile_append_of_pos (by simpa using hs)]
    simp [hstop]
  have hcount : (s ++ [quote, quote, quote]).length = s.length + 3 := by simp
  have hdrop : (s ++ quote :: quote :: quote :: rest).drop (s.length + 3) = rest := by
    rw [← hcount, show s ++ quote :: quote :: quote :: rest =
      (s ++ [quote, quote, quote]) ++ rest by simp, List.drop_left]
  unfold closing?
  dsimp only
  rw [htake, hcount, if_pos (by omega), hdrop, Nat.add_sub_cancel, ← hreplicate]

/-- The quotes in front of something else are counted up to there. -/
theorem length_takeWhile_inside (hs : ¬ ∀ c ∈ s, c = quote) (t : List Char) :
    ((s ++ t).takeWhile (· = quote)).length = (s.takeWhile (· = quote)).length := by
  rw [List.takeWhile_append, if_neg]
  intro hall
  refine hs fun c hc => ?_
  rw [← (List.takeWhile_prefix _).eq_of_length hall] at hc
  simpa using List.mem_takeWhile_imp hc

/-- The reader does not stop before something else than quotes. -/
theorem closing?_inside (hs : ¬ ∀ c ∈ s, c = quote) (few : (s.takeWhile (· = quote)).length ≤ 2)
    (t : List Char) : closing? quote (s ++ t) = none := by
  unfold closing?
  dsimp only
  rw [length_takeWhile_inside hs, if_neg (by omega)]

theorem newline?_eq_none (h : ∀ c ∈ s.head?, c ≠ '\n' ∧ c ≠ '\r') : newline? s = none := by
  unfold newline?
  split
  · exact absurd rfl (h '\n' rfl).1
  · exact absurd rfl (h '\r' rfl).2
  · rfl

theorem plain_ne_break (h : isPlain c = true) : c ≠ '\n' ∧ c ≠ '\r' := by
  constructor <;> rintro rfl <;> cases h

/-! ## Several lines -/

/-- Where more than quotes is left of the text, no more quotes stand in front than are allowed. -/
theorem takeWhile_basicBody (run : Nat) (hrun : run ≤ 2) (s : List Char) :
    run + ((basicBody true 2 run s).takeWhile (· = '"')).length ≤ 2 := by
  induction s generalizing run with
  | nil => exact hrun
  | cons c s ih =>
      rw [basicBody]
      by_cases hquote : c = '"'
      · rw [if_pos hquote]
        split
        · have := ih (run + 1) (by omega)
          rw [List.takeWhile_cons_of_pos (by decide), List.length_cons]
          omega
        · exact hrun
      · rw [if_neg hquote]
        rcases escape_cases true c with ⟨he, _⟩ | ⟨_, _, he⟩ | ⟨e, he, _⟩
        · rw [he, List.singleton_append, List.takeWhile_cons_of_neg (by simpa using hquote)]
          exact hrun
        · rw [he]
          exact hrun
        · rw [he]
          exact hrun

/-- Quotes that are left of the text stand for themselves. -/
theorem basicBody_of_quotes {run : Nat} (h : ∀ c ∈ basicBody true 2 run s, c = '"') :
    basicBody true 2 run s = s := by
  induction s generalizing run with
  | nil => rfl
  | cons c s ih =>
      rw [basicBody] at h ⊢
      by_cases hquote : c = '"'
      · rw [if_pos hquote] at h ⊢
        split at h
        · rename_i hrun
          rw [List.forall_mem_cons] at h
          rw [if_pos hrun, ih h.2, hquote]
        · exact absurd (h '\\' List.mem_cons_self) (by decide)
      · rw [if_neg hquote] at h
        rcases escape_cases true c with ⟨he, _⟩ | ⟨_, _, he⟩ | ⟨e, he, _⟩
        · exact absurd (h c (by rw [he]; exact List.mem_cons_self)) hquote
        · exact absurd (h '\n' (by rw [he]; exact List.mem_cons_self)) (by decide)
        · exact absurd (h '\\' (by rw [he]; exact List.mem_cons_self)) (by decide)

section Steps

variable {fuel : Nat} {text t u : List Char}

theorem longBasicTail?_closed {found : List Char × List Char} (h : closing? '"' t = some found) :
    longBasicTail? (fuel + 1) t = some found := by
  unfold longBasicTail?
  rw [h]

theorem longBasicTail?_escaped (hopen : closing? '"' ('\\' :: t) = none)
    (hline : continued? t = none) (hread : escaped? t = some (c, u))
    (htail : longBasicTail? fuel u = some (text, rest)) :
    longBasicTail? (fuel + 1) ('\\' :: t) = some (c :: text, rest) := by
  unfold longBasicTail?
  simp [hopen, hline, hread, htail]

theorem longBasicTail?_break (hopen : closing? '"' ('\n' :: t) = none)
    (htail : longBasicTail? fuel t = some (text, rest)) :
    longBasicTail? (fuel + 1) ('\n' :: t) = some ('\n' :: text, rest) := by
  unfold longBasicTail?
  simp [hopen, newline?, htail]

theorem longBasicTail?_plain (hopen : closing? '"' (c :: t) = none) (hslash : c ≠ '\\')
    (hplain : isPlain c = true) (few : ((c :: t).takeWhile (· = '"')).length ≤ 2)
    (htail : longBasicTail? fuel t = some (text, rest)) :
    longBasicTail? (fuel + 1) (c :: t) = some (c :: text, rest) := by
  have hbreak : newline? (c :: t) = none :=
    newline?_eq_none fun d hd => Option.some.inj hd ▸ plain_ne_break hplain
  have hmany : ¬ (c = '"' ∧ 3 ≤ ((c :: t).takeWhile (· = '"')).length) := by omega
  unfold longBasicTail?
  simp only [hopen, if_neg hslash, hbreak, if_neg hmany, if_pos hplain, htail]
  rfl

theorem longLiteralTail?_closed {found : List Char × List Char} (h : closing? '\'' t = some found) :
    longLiteralTail? (fuel + 1) t = some found := by
  unfold longLiteralTail?
  rw [h]

theorem longLiteralTail?_break (hopen : closing? '\'' ('\n' :: t) = none)
    (htail : longLiteralTail? fuel t = some (text, rest)) :
    longLiteralTail? (fuel + 1) ('\n' :: t) = some ('\n' :: text, rest) := by
  unfold longLiteralTail?
  simp [hopen, newline?, htail]

theorem longLiteralTail?_plain (hopen : closing? '\'' (c :: t) = none) (hplain : isPlain c = true)
    (few : ((c :: t).takeWhile (· = '\'')).length ≤ 2)
    (htail : longLiteralTail? fuel t = some (text, rest)) :
    longLiteralTail? (fuel + 1) (c :: t) = some (c :: text, rest) := by
  have hbreak : newline? (c :: t) = none :=
    newline?_eq_none fun d hd => Option.some.inj hd ▸ plain_ne_break hplain
  have hmany : ¬ (c = '\'' ∧ 3 ≤ ((c :: t).takeWhile (· = '\'')).length) := by omega
  unfold longLiteralTail?
  simp only [hopen, hbreak, if_neg hmany, if_pos hplain, htail]
  rfl

end Steps

/-- A text is read from between three double quotes. -/
theorem longBasicTail?_basicBody {fuel run : Nat} (hfuel : s.length < fuel) (hrun : run ≤ 2)
    (hrest : ∀ c ∈ rest.head?, c ≠ '"') :
    longBasicTail? fuel (basicBody true 2 run s ++ '"' :: '"' :: '"' :: rest) = some (s, rest) := by
  induction s generalizing fuel run with
  | nil =>
      obtain ⟨fuel, rfl⟩ := Nat.exists_eq_add_of_lt hfuel
      exact longBasicTail?_closed
        (closing?_end (s := []) (fun _ hc => nomatch hc) (Nat.zero_le 2) hrest)
  | cons c s ih =>
      obtain ⟨fuel, rfl⟩ := Nat.exists_eq_add_one_of_ne_zero (by omega : fuel ≠ 0)
      rw [List.length_cons] at hfuel
      have hfew := takeWhile_basicBody run hrun (c :: s)
      by_cases hend : ∀ d ∈ basicBody true 2 run (c :: s), d = '"'
      · -- only quotes are left, and they run into the three that end the text
        have hall : (basicBody true 2 run (c :: s)).takeWhile (· = '"') =
            basicBody true 2 run (c :: s) :=
          List.takeWhile_eq_self_iff.mpr (by simpa using hend)
        rw [hall] at hfew
        have hclosing := closing?_end hend (by omega) hrest
        rw [basicBody_of_quotes hend] at hclosing ⊢
        exact longBasicTail?_closed hclosing
      · -- something else is left, so the text does not end here whatever the next character is
        have hopen := closing?_inside hend (by omega) ('"' :: '"' :: '"' :: rest)
        have hshort :
            ((basicBody true 2 run (c :: s) ++ '"' :: '"' :: '"' :: rest).takeWhile
              (· = '"')).length ≤ 2 := by
          rw [length_takeWhile_inside hend]
          omega
        have htail :
            ∀ run ≤ 2, longBasicTail? fuel (basicBody true 2 run s ++ '"' :: '"' :: '"' :: rest) =
            some (s, rest) := fun run hrun => ih (by omega) hrun
        rw [basicBody] at hopen hshort ⊢
        by_cases hquote : c = '"'
        · rw [if_pos hquote] at hopen hshort ⊢
          rw [hquote]
          by_cases hless : run < 2
          · rw [if_pos hless, List.cons_append] at hopen hshort ⊢
            exact longBasicTail?_plain hopen (by decide) (by decide) hshort (htail (run + 1) hless)
          · -- two quotes stand for themselves already; the third is escaped and counts as none
            rw [if_neg hless, List.cons_append, List.cons_append] at hopen ⊢
            exact longBasicTail?_escaped hopen rfl rfl (htail 0 (Nat.zero_le 2))
        · rw [if_neg hquote, List.append_assoc] at hopen hshort ⊢
          have hrest := htail 0 (Nat.zero_le 2)
          rcases escape_cases true c with ⟨he, hplain, hslash⟩ | ⟨_, rfl, he⟩ | ⟨e, he, hread⟩
          · rw [he, List.singleton_append] at hopen hshort ⊢
            exact longBasicTail?_plain hopen hslash hplain hshort hrest
          · rw [he, List.singleton_append] at hopen ⊢
            exact longBasicTail?_break hopen hrest
          · rw [he, List.cons_append] at hopen ⊢
            exact longBasicTail?_escaped hopen (hread _).2 (hread _).1 hrest

/-- No more quotes stand in front of a text than in its longest run. -/
theorem takeWhile_le_longestRun (quote : Char) (run : Nat) (s : List Char) :
    run + (s.takeWhile (· = quote)).length ≤ longestRun quote run s := by
  induction s generalizing run with
  | nil => exact Nat.le_refl run
  | cons c s ih =>
      rw [longestRun]
      split
      · rename_i hquote
        have := ih (run + 1)
        rw [List.takeWhile_cons_of_pos (by simpa using hquote), List.length_cons]
        omega
      · rename_i hquote
        rw [List.takeWhile_cons_of_neg (by simpa using hquote)]
        exact Nat.le_max_left _ _

/-- The rest of a text has no longer runs. -/
theorem longestRun_tail (quote : Char) (run : Nat) (c : Char) (s : List Char) :
    ∃ next, longestRun quote next s ≤ longestRun quote run (c :: s) := by
  rw [longestRun]
  split
  · exact ⟨run + 1, Nat.le_refl _⟩
  · exact ⟨0, Nat.le_max_right _ _⟩

/-- A text without longer runs of single quotes is read from between three of them. -/
theorem longLiteralTail?_text {fuel run : Nat} (hfuel : s.length < fuel)
    (few : longestRun '\'' run s ≤ 2) (plain : ∀ c ∈ s, needsEscape c = false)
    (hrest : ∀ c ∈ rest.head?, c ≠ '\'') :
    longLiteralTail? fuel (s ++ '\'' :: '\'' :: '\'' :: rest) = some (s, rest) := by
  induction s generalizing fuel run with
  | nil =>
      obtain ⟨fuel, rfl⟩ := Nat.exists_eq_add_of_lt hfuel
      exact longLiteralTail?_closed
        (closing?_end (s := []) (fun _ hc => nomatch hc) (Nat.zero_le 2) hrest)
  | cons c s ih =>
      obtain ⟨fuel, rfl⟩ := Nat.exists_eq_add_one_of_ne_zero (by omega : fuel ≠ 0)
      have hrun := takeWhile_le_longestRun '\'' run (c :: s)
      by_cases hend : ∀ d ∈ c :: s, d = '\''
      · have hall : (c :: s).takeWhile (· = '\'') = c :: s :=
          List.takeWhile_eq_self_iff.mpr (by simpa using hend)
        rw [hall] at hrun
        exact longLiteralTail?_closed (closing?_end hend (by omega) hrest)
      · have hopen := closing?_inside hend (by omega) ('\'' :: '\'' :: '\'' :: rest)
        have hshort :
            ((c :: s ++ '\'' :: '\'' :: '\'' :: rest).takeWhile (· = '\'')).length ≤ 2 := by
          rw [length_takeWhile_inside hend]
          omega
        -- the count of the run goes on with the rest of the text, and is still bounded
        obtain ⟨next, hnext⟩ := longestRun_tail '\'' run c s
        rw [List.forall_mem_cons] at plain
        rw [List.length_cons] at hfuel
        have htail :=
          ih (by omega : s.length < fuel) (by omega : longestRun '\'' next s ≤ 2) plain.2
        rw [List.cons_append] at hopen hshort ⊢
        by_cases hline : c = '\n'
        · rw [hline] at hopen ⊢
          exact longLiteralTail?_break hopen htail
        · exact longLiteralTail?_plain hopen (isPlain_of_needsEscape plain.1 hline) hshort htail

/-! ## The four forms -/

theorem not_mem_of_longestRun {run : Nat} (h : longestRun quote run s = 0) : quote ∉ s := by
  induction s generalizing run with
  | nil => exact List.not_mem_nil
  | cons c s ih =>
      have hrun := takeWhile_le_longestRun quote run (c :: s)
      rw [longestRun] at h
      rw [List.mem_cons, not_or]
      split at h
      · have := takeWhile_le_longestRun quote (run + 1) s
        omega
      · rename_i hc
        exact ⟨Ne.symm hc, ih (by omega : longestRun quote 0 s = 0)⟩

theorem formOf_literal (h : formOf s = .literal) :
    (∀ c ∈ s, isPlain c = true) ∧ '\'' ∉ s ∧ s ≠ [] := by
  have hne : s ≠ [] := by
    rintro rfl
    cases h
  unfold formOf at h
  dsimp only at h
  split at h
  · cases h
  split at h
  · rename_i hform
    simp only [Bool.and_eq_true, Bool.not_eq_true', List.any_eq_false, decide_eq_true_eq] at hform
    obtain ⟨⟨hcontrols, hsingle⟩, hlines⟩ := hform
    refine ⟨fun c hc => isPlain_of_needsEscape (by simpa using hcontrols c hc) ?_,
      not_mem_of_longestRun hsingle, hne⟩
    rintro rfl
    simp [hc] at hlines
  repeat' split at h
  all_goals cases h

theorem formOf_longLiteral (h : formOf s = .longLiteral) :
    (∀ c ∈ s, needsEscape c = false) ∧ longestRun '\'' 0 s ≤ 2 := by
  unfold formOf at h
  dsimp only at h
  split at h
  · cases h
  split at h
  · cases h
  split at h
  · cases h
  split at h
  · rename_i hform
    simp only [Bool.and_eq_true, Bool.not_eq_true', List.any_eq_false, decide_eq_true_eq] at hform
    exact ⟨fun c hc => by simpa using hform.1 c hc, hform.2⟩
  · split at h <;> cases h

theorem string?_basic {t : List Char} (h : ∀ u, t ≠ '"' :: '"' :: u) :
    string? ('"' :: t) = basicTail? (t.length + 1) t := by
  unfold string?
  split
  · rename_i u he
    exact absurd (List.cons.inj he).2 (h u)
  · rename_i he
    cases he
  · rename_i he
    cases he
    rfl
  · rename_i he
    cases he
  · rename_i _ _ hother _
    exact absurd rfl (hother t)

theorem string?_literal {t : List Char} (h : ∀ c ∈ t.head?, c ≠ '\'') :
    string? ('\'' :: t) = literalTail? t := by
  unfold string?
  split
  · rename_i he
    cases he
  · rename_i he
    cases he
    exact absurd rfl (h '\'' rfl)
  · rename_i he
    cases he
  · rename_i he
    cases he
    rfl
  · rename_i hother
    exact absurd rfl (hother t)

/-- The line feed behind the opening quotes is dropped, and nothing else. -/
theorem dropNewline_opening {t : List Char} (h : '\n' ∉ s → ∀ c ∈ t.head?, c ≠ '\n' ∧ c ≠ '\r') :
    dropNewline ((if s.contains '\n' then ['\n'] else []) ++ t) = t := by
  by_cases hlines : '\n' ∈ s
  · rw [if_pos (List.contains_iff_mem.mpr hlines)]
    rfl
  · rw [if_neg (by simpa using hlines), List.nil_append, dropNewline, newline?_eq_none (h hlines),
      Option.getD_none]

/-- What stands between double quotes breaks the line in front only if the text does. -/
theorem basicBody_head (run : Nat) (h : '\n' ∉ s) (t : List Char) :
    ∀ c ∈ (basicBody true 2 run s ++ '"' :: t).head?, c ≠ '\n' ∧ c ≠ '\r' := by
  intro d hd
  cases s with
  | nil =>
      obtain rfl := Option.some.inj hd
      decide
  | cons c s =>
      rw [basicBody] at hd
      split at hd
      · split at hd <;> (obtain rfl := Option.some.inj hd; decide)
      · rcases escape_cases true c with ⟨he, hplain, _⟩ | ⟨_, rfl, _⟩ | ⟨e, he, _⟩
        · rw [he] at hd
          obtain rfl := Option.some.inj hd
          exact plain_ne_break hplain
        · exact absurd List.mem_cons_self h
        · rw [he] at hd
          obtain rfl := Option.some.inj hd
          decide

/-- Between double quotes no other double quote stands in front. -/
theorem basicBody_ne_quote (s t : List Char) (hend : ∀ c ∈ t.head?, c ≠ '"') (u : List Char) :
    basicBody false 0 0 s ++ '"' :: t ≠ '"' :: '"' :: u := by
  intro he
  cases s with
  | nil =>
      rw [basicBody, List.nil_append] at he
      obtain rfl := (List.cons.inj he).2
      exact hend '"' rfl rfl
  | cons c s =>
      rw [basicBody] at he
      split at he
      · rw [if_neg (Nat.lt_irrefl 0)] at he
        cases he
      · rename_i hquote
        rcases escape_cases false c with ⟨hc, _⟩ | ⟨hlong, _⟩ | ⟨e, hc, _⟩
        · rw [hc] at he
          exact hquote (List.cons.inj he).1
        · cases hlong
        · rw [hc] at he
          cases he

/-- **A text is read from its quotes**, in whichever form it is written, if no further quote
follows. -/
theorem string?_stringText (s : List Char) (hrest : ∀ c ∈ rest.head?, c ≠ '"' ∧ c ≠ '\'') :
    string? (stringText s ++ rest) = some (s, rest) := by
  have hdouble : ∀ c ∈ rest.head?, c ≠ '"' := fun c hc => (hrest c hc).1
  have hsingle : ∀ c ∈ rest.head?, c ≠ '\'' := fun c hc => (hrest c hc).2
  rw [stringText]
  cases hform : formOf s with
  | basic =>
      have hlength := length_le_basicBody false 0 0 s
      simp only [List.cons_append, List.append_assoc, List.nil_append]
      rw [string?_basic (basicBody_ne_quote s rest hdouble)]
      refine basicTail?_basicBody ?_ rest
      rw [List.length_append]
      omega
  | literal =>
      obtain ⟨hplain, hquote, hne⟩ := formOf_literal hform
      simp only [List.cons_append, List.append_assoc, List.nil_append]
      rw [string?_literal]
      · exact literalTail?_text hplain hquote rest
      · intro c hc
        obtain ⟨d, s, rfl⟩ := List.exists_cons_of_ne_nil hne
        obtain rfl := Option.some.inj hc
        exact fun he => hquote (he ▸ List.mem_cons_self)
  | longBasic =>
      have hlength := length_le_basicBody true 2 0 s
      simp only [List.cons_append, List.append_assoc, List.nil_append]
      rw [string?, dropNewline_opening fun hlines => basicBody_head 0 hlines _]
      refine longBasicTail?_basicBody ?_ (Nat.zero_le 2) hdouble
      simp only [List.length_append]
      omega
  | longLiteral =>
      obtain ⟨hplain, hfew⟩ := formOf_longLiteral hform
      simp only [List.cons_append, List.append_assoc, List.nil_append]
      rw [string?, dropNewline_opening]
      · refine longLiteralTail?_text ?_ hfew hplain hsingle
        simp only [List.length_append]
        omega
      · intro hlines c hc
        cases s with
        | nil =>
            obtain rfl := Option.some.inj hc
            decide
        | cons d s =>
            obtain rfl := Option.some.inj hc
            refine plain_ne_break (isPlain_of_needsEscape (hplain d List.mem_cons_self) ?_)
            rintro rfl
            exact hlines List.mem_cons_self

end PanelDock.Toml
