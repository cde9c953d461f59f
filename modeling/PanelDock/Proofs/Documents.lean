import PanelDock.Proofs.Numerals
/-!
# Documents are read as they are printed

The reader takes a value from the front and leaves the rest, so what it has to be told of the rest
is little: that a numeral ends there. `Reads` says of a value that it is read from its text,
whatever stands behind it; it passes from the parts of a value to the whole, by the recursion of the
printer. The steps that a reader may take are counted by the length of the text, since every step
takes a character.
-/

namespace PanelDock.Json

open Decimal (Numeral)

/-! ## Strings -/

/-- The four digits by which a control character is escaped. -/
theorem unit?_control {n : Nat} (hn : n < 0x20) (s : List Char) :
    unit? ('0' :: '0' :: Nat.digitChar (n / 16) :: Nat.digitChar (n % 16) :: s) = some (n, s) := by
  have hdigit : ∀ d < 16, hexDigit? (Nat.digitChar d) = some d := by decide
  have hzero : hexDigit? '0' = some 0 := rfl
  rw [unit?, hzero, hdigit _ (by omega : n / 16 < 16), hdigit _ (by omega : n % 16 < 16)]
  simp only [Option.bind_eq_bind, Option.bind_some, Option.pure_def]
  rw [show ((0 * 16 + 0) * 16 + n / 16) * 16 + n % 16 = n by omega]

/-- One character is read from its escape. -/
theorem stringTail?_escape (fuel : Nat) (c : Char) (s : List Char) :
    stringTail? (fuel + 1) (escape c ++ s) = do
      let (text, rest) ← stringTail? fuel s
      return (text.map (c :: ·), rest) := by
  have hnamed : c ∈ ['"', '\\', '\x08', '\x0c', '\n', '\r', '\t'] →
      stringTail? (fuel + 1) (escape c ++ s) =
      (do let (text, rest) ← stringTail? fuel s; return (text.map (c :: ·), rest)) := by
    intro hc
    simp only [List.mem_cons, List.not_mem_nil, or_false] at hc
    rcases hc with rfl | rfl | rfl | rfl | rfl | rfl | rfl <;> rfl
  by_cases hc : c ∈ ['"', '\\', '\x08', '\x0c', '\n', '\r', '\t']
  · exact hnamed hc
  · simp only [List.mem_cons, List.not_mem_nil, or_false, not_or] at hc
    obtain ⟨hquote, hslash, hback, hfeed, hline, hreturn, htab⟩ := hc
    by_cases hcontrol : c.toNat < 0x20
    · have hescape : escape c =
          ['\\', 'u', '0', '0', Nat.digitChar (c.toNat / 16), Nat.digitChar (c.toNat % 16)] := by
        simp [escape, hquote, hslash, hback, hfeed, hline, hreturn, htab, hcontrol]
      have hhigh : isHighSurrogate c.toNat = false := by
        simp only [isHighSurrogate, Bool.and_eq_false_iff, decide_eq_false_iff_not]
        omega
      have hlow : isLowSurrogate c.toNat = false := by
        simp only [isLowSurrogate, Bool.and_eq_false_iff, decide_eq_false_iff_not]
        omega
      rw [hescape]
      simp [stringTail?, unit?_control hcontrol, hhigh, hlow]
    · have hescape : escape c = [c] := by
        simp [escape, hquote, hslash, hback, hfeed, hline, hreturn, htab, hcontrol]
      rw [hescape]
      simp [stringTail?, hquote, hslash, hcontrol]

/-- **A text is read from its escapes.** -/
theorem stringTail?_text {fuel : Nat} {cs : List Char} (hfuel : cs.length < fuel) (s : List Char) :
    stringTail? fuel (cs.flatMap escape ++ '"' :: s) = some (some cs, s) := by
  induction cs generalizing fuel with
  | nil =>
      obtain ⟨fuel, rfl⟩ := Nat.exists_eq_add_of_lt hfuel
      rfl
  | cons c cs ih =>
      obtain ⟨fuel, rfl⟩ := Nat.exists_eq_add_one_of_ne_zero (by omega : fuel ≠ 0)
      rw [List.length_cons] at hfuel
      rw [List.flatMap_cons, List.append_assoc, stringTail?_escape, ih (by omega)]
      rfl

theorem length_le_escaped (cs : List Char) : cs.length ≤ (cs.flatMap escape).length := by
  have hone : ∀ c, 1 ≤ (escape c).length := fun c => by
    unfold escape
    repeat' split
    all_goals exact Nat.succ_le_succ (Nat.zero_le _)
  induction cs with
  | nil => exact Nat.le_refl 0
  | cons c cs ih =>
      have := hone c
      rw [List.flatMap_cons, List.length_append, List.length_cons]
      omega

/-- A string is read behind its quote. -/
theorem stringTail?_stringText (name : String) (s : List Char) :
    stringTail? ((name.toList.flatMap escape ++ '"' :: s).length + 1)
      (name.toList.flatMap escape ++ '"' :: s) =
      some (some name.toList, s) := by
  refine stringTail?_text ?_ s
  have := length_le_escaped name.toList
  rw [List.length_append]
  omega

/-! ## Blanks -/

theorem skipSpace_append {blanks s : List Char} (hblanks : ∀ c ∈ blanks, isSpace c = true)
    (hs : ∀ c ∈ s.head?, isSpace c = false) : skipSpace (blanks ++ s) = s := by
  rw [skipSpace, List.dropWhile_append_of_pos hblanks]
  cases s with
  | nil => rfl
  | cons c s => exact List.dropWhile_cons_of_neg (by simp [hs c rfl])

theorem skipSpace_blanks {blanks : List Char} (hblanks : ∀ c ∈ blanks, isSpace c = true) (c : Char)
    (hc : isSpace c = false) (s : List Char) : skipSpace (blanks ++ c :: s) = c :: s :=
  skipSpace_append hblanks fun _ h => Option.some.inj h ▸ hc

theorem ends_blank {b : Char} (hb : isSpace b = true) (s : List Char) : Ends (b :: s) := by
  simp only [isSpace, Bool.or_eq_true, decide_eq_true_eq] at hb
  rcases hb with ((rfl | rfl) | rfl) | rfl <;> exact ends_cons (by decide) _

theorem ends_blanks {blanks : List Char} (hblanks : ∀ c ∈ blanks, isSpace c = true) {c : Char}
    (s : List Char) (hc : c.isDigit = false ∧ c ≠ '.' ∧ c ≠ 'e' ∧ c ≠ 'E') :
    Ends (blanks ++ c :: s) := by
  cases blanks with
  | nil => exact ends_cons hc s
  | cons b blanks => exact ends_blank (hblanks b List.mem_cons_self) _

theorem ends_of_blanks {blanks : List Char} (hblanks : ∀ c ∈ blanks, isSpace c = true) :
    Ends blanks := by
  cases blanks with
  | nil => exact ends_nil
  | cons b blanks => exact ends_blank (hblanks b List.mem_cons_self) _

theorem skipSpace_stringText (name : String) {blanks : List Char} (s : List Char)
    (hblanks : ∀ c ∈ blanks, isSpace c = true) :
    skipSpace (blanks ++ (stringText name ++ s)) =
      '"' :: (name.toList.flatMap escape ++ '"' :: s) := by
  rw [stringText, List.append_assoc, List.cons_append]
  exact skipSpace_blanks hblanks '"' rfl _

/-- A style puts nothing but blanks between the parts of a document. -/
structure Style.Airy (style : Style) : Prop where
  gap : ∀ depth, ∀ c ∈ style.gap depth, isSpace c = true
  colon : ∃ blanks, style.colon = ':' :: blanks ∧ ∀ c ∈ blanks, isSpace c = true

theorem indented_airy : indented.Airy where
  gap depth c hc := by
    rcases List.mem_cons.mp hc with rfl | hc
    · rfl
    · rw [List.eq_of_mem_replicate hc]
      rfl
  colon := ⟨[' '], rfl, fun _ hc => List.mem_singleton.mp hc ▸ rfl⟩

/-! ## Values -/

/-- The value has a text: its strings stand for texts and its numerals are written by the rules. -/
inductive Printable : Json → Prop
  | null : Printable .null
  | bool (b : Bool) : Printable (.bool b)
  | number {n : Numeral} : n.Proper → Printable (.number n)
  | string (s : String) : Printable (.string s)
  | array {es : List Json} : (∀ e ∈ es, Printable e) → Printable (.array es)
  | object {ms : List (String × Json)} : (∀ m ∈ ms, Printable m.2) → Printable (.object ms)

theorem ne_of_isDigit {c d : Char} (hc : c.isDigit = true) (hd : d.isDigit = false) : c ≠ d := by
  rintro rfl
  exact Bool.false_ne_true (hd.symm.trans hc)

theorem isSpace_of_isDigit {c : Char} (hc : c.isDigit = true) : isSpace c = false := by
  have hblank := ne_of_isDigit hc (rfl : ' '.isDigit = false)
  have hline := ne_of_isDigit hc (rfl : '\n'.isDigit = false)
  have htab := ne_of_isDigit hc (rfl : '\t'.isDigit = false)
  have hreturn := ne_of_isDigit hc (rfl : '\r'.isDigit = false)
  simp [isSpace, hblank, hline, htab, hreturn]

/-- A numeral starts with its sign or with a digit. -/
theorem numeralText_head {n : Numeral} (h : n.Proper) :
    ∃ c cs, numeralText n = c :: cs ∧
      (c = '-' ∧ n.negative = true ∨ c.isDigit = true ∧ n.negative = false) := by
  have hdigit : ∀ d < 10, (digitChar d).isDigit = true := by decide
  rw [numeralText_eq]
  cases n.negative with
  | true => exact ⟨_, _, rfl, Or.inl ⟨rfl, rfl⟩⟩
  | false =>
      obtain ⟨d, ds, hwhole⟩ := List.exists_cons_of_ne_nil h.whole.1
      have hd : d < 10 := h.whole.2 d (by rw [hwhole]; exact List.mem_cons_self)
      rw [hwhole]
      exact ⟨_, _, rfl, Or.inr ⟨hdigit d hd, rfl⟩⟩

/-- No text of a value starts with a blank or a closing bracket. -/
theorem text_head (style : Style) (depth : Nat) {j : Json} (h : j.Printable) :
    ∃ c cs, text style depth j = c :: cs ∧ isSpace c = false ∧ c ≠ ']' := by
  cases h with
  | null => exact ⟨_, _, rfl, by decide⟩
  | bool b => cases b <;> exact ⟨_, _, rfl, by decide⟩
  | @number n hn =>
      obtain ⟨c, cs, htext, hc⟩ := numeralText_head hn
      refine ⟨c, cs, htext, ?_⟩
      rcases hc with ⟨rfl, _⟩ | ⟨hc, _⟩
      · decide
      · exact ⟨isSpace_of_isDigit hc, ne_of_isDigit hc rfl⟩
  | string s => exact ⟨_, _, rfl, by decide⟩
  | @array es _ => cases es <;> exact ⟨_, _, rfl, by decide⟩
  | @object ms _ => cases ms <;> exact ⟨_, _, rfl, by decide⟩

/-- The value is read from its text, whatever stands around it. -/
def Reads (style : Style) (j : Json) : Prop :=
  ∀ {depth fuel : Nat} {blanks s : List Char}, (∀ c ∈ blanks, isSpace c = true) →
    (text style depth j).length < fuel → Ends s →
    value? fuel (blanks ++ (text style depth j ++ s)) = some (j, s)

/-! ## Arrays -/

theorem elements?_last {fuel : Nat} {e : Json} {s t rest : List Char}
    (hread : value? fuel s = some (e, t)) (hend : skipSpace t = ']' :: rest) :
    elements? (fuel + 1) s = some ([e], rest) := by
  simp [elements?, hread, hend]

theorem elements?_more {fuel : Nat} {e : Json} {es : List Json} {s t u rest : List Char}
    (hread : value? fuel s = some (e, t)) (hcomma : skipSpace t = ',' :: u)
    (hmore : elements? fuel u = some (es, rest)) :
    elements? (fuel + 1) s = some (e :: es, rest) := by
  simp [elements?, hread, hcomma, hmore]

/-- The elements of an array are read up to its bracket. -/
theorem elements?_text {style : Style} (airy : style.Airy) {depth : Nat} {es : List Json} :
    ∀ {e : Json} {fuel : Nat} {blanks gap s : List Char}, (∀ x ∈ e :: es, Reads style x) →
      (∀ c ∈ blanks, isSpace c = true) → (∀ c ∈ gap, isSpace c = true) →
      (text style depth e).length + (elementsText style depth es).length + 1 < fuel →
      elements? fuel
        (blanks ++ (text style depth e ++ (elementsText style depth es ++ (gap ++ ']' :: s)))) =
        some (e :: es, s) := by
  induction es with
  | nil =>
      intro e fuel blanks gap s h hblanks hgap hfuel
      obtain ⟨fuel, rfl⟩ := Nat.exists_eq_add_one_of_ne_zero (by omega : fuel ≠ 0)
      rw [elementsText, List.nil_append]
      exact elements?_last
        (h e List.mem_cons_self hblanks (by omega) (ends_blanks hgap s (by decide)))
        (skipSpace_blanks hgap ']' rfl s)
  | cons e' es ih =>
      intro e fuel blanks gap s h hblanks hgap hfuel
      obtain ⟨fuel, rfl⟩ := Nat.exists_eq_add_one_of_ne_zero (by omega : fuel ≠ 0)
      simp only [elementsText, List.length_append, List.length_cons] at hfuel
      simp only [elementsText, List.append_assoc, List.cons_append]
      exact elements?_more (h e List.mem_cons_self hblanks (by omega) (ends_cons (by decide) _)) rfl
        (ih (fun x hx => h x (List.mem_cons_of_mem _ hx)) (airy.gap depth) hgap (by omega))

/-! ## Objects -/

theorem namedValues?_last {fuel : Nat} {name : String} {j : Json} {s t u v w rest : List Char}
    (hquote : skipSpace s = '"' :: t)
    (hname : stringTail? (t.length + 1) t = some (some name.toList, u))
    (hcolon : skipSpace u = ':' :: v) (hread : value? fuel v = some (j, w))
    (hend : skipSpace w = '\x7d' :: rest) :
    namedValues? (fuel + 1) s = some ([(some name, j)], rest) := by
  simp [namedValues?, hquote, hname, hcolon, hread, hend]

theorem namedValues?_more {fuel : Nat} {name : String} {j : Json} {ms : List (Option String × Json)}
    {s t u v w x rest : List Char} (hquote : skipSpace s = '"' :: t)
    (hname : stringTail? (t.length + 1) t = some (some name.toList, u))
    (hcolon : skipSpace u = ':' :: v) (hread : value? fuel v = some (j, w))
    (hcomma : skipSpace w = ',' :: x) (hmore : namedValues? fuel x = some (ms, rest)) :
    namedValues? (fuel + 1) s = some ((some name, j) :: ms, rest) := by
  simp [namedValues?, hquote, hname, hcolon, hread, hcomma, hmore]

/-- The members of an object are read up to its brace. -/
theorem namedValues?_text {style : Style} (airy : style.Airy) {depth : Nat}
    {ms : List (String × Json)} :
    ∀ {m : String × Json} {fuel : Nat} {blanks gap s : List Char},
    (∀ x ∈ m :: ms, Reads style x.2) →
      (∀ c ∈ blanks, isSpace c = true) → (∀ c ∈ gap, isSpace c = true) →
      (text style depth m.2).length + (membersText style depth ms).length + 1 < fuel →
      namedValues? fuel (blanks ++ (stringText m.1 ++ (style.colon ++ (text style depth m.2 ++
        (membersText style depth ms ++ (gap ++ '\x7d' :: s)))))) =
        some ((m :: ms).map (fun x => (some x.1, x.2)), s) := by
  obtain ⟨pad, hcolon, hpad⟩ := airy.colon
  induction ms with
  | nil =>
      intro m fuel blanks gap s h hblanks hgap hfuel
      obtain ⟨fuel, rfl⟩ := Nat.exists_eq_add_one_of_ne_zero (by omega : fuel ≠ 0)
      rw [membersText, List.nil_append, hcolon]
      exact namedValues?_last (skipSpace_stringText m.1 _ hblanks)
        (stringTail?_stringText m.1 _) rfl
        (h m List.mem_cons_self hpad (by omega) (ends_blanks hgap s (by decide)))
        (skipSpace_blanks hgap '\x7d' rfl s)
  | cons m' ms ih =>
      intro m fuel blanks gap s h hblanks hgap hfuel
      obtain ⟨fuel, rfl⟩ := Nat.exists_eq_add_one_of_ne_zero (by omega : fuel ≠ 0)
      have hmore : namedValues? fuel (style.gap depth ++ (stringText m'.1 ++ (style.colon ++
          (text style depth m'.2 ++ (membersText style depth ms ++ (gap ++ '\x7d' :: s)))))) =
          some ((m' :: ms).map (fun x => (some x.1, x.2)), s) := by
        refine ih (fun x hx => h x (List.mem_cons_of_mem _ hx)) (airy.gap depth) hgap ?_
        simp only [membersText, List.length_append, List.length_cons] at hfuel
        omega
      simp only [membersText, List.append_assoc, List.cons_append]
      rw [hcolon] at hmore ⊢
      exact namedValues?_more (skipSpace_stringText m.1 _ hblanks)
        (stringTail?_stringText m.1 _) rfl
        (h m List.mem_cons_self hpad (by omega) (ends_cons (by decide) _)) rfl hmore

theorem members?_named (ms : List (String × Json)) :
    members? (ms.map (fun m => (some m.1, m.2))) = some ms := by
  induction ms with
  | nil => rfl
  | cons m ms ih => simp [members?, ih]

/-! ## Documents -/

theorem value?_digit {fuel : Nat} {c : Char} {s t : List Char} (hs : skipSpace s = c :: t)
    (hc : c.isDigit = true) : value? (fuel + 1) s = number? false (c :: t) := by
  rw [value?, hs]
  split
  all_goals first
    | rfl
    | rename_i he; cases he; cases hc

theorem value?_string {fuel : Nat} {cs s t rest : List Char} (hquote : skipSpace s = '"' :: t)
    (hname : stringTail? (t.length + 1) t = some (some cs, rest)) :
    value? (fuel + 1) s = some (.string (String.ofList cs), rest) := by
  simp [value?, hquote, hname]

theorem value?_array {fuel : Nat} {es : List Json} {c : Char} {s t u rest : List Char}
    (hopen : skipSpace s = '[' :: t) (hfirst : skipSpace t = c :: u) (hc : c ≠ ']')
    (hread : elements? fuel (c :: u) = some (es, rest)) :
    value? (fuel + 1) s = some (.array es, rest) := by
  simp [value?, hopen, hfirst, hc, hread]

theorem value?_object {fuel : Nat} {ms : List (String × Json)} {c : Char} {s t u rest : List Char}
    (hopen : skipSpace s = '\x7b' :: t) (hfirst : skipSpace t = c :: u) (hc : c ≠ '\x7d')
    (hread : namedValues? fuel (c :: u) = some (ms.map (fun m => (some m.1, m.2)), rest)) :
    value? (fuel + 1) s = some (.object ms, rest) := by
  simp [value?, hopen, hfirst, hc, hread, members?_named]

theorem reads_number (style : Style) {n : Numeral} (hn : n.Proper) : Reads style (.number n) := by
  intro depth fuel blanks s hblanks hfuel hs
  obtain ⟨fuel, rfl⟩ := Nat.exists_eq_add_one_of_ne_zero (by omega : fuel ≠ 0)
  obtain ⟨c, cs, htext, hc⟩ := numeralText_head hn
  have hread := number?_text hn hs
  rw [text]
  rw [numeralText_eq] at htext ⊢
  rcases hc with ⟨rfl, hnegative⟩ | ⟨hc, hnegative⟩
  · rw [hnegative] at hread ⊢
    rw [value?, if_pos rfl, List.append_assoc, List.singleton_append,
      skipSpace_blanks hblanks '-' rfl]
    exact hread
  · rw [hnegative, if_neg Bool.false_ne_true, List.nil_append] at htext ⊢
    rw [hnegative, htext, List.cons_append] at hread
    have hspace : isSpace c = false := isSpace_of_isDigit hc
    rw [htext, List.cons_append, value?_digit (skipSpace_blanks hblanks c hspace _) hc]
    exact hread

theorem reads_array {style : Style} (airy : style.Airy) {es : List Json}
    (hes : ∀ e ∈ es, e.Printable) (h : ∀ e ∈ es, Reads style e) : Reads style (.array es) := by
  intro depth fuel blanks s hblanks hfuel hs
  obtain ⟨fuel, rfl⟩ := Nat.exists_eq_add_one_of_ne_zero (by omega : fuel ≠ 0)
  cases es with
  | nil =>
      rw [text, value?, List.cons_append, skipSpace_blanks hblanks '[' rfl]
      rfl
  | cons e es =>
      obtain ⟨c, cs, htext, hspace, hbracket⟩ :=
        text_head style (depth + 1) (hes e List.mem_cons_self)
      have hread :
          elements? fuel ([] ++ (text style (depth + 1) e ++ (elementsText style (depth + 1) es ++
          (style.gap depth ++ ']' :: s)))) = some (e :: es, s) := by
        refine elements?_text airy h (fun _ hx => nomatch hx) (airy.gap depth) ?_
        simp only [text, List.length_append, List.length_cons] at hfuel
        omega
      simp only [text, List.append_assoc, List.cons_append, List.nil_append]
      rw [List.nil_append, htext, List.cons_append] at hread
      rw [htext, List.cons_append]
      exact value?_array (skipSpace_blanks hblanks '[' rfl _)
        (skipSpace_blanks (airy.gap _) c hspace _)
        hbracket hread

theorem reads_object {style : Style} (airy : style.Airy) {ms : List (String × Json)}
    (h : ∀ m ∈ ms, Reads style m.2) : Reads style (.object ms) := by
  intro depth fuel blanks s hblanks hfuel hs
  obtain ⟨fuel, rfl⟩ := Nat.exists_eq_add_one_of_ne_zero (by omega : fuel ≠ 0)
  cases ms with
  | nil =>
      rw [text, value?, List.cons_append, skipSpace_blanks hblanks '\x7b' rfl]
      rfl
  | cons m ms =>
      have hread :
          namedValues? fuel ([] ++ (stringText m.1 ++ (style.colon ++ (text style (depth + 1) m.2 ++
          (membersText style (depth + 1) ms ++ (style.gap depth ++ '\x7d' :: s)))))) =
          some ((m :: ms).map (fun x => (some x.1, x.2)), s) := by
        refine namedValues?_text airy h (fun _ hx => nomatch hx) (airy.gap depth) ?_
        simp only [text, List.length_append, List.length_cons] at hfuel
        omega
      simp only [text, List.append_assoc, List.cons_append, List.nil_append]
      rw [List.nil_append, stringText, List.append_assoc, List.cons_append] at hread
      exact value?_object (skipSpace_blanks hblanks '\x7b' rfl _)
        (skipSpace_stringText m.1 _ (airy.gap _)) (by decide) hread

theorem Printable.reads {style : Style} (airy : style.Airy) {j : Json} (h : j.Printable) :
    Reads style j := by
  induction h with
  | null =>
      intro depth fuel blanks s hblanks hfuel hs
      obtain ⟨fuel, rfl⟩ := Nat.exists_eq_add_one_of_ne_zero (by omega : fuel ≠ 0)
      rw [text, value?, List.cons_append, skipSpace_blanks hblanks 'n' rfl]
      rfl
  | bool b =>
      intro depth fuel blanks s hblanks hfuel hs
      obtain ⟨fuel, rfl⟩ := Nat.exists_eq_add_one_of_ne_zero (by omega : fuel ≠ 0)
      cases b with
      | false =>
          rw [text, value?, List.cons_append, skipSpace_blanks hblanks 'f' rfl]
          rfl
      | true =>
          rw [text, value?, List.cons_append, skipSpace_blanks hblanks 't' rfl]
          rfl
  | number hn => exact reads_number style hn
  | string name =>
      intro depth fuel blanks s hblanks hfuel hs
      obtain ⟨fuel, rfl⟩ := Nat.exists_eq_add_one_of_ne_zero (by omega : fuel ≠ 0)
      have hread : value? (fuel + 1) (blanks ++ (stringText name ++ s)) =
          some (.string (String.ofList name.toList), s) :=
        value?_string (skipSpace_stringText name s hblanks) (stringTail?_stringText name s)
      rwa [String.ofList_toList] at hread
  | array hes ih => exact reads_array airy hes ih
  | object hms ih => exact reads_object airy ih

/-- **A document is read as it is printed**, whatever blanks follow. -/
theorem read?_printed_append {style : Style} (airy : style.Airy) {j : Json} (h : j.Printable)
    {blanks : String} (hblanks : ∀ c ∈ blanks.toList, isSpace c = true) :
    read? (printed style j ++ blanks) = some j := by
  have hchars : (printed style j ++ blanks).toList = text style 0 j ++ blanks.toList := by
    rw [String.toList_append, printed, String.toList_ofList]
  have hread : value? (2 * (text style 0 j ++ blanks.toList).length + 2)
      ([] ++ (text style 0 j ++ blanks.toList)) = some (j, blanks.toList) :=
    h.reads airy (fun _ hc => nomatch hc) (by rw [List.length_append]; omega)
      (ends_of_blanks hblanks)
  have hrest : skipSpace (blanks.toList ++ []) = [] :=
    skipSpace_append hblanks (fun _ hc => nomatch hc)
  rw [List.nil_append] at hread
  rw [List.append_nil] at hrest
  rw [read?, hchars]
  simp only [hread, hrest, if_true]

theorem read?_printed {style : Style} (airy : style.Airy) {j : Json} (h : j.Printable) :
    read? (printed style j) = some j := by
  have hnone : ∀ c ∈ "".toList, isSpace c = true := fun _ hc => nomatch hc
  have hread := read?_printed_append airy h hnone
  rwa [String.append_empty] at hread

end PanelDock.Json
