import Supervision.Toml.Written

/-!
# Reading written strings

Every string literal that is written reads back as the string that it was written for (`string_written`): each of the forms holds
the strings that it is chosen for, and the two forms with escapes hold any string. What follows a literal here is the end of its
line, so no mark of it is taken for one of the literal's own.
-/

namespace Supervision.Toml

/-! ## Escapes -/

/-- A control character is one of the first 128. -/
theorem toNat_of_isControl {c : Char} (h : isControl c = true) : c.toNat < 128 := by
  simp only [isControl, Bool.or_eq_true, Bool.and_eq_true, decide_eq_true_eq, beq_iff_eq] at h
  omega

/-- Four hexadecimal digits name the character that they were written for. -/
theorem hexChar_fourDigits {c : Char} (h : isControl c = true) : hexChar? (fourDigits c.toNat) = some c := by
  have hall : ∀ n < 128, hexChar? (fourDigits n) = some (Char.ofNat n) := by decide +kernel
  rw [hall c.toNat (toNat_of_isControl h), Char.ofNat_toNat]

/-- A letter that stands for a character behind a backslash begins no numbered escape and no fold. -/
theorem escape_letter {letter c : Char} (h : escape? letter = some c) :
    letter ≠ 'u' ∧ letter ≠ 'U' ∧ letter ≠ '\n' ∧ letter ≠ '\r' ∧ isBlank letter = false := by
  refine ⟨?_, ?_, ?_, ?_, ?_⟩
  · rintro rfl; cases h
  · rintro rfl; cases h
  · rintro rfl; cases h
  · rintro rfl; cases h
  · by_cases hs : letter = ' '
    · subst hs; cases h
    · by_cases ht : letter = '\t'
      · subst ht; cases h
      · simp [isBlank, hs, ht]

/-- The escape of a character is a letter that stands for it, or its number. -/
theorem escaped_some {onOneLine : Bool} {c : Char} {text : List Char} (h : escaped? onOneLine c = some text) :
    (∃ letter, text = ['\\', letter] ∧ escape? letter = some c) ∨
      (text = '\\' :: 'u' :: fourDigits c.toNat ∧ isControl c = true) := by
  unfold escaped? at h
  split at h
  · rename_i hc; subst hc; cases h; exact .inl ⟨_, rfl, rfl⟩
  split at h
  · rename_i hc; subst hc; cases h; exact .inl ⟨_, rfl, rfl⟩
  split at h
  · rename_i hc; subst hc; split at h <;> cases h; exact .inl ⟨_, rfl, rfl⟩
  split at h
  · rename_i hc; subst hc; cases h; exact .inl ⟨_, rfl, rfl⟩
  split at h
  · rename_i hc; cases h; exact .inl ⟨_, rfl, by rw [← Char.ofNat_toNat c, hc]; rfl⟩
  split at h
  · rename_i hc; cases h; exact .inl ⟨_, rfl, by rw [← Char.ofNat_toNat c, hc]; rfl⟩
  split at h
  · rename_i hc; cases h; exact .inr ⟨rfl, hc⟩
  · cases h

/-- A character without an escape is no backslash, and no control character but a line feed on many lines. -/
theorem escaped_none {onOneLine : Bool} {c : Char} (h : escaped? onOneLine c = none) :
    c ≠ '\\' ∧ c ≠ '\r' ∧ (isControl c = false ∨ (c = '\n' ∧ onOneLine = false)) := by
  unfold escaped? at h
  grind

/-- The text of a character that is no mark begins with none, whether it is escaped or not. -/
theorem escaped_head {onOneLine : Bool} {c : Char} (hquote : c ≠ '"') (t : List Char) :
    ((escaped? onOneLine c).getD [c] ++ t).head? ≠ some '"' := by
  cases hescaped : escaped? onOneLine c with
  | none => simpa using hquote
  | some text => rcases escaped_some hescaped with ⟨letter, rfl, -⟩ | ⟨rfl, -⟩ <;> simp

/-! ## Between single marks -/

/-- The mark behind a string between double quotes. -/
theorem basic_end (rest : List Char) : basic? ('"' :: rest) = some ([], rest) := by
  rw [basic?.eq_def]
  simp

/-- A letter behind a backslash reads as the character that it stands for. -/
theorem basic_letter {letter c : Char} (h : escape? letter = some c) (t : List Char) :
    basic? ('\\' :: letter :: t) = consChar c (basic? t) := by
  obtain ⟨hu, hU, -⟩ := escape_letter h
  rw [basic?]
  · simp [h]
  · exact fun _ _ _ _ _ hletter => absurd hletter hu
  · exact fun _ _ _ _ _ _ _ _ _ hletter => absurd hletter hU

/-- The escape of a character between double quotes reads as the character. -/
theorem basic_escaped {c : Char} {text : List Char} (h : escaped? true c = some text) (t : List Char) :
    basic? (text ++ t) = consChar c (basic? t) := by
  rcases escaped_some h with ⟨letter, rfl, hletter⟩ | ⟨rfl, hcontrol⟩
  · exact basic_letter hletter t
  · have hhex := hexChar_fourDigits hcontrol
    simp only [fourDigits, List.map_cons, List.map_nil] at hhex
    simp only [fourDigits, List.map_cons, List.map_nil, List.cons_append, List.nil_append]
    rw [basic?]
    simp [hhex]

/-- A plain character between double quotes reads as itself. -/
theorem basic_plain {c : Char} (hquote : c ≠ '"') (hbackslash : c ≠ '\\') (hcontrol : isControl c = false) (t : List Char) :
    basic? (c :: t) = consChar c (basic? t) := by
  rw [basic?.eq_def]
  simp [hquote, hbackslash, hcontrol]

/-- Any string between double quotes on one line reads back. -/
theorem basic_body (s rest : List Char) : basic? (basicBody s ++ '"' :: rest) = some (s, rest) := by
  induction s with
  | nil => exact basic_end rest
  | cons c s ih =>
    rw [basicBody]
    by_cases hquote : c = '"'
    · subst hquote
      have hletter : escape? '"' = some '"' := rfl
      rw [if_pos rfl, List.cons_append, List.cons_append, basic_letter hletter, ih]
      rfl
    · rw [if_neg hquote, List.append_assoc]
      cases hescaped : escaped? true c with
      | some text => rw [Option.getD_some, basic_escaped hescaped, ih]; rfl
      | none =>
        obtain ⟨hbackslash, -, hcontrol | ⟨-, hlines⟩⟩ := escaped_none hescaped
        · rw [Option.getD_none, List.singleton_append, basic_plain hquote hbackslash hcontrol, ih]
          rfl
        · cases hlines

/-- A string between double quotes on one line is not taken for one between triple marks. -/
theorem basicBody_not_triple (s rest u : List Char) : basicBody s ++ '"' :: '\n' :: rest ≠ '"' :: '"' :: u := by
  cases s with
  | nil => simp [basicBody]
  | cons c s =>
    rw [basicBody]
    by_cases hquote : c = '"'
    · simp [hquote]
    · rw [if_neg hquote, List.append_assoc]
      exact fun e => escaped_head hquote _ (by rw [e]; rfl)

/-- A string without apostrophes and control characters between apostrophes reads back. -/
theorem literal_body {s : List Char} (hmark : ∀ c ∈ s, c ≠ apostrophe) (hcontrol : ∀ c ∈ s, isControl c = false)
    (rest : List Char) : literal? (s ++ apostrophe :: rest) = some (s, rest) := by
  induction s with
  | nil => simp [literal?]
  | cons c s ih =>
    have hs := ih (fun d hd => hmark d (List.mem_cons_of_mem c hd)) fun d hd => hcontrol d (List.mem_cons_of_mem c hd)
    rw [List.cons_append, literal?, if_neg (hmark c List.mem_cons_self)]
    simp only [hcontrol c List.mem_cons_self, hs]
    rfl

/-! ## Between triple marks -/

section Closing

variable {mark : Char} {rest : List Char}

/-- The marks that close a string right away. -/
theorem closing_none_before (h : rest.head? ≠ some mark) : closing? mark (mark :: mark :: rest) = some ([], rest) := by
  rw [closing?.eq_def]
  cases rest with
  | nil => simp
  | cons c t =>
    have hc : c ≠ mark := fun e => h (by rw [e]; rfl)
    cases t <;> simp [hc]

/-- The marks that close a string behind one that belongs to it. -/
theorem closing_one_before (h : rest.head? ≠ some mark) :
    closing? mark (mark :: mark :: mark :: rest) = some ([mark], rest) := by
  rw [closing?.eq_def]
  cases rest with
  | nil => simp
  | cons c t =>
    have hc : c ≠ mark := fun e => h (by rw [e]; rfl)
    simp [hc]

/-- The marks that close a string behind two that belong to it. -/
theorem closing_two_before : closing? mark (mark :: mark :: mark :: mark :: rest) = some ([mark, mark], rest) := by
  rw [closing?.eq_def]
  simp

/-- Less than two marks close nothing. -/
theorem closing_fails {t : List Char} (h : ∀ u, t ≠ mark :: mark :: u) : closing? mark t = none := by
  rw [closing?.eq_def]
  split
  · rename_i a b u
    by_cases hab : a = mark ∧ b = mark
    · obtain ⟨rfl, rfl⟩ := hab
      exact absurd rfl (h u)
    · rw [if_neg hab]
  · rfl

/-- No mark closes nothing. -/
theorem closing_fails_at_once (h : rest.head? ≠ some mark) : closing? mark rest = none :=
  closing_fails fun u e => h (by rw [e]; rfl)

/-- One mark closes nothing. -/
theorem closing_fails_behind_one (h : rest.head? ≠ some mark) : closing? mark (mark :: rest) = none :=
  closing_fails fun u e => h (by rw [(List.cons.inj e).2]; rfl)

end Closing

/-- A mark between triple double quotes that closes nothing reads as itself. -/
theorem multiBasic_mark {t : List Char} (h : closing? '"' t = none) :
    multiBasic? .none ('"' :: t) = consChar '"' (multiBasic? .none t) := by
  rw [multiBasic?.eq_def]
  simp [h]

/-- A mark between triple double quotes that closes the string. -/
theorem multiBasic_close {t : List Char} {last : List Char × List Char} (h : closing? '"' t = some last) :
    multiBasic? .none ('"' :: t) = some last := by
  rw [multiBasic?.eq_def]
  simp [h]

/-- A letter behind a backslash reads as the character that it stands for, also on many lines. -/
theorem multiBasic_letter {letter c : Char} (h : escape? letter = some c) (t : List Char) :
    multiBasic? .none ('\\' :: letter :: t) = consChar c (multiBasic? .none t) := by
  obtain ⟨hu, hU, hline, hreturn, hblank⟩ := escape_letter h
  rw [multiBasic?]
  · simp [h, hblank]
  · exact fun _ _ _ _ _ hletter => absurd hletter hu
  · exact fun _ _ _ _ _ _ _ _ _ hletter => absurd hletter hU
  · exact fun hletter => absurd hletter hline
  · exact fun _ hletter => absurd hletter hreturn
  · exact fun _ hletter => absurd (List.cons.inj hletter).1 hline

/-- The escape of a character between triple double quotes reads as the character. -/
theorem multiBasic_escaped {c : Char} {text : List Char} (h : escaped? false c = some text) (t : List Char) :
    multiBasic? .none (text ++ t) = consChar c (multiBasic? .none t) := by
  rcases escaped_some h with ⟨letter, rfl, hletter⟩ | ⟨rfl, hcontrol⟩
  · exact multiBasic_letter hletter t
  · have hhex := hexChar_fourDigits hcontrol
    simp only [fourDigits, List.map_cons, List.map_nil] at hhex
    simp only [fourDigits, List.map_cons, List.map_nil, List.cons_append, List.nil_append]
    rw [multiBasic?]
    simp [hhex]

/-- A plain character between triple double quotes reads as itself, and so does a line feed. -/
theorem multiBasic_plain {c : Char} (hquote : c ≠ '"') (hbackslash : c ≠ '\\') (hreturn : c ≠ '\r')
    (hcontrol : isControl c = false ∨ c = '\n') (t : List Char) :
    multiBasic? .none (c :: t) = consChar c (multiBasic? .none t) := by
  rw [multiBasic?.eq_def]
  rcases hcontrol with hcontrol | rfl
  · by_cases hline : c = '\n'
    · simp [hline]
    · simp [hquote, hbackslash, hreturn, hcontrol, hline]
  · simp

/-- Where a string goes on between triple double quotes behind two marks in a run, no third one follows. -/
theorem multiBasicBody_two_head {s : List Char} (h : s ≠ []) (t : List Char) :
    (multiBasicBody 2 s ++ t).head? ≠ some '"' := by
  cases s with
  | nil => exact absurd rfl h
  | cons c s =>
    rw [multiBasicBody]
    by_cases hquote : c = '"'
    · simp [hquote]
    · rw [if_neg hquote, List.append_assoc]
      exact escaped_head hquote _

/-- Behind the first or second mark in a run, the string is at its end, or it ends with the second mark, or nothing closes it. -/
theorem closing_run (quotes : Nat) (hquotes : quotes = 1 ∨ quotes = 2) (s t : List Char) :
    s = [] ∨ (quotes = 1 ∧ s = ['"']) ∨ closing? '"' (multiBasicBody quotes s ++ t) = none := by
  cases s with
  | nil => exact .inl rfl
  | cons c s =>
    by_cases hquote : c = '"'
    · subst hquote
      rcases hquotes with rfl | rfl
      · by_cases hs : s = []
        · exact .inr (.inl ⟨rfl, by rw [hs]⟩)
        · exact .inr (.inr (closing_fails_behind_one (multiBasicBody_two_head hs t)))
      · exact .inr (.inr (closing_fails_at_once (by simp [multiBasicBody])))
    · right; right
      rw [multiBasicBody, if_neg hquote, List.append_assoc]
      exact closing_fails_at_once (escaped_head hquote _)

/-- Any string between triple double quotes reads back: of the marks in a run the third is escaped, so a run that closes the
string is at its end. -/
theorem multiBasic_body (s : List Char) {rest : List Char} (hrest : rest.head? ≠ some '"') (quotes : Nat) (hquotes : quotes ≤ 2) :
    multiBasic? .none (multiBasicBody quotes s ++ '"' :: '"' :: '"' :: rest) = some (s, rest) := by
  induction s generalizing quotes with
  | nil =>
    rw [multiBasicBody, List.nil_append]
    exact multiBasic_close (closing_none_before hrest)
  | cons c s ih =>
    rw [multiBasicBody]
    by_cases hquote : c = '"'
    · subst hquote
      rw [if_pos rfl]
      by_cases hthird : quotes = 2
      · have hletter : escape? '"' = some '"' := rfl
        rw [if_pos hthird, List.cons_append, List.cons_append, multiBasic_letter hletter, ih 0 (by omega)]
        rfl
      · rw [if_neg hthird, List.cons_append]
        obtain rfl | ⟨hfirst, rfl⟩ | hopen := closing_run (quotes + 1) (by omega) s ('"' :: '"' :: '"' :: rest)
        · exact multiBasic_close (closing_one_before hrest)
        · obtain rfl : quotes = 0 := by omega
          exact multiBasic_close closing_two_before
        · rw [multiBasic_mark hopen, ih (quotes + 1) (by omega)]
          rfl
    · rw [if_neg hquote, List.append_assoc]
      cases hescaped : escaped? false c with
      | some text => rw [Option.getD_some, multiBasic_escaped hescaped, ih 0 (by omega)]; rfl
      | none =>
        obtain ⟨hbackslash, hreturn, hcontrol⟩ := escaped_none hescaped
        rw [Option.getD_none, List.singleton_append,
          multiBasic_plain hquote hbackslash hreturn (hcontrol.imp_right And.left), ih 0 (by omega)]
        rfl

/-- A mark between triple apostrophes that closes nothing reads as itself. -/
theorem multiLiteral_mark {t : List Char} (h : closing? apostrophe t = none) :
    multiLiteral? (apostrophe :: t) = consChar apostrophe (multiLiteral? t) := by
  have hline : apostrophe ≠ '\n' := by decide
  have hreturn : apostrophe ≠ '\r' := by decide
  rw [multiLiteral?.eq_def]
  simp [h, hline, hreturn]

/-- A mark between triple apostrophes that closes the string. -/
theorem multiLiteral_close {t : List Char} {last : List Char × List Char} (h : closing? apostrophe t = some last) :
    multiLiteral? (apostrophe :: t) = some last := by
  have hline : apostrophe ≠ '\n' := by decide
  have hreturn : apostrophe ≠ '\r' := by decide
  rw [multiLiteral?.eq_def]
  simp [h, hline, hreturn]

/-- A plain character between triple apostrophes reads as itself, and so does a line feed. -/
theorem multiLiteral_plain {c : Char} (hmark : c ≠ apostrophe) (hcontrol : isControl c = false ∨ c = '\n') (t : List Char) :
    multiLiteral? (c :: t) = consChar c (multiLiteral? t) := by
  rw [multiLiteral?.eq_def]
  rcases hcontrol with hcontrol | rfl
  · have hreturn : c ≠ '\r' := by rintro rfl; cases hcontrol
    by_cases hline : c = '\n'
    · simp [hline]
    · simp [hmark, hreturn, hcontrol, hline]
  · simp

/-- A run under way is no longer than the longest one. -/
theorem le_longestRunFrom (mark : Char) (run : Nat) (s : List Char) : run ≤ longestRunFrom mark run s := by
  induction s generalizing run with
  | nil => exact Nat.le_refl run
  | cons c s ih =>
    rw [longestRunFrom]
    split
    · exact Nat.le_trans (Nat.le_succ run) (ih (run + 1))
    · exact Nat.le_max_left ..

/-- Where no run of marks is too long, the string is at its end behind a mark, or it ends with the next one, or nothing closes
it. -/
theorem closing_short_run {run : Nat} {s : List Char} (h : longestRunFrom apostrophe (run + 1) s ≤ 2) (t : List Char) :
    s = [] ∨ s = [apostrophe] ∨ closing? apostrophe (s ++ t) = none := by
  match s, h with
  | [], _ => exact .inl rfl
  | [c], _ =>
    by_cases hc : c = apostrophe
    · exact .inr (.inl (by rw [hc]))
    · exact .inr (.inr (closing_fails_at_once (by simpa using hc)))
  | c :: d :: s, h =>
    right; right
    by_cases hc : c = apostrophe
    · subst hc
      have hd : d ≠ apostrophe := by
        rintro rfl
        have hrun := le_longestRunFrom apostrophe (run + 1 + 1 + 1) s
        simp only [longestRunFrom, if_true] at h
        omega
      exact closing_fails_behind_one (by simpa using hd)
    · exact closing_fails_at_once (by simpa using hc)

/-- A string without a run of three apostrophes and without control characters reads back between triple apostrophes. -/
theorem multiLiteral_body {s rest : List Char} (hrest : rest.head? ≠ some apostrophe)
    (hcontrol : ∀ c ∈ s, isControl c = false ∨ c = '\n') (run : Nat) (hrun : longestRunFrom apostrophe run s ≤ 2) :
    multiLiteral? (s ++ apostrophe :: apostrophe :: apostrophe :: rest) = some (s, rest) := by
  induction s generalizing run with
  | nil => exact multiLiteral_close (closing_none_before hrest)
  | cons c s ih =>
    have hs := ih fun d hd => hcontrol d (List.mem_cons_of_mem c hd)
    rw [List.cons_append]
    rw [longestRunFrom] at hrun
    by_cases hmark : c = apostrophe
    · subst hmark
      rw [if_pos rfl] at hrun
      obtain rfl | rfl | hopen := closing_short_run hrun (apostrophe :: apostrophe :: apostrophe :: rest)
      · exact multiLiteral_close (closing_one_before hrest)
      · exact multiLiteral_close closing_two_before
      · rw [multiLiteral_mark hopen, hs (run + 1) hrun]
        rfl
    · rw [if_neg hmark] at hrun
      rw [multiLiteral_plain hmark (hcontrol c List.mem_cons_self), hs 0 (Nat.le_trans (Nat.le_max_right ..) hrun)]
      rfl

/-! ## Literals -/

/-- A string without a run of a mark is without the mark. -/
theorem not_mem_of_longestRunFrom {mark : Char} {run : Nat} {s : List Char} (h : longestRunFrom mark run s = 0) : mark ∉ s := by
  induction s generalizing run with
  | nil => simp
  | cons c s ih =>
    rw [longestRunFrom] at h
    by_cases hc : c = mark
    · rw [if_pos hc] at h
      have hrun := le_longestRunFrom mark (run + 1) s
      omega
    · rw [if_neg hc] at h
      rw [List.mem_cons, not_or]
      exact ⟨Ne.symm hc, ih (Nat.max_eq_zero_iff.1 h).2⟩

/-- The control characters of a string that a form without escapes can hold are its line feeds. -/
theorem plain_of_hasControl {s : List Char} (h : hasControl s = false) : ∀ c ∈ s, isControl c = false ∨ c = '\n' := by
  intro c hc
  have hplain := List.any_eq_false.1 h c hc
  by_cases hline : c = '\n'
  · exact .inr hline
  · exact .inl (by simpa [hline] using hplain)

/-- What can be written between single apostrophes. -/
theorem formFor_literal {s : List Char} (h : formFor s = .literal) :
    hasControl s = false ∧ longestRun apostrophe s = 0 ∧ '\n' ∉ s := by
  unfold formFor at h
  grind

/-- What can be written between triple apostrophes. -/
theorem formFor_multiLiteral {s : List Char} (h : formFor s = .multiLiteral) :
    hasControl s = false ∧ longestRun apostrophe s ≤ 2 := by
  unfold formFor at h
  grind

/-- A single double quote begins a string on one line. -/
theorem string_basic {t : List Char} (h : ∀ u, t ≠ '"' :: '"' :: u) : string? ('"' :: t) = basic? t := by
  match t, h with
  | [], _ | [_], _ => rfl
  | b :: c :: u, h =>
    have hbc : ¬(b = '"' ∧ c = '"') := fun ⟨hb, hc⟩ => h u (by rw [hb, hc])
    have hmark : '"' ≠ apostrophe := by decide
    simp only [string?, lineString?, hbc, hmark, and_false, false_and, if_false, if_true]

/-- A single apostrophe begins a string on one line. -/
theorem string_literal {t : List Char} (h : ∀ u, t ≠ apostrophe :: apostrophe :: u) : string? (apostrophe :: t) = literal? t := by
  have hmark : apostrophe ≠ '"' := by decide
  match t, h with
  | [], _ | [_], _ => rfl
  | b :: c :: u, h =>
    have hbc : ¬(b = apostrophe ∧ c = apostrophe) := fun ⟨hb, hc⟩ => h u (by rw [hb, hc])
    simp only [string?, lineString?, hbc, hmark, and_false, false_and, if_false, if_true]

/-- A line feed that is put behind triple marks is dropped, and nothing else is: without it, the string begins on that line. -/
theorem dropLineEnd_onLines {s body : List Char} (h : '\n' ∉ s → ∀ c ∈ body.head?, c ≠ '\n' ∧ c ≠ '\r') :
    dropLineEnd ((if s.contains '\n' then ['\n'] else []) ++ body) = body := by
  by_cases hlines : '\n' ∈ s
  · rw [if_pos (List.contains_iff_mem.2 hlines)]
    rfl
  · rw [if_neg (mt List.contains_iff_mem.1 hlines), List.nil_append]
    cases body with
    | nil => rfl
    | cons c t =>
      obtain ⟨hline, hreturn⟩ := h hlines c rfl
      rw [dropLineEnd.eq_def]
      split
      · rename_i heq; exact absurd (List.cons.inj heq).1 hline
      · rename_i heq; exact absurd (List.cons.inj heq).1 hreturn
      · rfl

/-- The text of a string between triple double quotes that has no line feed begins with none, and never with a return. -/
theorem multiBasicBody_head {s : List Char} (h : '\n' ∉ s) (t : List Char) :
    ∀ c ∈ (multiBasicBody 0 s ++ '"' :: t).head?, c ≠ '\n' ∧ c ≠ '\r' := by
  cases s with
  | nil => simp [multiBasicBody]
  | cons d s =>
    have hd : d ≠ '\n' := fun e => h (e ▸ List.mem_cons_self)
    rw [multiBasicBody]
    by_cases hquote : d = '"'
    · simp [hquote]
    · rw [if_neg hquote, List.append_assoc]
      cases hescaped : escaped? false d with
      | none => simpa using ⟨hd, (escaped_none hescaped).2.1⟩
      | some text => rcases escaped_some hescaped with ⟨letter, rfl, -⟩ | ⟨rfl, -⟩ <;> simp

/-- A string literal at the end of its line reads back as the string that it was written for. -/
theorem string_written (s rest : List Char) : string? (written s ++ '\n' :: rest) = some (s, '\n' :: rest) := by
  have hquote : ('\n' :: rest).head? ≠ some '"' := by simp
  have hapostrophe : ('\n' :: rest).head? ≠ some apostrophe := by simp [apostrophe]
  rw [written]
  cases hform : formFor s with
  | basic =>
    simp only [List.cons_append, List.append_assoc, List.nil_append]
    rw [string_basic (basicBody_not_triple s rest), basic_body]
  | literal =>
    obtain ⟨hcontrol, hrun, hlines⟩ := formFor_literal hform
    have hmark := not_mem_of_longestRunFrom hrun
    have htriple : ∀ u, s ++ apostrophe :: '\n' :: rest ≠ apostrophe :: apostrophe :: u := by
      intro u e
      cases s with
      | nil => simp [apostrophe] at e
      | cons c s => exact hmark ((List.cons.inj e).1 ▸ List.mem_cons_self)
    simp only [List.cons_append, List.append_assoc, List.nil_append]
    rw [string_literal htriple]
    exact literal_body (fun c hc e => hmark (e ▸ hc))
      (fun c hc => (plain_of_hasControl hcontrol c hc).resolve_right fun e => hlines (e ▸ hc)) _
  | multiBasic =>
    simp only [onLines, List.cons_append, List.append_assoc, List.nil_append]
    rw [string?, if_pos ⟨rfl, rfl, rfl⟩, dropLineEnd_onLines fun hlines => multiBasicBody_head hlines _]
    exact multiBasic_body s hquote 0 (by decide)
  | multiLiteral =>
    obtain ⟨hcontrol, hrun⟩ := formFor_multiLiteral hform
    have hplain := plain_of_hasControl hcontrol
    simp only [onLines, List.cons_append, List.append_assoc, List.nil_append]
    rw [string?, if_neg (by decide), if_pos ⟨rfl, rfl, rfl⟩, dropLineEnd_onLines]
    · exact multiLiteral_body hapostrophe hplain 0 hrun
    · intro hlines c hc
      cases s with
      | nil => cases hc; decide
      | cons d s =>
        have hd : d = c := by simpa using hc
        subst hd
        have hline : d ≠ '\n' := fun e => hlines (e ▸ List.mem_cons_self)
        refine ⟨hline, ?_⟩
        rintro rfl
        exact absurd ((hplain _ List.mem_cons_self).resolve_right hline) (by decide)

/-- A string literal begins with a mark. -/
theorem written_cons (s : List Char) : ∃ c t, written s = c :: t ∧ (c = '"' ∨ c = apostrophe) := by
  rw [written]
  cases formFor s with
  | basic => exact ⟨_, _, rfl, .inl rfl⟩
  | literal => exact ⟨_, _, rfl, .inr rfl⟩
  | multiBasic => exact ⟨_, _, rfl, .inl rfl⟩
  | multiLiteral => exact ⟨_, _, rfl, .inr rfl⟩

end Supervision.Toml
