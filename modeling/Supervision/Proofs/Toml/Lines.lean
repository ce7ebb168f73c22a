import Supervision.Config.Rendering
import Supervision.Proofs.Toml.Scalar
import Supervision.Proofs.Toml.StringLiteral
import Supervision.Toml.Syntax

/-!
# Reading written lines

`Writes` says that a text reads as a value at the end of its line, and `Lines` that a text of whole lines reads as statements,
whatever lines follow. Lines are put together one by one (`Lines.append`); a document is read when nothing follows (`Lines.all`).
-/

namespace Supervision.Toml

/-! ## Keys -/

/-- A key that needs no quotes. -/
def Bare (key : List Char) : Prop :=
  key ≠ [] ∧ key.all isBareKeyChar = true

instance : DecidablePred Bare := fun _ => inferInstanceAs (Decidable (_ ∧ _))

theorem Bare.mem {key : List Char} (h : Bare key) : ∀ c ∈ key, isBareKeyChar c = true :=
  List.all_eq_true.1 h.2

/-- No blank is in a class of characters that has neither of the two. -/
theorem isBlank_of_class {p : Char → Bool} (hspace : p ' ' = false) (htab : p '\t' = false) {c : Char} (h : p c = true) :
    isBlank c = false := by
  by_contra hblank
  simp only [isBlank, Bool.not_eq_false, Bool.or_eq_true, beq_iff_eq] at hblank
  rcases hblank with rfl | rfl
  · rw [hspace] at h; cases h
  · rw [htab] at h; cases h

/-- A character that begins neither a comment nor a line end, and is no blank. -/
def BeginsStatement (c : Char) : Prop :=
  isBlank c = false ∧ c ≠ '#' ∧ c ≠ '\n' ∧ c ≠ '\r'

instance : DecidablePred BeginsStatement := fun _ => inferInstanceAs (Decidable (_ ∧ _))

/-- A character of a key begins a statement that is no header. -/
theorem bareKeyChar_begins {c : Char} (h : isBareKeyChar c = true) : BeginsStatement c ∧ c ≠ '[' := by
  refine ⟨⟨isBlank_of_class rfl rfl h, ?_, ?_, ?_⟩, ?_⟩
  · rintro rfl; cases h
  · rintro rfl; cases h
  · rintro rfl; cases h
  · rintro rfl; cases h

/-- Nothing is skipped where no blank is. -/
theorem skipBlanks_cons {c : Char} (h : isBlank c = false) (t : List Char) : skipBlanks (c :: t) = c :: t := by
  rw [skipBlanks, List.dropWhile_cons_of_neg (by simp [h])]

/-- A blank is skipped. -/
theorem skipBlanks_blank {c : Char} (h : isBlank c = true) (t : List Char) : skipBlanks (c :: t) = skipBlanks t := by
  rw [skipBlanks, List.dropWhile_cons_of_pos h]
  rfl

/-- A key is read up to a character that belongs to none. -/
theorem key_bare {key : List Char} (hkey : Bare key) {c : Char} (hc : isBareKeyChar c = false) (t : List Char) :
    key? (key ++ c :: t) = some (String.ofList key, c :: t) := by
  have htake : (key ++ c :: t).takeWhile isBareKeyChar = key := by
    rw [List.takeWhile_append_of_pos hkey.mem, List.takeWhile_cons_of_neg (by simp [hc]), List.append_nil]
  have hdrop : (key ++ c :: t).dropWhile isBareKeyChar = c :: t := by
    rw [List.dropWhile_append_of_pos hkey.mem, List.dropWhile_cons_of_neg (by simp [hc])]
  rw [key?, htake, hdrop]
  obtain ⟨d, u, rfl⟩ := List.exists_cons_of_ne_nil hkey.1
  rfl

/-- A path of one key is read up to what is no blank behind it. -/
theorem path_bare {key : List Char} (hkey : Bare key) {c : Char} (hc : isBareKeyChar c = false) (t : List Char)
    (hdot : (skipBlanks (c :: t)).head? ≠ some '.') (n : Nat) :
    path? (n + 1) (key ++ c :: t) = some ([String.ofList key], skipBlanks (c :: t)) := by
  have hskip : skipBlanks (key ++ c :: t) = key ++ c :: t := by
    obtain ⟨d, u, rfl⟩ := List.exists_cons_of_ne_nil hkey.1
    exact skipBlanks_cons (bareKeyChar_begins (hkey.mem d List.mem_cons_self)).1.1 _
  rw [path?, hskip, key_bare hkey hc]
  simp only [Option.bind_eq_bind, Option.bind_some]
  split
  · rename_i heq; exact absurd (by rw [heq]; rfl) hdot
  · rfl

/-! ## Values -/

/-- A text that reads as a value at the end of its line. -/
structure Writes (text : List Char) (v : Value) : Prop where
  head : ∀ c ∈ text.head?, isBlank c = false
  read : ∀ fuel rest, value? (fuel + 2) 0 (text ++ '\n' :: rest) = some (v, '\n' :: rest)

/-- A string literal writes its string. -/
theorem writes_string (s : List Char) : Writes (written s) (.string (String.ofList s)) := by
  obtain ⟨c, t, hct, hc⟩ := written_cons s
  have hplain : c ≠ '[' ∧ c ≠ '\x7b' ∧ isBlank c = false := by
    rcases hc with rfl | rfl <;> decide
  refine ⟨fun d hd => ?_, fun fuel rest => ?_⟩
  · rw [hct] at hd
    cases hd
    exact hplain.2.2
  · have hread := string_written s rest
    rw [hct, List.cons_append] at hread ⊢
    rw [value?, if_neg hplain.1, if_neg hplain.2.1, if_pos hc, hread]
    rfl

/-- A word writes its value. -/
theorem writes_word {w : List Char} {v : Value} (hne : w ≠ []) (hw : ∀ c ∈ w, isWordChar c = true) (hv : word? w = some v) :
    Writes w v := by
  obtain ⟨c, t, rfl⟩ := List.exists_cons_of_ne_nil hne
  have hc := hw c List.mem_cons_self
  refine ⟨fun d hd => ?_, fun fuel rest => ?_⟩
  · cases hd
    exact isBlank_of_class rfl rfl hc
  · have hread := scalar_word hw hv rest
    have hbracket : c ≠ '[' := by rintro rfl; cases hc
    have hbrace : c ≠ '\x7b' := by rintro rfl; cases hc
    have hquote : ¬(c = '"' ∨ c = apostrophe) := by rintro (rfl | rfl) <;> cases hc
    rw [List.cons_append] at hread ⊢
    rw [value?, if_neg hbracket, if_neg hbrace, if_neg hquote, hread]

/-- Two brackets write an empty array. -/
theorem writes_empty : Writes ['[', ']'] (.array []) where
  head c hc := by
    cases hc
    rfl
  read fuel rest := by
    have hitems : items? (fuel + 1) 1 (']' :: '\n' :: rest) = some ([], '\n' :: rest) := by
      rw [items?]
      rfl
    rw [List.cons_append, List.cons_append, List.nil_append, value?, if_pos rfl, if_pos (by decide), hitems]
    rfl

/-! ## Lines -/

/-- Nothing but the end of the line is left. -/
theorem restOfLine_newline (rest : List Char) : restOfLine? ('\n' :: rest) = some rest := rfl

/-- A line with a key and a value is an assignment. -/
theorem statement_keyLine {key : String} {text : List Char} {v : Value} (hkey : Bare key.toList) (hv : Writes text v)
    (rest : List Char) : statement? (keyLine key text ++ rest) = some (.assignment [key] v, rest) := by
  have hstart : skipBlanks (' ' :: (text ++ '\n' :: rest)) = text ++ '\n' :: rest := by
    rw [skipBlanks_blank (by decide)]
    cases text with
    | nil => exact skipBlanks_cons (by decide) rest
    | cons c t => exact skipBlanks_cons (hv.head c rfl) _
  have hpath : path? (nestingLimit - 1) (key.toList ++ ' ' :: '=' :: ' ' :: (text ++ '\n' :: rest)) =
      some ([key], '=' :: ' ' :: (text ++ '\n' :: rest)) := by
    have hskip : skipBlanks (' ' :: '=' :: ' ' :: (text ++ '\n' :: rest)) = '=' :: ' ' :: (text ++ '\n' :: rest) := rfl
    have hread := path_bare hkey (c := ' ') (by decide) ('=' :: ' ' :: (text ++ '\n' :: rest)) (by rw [hskip]; simp) 78
    rw [hskip, String.ofList_toList] at hread
    exact hread
  have hassignment : assignment? (key.toList ++ ' ' :: '=' :: ' ' :: (text ++ '\n' :: rest)) =
      some (.assignment [key] v, rest) := by
    rw [assignment?, hpath]
    simp only [Option.bind_eq_bind, Option.bind_some, expect?, if_true, hstart, hv.read, restOfLine_newline]
    rfl
  have htext : keyLine key text ++ rest = key.toList ++ ' ' :: '=' :: ' ' :: (text ++ '\n' :: rest) := by simp [keyLine]
  rw [htext]
  obtain ⟨c, t, hct⟩ := List.exists_cons_of_ne_nil hkey.1
  have hc : c ≠ '[' := (bareKeyChar_begins (hkey.mem c (hct ▸ List.mem_cons_self))).2
  rw [hct, List.cons_append] at hassignment ⊢
  rw [statement?.eq_def]
  split
  · rename_i heq; exact absurd (List.cons.inj heq).1 hc
  · rename_i heq; exact absurd (List.cons.inj heq).1 hc
  · exact hassignment

/-- A line with a key in brackets is a header. -/
theorem statement_header {line : String} {key : List Char} (hline : line.toList = '[' :: key ++ [']']) (hkey : Bare key)
    (rest : List Char) : statement? (headerLine line ++ rest) = some (.header [String.ofList key], rest) := by
  have hskip : skipBlanks (']' :: '\n' :: rest) = ']' :: '\n' :: rest := rfl
  have hpath := path_bare hkey (c := ']') (by decide) ('\n' :: rest) (by rw [hskip]; simp) 78
  have hheader : header? (key ++ ']' :: '\n' :: rest) = some (.header [String.ofList key], rest) := by
    rw [header?, show nestingLimit - 1 = 78 + 1 from rfl, hpath, hskip]
    rfl
  have htext : headerLine line ++ rest = '[' :: (key ++ ']' :: '\n' :: rest) := by simp [headerLine, hline]
  rw [htext]
  obtain ⟨c, t, hct⟩ := List.exists_cons_of_ne_nil hkey.1
  have hc : c ≠ '[' := (bareKeyChar_begins (hkey.mem c (hct ▸ List.mem_cons_self))).2
  rw [hct, List.cons_append] at hheader ⊢
  rw [statement?.eq_def]
  split
  · rename_i heq; exact absurd (List.cons.inj (List.cons.inj heq).2).1 hc
  · rename_i heq; rw [(List.cons.inj heq).2] at hheader; exact hct ▸ hheader
  · rename_i hno; exact absurd rfl (hno _)

/-- A line with a key in double brackets is the header of one of several tables. -/
theorem statement_arrayHeader {line : String} {key : List Char} (hline : line.toList = '[' :: '[' :: key ++ [']', ']'])
    (hkey : Bare key) (rest : List Char) :
    statement? (headerLine line ++ rest) = some (.arrayHeader [String.ofList key], rest) := by
  have hskip : skipBlanks (']' :: ']' :: '\n' :: rest) = ']' :: ']' :: '\n' :: rest := rfl
  have hpath := path_bare hkey (c := ']') (by decide) (']' :: '\n' :: rest) (by rw [hskip]; simp) 78
  have htext : headerLine line ++ rest = '[' :: '[' :: (key ++ ']' :: ']' :: '\n' :: rest) := by simp [headerLine, hline]
  rw [htext, statement?, arrayHeader?, show nestingLimit - 1 = 78 + 1 from rfl, hpath, hskip]
  rfl

/-- A text of whole lines that reads as statements, whatever follows. It has at most as many lines as characters, so the length of
a document bounds its lines. -/
def Lines (text : List Char) (statements : List Statement) : Prop :=
  ∃ k ≤ text.length, ∀ n rest, statements? (n + k) (text ++ rest) = (statements? n rest).map (statements ++ ·)

namespace Lines

theorem nil : Lines [] [] :=
  ⟨0, Nat.le_refl 0, fun n rest => by simp⟩

/-- Lines under lines. -/
theorem append {text text' : List Char} {statements statements' : List Statement} (h : Lines text statements)
    (h' : Lines text' statements') : Lines (text ++ text') (statements ++ statements') := by
  obtain ⟨k, hk, hread⟩ := h
  obtain ⟨k', hk', hread'⟩ := h'
  refine ⟨k' + k, by rw [List.length_append]; omega, fun n rest => ?_⟩
  rw [List.append_assoc, ← Nat.add_assoc, hread, hread', Option.map_map]
  congr 1
  funext l
  exact (List.append_assoc ..).symm

/-- An empty line. -/
theorem blank : Lines ['\n'] [] := by
  refine ⟨1, Nat.le_refl 1, fun n rest => ?_⟩
  rw [List.singleton_append, statements?, skipBlanks_cons (by decide)]
  simp [restOfLine_newline]

/-- A line with a statement. -/
theorem statement {text : List Char} {c : Char} {s : Statement} (hhead : text.head? = some c) (hc : BeginsStatement c)
    (h : ∀ rest, statement? (text ++ rest) = some (s, rest)) : Lines text [s] := by
  obtain ⟨t, rfl⟩ := List.head?_eq_some_iff.1 hhead
  obtain ⟨hblank, hcomment, hline, hreturn⟩ := hc
  refine ⟨1, by simp, fun n rest => ?_⟩
  have hread := h rest
  rw [List.cons_append] at hread ⊢
  rw [statements?, skipBlanks_cons hblank]
  simp only [hcomment, hline, hreturn, or_self, if_false, hread, Option.bind_eq_bind, Option.bind_some]
  cases statements? n rest <;> rfl

/-- A line with a key and a value. -/
theorem keyLine (key : String) {text : List Char} {v : Value} (hkey : Bare key.toList) (hv : Writes text v) :
    Lines (keyLine key text) [.assignment [key] v] := by
  obtain ⟨c, t, hct⟩ := List.exists_cons_of_ne_nil hkey.1
  have hhead : (Supervision.keyLine key text).head? = some c := by
    rw [Supervision.keyLine, hct]
    rfl
  exact Lines.statement hhead (bareKeyChar_begins (hkey.mem c (hct ▸ List.mem_cons_self))).1 (statement_keyLine hkey hv)

/-- A line with a header. -/
theorem headerLine {line : String} {key : List Char} (hline : line.toList = '[' :: key ++ [']']) (hkey : Bare key) :
    Lines (headerLine line) [.header [String.ofList key]] := by
  have hhead : (Supervision.headerLine line).head? = some '[' := by
    rw [Supervision.headerLine, hline]
    rfl
  exact Lines.statement hhead (by decide) (statement_header hline hkey)

/-- A line with a header in double brackets. -/
theorem arrayHeaderLine {line : String} {key : List Char} (hline : line.toList = '[' :: '[' :: key ++ [']', ']'])
    (hkey : Bare key) : Lines (Supervision.headerLine line) [.arrayHeader [String.ofList key]] := by
  have hhead : (Supervision.headerLine line).head? = some '[' := by
    rw [Supervision.headerLine, hline]
    rfl
  exact Lines.statement hhead (by decide) (statement_arrayHeader hline hkey)

/-- A text of lines is a document. -/
theorem all {text : List Char} {statements : List Statement} (h : Lines text statements) :
    statements? (text.length + 1) text = some statements := by
  obtain ⟨k, hk, hread⟩ := h
  have hend : statements? (text.length - k + 1) [] = some [] := rfl
  have hlength : text.length + 1 = text.length - k + 1 + k := by omega
  have hall := hread (text.length - k + 1) []
  rw [List.append_nil, ← hlength, hend] at hall
  simpa using hall

end Lines

end Supervision.Toml
