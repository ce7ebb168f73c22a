import Supervision.Toml.Scalar
import Mathlib

/-!
# Reading written numbers and truth values

The usual text of an integer of 64 bits is a word that reads as that integer (`word_integer`): it is no date and has neither a
fraction nor an exponent. A word is read up to the end of its line (`scalar_word`).
-/

namespace Supervision.Toml

open Decimal

/-! ## Decimal digits -/

/-- The digits of a number write it. -/
theorem numberIn_toDigits (n : Nat) : numberIn 10 (Nat.toDigits 10 n) = n := by
  have hfold : ∀ (l : List Char) (m : Nat), (∀ c ∈ l, c.isDigit = true) →
      l.foldl (fun n c => n * 10 + digitValue c) m = Nat.ofDigitChars 10 l m := by
    intro l
    induction l with
    | nil => intro m _; rfl
    | cons c l ih =>
      intro m hl
      have hc : digitValue c = c.toNat - 48 := by rw [digitValue, if_pos (hl c List.mem_cons_self)]
      rw [List.foldl_cons, ih _ fun d hd => hl d (List.mem_cons_of_mem c hd), Nat.ofDigitChars_cons, hc, Nat.mul_comm]
      rfl
  rw [numberIn, hfold _ _ fun c hc => Nat.isDigit_of_mem_toDigits (by decide) (by decide) hc]
  exact Nat.ofDigitChars_ten_toDigits

/-- Digits without underscores are their own digits. -/
theorem grouped_digits {s : List Char} (hs : s ≠ []) (hdigits : ∀ c ∈ s, c.isDigit = true) :
    grouped? Char.isDigit s = some s := by
  induction s with
  | nil => exact absurd rfl hs
  | cons c s ih =>
    have hc := hdigits c List.mem_cons_self
    cases s with
    | nil => simp [grouped?, hc]
    | cons d s =>
      have hd : d ≠ '_' := by
        rintro rfl
        exact absurd (hdigits '_' (by simp)) (by decide)
      rw [grouped?, if_pos hc, if_neg hd, ih (by simp) fun e he => hdigits e (List.mem_cons_of_mem c he)]
      rfl

/-- Only the digits of zero begin with a zero. -/
theorem toDigits_head (n : Nat) (t : List Char) (h : Nat.toDigits 10 n = '0' :: t) : t = [] := by
  induction n using Nat.strongRecOn generalizing t with
  | ind n ih =>
    by_cases hn : n < 10
    · rw [Nat.toDigits_of_lt_base hn] at h
      exact (List.cons.inj h).2.symm
    · rw [Nat.toDigits_of_base_le (by decide) (Nat.not_lt.1 hn)] at h
      obtain ⟨c, u, hu⟩ := List.exists_cons_of_ne_nil (Nat.toDigits_ne_nil (n := n / 10) (b := 10))
      rw [hu, List.cons_append] at h
      obtain ⟨rfl, -⟩ := List.cons.inj h
      have hzero : numberIn 10 (Nat.toDigits 10 (n / 10)) = 0 := by
        rw [hu, ih (n / 10) (by omega) u hu]
        rfl
      rw [numberIn_toDigits] at hzero
      omega

/-- The digits of a number write it without a leading zero. -/
theorem decimal_toDigits (n : Nat) : decimal? (Nat.toDigits 10 n) = some (Nat.toDigits 10 n) := by
  have hgrouped : grouped? Char.isDigit (Nat.toDigits 10 n) = some (Nat.toDigits 10 n) :=
    grouped_digits Nat.toDigits_ne_nil fun c hc => Nat.isDigit_of_mem_toDigits (by decide) (by decide) hc
  rw [decimal?, hgrouped]
  split
  · rename_i d t heq
    cases toDigits_head n (d :: t) (Option.some.inj heq)
  · rfl

/-! ## Words -/

/-- The text of an integer: its digits, behind a minus if it is negative. -/
theorem toList_toString (n : Int) :
    (toString n).toList = if n < 0 then '-' :: Nat.toDigits 10 n.natAbs else Nat.toDigits 10 n.natAbs := by
  rw [Int.toString_eq_repr, Int.repr_eq_if]
  by_cases hn : n < 0
  · rw [if_neg (by omega), if_pos hn, String.toList_append, Nat.toList_repr, show (-n).toNat = n.natAbs by omega]
    rfl
  · rw [if_pos (by omega), if_neg hn, Nat.toList_repr, show n.toNat = n.natAbs by omega]

/-- A text of characters of one class is cut behind its end. -/
theorem span_all {p : Char → Bool} {s : List Char} (h : ∀ c ∈ s, p c = true) : s.span p = (s, []) := by
  rw [List.span_eq_takeWhile_dropWhile, List.takeWhile_eq_self_iff.2 h, List.dropWhile_eq_nil_iff.2 h]

/-- A word of digits, perhaps behind a sign, is neither a date nor a time. -/
theorem dateTime_digits {w : List Char} (hw : ∀ c ∈ w.tail, c.isDigit = true) : dateTime? w = none := by
  have hdate : startsWithDate w = false := by
    unfold startsWithDate
    split
    · exact absurd (hw '-' (by simp)) (by decide)
    · rfl
  have htime : timeOfDay? w = none := by
    unfold timeOfDay?
    split
    · exact absurd (hw ':' (by simp)) (by decide)
    · rfl
  rw [dateTime?, hdate]
  simp [time?, htime]

/-- A word of digits, perhaps behind a sign, has neither a fraction nor an exponent. -/
theorem float_digits {w s : List Char} {negative : Bool} (hw : unsigned w = (negative, s)) (hs : ∀ c ∈ s, c.isDigit = true) :
    float? w = none := by
  have hinf : s ≠ ['i', 'n', 'f'] := by rintro rfl; exact absurd (hs 'i' (by simp)) (by decide)
  have hnan : s ≠ ['n', 'a', 'n'] := by rintro rfl; exact absurd (hs 'n' (by simp)) (by decide)
  have hne : ∀ d, d.isDigit = false → ∀ c ∈ s, (c != d) = true := by
    intro d hd c hc
    refine bne_iff_ne.2 ?_
    rintro rfl
    rw [hs c hc] at hd
    cases hd
  have hpower : s.span (fun c => c != 'e' && c != 'E') = (s, []) :=
    span_all fun c hc => Bool.and_eq_true_iff.2 ⟨hne 'e' (by decide) c hc, hne 'E' (by decide) c hc⟩
  have hfraction : s.span (· != '.') = (s, []) := span_all fun c hc => hne '.' (by decide) c hc
  unfold float?
  simp only [hw, hinf, hnan, hpower, hfraction, if_false, and_self, if_true]

/-- A word of decimal digits, perhaps behind a sign, is an integer in no other base. -/
theorem integer_digits {w : List Char} {negative : Bool} {m : Nat} (hw : unsigned w = (negative, Nat.toDigits 10 m))
    (htail : ∀ c ∈ w.tail, c.isDigit = true) : integer? w = within64 (if negative then -(m : Int) else m) := by
  unfold integer?
  split
  · exact absurd (htail 'x' (by simp)) (by decide)
  · exact absurd (htail 'o' (by simp)) (by decide)
  · exact absurd (htail 'b' (by simp)) (by decide)
  · rw [hw]
    simp only [decimal_toDigits, Option.bind_some, numberIn_toDigits]

/-- The text of an integer of 64 bits reads as that integer. -/
theorem word_integer {n : Int} (hn : -(2 ^ 63) ≤ n ∧ n < 2 ^ 63) : word? (toString n).toList = some (.integer n) := by
  have hdigits : ∀ c ∈ Nat.toDigits 10 n.natAbs, c.isDigit = true :=
    fun c hc => Nat.isDigit_of_mem_toDigits (by decide) (by decide) hc
  obtain ⟨w, negative, hw, hunsigned, htail, hvalue⟩ : ∃ w negative, (toString n).toList = w ∧
      unsigned w = (negative, Nat.toDigits 10 n.natAbs) ∧ (∀ c ∈ w.tail, c.isDigit = true) ∧
      (if negative then -(n.natAbs : Int) else n.natAbs) = n := by
    rw [toList_toString]
    by_cases hneg : n < 0
    · rw [if_pos hneg]
      exact ⟨_, true, rfl, rfl, hdigits, by rw [if_pos rfl]; omega⟩
    · rw [if_neg hneg]
      refine ⟨_, false, rfl, ?_, fun c hc => hdigits c (List.mem_of_mem_tail hc), by simp; omega⟩
      obtain ⟨c, t, ht⟩ := List.exists_cons_of_ne_nil (Nat.toDigits_ne_nil (n := n.natAbs) (b := 10))
      have hc := hdigits c (ht ▸ List.mem_cons_self)
      rw [ht, unsigned.eq_def]
      split
      · rename_i heq; rw [(List.cons.inj heq).1] at hc; cases hc
      · rename_i heq; rw [(List.cons.inj heq).1] at hc; cases hc
      · rfl
  have htrue : w ≠ ['t', 'r', 'u', 'e'] := by rintro rfl; exact absurd (htail 'r' (by simp)) (by decide)
  have hfalse : w ≠ ['f', 'a', 'l', 's', 'e'] := by rintro rfl; exact absurd (htail 'a' (by simp)) (by decide)
  have hwithin : within64 n = some n := if_pos (by omega)
  rw [hw, word?, if_neg htrue, if_neg hfalse, dateTime_digits htail, float_digits hunsigned hdigits,
    integer_digits hunsigned htail, hvalue, hwithin]
  rfl

/-- A word is read up to the end of its line. -/
theorem scalar_word {w : List Char} {v : Value} (hw : ∀ c ∈ w, isWordChar c = true) (hv : word? w = some v) (rest : List Char) :
    scalar? (w ++ '\n' :: rest) = some (v, '\n' :: rest) := by
  have hline : isWordChar '\n' = false := by decide
  have htake : (w ++ '\n' :: rest).takeWhile isWordChar = w := by
    rw [List.takeWhile_append_of_pos hw, List.takeWhile_cons_of_neg (by simp [hline]), List.append_nil]
  have hdrop : (w ++ '\n' :: rest).dropWhile isWordChar = '\n' :: rest := by
    rw [List.dropWhile_append_of_pos hw, List.dropWhile_cons_of_neg (by simp [hline])]
  rw [scalar?, htake, hdrop]
  simp [hv]

end Supervision.Toml
