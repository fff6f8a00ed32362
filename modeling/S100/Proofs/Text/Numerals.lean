import Mathlib.Data.List.DropRight
import Mathlib.Data.List.Forall2
import Mathlib.Data.List.TakeWhile
import Mathlib.Data.Nat.Digits.Defs
import S100.Text.Blank
import S100.Text.Numeral

/-!
# What numerals there are

`Numeral` is the grammar of numerals in a base, with the value of each: an
optional plus sign and one or more digits, which count by their places. A
numeral is read exactly if it is one and its value is not above the limit
(`readNumeral_eq_ok_iff`). The limit is looked at with each digit, so that
leading zeros, however many, do not matter.

`Padded` is a text in a wider one, with nothing around it but blanks. What has
no blanks in it, as a numeral has none, is found there by trimming
(`padded_iff`).
-/

namespace S100.Text

/-! ## Digits -/

/-- A character is a digit of a base of at most sixteen. Digits above nine are
letters of either case. -/
def IsDigit (base : Nat) (c : Char) (digit : Nat) : Prop :=
  digit < base ∧ (c = Nat.digitChar digit ∨ c = (Nat.digitChar digit).toUpper)

/-- One or more digits, and the number that they are. -/
def Digits (base : Nat) (text : List Char) (n : Nat) : Prop :=
  text ≠ [] ∧ ∃ digits : List Nat, List.Forall₂ (IsDigit base) text digits
    ∧ Nat.ofDigits base digits.reverse = n

/-- Digits, with a plus sign in front or without one. -/
inductive Numeral (base : Nat) : List Char → Nat → Prop
  | unsigned {text n} (h : Digits base text n) : Numeral base text n
  | signed {text n} (h : Digits base text n) : Numeral base ('+' :: text) n

/-- All characters that can be digits. -/
def digitChars : List Char :=
  "0123456789abcdefABCDEF".toList

section

variable {base limit value n : Nat} {c : Char} {text word : List Char}

theorem IsDigit.mem_digitChars {digit : Nat} (hbase : base ≤ 16)
    (h : IsDigit base c digit) : c ∈ digitChars := by
  have hall : ∀ digit < 16, Nat.digitChar digit ∈ digitChars
      ∧ (Nat.digitChar digit).toUpper ∈ digitChars := by decide
  obtain ⟨hdigit, rfl | rfl⟩ := h
  · exact (hall digit (by omega)).1
  · exact (hall digit (by omega)).2

theorem Digits.mem (hbase : base ≤ 16) (h : Digits base text n)
    (hc : c ∈ text) : c ∈ digitChars := by
  obtain ⟨-, digits, hdigits, -⟩ := h
  induction hdigits with
  | nil => cases hc
  | cons hdigit _ ih =>
      rcases List.mem_cons.mp hc with rfl | hc
      · exact hdigit.mem_digitChars hbase
      · exact ih hc

/-- A smaller base has fewer of the digits, and they are worth the same. -/
theorem digitValue?_eq_filter (hbase : base ≤ 16) (c : Char) :
    digitValue? base c = (digitValue? 16 c).filter (· < base) := by
  rw [digitValue?, digitValue?, Option.filter_filter]
  congr 1
  funext digit
  have hlt : digit < base → digit < 16 := fun h => by omega
  simpa using hlt

theorem ascii_of_digitValue? {digit : Nat}
    (h : digitValue? base c = some digit) : c.toNat < 128 := by
  rw [digitValue?, Option.filter_eq_some_iff] at h
  obtain ⟨h, -⟩ := h
  split at h
  · rename_i hdigit
    have hle := of_decide_eq_true (Bool.and_eq_true_iff.mp hdigit).2
    exact Nat.lt_of_le_of_lt hle (by decide)
  · split at h
    · rename_i hlower
      have hle := of_decide_eq_true (Bool.and_eq_true_iff.mp hlower).2
      exact Nat.lt_of_le_of_lt hle (by decide)
    · split at h
      · rename_i hupper
        have hle := (of_decide_eq_true hupper).2
        exact Nat.lt_of_le_of_lt hle (by decide)
      · cases h

theorem digitValue?_sixteen {digit : Nat} :
    digitValue? 16 c = some digit ↔ IsDigit 16 c digit := by
  constructor
  · intro h
    have hall : ∀ code < 128, ∀ digit ∈ digitValue? 16 (Char.ofNat code),
        digit < 16 ∧ (Char.ofNat code = Nat.digitChar digit
          ∨ Char.ofNat code = (Nat.digitChar digit).toUpper) := by decide
    have hc := hall c.toNat (ascii_of_digitValue? h) digit
    rw [Char.ofNat_toNat] at hc
    exact hc h
  · rintro ⟨hdigit, hc⟩
    have hall : ∀ digit < 16,
        digitValue? 16 (Nat.digitChar digit) = some digit
        ∧ digitValue? 16 (Nat.digitChar digit).toUpper = some digit := by decide
    rcases hc with rfl | rfl
    · exact (hall digit hdigit).1
    · exact (hall digit hdigit).2

theorem digitValue?_eq_some_iff (hbase : base ≤ 16) {digit : Nat} :
    digitValue? base c = some digit ↔ IsDigit base c digit := by
  rw [digitValue?_eq_filter hbase, Option.filter_eq_some_iff,
    digitValue?_sixteen]
  constructor
  · rintro ⟨⟨-, hc⟩, hlt⟩
    exact ⟨by simpa using hlt, hc⟩
  · rintro ⟨hlt, hc⟩
    exact ⟨⟨by omega, hc⟩, by simpa using hlt⟩

/-! ## Reading -/

/-- The number that more digits make of one. -/
def withDigits (base value : Nat) (digits : List Nat) : Nat :=
  digits.foldl (fun value digit => value * base + digit) value

theorem withDigits_zero (base : Nat) (digits : List Nat) :
    withDigits base 0 digits = Nat.ofDigits base digits.reverse := by
  rw [Nat.ofDigits_eq_foldr, List.foldr_reverse, withDigits]
  simp only [Nat.cast_id, Nat.mul_comm, Nat.add_comm]

theorem le_withDigits (hbase : 0 < base) (value : Nat) (digits : List Nat) :
    value ≤ withDigits base value digits := by
  induction digits generalizing value with
  | nil => exact Nat.le_refl value
  | cons digit digits ih =>
      have hstep : value ≤ value * base + digit :=
        Nat.le_add_right_of_le (Nat.le_mul_of_pos_right value hbase)
      exact hstep.trans (ih _)

/-- Where a digit stands in front, the rest are digits after it. -/
theorem exists_digits_cons_iff {digit : Nat} (hbase : base ≤ 16)
    (hc : digitValue? base c = some digit) :
    (∃ digits, List.Forall₂ (IsDigit base) (c :: text) digits
        ∧ withDigits base value digits = n) ↔
      ∃ digits, List.Forall₂ (IsDigit base) text digits
        ∧ withDigits base (value * base + digit) digits = n := by
  constructor
  · rintro ⟨digits, hdigits, hn⟩
    cases hdigits with
    | cons hother hrest =>
        rw [← digitValue?_eq_some_iff hbase, hc] at hother
        obtain rfl := Option.some.inj hother
        exact ⟨_, hrest, hn⟩
  · rintro ⟨digits, hdigits, hn⟩
    exact ⟨digit :: digits,
      .cons ((digitValue?_eq_some_iff hbase).mp hc) hdigits, hn⟩

/-- Each step looks at the limit, but it comes to the same as to look at the
end. -/
theorem readDigits_eq_ok_iff (hbase : base ≤ 16) (hvalue : value ≤ limit) :
    readDigits base limit value text = .ok n ↔
      (∃ digits, List.Forall₂ (IsDigit base) text digits
        ∧ withDigits base value digits = n) ∧ n ≤ limit := by
  induction text generalizing value with
  | nil =>
      rw [readDigits, Except.ok.injEq]
      constructor
      · rintro rfl
        exact ⟨⟨[], .nil, rfl⟩, hvalue⟩
      · rintro ⟨⟨digits, hdigits, hn⟩, -⟩
        cases hdigits
        exact hn
  | cons c text ih =>
      rw [readDigits]
      cases hc : digitValue? base c with
      | none =>
          refine iff_of_false (by nofun) ?_
          rintro ⟨⟨digits, hdigits, -⟩, -⟩
          cases hdigits with
          | cons hdigit _ =>
              rw [(digitValue?_eq_some_iff hbase).mpr hdigit] at hc
              cases hc
      | some digit =>
          have hdigit := (digitValue?_eq_some_iff hbase).mp hc
          have hpos : 0 < base := Nat.zero_lt_of_lt hdigit.1
          rw [exists_digits_cons_iff hbase hc]
          dsimp only
          by_cases htooLarge : limit < value * base + digit
          · rw [if_pos htooLarge]
            refine iff_of_false (by nofun) ?_
            rintro ⟨⟨digits, -, rfl⟩, hn⟩
            have hle := le_withDigits hpos (value * base + digit) digits
            omega
          · rw [if_neg htooLarge, ih (Nat.le_of_not_lt htooLarge)]

theorem readDigits_zero_eq_ok_iff (hbase : base ≤ 16) (htext : text ≠ []) :
    readDigits base limit 0 text = .ok n ↔ Digits base text n ∧ n ≤ limit := by
  rw [readDigits_eq_ok_iff hbase (Nat.zero_le limit)]
  simp only [withDigits_zero, Digits, ne_eq, htext, not_false_eq_true,
    true_and]

/-- A sign is no digit, so that it is clear where the digits begin. -/
theorem not_digits_plus (hbase : base ≤ 16) :
    ¬ Digits base ('+' :: text) n := by
  intro h
  exact absurd (h.mem hbase List.mem_cons_self) (by decide)

/-- A text is read as a number exactly if it is a numeral for it and the
number is not above the limit. -/
theorem readNumeral_eq_ok_iff (hbase : base ≤ 16) :
    readNumeral base limit text = .ok n ↔ Numeral base text n ∧ n ≤ limit := by
  unfold readNumeral
  split
  · refine iff_of_false (by nofun) ?_
    rintro ⟨h, -⟩
    cases h with
    | unsigned h => exact h.1 rfl
  · refine iff_of_false (by nofun) ?_
    rintro ⟨h, -⟩
    cases h with
    | unsigned h => exact not_digits_plus hbase h
    | signed h => exact h.1 rfl
  · rename_i digits hne
    rw [readDigits_zero_eq_ok_iff hbase fun h => hne (by rw [h])]
    refine and_congr_left fun _ => ⟨.signed, fun h => ?_⟩
    cases h with
    | unsigned h => exact absurd h (not_digits_plus hbase)
    | signed h => exact h
  · rename_i hne _ hunsigned
    rw [readDigits_zero_eq_ok_iff hbase hne]
    refine and_congr_left fun _ => ⟨.unsigned, fun h => ?_⟩
    cases h with
    | unsigned h => exact h
    | signed h => exact absurd rfl (hunsigned _)

/-- A text is a numeral for at most one number. -/
theorem Numeral.unique {m : Nat} (hbase : base ≤ 16) (hm : Numeral base text m)
    (hn : Numeral base text n) : m = n := by
  have hreadM : readNumeral base (max m n) text = .ok m :=
    (readNumeral_eq_ok_iff hbase).mpr ⟨hm, Nat.le_max_left m n⟩
  have hreadN : readNumeral base (max m n) text = .ok n :=
    (readNumeral_eq_ok_iff hbase).mpr ⟨hn, Nat.le_max_right m n⟩
  exact Except.ok.inj (hreadM.symm.trans hreadN)

/-- What a numeral is made of. -/
theorem Numeral.mem (hbase : base ≤ 16) (h : Numeral base text n)
    (hc : c ∈ text) : c = '+' ∨ c ∈ digitChars := by
  cases h with
  | unsigned h => exact .inr (h.mem hbase hc)
  | signed h =>
      rcases List.mem_cons.mp hc with rfl | hc
      · exact .inl rfl
      · exact .inr (h.mem hbase hc)

/-! ## Writing -/

theorem Digits.concat {digit : Nat} (h : Digits base text n)
    (hdigit : IsDigit base c digit) :
    Digits base (text ++ [c]) (n * base + digit) := by
  obtain ⟨-, digits, hdigits, rfl⟩ := h
  refine ⟨by simp, digits ++ [digit],
    List.rel_append hdigits (.cons hdigit .nil), ?_⟩
  rw [List.reverse_append, List.reverse_singleton, List.singleton_append,
    Nat.ofDigits_cons, Nat.mul_comm, Nat.add_comm]

/-- Zeros in front make no difference. -/
theorem Digits.zeros (hbase : 0 < base) (h : Digits base text n)
    (zeros : Nat) : Digits base (List.replicate zeros '0' ++ text) n := by
  obtain ⟨htext, digits, hdigits, rfl⟩ := h
  have hzeros : List.Forall₂ (IsDigit base) (List.replicate zeros '0')
      (List.replicate zeros 0) := by
    induction zeros with
    | zero => exact .nil
    | succ zeros ih => exact .cons ⟨hbase, .inl rfl⟩ ih
  refine ⟨List.append_ne_nil_of_right_ne_nil _ htext,
    List.replicate zeros 0 ++ digits, List.rel_append hzeros hdigits, ?_⟩
  rw [List.reverse_append, List.reverse_replicate,
    Nat.ofDigits_append_replicate_zero]

/-- The digits of a number in lower case are digits of it, and so are they in
upper case. -/
theorem digits_toDigits (hbase : 1 < base) (n : Nat) :
    Digits base (Nat.toDigits base n) n
      ∧ Digits base ((Nat.toDigits base n).map Char.toUpper) n := by
  induction n using Nat.strongRecOn with
  | ind n ih =>
      by_cases hn : n < base
      · rw [Nat.toDigits_of_lt_base hn]
        exact ⟨⟨List.cons_ne_nil _ _, [n], .cons ⟨hn, .inl rfl⟩ .nil, rfl⟩,
          ⟨List.cons_ne_nil _ _, [n], .cons ⟨hn, .inr rfl⟩ .nil, rfl⟩⟩
      · have hdigit : n % base < base := Nat.mod_lt n (by omega)
        have hn' : n / base * base + n % base = n := by
          rw [Nat.mul_comm]
          exact Nat.div_add_mod n base
        obtain ⟨hlower, hupper⟩ := ih (n / base) (Nat.div_lt_self (by omega) hbase)
        have hlower := hlower.concat ⟨hdigit, .inl rfl⟩
        have hupper := hupper.concat ⟨hdigit, .inr rfl⟩
        rw [hn'] at hlower hupper
        rw [Nat.toDigits_of_base_le hbase (by omega), List.map_append]
        exact ⟨hlower, hupper⟩

/-! ## Blanks around a text -/

/-- A text with a word in it and nothing around that but blanks. -/
def Padded (word text : List Char) : Prop :=
  ∃ before after, text = before ++ word ++ after
    ∧ ∀ c ∈ before ++ after, isBlank c

theorem Padded.mem (h : Padded word text) (hc : c ∈ text) :
    c ∈ word ∨ isBlank c := by
  obtain ⟨before, after, rfl, hblank⟩ := h
  rcases List.mem_append.mp hc with hc | hc
  · rcases List.mem_append.mp hc with hc | hc
    · exact .inr (hblank c (List.mem_append_left after hc))
    · exact .inl hc
  · exact .inr (hblank c (List.mem_append_right before hc))

theorem trim_eq (text : List Char) :
    trim text = (text.dropWhile isBlank).rdropWhile isBlank := rfl

theorem padded_trim (text : List Char) : Padded (trim text) text := by
  refine ⟨text.takeWhile isBlank,
    (text.dropWhile isBlank).rtakeWhile isBlank, ?_, fun c hc => ?_⟩
  · rw [trim_eq, List.append_assoc, List.rdropWhile_append_rtakeWhile,
      List.takeWhile_append_dropWhile]
  · rcases List.mem_append.mp hc with hc | hc
    · exact List.mem_takeWhile_imp hc
    · exact List.mem_rtakeWhile_imp hc

theorem trim_of_padded (hword : ∀ c ∈ word, isBlank c = false)
    (h : Padded word text) : trim text = word := by
  obtain ⟨before, after, rfl, hblank⟩ := h
  have hbefore : ∀ c ∈ before, isBlank c :=
    fun c hc => hblank c (List.mem_append_left _ hc)
  have hafter : ∀ c ∈ after.reverse, isBlank c :=
    fun c hc => hblank c (List.mem_append_right _ (List.mem_reverse.mp hc))
  rw [trim, List.append_assoc, List.dropWhile_append_of_pos hbefore]
  cases word with
  | nil =>
      have hall : after.dropWhile isBlank = [] :=
        List.dropWhile_eq_nil_iff.mpr fun c hc =>
          hafter c (List.mem_reverse.mpr hc)
      rw [List.nil_append, hall]
      rfl
  | cons c word =>
      have hfront : ((c :: word) ++ after).dropWhile isBlank =
          (c :: word) ++ after :=
        List.dropWhile_cons_of_neg (by simp [hword c List.mem_cons_self])
      have hback : (c :: word).reverse.dropWhile isBlank =
          (c :: word).reverse := by
        refine List.dropWhile_eq_self_iff.mpr fun hpos => ?_
        rw [hword _ (List.mem_reverse.mp (List.getElem_mem hpos))]
        exact Bool.false_ne_true
      rw [hfront, List.reverse_append, List.dropWhile_append_of_pos hafter,
        hback, List.reverse_reverse]

/-- Trimming finds the word that has blanks around it, if it has none in
it. -/
theorem padded_iff (hword : ∀ c ∈ word, isBlank c = false) :
    Padded word text ↔ trim text = word := by
  refine ⟨trim_of_padded hword, ?_⟩
  rintro rfl
  exact padded_trim text

theorem Numeral.not_blank (hbase : base ≤ 16) (h : Numeral base text n) :
    ∀ c ∈ text, isBlank c = false := by
  intro c hc
  have hnone : ('+' :: digitChars).any isBlank = false := by decide
  have hchar : c ∈ '+' :: digitChars := List.mem_cons.mpr (h.mem hbase hc)
  exact Bool.eq_false_iff.mpr (List.any_eq_false.mp hnone c hchar)

/-- A text in which blanks are allowed around a numeral. -/
theorem readNumeral_trim_eq_ok_iff (hbase : base ≤ 16) :
    readNumeral base limit (trim text) = .ok n ↔
      (∃ word, Padded word text ∧ Numeral base word n) ∧ n ≤ limit := by
  rw [readNumeral_eq_ok_iff hbase]
  refine and_congr_left fun _ => ⟨fun h => ⟨_, padded_trim text, h⟩, ?_⟩
  rintro ⟨word, hword, h⟩
  rwa [(padded_iff (h.not_blank hbase)).mp hword]

end

end S100.Text
