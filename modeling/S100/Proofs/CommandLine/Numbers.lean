import S100.CommandLine.Values
import S100.Proofs.Text.Numerals

/-!
# Numbers on the command line

A number is spelled in hexadecimal with a mark in front of its digits or
behind them, or in decimal with no mark. What has the mark in front is never
taken to have it behind (`Spelled.suffixed`), so that a text spells at most one
number. Neither mark can be a part of a numeral (`hexMarked?_of_numeral`), and
none of this has blanks in it (`Spelled.not_blank`).

A text denotes the number that is spelled in it with nothing around but
blanks. It is read exactly if it denotes a number that is small enough
(`readNumber_eq_ok_iff`, `read_iff_denotes`). The limit of the reader that is
shared by addresses and bytes lies above both of theirs, and does not show.
-/

namespace S100.CommandLine

open Text

/-! ## Spellings of a number -/

/-- A text begins with the mark that a hexadecimal number can have in
front. -/
def Marked (word : List Char) : Prop :=
  ∃ rest, word = '0' :: 'x' :: rest ∨ word = '0' :: 'X' :: rest

/-- A word spells a number. -/
inductive Spelled : List Char → Nat → Prop
  | marked {x digits n} (hx : x = 'x' ∨ x = 'X') (h : Numeral 16 digits n) :
      Spelled ('0' :: x :: digits) n
  | suffixed {suffix digits n} (hsuffix : suffix = 'h' ∨ suffix = 'H')
      (hfront : ¬ Marked (digits ++ [suffix])) (h : Numeral 16 digits n) :
      Spelled (digits ++ [suffix]) n
  | decimal {digits n} (h : Numeral 10 digits n) : Spelled digits n

/-- All characters that can be in a word that spells a number. -/
def spellingChars : List Char :=
  ['x', 'X', 'h', 'H'] ++ '+' :: digitChars

/-- A text holds a word that spells a number, and nothing else but blanks. -/
def Denotes (text : String) (n : Nat) : Prop :=
  ∃ word, Padded word text.toList ∧ Spelled word n

/-- The words that spell a number without a sign, with so many zeros in front
of its digits. Those of a hexadecimal number are all in lower or all in upper
case. -/
def spellings (zeros n : Nat) : List (List Char) :=
  let extended (digits : List Char) := List.replicate zeros '0' ++ digits
  let hexadecimal := Nat.toDigits 16 n
  extended (Nat.toDigits 10 n) ::
    [extended hexadecimal, extended (hexadecimal.map Char.toUpper)].flatMap
      fun digits => ['0' :: 'x' :: digits, '0' :: 'X' :: digits,
        digits ++ ['h'], digits ++ ['H']]

section

variable {base m n zeros : Nat} {text : String} {word digits : List Char}

/-! ## The marks -/

theorem Marked.mem (h : Marked word) : ∃ x ∈ word, x = 'x' ∨ x = 'X' := by
  obtain ⟨rest, rfl | rfl⟩ := h
  · exact ⟨'x', by simp, .inl rfl⟩
  · exact ⟨'X', by simp, .inr rfl⟩

/-- With the mark behind there is none in front. -/
theorem not_marked {suffix : Char} (hsuffix : suffix = 'h' ∨ suffix = 'H')
    (h : Numeral 16 digits n) : ¬ Marked (digits ++ [suffix]) := by
  intro hmarked
  obtain ⟨x, hmem, hx⟩ := hmarked.mem
  rcases List.mem_append.mp hmem with hmem | hmem
  · have hchar := h.mem (by decide) hmem
    rcases hx with rfl | rfl
    · exact absurd hchar (by decide)
    · exact absurd hchar (by decide)
  · obtain rfl := List.mem_singleton.mp hmem
    rcases hx with rfl | rfl
    · exact absurd hsuffix (by decide)
    · exact absurd hsuffix (by decide)

/-- Neither mark is made of digits. -/
theorem hexMarked?_of_numeral (hbase : base ≤ 16)
    (h : Numeral base word n) : hexMarked? word = none := by
  have hnot : ∀ {c}, c ∉ '+' :: digitChars → c ∉ word := fun hc hmem =>
    hc (List.mem_cons.mpr (h.mem hbase hmem))
  unfold hexMarked?
  split
  · exact absurd (by simp) (hnot (c := 'x') (by decide))
  · exact absurd (by simp) (hnot (c := 'X') (by decide))
  · split
    · rename_i hreverse
      exact absurd (List.mem_reverse.mp (hreverse ▸ List.mem_cons_self))
        (hnot (c := 'h') (by decide))
    · rename_i hreverse
      exact absurd (List.mem_reverse.mp (hreverse ▸ List.mem_cons_self))
        (hnot (c := 'H') (by decide))
    · rfl

theorem hexMarked?_concat {suffix : Char} (hsuffix : suffix = 'h' ∨ suffix = 'H')
    (hfront : ¬ Marked (digits ++ [suffix])) :
    hexMarked? (digits ++ [suffix]) = some digits := by
  unfold hexMarked?
  split
  · rename_i rest hword
    exact absurd ⟨rest, .inl hword⟩ hfront
  · rename_i rest hword
    exact absurd ⟨rest, .inr hword⟩ hfront
  · rw [List.reverse_append, List.reverse_singleton, List.singleton_append]
    rcases hsuffix with rfl | rfl
    · exact congrArg some (List.reverse_reverse digits)
    · exact congrArg some (List.reverse_reverse digits)

theorem hexMarked?_eq_some (h : hexMarked? word = some digits) :
    (∃ x, (x = 'x' ∨ x = 'X') ∧ word = '0' :: x :: digits)
      ∨ ∃ suffix, (suffix = 'h' ∨ suffix = 'H') ∧ word = digits ++ [suffix]
        ∧ ¬ Marked word := by
  unfold hexMarked? at h
  split at h
  · obtain rfl := Option.some.inj h
    exact .inl ⟨'x', .inl rfl, rfl⟩
  · obtain rfl := Option.some.inj h
    exact .inl ⟨'X', .inr rfl, rfl⟩
  · rename_i hlower hupper
    have hfront : ¬ Marked word := by
      rintro ⟨rest, hword | hword⟩
      · exact hlower rest hword
      · exact hupper rest hword
    refine .inr ?_
    split at h
    · rename_i hreverse
      obtain rfl := Option.some.inj h
      exact ⟨'h', .inl rfl, by simpa using congrArg List.reverse hreverse,
        hfront⟩
    · rename_i hreverse
      obtain rfl := Option.some.inj h
      exact ⟨'H', .inr rfl, by simpa using congrArg List.reverse hreverse,
        hfront⟩
    · cases h

/-- What a word spells is decided by the mark that is found. -/
theorem spelled_iff :
    Spelled word n ↔
      match hexMarked? word with
      | some digits => Numeral 16 digits n
      | none => Numeral 10 word n := by
  constructor
  · intro h
    cases h with
    | marked hx h =>
        rcases hx with rfl | rfl
        · exact h
        · exact h
    | suffixed hsuffix hfront h =>
        rw [hexMarked?_concat hsuffix hfront]
        exact h
    | decimal h =>
        rw [hexMarked?_of_numeral (by decide) h]
        exact h
  · intro h
    cases hmark : hexMarked? word with
    | none =>
        rw [hmark] at h
        exact .decimal h
    | some digits =>
        rw [hmark] at h
        obtain ⟨x, hx, rfl⟩ | ⟨suffix, hsuffix, rfl, hfront⟩ :=
          hexMarked?_eq_some hmark
        · exact .marked hx h
        · exact .suffixed hsuffix hfront h

theorem Spelled.unique (hm : Spelled word m) (hn : Spelled word n) : m = n := by
  rw [spelled_iff] at hm hn
  split at hm
  · rename_i hmark
    rw [hmark] at hn
    exact hm.unique (by decide) hn
  · rename_i hmark
    rw [hmark] at hn
    exact hm.unique (by decide) hn

theorem Spelled.mem {c : Char} (h : Spelled word n) (hc : c ∈ word) :
    c ∈ spellingChars := by
  have hnumeral : ∀ c, c = '+' ∨ c ∈ digitChars → c ∈ spellingChars :=
    fun c hc => List.mem_append_right ['x', 'X', 'h', 'H'] (List.mem_cons.mpr hc)
  cases h with
  | marked hx h =>
      rcases List.mem_cons.mp hc with rfl | hc
      · decide
      rcases List.mem_cons.mp hc with rfl | hc
      · rcases hx with rfl | rfl
        · decide
        · decide
      exact hnumeral c (h.mem (by decide) hc)
  | suffixed hsuffix _ h =>
      rcases List.mem_append.mp hc with hc | hc
      · exact hnumeral c (h.mem (by decide) hc)
      · obtain rfl := List.mem_singleton.mp hc
        rcases hsuffix with rfl | rfl
        · decide
        · decide
  | decimal h => exact hnumeral c (h.mem (by decide) hc)

/-- What spells a number has no blanks in it. -/
theorem Spelled.not_blank (h : Spelled word n) :
    ∀ c ∈ word, isBlank c = false := by
  intro c hc
  have hnone : spellingChars.any isBlank = false := by decide
  exact Bool.eq_false_iff.mpr (List.any_eq_false.mp hnone c (h.mem hc))

/-- Either mark goes with any digits of the number. -/
theorem spelled_of_digits (h : Digits 16 digits n)
    (hword : word ∈ ['0' :: 'x' :: digits, '0' :: 'X' :: digits,
      digits ++ ['h'], digits ++ ['H']]) : Spelled word n := by
  have hnumeral := Numeral.unsigned h
  simp only [List.mem_cons, List.not_mem_nil, or_false] at hword
  obtain rfl | rfl | rfl | rfl := hword
  · exact .marked (.inl rfl) hnumeral
  · exact .marked (.inr rfl) hnumeral
  · exact .suffixed (.inl rfl) (not_marked (.inl rfl) hnumeral) hnumeral
  · exact .suffixed (.inr rfl) (not_marked (.inr rfl) hnumeral) hnumeral

theorem spelled_of_mem_spellings (h : word ∈ spellings zeros n) :
    Spelled word n := by
  have hdecimal := (digits_toDigits (by decide : 1 < 10) n).1
  have hhexadecimal := digits_toDigits (by decide : 1 < 16) n
  rcases List.mem_cons.mp h with rfl | h
  · exact .decimal (.unsigned (hdecimal.zeros (by decide) zeros))
  obtain ⟨digits, hdigits, hword⟩ := List.mem_flatMap.mp h
  simp only [List.mem_cons, List.not_mem_nil, or_false] at hdigits
  obtain rfl | rfl := hdigits
  · exact spelled_of_digits (hhexadecimal.1.zeros (by decide) zeros) hword
  · exact spelled_of_digits (hhexadecimal.2.zeros (by decide) zeros) hword

/-! ## Reading -/

theorem denotes_iff : Denotes text n ↔ Spelled (trim text.toList) n := by
  constructor
  · rintro ⟨word, hword, h⟩
    rwa [(padded_iff h.not_blank).mp hword]
  · intro h
    exact ⟨_, padded_trim _, h⟩

theorem Denotes.not_mem {c : Char} (h : Denotes text n)
    (hc : c ∉ spellingChars) (hblank : isBlank c = false) :
    c ∉ text.toList := by
  obtain ⟨word, hword, h⟩ := h
  intro hmem
  rcases hword.mem hmem with hmem | hblank'
  · exact hc (h.mem hmem)
  · exact absurd hblank' (by simp [hblank])

theorem Denotes.unique (hm : Denotes text m) (hn : Denotes text n) :
    m = n :=
  (denotes_iff.mp hm).unique (denotes_iff.mp hn)

theorem denotes_of_mem_spellings (h : word ∈ spellings zeros n)
    (htext : Padded word text.toList) : Denotes text n :=
  ⟨word, htext, spelled_of_mem_spellings h⟩

theorem exists_error_iff {ε α : Type} {read : Except ε α} :
    (∃ error, read = .error error) ↔ ∀ a, read ≠ .ok a := by
  cases read with
  | error error => exact iff_of_true ⟨error, rfl⟩ (by nofun)
  | ok a => exact iff_of_false (by nofun) fun h => h a rfl

theorem mapError_eq_ok_iff {ε ε' α : Type} {f : ε → ε'} {read : Except ε α}
    {a : α} : read.mapError f = .ok a ↔ read = .ok a := by
  cases read <;> simp [Except.mapError]

/-- The blanks go first, then the marks are looked at. -/
theorem readNumber_eq_ok_iff :
    readNumber text = .ok n ↔ Denotes text n ∧ n ≤ maxNumber := by
  rw [denotes_iff, spelled_iff, readNumber, mapError_eq_ok_iff]
  cases hexMarked? (trim text.toList) with
  | some digits => exact readNumeral_eq_ok_iff (by decide)
  | none => exact readNumeral_eq_ok_iff (by decide)

section

variable {α : Type} {size : Nat} {ofNat : Nat → α} {toNat : α → Nat}

/-- A number that has to fit into a word is read as that word. -/
theorem readWord_eq_ok_iff {tooLarge : ValueError} (hsize : size ≤ maxNumber)
    (hlt : ∀ a, toNat a < size) (htoNat : ∀ n < size, toNat (ofNat n) = n)
    (hofNat : ∀ a, ofNat (toNat a) = a) (a : α) :
    (do let n ← readNumber text
        if n < size then return ofNat n else throw tooLarge) = .ok a ↔
      Denotes text (toNat a) := by
  constructor
  · intro h
    cases hread : readNumber text with
    | error _ =>
        rw [hread] at h
        cases h
    | ok n =>
        rw [hread] at h
        by_cases hn : n < size
        · obtain rfl := Except.ok.inj ((if_pos hn).symm.trans h)
          rw [htoNat n hn]
          exact (readNumber_eq_ok_iff.mp hread).1
        · cases (if_neg hn).symm.trans h
  · intro h
    rw [readNumber_eq_ok_iff.mpr ⟨h, (hlt a).le.trans hsize⟩]
    refine (if_pos (hlt a)).trans ?_
    rw [hofNat]
    rfl

/-- A text is refused exactly if no number that it denotes fits into a
word. -/
theorem refused_iff {read : Except ValueError α}
    (hread : ∀ a, read = .ok a ↔ Denotes text (toNat a))
    (hlt : ∀ a, toNat a < size) (htoNat : ∀ n < size, toNat (ofNat n) = n) :
    (∃ error, read = .error error) ↔ ∀ n, Denotes text n → size ≤ n := by
  rw [exists_error_iff]
  constructor
  · intro h n hn
    refine Nat.le_of_not_lt fun hsmall => h (ofNat n) ((hread _).mpr ?_)
    rwa [htoNat n hsmall]
  · intro h a ha
    exact absurd (h _ ((hread a).mp ha)) (Nat.not_le.mpr (hlt a))

end

theorem readAddress_eq_ok_iff {address : UInt16} :
    readAddress text = .ok address ↔ Denotes text address.toNat :=
  readWord_eq_ok_iff (by decide) UInt16.toNat_lt
    (fun _ hn => UInt16.toNat_ofNat_of_lt hn) (fun _ => UInt16.ofNat_toNat)
    address

theorem readByte_eq_ok_iff {byte : UInt8} :
    readByte text = .ok byte ↔ Denotes text byte.toNat :=
  readWord_eq_ok_iff (by decide) UInt8.toNat_lt
    (fun _ hn => UInt8.toNat_ofNat_of_lt hn) (fun _ => UInt8.ofNat_toNat)
    byte

/-- An address or a byte is read from a text exactly if the text denotes it,
and a text that denotes none that is small enough is refused. No text denotes
two numbers, and every number is denoted by each of its spellings, with any
blanks around it. -/
theorem read_iff_denotes (text : String) :
    (∀ address, readAddress text = .ok address ↔ Denotes text address.toNat)
    ∧ (∀ byte, readByte text = .ok byte ↔ Denotes text byte.toNat)
    ∧ ((∃ error, readAddress text = .error error) ↔
        ∀ n, Denotes text n → 0xFFFF < n)
    ∧ ((∃ error, readByte text = .error error) ↔
        ∀ n, Denotes text n → 0xFF < n)
    ∧ (∀ m n, Denotes text m → Denotes text n → m = n)
    ∧ ∀ zeros,
        (∀ address : UInt16, ∀ word ∈ spellings zeros address.toNat,
          Padded word text.toList → readAddress text = .ok address)
        ∧ ∀ byte : UInt8, ∀ word ∈ spellings zeros byte.toNat,
          Padded word text.toList → readByte text = .ok byte := by
  refine ⟨fun _ => readAddress_eq_ok_iff, fun _ => readByte_eq_ok_iff, ?_, ?_,
    fun _ _ => Denotes.unique, fun zeros =>
      ⟨fun address word hword htext => ?_, fun byte word hword htext => ?_⟩⟩
  · exact refused_iff (fun _ => readAddress_eq_ok_iff) UInt16.toNat_lt
      fun _ hn => UInt16.toNat_ofNat_of_lt hn
  · exact refused_iff (fun _ => readByte_eq_ok_iff) UInt8.toNat_lt
      fun _ hn => UInt8.toNat_ofNat_of_lt hn
  · exact readAddress_eq_ok_iff.mpr (denotes_of_mem_spellings hword htext)
  · exact readByte_eq_ok_iff.mpr (denotes_of_mem_spellings hword htext)

/-- A number with blanks around it and zeros in front, and with the mark
behind it. -/
theorem read_iff_denotes_padded :
    readAddress " 0X00FF00\t" = .ok 0xFF00 ∧ readByte "ffH" = .ok 0xFF
      ∧ Denotes "+fF00H" 0xFF00 :=
  ⟨((read_iff_denotes _).2.2.2.2.2 2).1 0xFF00 "0X00FF00".toList (by decide)
      ⟨[' '], ['\t'], rfl, List.all_eq_true.mp rfl⟩,
    ((read_iff_denotes _).2.2.2.2.2 0).2 0xFF "ffH".toList (by decide)
      ⟨[], [], rfl, List.all_eq_true.mp rfl⟩,
    ((read_iff_denotes _).1 0xFF00).mp (by decide)⟩

/-- With a mark in front, one behind is no digit. -/
example : readAddress "0x12h" =
    .error (.invalidNumber "0x12h" .invalidDigit) := by
  decide

end

end S100.CommandLine
