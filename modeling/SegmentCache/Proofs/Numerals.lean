import Mathlib
import SegmentCache.Text.Blank
import SegmentCache.Text.Numeral
import SegmentCache.Proofs.NumberText

/-!
# Numerals between blanks

A number on the command line is written in decimal digits, behind a plus sign or none, and there
may be blanks around it. The reader takes it digit by digit and stops as soon as the digits leave
the range. Here its answers are compared with the grammar: it reads a text exactly when the text
denotes a number in range, and what it says of any other text names the first thing that spoils it.
-/

namespace SegmentCache.Text

open Json (IsDigit IsDigits)

/-- A text that neither begins nor ends with a blank. -/
def Trimmed (cs : List Char) : Prop :=
  (∀ c ∈ cs.head?, isBlank c = false) ∧ ∀ c ∈ cs.getLast?, isBlank c = false

instance (cs : List Char) : Decidable (Trimmed cs) :=
  decidable_of_iff (cs.head?.all (!isBlank ·) = true ∧ cs.getLast?.all (!isBlank ·) = true)
    (by simp [Trimmed, Option.all_eq_true])

/-- A text that consists of another one with blanks before and behind it. -/
def TrimsTo (cs core : List Char) : Prop :=
  ∃ before after, cs = before ++ core ++ after ∧ (∀ c ∈ before, isBlank c = true) ∧
    (∀ c ∈ after, isBlank c = true) ∧ Trimmed core

/-- A text denotes a number: it consists of decimal digits, at least one, behind a plus sign or
none. Zeros in front do not matter. -/
inductive Denotes : List Char → Nat → Prop
  /-- There is no sign. -/
  | plain {digits : List Char} (hdigits : IsDigits digits) :
      Denotes digits (Nat.ofDigitChars 10 digits 0)
  /-- There is a plus sign. -/
  | plus {digits : List Char} (hdigits : IsDigits digits) :
      Denotes ('+' :: digits) (Nat.ofDigitChars 10 digits 0)

/-- A text with blanks around it or none denotes a number. -/
def Carries (part : String) (n : Nat) : Prop :=
  ∃ core, TrimsTo part.toList core ∧ Denotes core n

/-- What follows the plus sign of a text, if it begins with one. -/
def behindPlus : List Char → List Char
  | '+' :: cs => cs
  | cs => cs

/-- Why a text does not denote a number below a bound. Of a character that is not a digit and of
digits that reach the bound, what comes first counts. -/
inductive Spoils (bound : Nat) : List Char → NumeralFault → Prop
  /-- There is nothing. -/
  | empty : Spoils bound [] .empty
  /-- There is nothing behind the sign. -/
  | sign : Spoils bound ['+'] .invalidDigit
  /-- Behind digits in range there is something else. -/
  | digit {cs digits rest : List Char} {c : Char} (hcs : behindPlus cs = digits ++ c :: rest)
      (hdigits : ∀ d ∈ digits, IsDigit d) (hsmall : Nat.ofDigitChars 10 digits 0 < bound)
      (hc : ¬ IsDigit c) : Spoils bound cs .invalidDigit
  /-- The digits reach the bound. -/
  | large {cs digits rest : List Char} (hcs : behindPlus cs = digits ++ rest)
      (hdigits : ∀ d ∈ digits, IsDigit d) (hlarge : bound ≤ Nat.ofDigitChars 10 digits 0) :
      Spoils bound cs .tooLarge

/-- Trimming a text gives what it has between its outer blanks. -/
theorem trimsTo_trimChars (cs : List Char) : TrimsTo cs (trimChars cs) := by
  have htrim : trimChars cs = (cs.dropWhile isBlank).rdropWhile isBlank := rfl
  rw [htrim]
  refine ⟨cs.takeWhile isBlank, (cs.dropWhile isBlank).rtakeWhile isBlank, ?_, ?_, ?_, ?_, ?_⟩
  · rw [List.append_assoc, List.rdropWhile_append_rtakeWhile, List.takeWhile_append_dropWhile]
  · exact fun c => List.mem_takeWhile_imp
  · exact fun c => List.mem_rtakeWhile_imp
  · -- Nothing is taken from the front any more, so the first character stays the first.
    intro c hc
    have hfirst : c ∈ (cs.dropWhile isBlank).head? := by
      obtain ⟨rest, hrest⟩ := List.rdropWhile_prefix isBlank (cs.dropWhile isBlank)
      rw [← hrest, List.head?_append, hc]
      rfl
    have hnot := List.head?_dropWhile_not isBlank cs
    rw [hfirst] at hnot
    simpa using hnot
  · intro c hc
    obtain ⟨hne, rfl⟩ := List.mem_getLast?_eq_getLast hc
    simpa using List.rdropWhile_last_not isBlank _ hne

/-- Blanks around a trimmed text go when it is trimmed, and nothing else does. -/
theorem TrimsTo.trimChars_eq {cs core : List Char} (htrims : TrimsTo cs core) :
    trimChars cs = core := by
  obtain ⟨before, after, rfl, hbefore, hafter, hfirst, hlast⟩ := htrims
  rw [trimChars, List.append_assoc, List.dropWhile_append_of_pos hbefore]
  cases core with
  | nil => simp [List.dropWhile_eq_nil_iff.mpr hafter]
  | cons c core =>
    have hc : isBlank c = false := hfirst c rfl
    rw [List.cons_append, List.dropWhile_cons_of_neg (by simp [hc]), ← List.cons_append,
      List.reverse_append, List.dropWhile_append_of_pos (by simpa using hafter)]
    rw [← List.head?_reverse] at hlast
    cases hrev : (c :: core).reverse with
    | nil => simp at hrev
    | cons d rest =>
      have hd : isBlank d = false := hlast d (by rw [hrev]; rfl)
      rw [List.dropWhile_cons_of_neg (by simp [hd]), ← hrev, List.reverse_reverse]

/-- A text without blanks at its ends is what it trims to. -/
theorem Trimmed.trimsTo {cs : List Char} (htrimmed : Trimmed cs) : TrimsTo cs cs :=
  ⟨[], [], by simp, by simp, by simp, htrimmed⟩

/-- A decimal digit has its value. -/
theorem digitValue?_of_isDigit {c : Char} (hc : IsDigit c) :
    digitValue? c = some (c.toNat - '0'.toNat) :=
  if_pos hc

/-- Digits that follow do not make a number smaller. -/
theorem le_ofDigitChars (cs : List Char) (value : Nat) : value ≤ Nat.ofDigitChars 10 cs value := by
  induction cs generalizing value with
  | nil => exact Nat.le_refl value
  | cons c cs ih =>
    rw [Nat.ofDigitChars_cons]
    exact Nat.le_trans (by omega) (ih _)

/-- Digits are read to their end exactly when the number that they denote is in range. The partial
values only grow, so none of them leaves the range before the last one does. -/
theorem readDigits_eq_ok_iff {bound value n : Nat} (hvalue : value < bound) (cs : List Char) :
    readDigits bound value cs = .ok n ↔
      (∀ c ∈ cs, IsDigit c) ∧ Nat.ofDigitChars 10 cs value = n ∧ n < bound := by
  induction cs generalizing value with
  | nil =>
    rw [readDigits, Except.ok.injEq, Nat.ofDigitChars_nil]
    constructor
    · rintro rfl
      exact ⟨by simp, rfl, hvalue⟩
    · exact fun hread => hread.2.1
  | cons c cs ih =>
    rw [readDigits, Nat.ofDigitChars_cons, List.forall_mem_cons]
    by_cases hc : IsDigit c
    · rw [digitValue?_of_isDigit hc, Nat.mul_comm 10 value]
      by_cases hfits : value * 10 + (c.toNat - '0'.toNat) < bound
      · simp only [if_pos hfits, ih hfits, hc, true_and]
      · -- What follows can only add to a value that is out of range already.
        have hgrows := le_ofDigitChars cs (value * 10 + (c.toNat - '0'.toNat))
        simp only [if_neg hfits, reduceCtorEq, false_iff]
        omega
    · have hnone : digitValue? c = none := if_neg hc
      simp [hnone, hc]

/-- Where digits are not read to their end, good digits stand before what spoils them. -/
theorem readDigits_eq_error {bound value : Nat} {cs : List Char} {fault : NumeralFault}
    (hvalue : value < bound) (herror : readDigits bound value cs = .error fault) :
    (∃ digits c rest, fault = .invalidDigit ∧ cs = digits ++ c :: rest ∧
      (∀ d ∈ digits, IsDigit d) ∧ Nat.ofDigitChars 10 digits value < bound ∧ ¬ IsDigit c) ∨
    ∃ digits rest, fault = .tooLarge ∧ cs = digits ++ rest ∧
      (∀ d ∈ digits, IsDigit d) ∧ bound ≤ Nat.ofDigitChars 10 digits value := by
  induction cs generalizing value with
  | nil => cases herror
  | cons c cs ih =>
    rw [readDigits] at herror
    by_cases hc : IsDigit c
    · rw [digitValue?_of_isDigit hc, Nat.mul_comm value 10] at herror
      dsimp only at herror
      split at herror
      · rename_i hfits
        obtain ⟨digits, d, rest, hfault, rfl, hdigits, hsmall, hd⟩ |
          ⟨digits, rest, hfault, rfl, hdigits, hlarge⟩ := ih hfits herror
        · refine .inl ⟨c :: digits, d, rest, hfault, rfl, ?_, ?_, hd⟩
          · simpa [hc] using hdigits
          · rwa [Nat.ofDigitChars_cons]
        · refine .inr ⟨c :: digits, rest, hfault, rfl, ?_, ?_⟩
          · simpa [hc] using hdigits
          · rwa [Nat.ofDigitChars_cons]
      · rename_i hfull
        cases herror
        refine .inr ⟨[c], cs, rfl, rfl, by simpa using hc, ?_⟩
        rw [Nat.ofDigitChars_cons, Nat.ofDigitChars_nil]
        omega
    · have hnone : digitValue? c = none := if_neg hc
      rw [hnone] at herror
      cases herror
      exact .inl ⟨[], c, cs, rfl, rfl, by simp, hvalue, hc⟩

/-- A sign alone is no number, and behind a sign and without one digits are read alike. -/
theorem readNumeral_cases (bound : Nat) (cs : List Char) :
    (cs = [] ∧ readNumeral bound cs = .error .empty) ∨
      (cs = ['+'] ∧ readNumeral bound cs = .error .invalidDigit) ∨
      (behindPlus cs ≠ [] ∧ readNumeral bound cs = readDigits bound 0 (behindPlus cs)) := by
  unfold readNumeral
  split
  · exact .inl ⟨rfl, rfl⟩
  · exact .inr (.inl ⟨rfl, rfl⟩)
  · rename_i cs hne
    exact .inr (.inr ⟨hne, rfl⟩)
  · rename_i hempty _ hplus
    have hbehind : behindPlus cs = cs := by
      unfold behindPlus
      split
      · exact absurd rfl (hplus _)
      · rfl
    rw [hbehind]
    exact .inr (.inr ⟨hempty, rfl⟩)

/-- A text denotes a number exactly when it has digits behind its sign. -/
theorem denotes_iff {cs : List Char} {n : Nat} :
    Denotes cs n ↔ IsDigits (behindPlus cs) ∧ Nat.ofDigitChars 10 (behindPlus cs) 0 = n := by
  -- A plus sign is not a digit, so digits alone have no sign that could be dropped.
  have hbehind {digits : List Char} (hdigits : IsDigits digits) : behindPlus digits = digits := by
    unfold behindPlus
    split
    · exact absurd (hdigits.2 '+' (by simp)) (by decide)
    · rfl
  constructor
  · rintro (hdigits | hdigits)
    · rw [hbehind hdigits]
      exact ⟨hdigits, rfl⟩
    · exact ⟨hdigits, rfl⟩
  · rintro ⟨hdigits, rfl⟩
    unfold behindPlus at hdigits ⊢
    split at hdigits
    · exact .plus hdigits
    · exact .plain hdigits

/-- The reader accepts the numerals of numbers in range and nothing else. -/
theorem readNumeral_eq_ok_iff {bound : Nat} (hbound : 0 < bound) {cs : List Char} {n : Nat} :
    readNumeral bound cs = .ok n ↔ Denotes cs n ∧ n < bound := by
  rw [denotes_iff]
  obtain ⟨rfl, hread⟩ | ⟨rfl, hread⟩ | ⟨hne, hread⟩ := readNumeral_cases bound cs
  · simp [hread, behindPlus, IsDigits]
  · simp [hread, behindPlus, IsDigits]
  · rw [hread, readDigits_eq_ok_iff hbound, IsDigits, and_iff_right hne, and_assoc]

/-- What the reader says of a text that it refuses is what spoils it. -/
theorem spoils_of_readNumeral {bound : Nat} (hbound : 0 < bound) {cs : List Char}
    {fault : NumeralFault} (herror : readNumeral bound cs = .error fault) :
    Spoils bound cs fault := by
  obtain ⟨rfl, hread⟩ | ⟨rfl, hread⟩ | ⟨-, hread⟩ := readNumeral_cases bound cs
  · cases hread.symm.trans herror
    exact .empty
  · cases hread.symm.trans herror
    exact .sign
  · rw [hread] at herror
    obtain ⟨digits, c, rest, rfl, hcs, hdigits, hsmall, hc⟩ |
      ⟨digits, rest, rfl, hcs, hdigits, hlarge⟩ := readDigits_eq_error hbound herror
    · exact .digit hcs hdigits hsmall hc
    · exact .large hcs hdigits hlarge

/-- Reading what is left of a text after trimming finds the number that it carries. -/
theorem readNumeral_trimChars_eq_ok_iff {bound : Nat} (hbound : 0 < bound) {part : String}
    {n : Nat} :
    readNumeral bound (trimChars part.toList) = .ok n ↔ Carries part n ∧ n < bound := by
  rw [readNumeral_eq_ok_iff hbound, Carries]
  constructor
  · rintro ⟨hdenotes, hn⟩
    exact ⟨⟨_, trimsTo_trimChars _, hdenotes⟩, hn⟩
  · rintro ⟨⟨core, htrims, hdenotes⟩, hn⟩
    rw [htrims.trimChars_eq]
    exact ⟨hdenotes, hn⟩

/-- A number written in decimal carries itself. -/
theorem carries_toString (n : Nat) : Carries (toString n) n := by
  have hdigits := Json.isDigits_toDigits n
  have hplain (c : Char) (hc : c ∈ Nat.toDigits 10 n) : isBlank c = false := by
    obtain ⟨hlow, hhigh⟩ := hdigits.2 c hc
    have hlow' : 48 ≤ c.toNat := hlow
    have hhigh' : c.toNat ≤ 57 := hhigh
    simp only [isBlank, Bool.or_eq_false_iff, Bool.and_eq_false_iff, decide_eq_false_iff_not,
      beq_eq_false_iff_ne]
    omega
  have htrimmed : Trimmed (Nat.toDigits 10 n) :=
    ⟨fun c hc => hplain c (List.mem_of_mem_head? hc),
      fun c hc => hplain c (List.mem_of_mem_getLast? hc)⟩
  refine ⟨Nat.toDigits 10 n, ?_, ?_⟩
  · rw [Nat.toString_eq_ofList_toDigits, String.toList_ofList]
    exact htrimmed.trimsTo
  · have hdenotes := Denotes.plain hdigits
    rwa [Nat.ofDigitChars_ten_toDigits] at hdenotes

end SegmentCache.Text
