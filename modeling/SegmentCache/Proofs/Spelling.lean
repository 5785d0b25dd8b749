import SegmentCache.Json.Basic
import SegmentCache.Proofs.Handles
import SegmentCache.Proofs.NumberText

/-!
# The spelling of tokens

A text spells tokens when it is their writings one after another with blanks between them. Most
tokens have one writing. A string has many, since each of its characters may be written as it is,
behind a backslash or by number. The scanner cuts every text into the tokens it spells.
-/

namespace SegmentCache.Json

/-- The characters that may stand between tokens. -/
def blanks : List Char :=
  [' ', '\t', '\n', '\r']

/-- The characters that have a writing of two characters, behind the second of them. -/
def shortEscapes : List (Char × Char) :=
  [('"', '"'), ('\\', '\\'), ('/', '/'), ('b', '\x08'), ('f', '\x0c'), ('n', '\n'), ('r', '\r'),
    ('t', '\t')]

/-- The number written with four hexadecimal digits. -/
def FourDigits (digits : List Char) (value : Nat) : Prop :=
  digits.length = 4 ∧ hexNumber? digits = some value

/-- The characters of a string and a way to write them between quotes. -/
inductive StringText : List Char → List Char → Prop where
  | nil : StringText [] []
  /-- A character as it is. -/
  | plain {c : Char} {content text : List Char} :
      c ≠ '"' → c ≠ '\\' → 0x20 ≤ c.toNat → StringText content text →
        StringText (c :: content) (c :: text)
  /-- A character with a short writing. -/
  | short {mark c : Char} {content text : List Char} :
      (mark, c) ∈ shortEscapes → StringText content text →
        StringText (c :: content) ('\\' :: mark :: text)
  /-- A character written by number. -/
  | numbered {c : Char} {digits content text : List Char} :
      FourDigits digits c.toNat → StringText content text →
        StringText (c :: content) ('\\' :: 'u' :: (digits ++ text))
  /-- A character written as a pair of numbers. -/
  | paired {c : Char} {first second content text : List Char} {high low : Nat} :
      FourDigits first (0xD800 + high) → FourDigits second (0xDC00 + low) →
      high < 0x400 → low < 0x400 → c.toNat = 0x10000 + high * 0x400 + low →
      StringText content text →
        StringText (c :: content)
          ('\\' :: 'u' :: (first ++ '\\' :: 'u' :: (second ++ text)))

/-- The tokens written with one character. -/
def marks : List (Token × Char) :=
  [(.openArray, '['), (.closeArray, ']'), (.openObject, '\x7b'), (.closeObject, '\x7d'),
    (.comma, ','), (.colon, ':')]

/-- The tokens written as words. -/
def words : List (Token × String) :=
  [(.null, "null"), (.bool true, "true"), (.bool false, "false")]

/-- A text that does not go on with a character that could belong to a number. -/
def EndsNumber (text : List Char) : Prop :=
  ∀ c, text.head? = some c → ¬ IsDigit c ∧ c ∉ ['.', 'e', 'E', '+', '-']

/-- Tokens and a text that is made up of their writings. -/
inductive Spells : List Token → List Char → Prop where
  | nil : Spells [] []
  | blank {c : Char} {tokens : List Token} {text : List Char} :
      c ∈ blanks → Spells tokens text → Spells tokens (c :: text)
  | mark {token : Token} {c : Char} {tokens : List Token} {text : List Char} :
      (token, c) ∈ marks → Spells tokens text → Spells (token :: tokens) (c :: text)
  | word {token : Token} {word : String} {tokens : List Token} {text : List Char} :
      (token, word) ∈ words → Spells tokens text →
        Spells (token :: tokens) (word.toList ++ text)
  | number {number : List Char} {tokens : List Token} {text : List Char} :
      NumberText number → EndsNumber text → Spells tokens text →
        Spells (.number (numberOf number) :: tokens) (number ++ text)
  | string {content : String} {inner : List Char} {tokens : List Token} {text : List Char} :
      StringText content.toList inner → Spells tokens text →
        Spells (.string (some content) :: tokens) ('"' :: (inner ++ '"' :: text))

/-! ## Strings -/

/-- A short writing is read as its character, and not taken for a number. -/
theorem escaped?_of_mem {mark c : Char} (h : (mark, c) ∈ shortEscapes) :
    mark ≠ 'u' ∧ escaped? mark = some c := by
  have hall : ∀ pair ∈ shortEscapes, pair.1 ≠ 'u' ∧ escaped? pair.1 = some pair.2 := by decide
  exact hall (mark, c) h

/-- Hexadecimal digits are single bytes, so four of them are looked at together. -/
theorem utf8Size_of_hexValue? {c : Char} {value : Nat} (h : hexValue? c = some value) :
    c.utf8Size = 1 := by
  have hsmall : c ≤ 'f' := by
    unfold hexValue? at h
    split at h
    · rename_i hc
      exact Char.le_trans hc.2 (by decide)
    · split at h
      · rename_i hc
        exact hc.2
      · split at h
        · rename_i hc
          exact Char.le_trans hc.2 (by decide)
        · cases h
  exact Char.utf8Size_eq_one_iff.2 (UInt32.le_trans (Char.le_def.1 hsmall) (by decide))

/-- Hexadecimal digits are single bytes. -/
theorem utf8Size_of_hexNumber? {digits : List Char} {value : Nat}
    (h : hexNumber? digits = some value) : ∀ c ∈ digits, c.utf8Size = 1 := by
  have hfold : ∀ start, digits.foldlM (fun value c => (hexValue? c).map (value * 16 + ·)) start =
      some value → ∀ c ∈ digits, c.utf8Size = 1 := by
    clear h
    induction digits with
    | nil => simp
    | cons d digits ih =>
      intro start hvalue c hc
      rw [List.foldlM_cons] at hvalue
      obtain ⟨next, hnext, hrest⟩ := Option.bind_eq_some_iff.1 hvalue
      obtain ⟨_, hd, -⟩ := Option.map_eq_some_iff.1 hnext
      obtain rfl | hc := List.mem_cons.1 hc
      · exact utf8Size_of_hexValue? hd
      · exact ih next hrest c hc
  exact hfold 0 h

/-- One character, with the tokens it completes. -/
theorem scan_cons {mode next : Mode} {c : Char} {done : List Token}
    (hstep : mode.step c = (done, next)) (rest : List Char) :
    scan mode (c :: rest) = done ++ scan next rest := by
  rw [scan, hstep]

/-- The four digits behind the mark for a number are read as that number. -/
theorem FourDigits.scan {digits : List Char} {value : Nat} (h : FourDigits digits value)
    (parts : List StringPart) (rest : List Char) :
    scan (.escape parts) ('u' :: (digits ++ rest)) =
      scan (.string (numberedPart value :: parts)) rest := by
  obtain ⟨hlength, hvalue⟩ := h
  have hsize := utf8Size_of_hexNumber? hvalue
  match digits, hlength with
  | [a, b, c, d], _ =>
    simp [Json.scan, Mode.step, inNumbered, hsize a, hsize b, hsize c, hsize d, hvalue]

/-- The number of a character stands for the character. -/
theorem numberedPart_toNat (c : Char) : numberedPart c.toNat = .char c := by
  have hvalid : ¬ (0xD800 ≤ c.toNat ∧ c.toNat < 0xE000) := by
    have hchar : c.toNat < 0xD800 ∨ 0xDFFF < c.toNat ∧ c.toNat < 0x110000 := c.valid
    omega
  rw [numberedPart, if_neg hvalid, Char.ofNat_toNat]

/-- The characters that are kept when a text is read between quotes. -/
def KeptAs (content text : List Char) : Prop :=
  ∃ parts, keepParts none parts = .ok content ∧ ∀ before rest,
    scan (.string before) (text ++ rest) = scan (.string (parts.reverse ++ before)) rest

/-- A text is kept if its first piece is read as the first character and the rest is kept. -/
theorem KeptAs.cons {c : Char} {content piece text : List Char} (h : KeptAs content text)
    (hpiece : ∀ before rest,
      scan (.string before) (piece ++ rest) = scan (.string (.char c :: before)) rest) :
    KeptAs (c :: content) (piece ++ text) := by
  obtain ⟨parts, hkept, hscan⟩ := h
  refine ⟨.char c :: parts, ?_, fun before rest => ?_⟩
  · rw [keepParts, hkept]
    rfl
  · rw [List.append_assoc, hpiece, hscan]
    simp

/-- The text of a string is kept as the characters it stands for. -/
theorem StringText.keptAs {content text : List Char} (h : StringText content text) :
    KeptAs content text := by
  induction h with
  | nil => exact ⟨[], rfl, fun _ _ => rfl⟩
  | @plain c content text hquote hslash hcontrol _ ih =>
    show KeptAs (c :: content) ([c] ++ text)
    refine ih.cons fun before rest => ?_
    have hstep : Mode.step (.string before) c = ([], .string (.char c :: before)) := by
      simp [Mode.step, hquote, hslash, Nat.not_lt.2 hcontrol]
    exact scan_cons hstep rest
  | @short mark c content text hmark _ ih =>
    show KeptAs (c :: content) (['\\', mark] ++ text)
    refine ih.cons fun before rest => ?_
    obtain ⟨hu, hescaped⟩ := escaped?_of_mem hmark
    have hstep : Mode.step (.escape before) mark = ([], .string (.char c :: before)) := by
      simp [Mode.step, hu, hescaped]
    exact scan_cons hstep rest
  | @numbered c digits content text hdigits _ ih =>
    show KeptAs (c :: content) ('\\' :: 'u' :: digits ++ text)
    refine ih.cons fun before rest => ?_
    rw [← numberedPart_toNat c]
    exact hdigits.scan before rest
  | @paired c first second content text high low hfirst hsecond hhigh hlow hc _ ih =>
    obtain ⟨parts, hkept, hscan⟩ := ih
    have hhalf : ∀ n, 0xD800 ≤ n ∧ n < 0xE000 → numberedPart n = .surrogate n :=
      fun n hn => if_pos hn
    have hpair : pairedChar (0xD800 + high) (0xDC00 + low) = c := by
      rw [pairedChar, Nat.add_sub_cancel_left, Nat.add_sub_cancel_left, ← hc, Char.ofNat_toNat]
    refine ⟨.surrogate (0xD800 + high) :: .surrogate (0xDC00 + low) :: parts, ?_,
      fun before rest => ?_⟩
    · rw [keepParts, if_pos (by omega), hkept, hpair]
      rfl
    · have hfirst := hfirst.scan before ('\\' :: 'u' :: (second ++ (text ++ rest)))
      have hsecond := hsecond.scan (.surrogate (0xD800 + high) :: before) (text ++ rest)
      rw [hhalf _ (by omega)] at hfirst hsecond
      calc scan (.string before)
            ('\\' :: 'u' :: (first ++ '\\' :: 'u' :: (second ++ text)) ++ rest)
          = scan (.escape before)
              ('u' :: (first ++ '\\' :: 'u' :: (second ++ (text ++ rest)))) := by
            simp [scan_cons (show Mode.step (.string before) '\\' = ([], .escape before) from rfl)]
        _ = scan (.escape (.surrogate (0xD800 + high) :: before))
              ('u' :: (second ++ (text ++ rest))) := hfirst
        _ = scan (.string (.surrogate (0xDC00 + low) :: .surrogate (0xD800 + high) :: before))
              (text ++ rest) := hsecond
        _ = _ := by
            rw [hscan]
            simp

/-! ## Numbers -/

/-- In a number, reading goes on through what the number takes. -/
theorem scan_number_run {n next : PartialNumber} {cs : List Char} (hrun : n.run? cs = some next)
    (rest : List Char) : scan (.number n) (cs ++ rest) = scan (.number next) rest := by
  induction cs generalizing n with
  | nil =>
    cases hrun
    rfl
  | cons c cs ih =>
    rw [PartialNumber.run?, List.foldlM_cons] at hrun
    obtain ⟨second, hsecond, hrest⟩ := Option.bind_eq_some_iff.1 hrun
    have hstep : Mode.step (.number n) c = ([], .number second) := by
      rw [PartialNumber.next?] at hsecond
      simp only [Mode.step, inNumber, hsecond]
    rw [List.cons_append, scan_cons hstep]
    exact ih hrest

/-- A complete number ends where the text does not go on with it. -/
theorem scan_number_end {n : PartialNumber} (hn : n.isComplete = true) {rest : List Char}
    (hrest : EndsNumber rest) : scan (.number n) rest = .number n.value :: scan .between rest := by
  cases rest with
  | nil => simp [scan, Mode.finish, hn]
  | cons c rest =>
    obtain ⟨hdigit, hmark⟩ := hrest c rfl
    have hstop : n.mark? c = none := by
      simp only [List.mem_cons, List.not_mem_nil, or_false, not_or] at hmark
      simp [PartialNumber.mark?, hmark]
    have hstep : Mode.step (.number n) c =
        (.number n.value :: (beginToken c).1, (beginToken c).2) := by
      simp only [IsDigit] at hdigit
      simp [Mode.step, inNumber, hdigit, hstop, hn]
    rw [scan_cons hstep, scan]
    rfl

/-- A character that can begin a number does. -/
theorem beginToken_of_start {c : Char} {n : PartialNumber}
    (hn : (PartialNumber.start false).next? c = some n) : beginToken c = ([], .number n) := by
  have hdigit : IsDigit c := by
    by_contra hc
    have hmark : (PartialNumber.start false).next? c = none := by
      rw [PartialNumber.next?_mark hc, PartialNumber.mark?]
      split_ifs <;> rfl
    rw [hmark] at hn
    cases hn
  have hne : ∀ d, ¬ IsDigit d → c ≠ d := fun d hd h => hd (h ▸ hdigit)
  have hstart : PartialNumber.digit? { phase := .sign, negative := false } (c.toNat - 48) =
      some n := by rw [← hn, PartialNumber.next?_digit hdigit]; rfl
  simp only [IsDigit] at hdigit
  simp [beginToken, hne ' ' (by decide), hne '\t' (by decide), hne '\n' (by decide),
    hne '\r' (by decide), hne '[' (by decide), hne ']' (by decide), hne '\x7b' (by decide),
    hne '\x7d' (by decide), hne ',' (by decide), hne ':' (by decide), hne 'n' (by decide),
    hne 't' (by decide), hne 'f' (by decide), hne '"' (by decide), hne '-' (by decide), hdigit,
    hstart]

/-- Between tokens, the text of a complete number is read as a number. -/
theorem scan_of_ofText? {cs : List Char} {n : PartialNumber}
    (hcs : PartialNumber.ofText? cs = some n) (hn : n.isComplete = true) (rest : List Char) :
    scan .between (cs ++ rest) = scan (.number n) rest := by
  unfold PartialNumber.ofText? at hcs
  split at hcs
  · rename_i cs
    have hstep : Mode.step .between '-' = ([], .number (.start true)) := rfl
    rw [List.cons_append, scan_cons hstep]
    exact scan_number_run hcs rest
  · cases cs with
    | nil =>
      cases hcs
      cases hn
    | cons c cs =>
      rw [PartialNumber.run?, List.foldlM_cons] at hcs
      obtain ⟨first, hfirst, hrest⟩ := Option.bind_eq_some_iff.1 hcs
      have hstep : Mode.step .between c = ([], .number first) := beginToken_of_start hfirst
      rw [List.cons_append, scan_cons hstep]
      exact scan_number_run hrest rest

/-- A text of the grammar is read as one number if what comes behind it ends one. -/
theorem NumberText.scan {number : List Char} (h : NumberText number) {rest : List Char}
    (hrest : EndsNumber rest) :
    scan .between (number ++ rest) = .number (numberOf number) :: scan .between rest := by
  obtain ⟨n, hn, hend⟩ := PartialNumber.exists_ofText? h
  have hvalue : numberOf number = n.value := by
    rw [numberOf, hn]
    rfl
  rw [hvalue, ← scan_number_end hend hrest]
  exact scan_of_ofText? hn hend rest

/-! ## Texts -/

/-- The tokens of a text are those that it spells. -/
theorem Spells.scan {tokens : List Token} {text : List Char} (h : Spells tokens text) :
    scan .between text = tokens := by
  induction h with
  | nil => rfl
  | @blank c tokens text hc _ ih =>
    have hall : ∀ c ∈ blanks, Mode.step .between c = ([], .between) := by
      simp only [blanks, List.forall_mem_cons]
      exact ⟨rfl, rfl, rfl, rfl, by simp⟩
    rw [scan_cons (hall c hc), ih]
    rfl
  | @mark token c tokens text hc _ ih =>
    have hall : ∀ pair ∈ marks, Mode.step .between pair.2 = ([pair.1], .between) := by
      simp only [marks, List.forall_mem_cons]
      exact ⟨rfl, rfl, rfl, rfl, rfl, rfl, by simp⟩
    rw [scan_cons (hall _ hc), ih]
    rfl
  | @word token word tokens text hword _ ih =>
    have hall : ∀ pair ∈ words, ∀ rest,
        Json.scan .between (pair.2.toList ++ rest) = pair.1 :: Json.scan .between rest := by
      simp only [words, List.forall_mem_cons]
      exact ⟨fun _ => rfl, fun _ => rfl, fun _ => rfl, by simp⟩
    rw [hall _ hword, ih]
  | @number number tokens text hnumber hend _ ih => rw [hnumber.scan hend, ih]
  | @string content inner tokens text hinner _ ih =>
    obtain ⟨parts, hkept, hscan⟩ := hinner.keptAs
    have hquote : Mode.step (.string parts.reverse) '"' =
        ([.string (some content)], .between) := by
      simp [Mode.step, stringToken, hkept]
    have hopen : Mode.step .between '"' = ([], .string []) := rfl
    rw [scan_cons hopen, List.nil_append, hscan, List.append_nil, scan_cons hquote, ih]
    rfl

end SegmentCache.Json
