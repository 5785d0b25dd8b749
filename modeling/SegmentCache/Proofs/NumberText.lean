import Mathlib.Data.Nat.Digits.Defs
import SegmentCache.Json.Token

/-!
# The text of numbers

Numbers have a grammar: a sign, digits before the point, digits behind it and an exponent, of
which only the second part has to be there. The scanner takes a number character by character and
knows only how far it has got. Here every number of the grammar is shown to be taken to its end,
and a word written in decimal to denote itself.
-/

namespace SegmentCache.Json

/-- A decimal digit. -/
def IsDigit (c : Char) : Prop :=
  '0' ≤ c ∧ c ≤ '9'

instance (c : Char) : Decidable (IsDigit c) :=
  inferInstanceAs (Decidable (_ ∧ _))

/-- At least one digit. -/
def IsDigits (cs : List Char) : Prop :=
  cs ≠ [] ∧ ∀ c ∈ cs, IsDigit c

/-- Nothing or a minus sign. -/
inductive SignText : List Char → Prop where
  | plain : SignText []
  | minus : SignText ['-']

/-- The digits before the point, which begin with a zero only if there are no others. -/
inductive WholeText : List Char → Prop where
  | zero : WholeText ['0']
  | digits {cs : List Char} : IsDigits cs → cs.head? ≠ some '0' → WholeText cs

/-- Nothing or a point with the digits behind it. -/
inductive PlacesText : List Char → Prop where
  | none : PlacesText []
  | digits {cs : List Char} : IsDigits cs → PlacesText ('.' :: cs)

/-- Nothing or an exponent with or without a sign. -/
inductive ExponentText : List Char → Prop where
  | none : ExponentText []
  | plain {mark : Char} {cs : List Char} :
      mark = 'e' ∨ mark = 'E' → IsDigits cs → ExponentText (mark :: cs)
  | signed {mark sign : Char} {cs : List Char} :
      mark = 'e' ∨ mark = 'E' → sign = '+' ∨ sign = '-' → IsDigits cs →
        ExponentText (mark :: sign :: cs)

/-- The text of a number. -/
inductive NumberText : List Char → Prop where
  | parts {sign whole places exponent : List Char} :
      SignText sign → WholeText whole → PlacesText places → ExponentText exponent →
        NumberText (sign ++ (whole ++ (places ++ exponent)))

/-- The part before the point begins with a digit. -/
theorem WholeText.exists_head? {whole : List Char} (hwhole : WholeText whole) :
    ∃ c, whole.head? = some c ∧ IsDigit c := by
  cases hwhole with
  | zero => exact ⟨'0', rfl, by decide⟩
  | digits hdigits _ =>
    obtain ⟨c, cs, rfl⟩ := List.exists_cons_of_ne_nil hdigits.1
    exact ⟨c, rfl, hdigits.2 c (by simp)⟩

/-- Digits are not taken for a sign. -/
theorem WholeText.head?_append {whole : List Char} (hwhole : WholeText whole) (more : List Char) :
    (whole ++ more).head? ≠ some '-' := by
  obtain ⟨c, hc, hdigit⟩ := hwhole.exists_head?
  rw [List.head?_append, hc]
  rintro ⟨⟩
  exact absurd hdigit (by decide)

/-- The character of a digit is one. -/
theorem isDigit_digitChar {d : Nat} (hd : d < 10) : IsDigit (Nat.digitChar d) := by
  revert d
  decide

/-- The value of a digit is found from its character. -/
theorem toNat_digitChar_sub {d : Nat} (hd : d < 10) :
    (Nat.digitChar d).toNat - '0'.toNat = d := by
  revert d
  decide

/-- A number in decimal consists of digits. -/
theorem isDigits_toDigits (n : Nat) : IsDigits (Nat.toDigits 10 n) := by
  refine ⟨Nat.toDigits_ne_nil, fun c hc => ?_⟩
  have hdigit : c.isDigit = true := Nat.isDigit_of_mem_toDigits (by decide) (by decide) hc
  simpa [Char.isDigit, IsDigit, Char.le_def] using hdigit

/-- The digits of a number begin with a zero only if it is zero. -/
theorem head?_toDigits {n : Nat} (hn : n ≠ 0) : (Nat.toDigits 10 n).head? ≠ some '0' := by
  have hzero : ∀ d < 10, Nat.digitChar d = '0' → d = 0 := by decide
  induction n using Nat.strong_induction_on with
  | _ n ih =>
    rw [Nat.toDigits_eq_if (by decide)]
    split
    · rename_i hsmall
      simpa using mt (hzero n hsmall) hn
    · rename_i hlarge
      have hhead := ih (n / 10) (by omega) (by omega)
      obtain ⟨c, cs, hcs⟩ := List.exists_cons_of_ne_nil (isDigits_toDigits (n / 10)).1
      rw [hcs] at hhead ⊢
      exact hhead

/-- A number in decimal can stand before the point. -/
theorem wholeText_toDigits (n : Nat) : WholeText (Nat.toDigits 10 n) := by
  by_cases hn : n = 0
  · subst hn
    exact .zero
  · exact .digits (isDigits_toDigits n) (head?_toDigits hn)

namespace PartialNumber

/-- A number of which at most the sign has been read. -/
def start (negative : Bool) : PartialNumber :=
  { phase := .sign, negative }

/-- Goes on with a character, if it may stand here. -/
def next? (n : PartialNumber) (c : Char) : Option PartialNumber :=
  if '0' ≤ c ∧ c ≤ '9' then n.digit? (c.toNat - '0'.toNat) else n.mark? c

/-- Goes on with some characters, if they may stand here. -/
def run? (n : PartialNumber) (cs : List Char) : Option PartialNumber :=
  cs.foldlM next? n

/-- The number begun by a text that holds nothing else, as far as it has been read. -/
def ofText? : List Char → Option PartialNumber
  | '-' :: cs => (start true).run? cs
  | cs => (start false).run? cs

/-- Taking a text and then another is taking both. -/
theorem run?_append {n next : PartialNumber} {cs : List Char} (hrun : n.run? cs = some next)
    (more : List Char) : n.run? (cs ++ more) = next.run? more := by
  rw [run?, List.foldlM_append]
  rw [run?] at hrun
  rw [hrun]
  rfl

/-- Taking a text begins with its first character. -/
theorem run?_cons {n next : PartialNumber} {c : Char} (hnext : n.next? c = some next)
    (cs : List Char) : n.run? (c :: cs) = next.run? cs := by
  rw [run?, List.foldlM_cons, hnext]
  rfl

/-- A digit is taken as one. -/
theorem next?_digit {c : Char} (hc : IsDigit c) (n : PartialNumber) :
    n.next? c = n.digit? (c.toNat - '0'.toNat) :=
  if_pos hc

/-- What is not a digit is taken as a mark. -/
theorem next?_mark {c : Char} (hc : ¬ IsDigit c) (n : PartialNumber) : n.next? c = n.mark? c :=
  if_neg hc

/-- A digit before the point does not change how far the number has got. -/
theorem phase_pushWhole (n : PartialNumber) (digit : Nat) :
    (n.pushWhole digit).phase = n.phase := by
  unfold pushWhole
  split <;> rfl

/-- A digit is appended as long as the value fits into a word. -/
theorem pushWhole_of_fits {n : PartialNumber} {digit : Nat} (hkept : n.dropping = false)
    (hfits : n.significand * 10 + digit < UInt64.size) :
    n.pushWhole digit = { n with significand := n.significand * 10 + digit } := by
  rw [pushWhole, hkept]
  exact if_neg (by simpa using hfits)

/-- In the three parts that consist of digits, a digit leaves the reading where it is. -/
theorem exists_next?_of_digits {n : PartialNumber} {c : Char} (hc : IsDigit c)
    (hphase : n.phase = .whole ∨ n.phase = .places ∨ n.phase = .exponent) :
    ∃ next, n.next? c = some next ∧ next.phase = n.phase := by
  rw [next?_digit hc]
  unfold digit?
  obtain h | h | h := hphase
  · exact ⟨_, by rw [h], phase_pushWhole n _⟩
  · exact ⟨_, by rw [h], h.symm⟩
  · exact ⟨_, by rw [h], h.symm⟩

/-- Where digits can stand, any number of them is taken. -/
theorem exists_run?_of_digits {cs : List Char} (hcs : ∀ c ∈ cs, IsDigit c) {n : PartialNumber}
    (hphase : n.phase = .whole ∨ n.phase = .places ∨ n.phase = .exponent) :
    ∃ next, n.run? cs = some next ∧ next.phase = n.phase := by
  induction cs generalizing n with
  | nil => exact ⟨n, rfl, rfl⟩
  | cons c cs ih =>
    obtain ⟨next, hnext, hsame⟩ := exists_next?_of_digits (hcs c (by simp)) hphase
    obtain ⟨last, hlast, hkept⟩ :=
      ih (fun d hd => hcs d (by simp [hd])) (hsame.symm ▸ hphase)
    exact ⟨last, by rw [run?_cons hnext, hlast], hkept.trans hsame⟩

/-- Digits are read to their end once the first of them has led into a part made of digits. -/
theorem exists_run?_of_first {cs : List Char} (hcs : IsDigits cs) {n : PartialNumber}
    {phase : NumberPhase} (hpart : phase = .whole ∨ phase = .places ∨ phase = .exponent)
    (hfirst : ∀ c, cs.head? = some c → ∃ next, n.next? c = some next ∧ next.phase = phase) :
    ∃ next, n.run? cs = some next ∧ next.phase = phase := by
  obtain ⟨hne, hdigits⟩ := hcs
  cases cs with
  | nil => exact absurd rfl hne
  | cons c cs =>
    obtain ⟨next, hnext, hphase⟩ := hfirst c rfl
    have hrest : ∀ d ∈ cs, IsDigit d := fun d hd => hdigits d (by simp [hd])
    obtain ⟨last, hlast, hkept⟩ := exists_run?_of_digits hrest (hphase.symm ▸ hpart)
    exact ⟨last, by rw [run?_cons hnext, hlast], hkept.trans hphase⟩

/-- Behind the sign, the digits before the point are taken. -/
theorem exists_run?_of_whole {whole : List Char} (hwhole : WholeText whole) (negative : Bool) :
    ∃ next, (start negative).run? whole = some next ∧
      (next.phase = .zero ∨ next.phase = .whole) := by
  cases hwhole with
  | zero => exact ⟨_, rfl, .inl rfl⟩
  | digits hdigits hzero =>
    obtain ⟨next, hnext, hphase⟩ := exists_run?_of_first hdigits (.inl rfl) fun c hc => by
      have hdigit : IsDigit c := hdigits.2 c (List.mem_of_mem_head? hc)
      have hvalue : c.toNat - '0'.toNat ≠ 0 := by
        intro h
        have hle : '0'.toNat ≤ c.toNat := hdigit.1
        have hsame : c.toNat = '0'.toNat := by omega
        exact hzero (hc.trans (congrArg some (Char.toNat_inj.1 hsame)))
      have hstart : (start negative).next? c =
          some { (start negative).pushWhole (c.toNat - '0'.toNat) with phase := .whole } := by
        rw [next?_digit hdigit]
        simp only [digit?, start, if_neg hvalue]
      exact ⟨_, hstart, rfl⟩
    exact ⟨next, hnext, .inr hphase⟩

/-- Behind these, the point and the digits behind it are taken. -/
theorem exists_run?_of_places {places : List Char} (hplaces : PlacesText places)
    {n : PartialNumber} (hphase : n.phase = .zero ∨ n.phase = .whole) :
    ∃ next, n.run? places = some next ∧
      (next.phase = .zero ∨ next.phase = .whole ∨ next.phase = .places) := by
  cases hplaces with
  | none => exact ⟨n, rfl, hphase.imp_right .inl⟩
  | digits hdigits =>
    have hpoint : ∃ next, n.next? '.' = some next ∧ next.phase = .point := by
      unfold next? mark?
      obtain h | h := hphase <;> rw [h] <;> exact ⟨_, rfl, rfl⟩
    obtain ⟨point, hnext, hpoint⟩ := hpoint
    obtain ⟨last, hlast, hend⟩ :=
      exists_run?_of_first (n := point) hdigits (.inr (.inl rfl)) fun c hc => by
        rw [next?_digit (hdigits.2 c (List.mem_of_mem_head? hc)), digit?, hpoint]
        exact ⟨_, rfl, rfl⟩
    exact ⟨last, by rw [run?_cons hnext, hlast], .inr (.inr hend)⟩

/-- Behind these, the exponent is taken and completes the number. -/
theorem exists_run?_of_exponent {exponent : List Char} (hexponent : ExponentText exponent)
    {n : PartialNumber}
    (hphase : n.phase = .zero ∨ n.phase = .whole ∨ n.phase = .places) :
    ∃ next, n.run? exponent = some next ∧ next.isComplete = true := by
  have hmark : ∀ mark, mark = 'e' ∨ mark = 'E' →
      ∃ next, n.next? mark = some next ∧ next.phase = .exponentMark := by
    rintro mark (rfl | rfl)
    all_goals
      unfold next? mark?
      obtain h | h | h := hphase <;> rw [h] <;> exact ⟨_, rfl, rfl⟩
  -- Behind the letter and behind its sign alike, the digits make up the exponent.
  have hdigits : ∀ {cs : List Char}, IsDigits cs → ∀ {begun : PartialNumber},
      begun.phase = .exponentMark ∨ begun.phase = .exponentSign →
        ∃ next, begun.run? cs = some next ∧ next.isComplete = true := by
    intro cs hcs begun hbegun
    obtain ⟨last, hlast, hend⟩ :=
      exists_run?_of_first (n := begun) hcs (.inr (.inr rfl)) fun c hc => by
        rw [next?_digit (hcs.2 c (List.mem_of_mem_head? hc)), digit?]
        obtain h | h := hbegun <;> rw [h] <;> exact ⟨_, rfl, rfl⟩
    exact ⟨last, hlast, by rw [isComplete, hend]⟩
  cases hexponent with
  | none =>
    refine ⟨n, rfl, ?_⟩
    obtain h | h | h := hphase <;> rw [isComplete, h]
  | @plain mark cs hletter hcs =>
    obtain ⟨begun, hnext, hbegun⟩ := hmark mark hletter
    obtain ⟨last, hlast, hend⟩ := hdigits hcs (.inl hbegun)
    exact ⟨last, by rw [run?_cons hnext, hlast], hend⟩
  | @signed mark sign cs hletter hsign hcs =>
    obtain ⟨begun, hnext, hbegun⟩ := hmark mark hletter
    have hsigned : ∃ next, begun.next? sign = some next ∧ next.phase = .exponentSign := by
      obtain rfl | rfl := hsign
      all_goals
        unfold next? mark?
        rw [hbegun]
        exact ⟨_, rfl, rfl⟩
    obtain ⟨signed, hsign, hphase⟩ := hsigned
    obtain ⟨last, hlast, hend⟩ := hdigits hcs (.inr hphase)
    exact ⟨last, by rw [run?_cons hnext, run?_cons hsign, hlast], hend⟩

/-- A text without a minus sign is taken from its first character on. -/
theorem ofText?_of_head {cs : List Char} (hcs : cs.head? ≠ some '-') :
    ofText? cs = (start false).run? cs := by
  unfold ofText?
  split
  · exact absurd rfl hcs
  · rfl

/-- A number of the grammar is read to its end, and may end there. -/
theorem exists_ofText? {cs : List Char} (hcs : NumberText cs) :
    ∃ n, ofText? cs = some n ∧ n.isComplete = true := by
  obtain ⟨hsign, hwhole, hplaces, hexponent⟩ := hcs
  rename_i sign whole places exponent
  -- What follows the sign is read alike with and without one.
  have hrest : ∀ negative, ∃ n,
      (start negative).run? (whole ++ (places ++ exponent)) = some n ∧ n.isComplete = true := by
    intro negative
    obtain ⟨first, hfirst, hphase⟩ := exists_run?_of_whole hwhole negative
    obtain ⟨second, hsecond, hphase⟩ := exists_run?_of_places hplaces hphase
    obtain ⟨last, hlast, hend⟩ := exists_run?_of_exponent hexponent hphase
    exact ⟨last, by rw [run?_append hfirst, run?_append hsecond, hlast], hend⟩
  cases hsign with
  | plain =>
    rw [List.nil_append, ofText?_of_head (hwhole.head?_append _)]
    exact hrest false
  | minus => exact hrest true

/-- The digits of a word are read as its value. -/
theorem run?_toDigits {n : Nat} (hn : n < UInt64.size) :
    (start false).run? (Nat.toDigits 10 n) =
      some { phase := if n = 0 then .zero else .whole, negative := false, significand := n } := by
  induction n using Nat.strong_induction_on with
  | _ n ih =>
    rw [Nat.toDigits_eq_if (by decide)]
    split
    · rename_i hsmall
      rw [run?, List.foldlM_cons, next?_digit (isDigit_digitChar hsmall),
        toNat_digitChar_sub hsmall]
      rw [digit?, pushWhole_of_fits rfl (by simpa [start] using hn)]
      simp [start]
    · rename_i hlarge
      have hquotient : n / 10 ≠ 0 := by omega
      have hdigit : n % 10 < 10 := Nat.mod_lt n (by decide)
      have hsum : n / 10 * 10 + n % 10 = n := by omega
      rw [run?_append (ih (n / 10) (by omega) (by omega)), run?_cons, run?]
      · rfl
      · rw [next?_digit (isDigit_digitChar hdigit), toNat_digitChar_sub hdigit]
        simp only [digit?, if_neg hquotient]
        rw [pushWhole_of_fits rfl (by simpa [hsum] using hn), if_neg (by omega)]
        simp [hsum]

end PartialNumber

/-- What a text denotes as a number. -/
def numberOf (cs : List Char) : Number :=
  ((PartialNumber.ofText? cs).map PartialNumber.value).getD .tooLarge

/-- A number in decimal follows the grammar. -/
theorem numberText_toDigits (n : Nat) : NumberText (Nat.toDigits 10 n) := by
  simpa using NumberText.parts .plain (wholeText_toDigits n) .none .none

/-- A word written in decimal denotes itself. -/
@[simp] theorem numberOf_toDigits (n : UInt64) :
    numberOf (Nat.toDigits 10 n.toNat) = .natural n := by
  have hplain : (Nat.toDigits 10 n.toNat).head? ≠ some '-' := by
    simpa using (wholeText_toDigits n.toNat).head?_append []
  rw [numberOf, PartialNumber.ofText?_of_head hplain, PartialNumber.run?_toDigits n.toNat_lt]
  simp [PartialNumber.value]

end SegmentCache.Json
