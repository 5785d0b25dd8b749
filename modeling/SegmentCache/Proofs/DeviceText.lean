import Mathlib
import SegmentCache.Format.Device
import SegmentCache.Proofs.Numerals
import SegmentCache.Proofs.PathKeys

/-!
# The texts that describe a device

On the command line a device is its number, its bus address and its capacity between commas. The
reader accepts exactly the texts of this form: two commas, a number in range in the first and the
last part, and anything in the middle, with blanks around each part or none. So what is written in
the plain way is read back, and a text that is wrong in several places is refused for the first.
-/

namespace SegmentCache.Device

/-- A text that holds exactly two commas, and its parts before, between and behind them. -/
structure InThree (text first middle last : String) : Prop where
  /-- There are two commas. -/
  commas : text.toList.count ',' = 2
  /-- They stand between the parts. -/
  joined : text = first ++ "," ++ middle ++ "," ++ last

/-- A text describes a device: its first part carries the number of the device, its last part the
capacity, each of them a word of its width, and its middle part is the bus address between
blanks. -/
inductive Describes (text : String) (device : Device) : Prop
  /-- The parts of the text give the fields of the device. -/
  | parts {first middle last : String} (hparts : InThree text first middle last)
      (hid : Text.Carries first device.id.toNat)
      (hbus : Text.TrimsTo middle.toList device.bus.toList)
      (hcapacity : Text.Carries last device.capacity.toNat)

/-- The characters of a text in three parts. -/
theorem InThree.toList_eq {text first middle last : String}
    (hparts : InThree text first middle last) :
    text.toList = first.toList ++ ',' :: (middle.toList ++ ',' :: last.toList) := by
  simp [hparts.joined]

/-- No part holds a comma, since the two that there are stand between the parts. -/
theorem InThree.not_mem {text first middle last : String}
    (hparts : InThree text first middle last) :
    ',' ∉ first.toList ∧ ',' ∉ middle.toList ∧ ',' ∉ last.toList := by
  have hcount := hparts.commas
  rw [hparts.toList_eq] at hcount
  simp only [List.count_append, List.count_cons_self] at hcount
  refine ⟨?_, ?_, ?_⟩ <;> rw [← List.count_eq_zero] <;> omega

/-- The parts of a text are its pieces. -/
theorem inThree_iff {text first middle last : String} :
    InThree text first middle last ↔
      Text.pieces ',' text.toList = [first.toList, middle.toList, last.toList] := by
  constructor
  · intro hparts
    obtain ⟨hfirst, hmiddle, hlast⟩ := hparts.not_mem
    rw [hparts.toList_eq, Text.pieces_append, Text.pieces_append,
      Text.pieces_eq_singleton hfirst, Text.pieces_eq_singleton hmiddle,
      Text.pieces_eq_singleton hlast]
    rfl
  · intro hpieces
    have hlength := Text.length_pieces ',' text.toList
    have hjoined := @List.intercalate_splitOn Char text.toList _ _ ','
    rw [← Text.pieces_eq_splitOn, hpieces] at hjoined
    rw [hpieces] at hlength
    refine ⟨by simpa using hlength.symm, String.toList_inj.mp ?_⟩
    simpa [List.intercalate] using hjoined.symm

/-- What is read of a text in three parts, once both numbers are read. -/
theorem InThree.ofText_eq_ok {text first middle last : String}
    (hparts : InThree text first middle last) {number bytes : Nat}
    (hnumber : Text.readNumeral UInt32.size (Text.trimChars first.toList) = .ok number)
    (hbytes : Text.readNumeral UInt64.size (Text.trimChars last.toList) = .ok bytes) :
    ofText text =
      .ok { id := UInt32.ofNat number
            bus := String.ofList (Text.trimChars middle.toList)
            capacity := UInt64.ofNat bytes } := by
  simp [ofText, inThree_iff.mp hparts, hnumber, hbytes]

/-- A number that cannot be read in the first part decides, whatever the other parts are. -/
theorem InThree.ofText_eq_invalidId {text first middle last : String}
    (hparts : InThree text first middle last) {fault : Text.NumeralFault}
    (hfault : Text.readNumeral UInt32.size (Text.trimChars first.toList) = .error fault) :
    ofText text = .error (.invalidId first fault) := by
  simp [ofText, inThree_iff.mp hparts, hfault]

/-- A text that is read has three parts, with numbers in the first and the last. -/
theorem exists_of_ofText_eq_ok {text : String} {device : Device}
    (hread : ofText text = .ok device) :
    ∃ first middle last number bytes, InThree text first middle last ∧
      Text.readNumeral UInt32.size (Text.trimChars first.toList) = .ok number ∧
      Text.readNumeral UInt64.size (Text.trimChars last.toList) = .ok bytes := by
  unfold ofText at hread
  split at hread
  · rename_i first middle last hpieces
    have hparts : InThree text (String.ofList first) (String.ofList middle)
        (String.ofList last) := by
      rw [inThree_iff, hpieces]
      simp
    split at hread
    · cases hread
    · rename_i number hnumber
      split at hread
      · cases hread
      · rename_i bytes hbytes
        exact ⟨_, _, _, number, bytes, hparts, by simpa using hnumber, by simpa using hbytes⟩
  · cases hread

/-- The reader accepts the descriptions of devices and nothing else. -/
theorem ofText_eq_ok_iff {text : String} {device : Device} :
    ofText text = .ok device ↔ Describes text device := by
  constructor
  · intro hread
    obtain ⟨first, middle, last, number, bytes, hparts, hnumber, hbytes⟩ :=
      exists_of_ofText_eq_ok hread
    rw [hparts.ofText_eq_ok hnumber hbytes] at hread
    cases hread
    obtain ⟨hid, hsmall⟩ := (Text.readNumeral_trimChars_eq_ok_iff (by decide)).mp hnumber
    obtain ⟨hcapacity, hfits⟩ := (Text.readNumeral_trimChars_eq_ok_iff (by decide)).mp hbytes
    refine .parts hparts ?_ ?_ ?_
    · rwa [UInt32.toNat_ofNat_of_lt' hsmall]
    · rw [String.toList_ofList]
      exact Text.trimsTo_trimChars _
    · rwa [UInt64.toNat_ofNat_of_lt' hfits]
  · rintro ⟨hparts, hid, hbus, hcapacity⟩
    have hnumber := (Text.readNumeral_trimChars_eq_ok_iff (by decide)).mpr
      ⟨hid, UInt32.toNat_lt_size device.id⟩
    have hbytes := (Text.readNumeral_trimChars_eq_ok_iff (by decide)).mpr
      ⟨hcapacity, UInt64.toNat_lt_size device.capacity⟩
    rw [hparts.ofText_eq_ok hnumber hbytes, hbus.trimChars_eq]
    simp

/-- A device as it is written: its number and its capacity in decimal. -/
def plainText (device : Device) : String :=
  toString device.id.toNat ++ "," ++ device.bus ++ "," ++ toString device.capacity.toNat

/-- What is written in the plain way describes the device, if the bus address keeps apart from
what stands around it. -/
theorem describes_plainText {device : Device} (hcommas : ',' ∉ device.bus.toList)
    (htrimmed : Text.Trimmed device.bus.toList) : Describes device.plainText device := by
  have hdigits (n : Nat) : (Nat.toDigits 10 n).count ',' = 0 := by
    rw [List.count_eq_zero]
    intro hcomma
    exact absurd ((Json.isDigits_toDigits n).2 ',' hcomma) (by decide)
  refine .parts ⟨?_, rfl⟩ (Text.carries_toString _) htrimmed.trimsTo (Text.carries_toString _)
  simp [plainText, List.count_eq_zero.mpr hcommas, hdigits]

/-- The reader accepts exactly the texts that describe a device: two commas, in the first and the
last part the digits of a number in range behind a plus sign or none, and in the middle the bus
address, each between blanks or none. So a device whose bus address has neither commas nor blanks
around it is read back from the plain way of writing it. Where the first number cannot be read,
the failure is about the first part and tells what spoils it, whether the last number can be read
or not. -/
theorem ofText_accepts_exactly_descriptions :
    (∀ text device, ofText text = .ok device ↔ Describes text device) ∧
    (∀ device : Device, ',' ∉ device.bus.toList → Text.Trimmed device.bus.toList →
      ofText device.plainText = .ok device) ∧
    ∀ {text first middle last : String}, InThree text first middle last →
      (∀ n < 2 ^ 32, ¬ Text.Carries first n) →
      ∃ core fault, Text.TrimsTo first.toList core ∧ Text.Spoils (2 ^ 32) core fault ∧
        ofText text = .error (.invalidId first fault) := by
  refine ⟨fun text device => ofText_eq_ok_iff, ?_, ?_⟩
  · intro device hcommas htrimmed
    exact ofText_eq_ok_iff.mpr (describes_plainText hcommas htrimmed)
  · intro text first middle last hparts hfirst
    cases hread : Text.readNumeral UInt32.size (Text.trimChars first.toList) with
    | ok n =>
      obtain ⟨hcarries, hn⟩ := (Text.readNumeral_trimChars_eq_ok_iff (by decide)).mp hread
      exact absurd hcarries (hfirst n hn)
    | error fault =>
      exact ⟨_, fault, Text.trimsTo_trimChars _, Text.spoils_of_readNumeral (by decide) hread,
        hparts.ofText_eq_invalidId hread⟩

/-- The largest device is read from a text with blanks of several kinds, a sign and zeros in front,
and from the plain way of writing it. With a number beyond the range before a capacity that is
negative, the number is refused. -/
theorem ofText_accepts_exactly_descriptions_at_limits :
    let largest : Device :=
      { id := 4294967295, bus := "0000:3b:00.0", capacity := 18446744073709551615 }
    let loose := "\u3000+0004294967295\t, 0000:3b:00.0\u00a0,018446744073709551615\n"
    Describes loose largest ∧ ofText largest.plainText = .ok largest ∧
      InThree "4294967296,b,-1" "4294967296" "b" "-1" ∧ (∀ n < 2 ^ 64, ¬ Text.Carries "-1" n) ∧
      ∃ fault, ofText "4294967296,b,-1" = .error (.invalidId "4294967296" fault) := by
  intro largest loose
  have hread : ofText loose = .ok largest := by decide +kernel
  have hparts : InThree "4294967296,b,-1" "4294967296" "b" "-1" :=
    ⟨by decide +kernel, by decide +kernel⟩
  have hunread {bound : Nat} (hbound : 0 < bound) {part : String} {fault : Text.NumeralFault}
      (hfault : Text.readNumeral bound (Text.trimChars part.toList) = .error fault) :
      ∀ n < bound, ¬ Text.Carries part n := by
    intro n hn hcarries
    have hok := (Text.readNumeral_trimChars_eq_ok_iff hbound).mpr ⟨hcarries, hn⟩
    cases hfault.symm.trans hok
  obtain ⟨_, fault, -, -, hfails⟩ := ofText_accepts_exactly_descriptions.2.2 hparts
    (hunread (by decide) (by decide +kernel : _ = Except.error Text.NumeralFault.tooLarge))
  exact ⟨(ofText_accepts_exactly_descriptions.1 loose largest).mp hread,
    ofText_accepts_exactly_descriptions.2.1 largest (by decide +kernel) (by decide +kernel), hparts,
    hunread (by decide) (by decide +kernel : _ = Except.error Text.NumeralFault.invalidDigit),
    fault, hfails⟩

end SegmentCache.Device
