import SegmentCache.Json.Reading
import SegmentCache.Proofs.Spelling

/-!
# The text of documents

A document without flaws is written as its tokens, with a comma between neighbours and a colon
behind each name. The reader gets it back from every text that spells these tokens, whatever the
blanks and however the strings are written. The compact text of a document is one of them.
-/

namespace SegmentCache.Json

namespace Draft

/-- The token of a name. -/
def keyTokens : Key → List Token
  | .name text => [.string (some text)]
  | .unpaired => [.string none]
  | .missing _ _ => []

mutual

/-- The tokens of a document. -/
def tokens : Draft → List Token
  | .null => [.null]
  | .bool value => [.bool value]
  | .number value => [.number value]
  | .string text => [.string (some text)]
  | .unpaired => [.string none]
  | .array items _ => .openArray :: (itemTokens items ++ [.closeArray])
  | .object members _ => .openObject :: (memberTokens members ++ [.closeObject])
  | .absent _ | .brokenString _ _ | .broken _ _ => []

/-- The tokens of items with commas between them. -/
def itemTokens : List Draft → List Token
  | [] => []
  | item :: items => tokens item ++ moreItemTokens items

/-- The tokens of the items after the first, each behind a comma. -/
def moreItemTokens : List Draft → List Token
  | [] => []
  | item :: items => .comma :: (tokens item ++ moreItemTokens items)

/-- The tokens of members with commas between them. -/
def memberTokens : List (Key × Draft) → List Token
  | [] => []
  | (key, value) :: members => keyTokens key ++ .colon :: (tokens value ++ moreMemberTokens members)

/-- The tokens of the members after the first, each behind a comma. -/
def moreMemberTokens : List (Key × Draft) → List Token
  | [] => []
  | (key, value) :: members =>
    .comma :: (keyTokens key ++ .colon :: (tokens value ++ moreMemberTokens members))

end

/-- A document without flaws and with at most that many lists within each other. Its lists are
closed, its names and strings are texts, and its numbers are within the range of numbers. -/
inductive WellFormed : Nat → Draft → Prop where
  | null {depth : Nat} : WellFormed depth .null
  | bool {depth : Nat} (value : Bool) : WellFormed depth (.bool value)
  | number {depth : Nat} {value : Number} : value ≠ .tooLarge → WellFormed depth (.number value)
  | string {depth : Nat} (text : String) : WellFormed depth (.string text)
  | array {depth : Nat} {items : List Draft} :
      (∀ item ∈ items, WellFormed depth item) → WellFormed (depth + 1) (.array items .closed)
  | object {depth : Nat} {members : List (Key × Draft)} :
      (∀ member ∈ members, ∃ name, member.1 = .name name) →
      (∀ member ∈ members, WellFormed depth member.2) →
        WellFormed (depth + 1) (.object members .closed)

/-- A text that writes a document without flaws and with at most that many lists within each
other. -/
def IsText (depth : Nat) (draft : Draft) (text : String) : Prop :=
  WellFormed depth draft ∧ Spells draft.tokens text.toList

end Draft

/-! ## Documents from tokens -/

/-- Goes on from where a token leads. -/
def Step.resume : Step → List Token → Draft × List Token
  | .more expecting frames, rest => build expecting frames rest
  | .done draft, rest => (draft, rest)

/-- Building goes on from where the first token leads. -/
theorem build_cons (expecting : Expecting) (frames : List Frame) (token : Token)
    (rest : List Token) :
    build expecting frames (token :: rest) = (advance expecting frames token).resume rest := by
  rw [build]
  split <;> rename_i h <;> rw [h] <;> rfl

/-- A document is built from its tokens and put in its place, wherever that is. -/
def BuiltFromTokens (draft : Draft) : Prop :=
  ∀ frames rest, build .value frames (draft.tokens ++ rest) = (deliver draft frames).resume rest

/-- Items that follow others in an array are built up to its end. -/
theorem build_moreItemTokens {items : List Draft}
    (hitems : ∀ item ∈ items, BuiltFromTokens item) (before : List Draft) (frames : List Frame)
    (rest : List Token) :
    build .separator (.array before :: frames)
        (Draft.moreItemTokens items ++ .closeArray :: rest) =
      (deliver (.array (before.reverse ++ items) .closed) frames).resume rest := by
  induction items generalizing before with
  | nil => rw [List.append_nil]; exact build_cons ..
  | cons item items ih =>
    obtain ⟨hfirst, hmore⟩ := List.forall_mem_cons.1 hitems
    have hitem := hfirst (.array before :: frames)
      (Draft.moreItemTokens items ++ .closeArray :: rest)
    have hrest := ih hmore (item :: before)
    rw [Draft.moreItemTokens, List.cons_append, build_cons, List.append_assoc]
    exact hitem.trans (by simpa [deliver, Step.resume] using hrest)

/-- Members that follow others in an object are built up to its end. -/
theorem build_moreMemberTokens {members : List (Key × Draft)}
    (hnames : ∀ member ∈ members, ∃ name, member.1 = .name name)
    (hmembers : ∀ member ∈ members, BuiltFromTokens member.2) (before : List (Key × Draft))
    (pending : Option Key) (frames : List Frame) (rest : List Token) :
    build .separator (.object before pending :: frames)
        (Draft.moreMemberTokens members ++ .closeObject :: rest) =
      (deliver (.object (before.reverse ++ members) .closed) frames).resume rest := by
  induction members generalizing before pending with
  | nil => rw [List.append_nil]; exact build_cons ..
  | cons member members ih =>
    obtain ⟨key, value⟩ := member
    obtain ⟨⟨name, rfl⟩, hothers⟩ := List.forall_mem_cons.1 hnames
    obtain ⟨hfirst, hmore⟩ := List.forall_mem_cons.1 hmembers
    have hvalue := hfirst (.object before (some (.name name)) :: frames)
      (Draft.moreMemberTokens members ++ .closeObject :: rest)
    have hrest := ih hothers hmore ((.name name, value) :: before) none
    simp only [Draft.moreMemberTokens, Draft.keyTokens, List.cons_append, List.nil_append,
      List.append_assoc, build_cons]
    exact hvalue.trans (by simpa [deliver, Step.resume] using hrest)

/-- A value is taken as the first item of an array. -/
theorem build_firstItem {depth : Nat} {draft : Draft} (h : draft.WellFormed depth)
    (frames : List Frame) (rest : List Token) :
    build .firstItem frames (draft.tokens ++ rest) =
      build .value frames (draft.tokens ++ rest) := by
  have hfirst : ∃ token more, draft.tokens = token :: more ∧ token ≠ .closeArray := by
    cases h <;> exact ⟨_, _, by rw [Draft.tokens], by simp⟩
  obtain ⟨token, more, htokens, hne⟩ := hfirst
  rw [htokens, List.cons_append, build_cons, build_cons]
  simp [advance, hne]

/-- Every document without flaws is built from its tokens. -/
theorem Draft.WellFormed.builtFromTokens {depth : Nat} {draft : Draft}
    (h : draft.WellFormed depth) : BuiltFromTokens draft := by
  induction h with
  | null => exact fun _ _ => build_cons ..
  | bool value => exact fun _ _ => build_cons ..
  | number hvalue => exact fun _ _ => build_cons ..
  | string text => exact fun _ _ => build_cons ..
  | @array depth items hitems ih =>
    intro frames rest
    rw [Draft.tokens, List.cons_append, build_cons, List.append_assoc]
    cases items with
    | nil => exact build_cons ..
    | cons item items =>
      obtain ⟨hfirst, hmore⟩ := List.forall_mem_cons.1 ih
      have hitem := hfirst (.array [] :: frames)
        (Draft.moreItemTokens items ++ .closeArray :: rest)
      rw [← build_firstItem (hitems item (by simp))] at hitem
      have hrest := build_moreItemTokens hmore [item] frames rest
      rw [Draft.itemTokens, List.append_assoc]
      exact hitem.trans hrest
  | @object depth members hnames hvalues ih =>
    intro frames rest
    rw [Draft.tokens, List.cons_append, build_cons, List.append_assoc]
    cases members with
    | nil => exact build_cons ..
    | cons member members =>
      obtain ⟨key, value⟩ := member
      obtain ⟨⟨name, rfl⟩, hothers⟩ := List.forall_mem_cons.1 hnames
      obtain ⟨hfirst, hmore⟩ := List.forall_mem_cons.1 ih
      have hvalue := hfirst (.object [] (some (.name name)) :: frames)
        (Draft.moreMemberTokens members ++ .closeObject :: rest)
      have hrest := build_moreMemberTokens hothers hmore [(.name name, value)] none frames rest
      simp only [Draft.memberTokens, Draft.keyTokens, List.cons_append, List.nil_append,
        List.append_assoc]
      exact hvalue.trans hrest

/-- A document is read from every text that writes it, and nothing is left behind it. -/
theorem Draft.IsText.ofText {depth : Nat} {draft : Draft} {text : String}
    (h : draft.IsText depth text) : Draft.ofText text = (draft, []) := by
  obtain ⟨hformed, hspells⟩ := h
  have hbuilt := hformed.builtFromTokens [] []
  rw [List.append_nil] at hbuilt
  rw [Draft.ofText, Json.tokens, hspells.scan, hbuilt]
  rfl

/-- What can be read from a document can be read from each of its texts. -/
theorem Draft.IsText.readText {α : Type} {depth : Nat} {draft : Draft} {text : String}
    (h : draft.IsText depth text) {read : Draft → Except ReadFailure α} {value : α}
    (hread : read draft = .ok value) : readText read text = .ok value := by
  simp [Json.readText, h.ofText, hread]

namespace Draft

/-! ## Checks -/

/-- A list passes the check if its items do. -/
theorem checkItems_eq_ok {depth : Nat} {items : List Draft}
    (hitems : ∀ item ∈ items, item.check depth = .ok ()) : checkItems depth items = .ok () := by
  induction items with
  | nil => rfl
  | cons item items ih =>
    obtain ⟨hfirst, hmore⟩ := List.forall_mem_cons.1 hitems
    rw [checkItems, hfirst]
    exact ih hmore

/-- Named members pass the check if their values do. -/
theorem checkMembers_eq_ok {depth : Nat} {members : List (Key × Draft)}
    (hnames : ∀ member ∈ members, ∃ name, member.1 = .name name)
    (hmembers : ∀ member ∈ members, member.2.check depth = .ok ()) :
    checkMembers depth members = .ok () := by
  induction members with
  | nil => rfl
  | cons member members ih =>
    obtain ⟨key, value⟩ := member
    obtain ⟨⟨name, rfl⟩, hothers⟩ := List.forall_mem_cons.1 hnames
    obtain ⟨hfirst, hmore⟩ := List.forall_mem_cons.1 hmembers
    rw [checkMembers, hfirst]
    exact ih hothers hmore

/-- A document without flaws passes the check on values that are kept. -/
theorem WellFormed.check {depth : Nat} {draft : Draft} (h : draft.WellFormed depth) :
    draft.check depth = .ok () := by
  induction h with
  | null | bool value | string text => rfl
  | @number depth value hvalue =>
    cases value with
    | tooLarge => exact absurd rfl hvalue
    | _ => rfl
  | array _ ih =>
    rw [Draft.check, if_neg (Nat.succ_ne_zero _), Nat.add_sub_cancel, checkItems_eq_ok ih]
    rfl
  | object hnames _ ih =>
    rw [Draft.check, if_neg (Nat.succ_ne_zero _), Nat.add_sub_cancel,
      checkMembers_eq_ok hnames ih]
    rfl

/-- A list can be skipped if its items can. -/
theorem skipItems_eq_ok {items : List Draft} (hitems : ∀ item ∈ items, item.skip = .ok ()) :
    skipItems items = .ok () := by
  induction items with
  | nil => rfl
  | cons item items ih =>
    obtain ⟨hfirst, hmore⟩ := List.forall_mem_cons.1 hitems
    rw [skipItems, hfirst]
    exact ih hmore

/-- Named members can be skipped if their values can. -/
theorem skipMembers_eq_ok {members : List (Key × Draft)}
    (hnames : ∀ member ∈ members, ∃ name, member.1 = .name name)
    (hmembers : ∀ member ∈ members, member.2.skip = .ok ()) : skipMembers members = .ok () := by
  induction members with
  | nil => rfl
  | cons member members ih =>
    obtain ⟨key, value⟩ := member
    obtain ⟨⟨name, rfl⟩, hothers⟩ := List.forall_mem_cons.1 hnames
    obtain ⟨hfirst, hmore⟩ := List.forall_mem_cons.1 hmembers
    rw [skipMembers, hfirst]
    · exact ih hothers hmore
    · simp

/-- A document without flaws can be skipped. -/
theorem WellFormed.skip {depth : Nat} {draft : Draft} (h : draft.WellFormed depth) :
    draft.skip = .ok () := by
  induction h with
  | null | bool value | number hvalue | string text => rfl
  | array _ ih =>
    rw [Draft.skip, skipItems_eq_ok ih]
    rfl
  | object hnames _ ih =>
    rw [Draft.skip, skipMembers_eq_ok hnames ih]
    rfl

end Draft

/-! ## Compact texts -/

/-- The number of a control character has two digits behind two zeros. -/
theorem fourDigits_of_control {n : Nat} (hn : n < 0x20) :
    FourDigits ['0', '0', Nat.digitChar (n / 16), Nat.digitChar (n % 16)] n := by
  have hall : ∀ n < 0x20,
      hexNumber? ['0', '0', Nat.digitChar (n / 16), Nat.digitChar (n % 16)] = some n := by decide
  exact ⟨rfl, hall n hn⟩

/-- Each character is written in one of the ways in which it may be written. -/
theorem stringText_escapeChar (c : Char) {content text : List Char}
    (h : StringText content text) : StringText (c :: content) (escapeChar c ++ text) := by
  have hshort : ∀ mark, (mark, c) ∈ shortEscapes →
      StringText (c :: content) (['\\', mark] ++ text) := fun mark hmark => .short hmark h
  unfold escapeChar
  split_ifs with hquote hslash hback hfeed hline hreturn htab hcontrol
  · exact hshort '"' (by simp [shortEscapes, hquote])
  · exact hshort '\\' (by simp [shortEscapes, hslash])
  · exact hshort 'b' (by simp [shortEscapes, hback])
  · exact hshort 'f' (by simp [shortEscapes, hfeed])
  · exact hshort 'n' (by simp [shortEscapes, hline])
  · exact hshort 'r' (by simp [shortEscapes, hreturn])
  · exact hshort 't' (by simp [shortEscapes, htab])
  · exact .numbered (fourDigits_of_control hcontrol) h
  · exact .plain hquote hslash (by omega) h

/-- Writing one character after the other writes a string. -/
theorem stringText_flatMap (content : List Char) :
    StringText content (content.flatMap escapeChar) := by
  induction content with
  | nil => exact .nil
  | cons c content ih => exact stringText_escapeChar c ih

mutual

/-- The document that is read from the writing of a document. -/
def draft : Json → Draft
  | .null => .null
  | .bool value => .bool value
  | .number n => .number (numberOf (Nat.toDigits 10 n))
  | .string s => .string s
  | .array items => .array (draftItems items) .closed
  | .object members => .object (draftMembers members) .closed

/-- The items that are read from the writings of items. -/
def draftItems : List Json → List Draft
  | [] => []
  | item :: items => draft item :: draftItems items

/-- The members that are read from the writings of members. -/
def draftMembers : List (String × Json) → List (Key × Draft)
  | [] => []
  | (name, value) :: members => (.name name, draft value) :: draftMembers members

end

/-- The documents of items are made one by one. -/
theorem draftItems_eq_map (items : List Json) : draftItems items = items.map draft := by
  induction items with
  | nil => rfl
  | cons item items ih => rw [draftItems, ih, List.map_cons]

/-- The documents of members are made one by one, under their names. -/
theorem draftMembers_eq_map (members : List (String × Json)) :
    draftMembers members = members.map fun member => (.name member.1, draft member.2) := by
  induction members with
  | nil => rfl
  | cons member members ih => rw [draftMembers, ih, List.map_cons]

/-- A word is written as itself. -/
theorem draft_word (n : UInt64) : draft (.number n.toNat) = .number (.natural n) := by
  rw [draft, numberOf_toDigits]

/-- A word has a document without flaws. -/
theorem wellFormed_word (n : UInt64) (depth : Nat) :
    (draft (.number n.toNat)).WellFormed depth := by
  rw [draft_word]
  exact .number (by simp)

/-- A string has a document without flaws. -/
theorem wellFormed_string (s : String) (depth : Nat) : (draft (.string s)).WellFormed depth :=
  .string s

/-- An array has a document without flaws if its items have. -/
theorem wellFormed_array {items : List Json} {depth : Nat}
    (hitems : ∀ item ∈ items, item.draft.WellFormed depth) :
    (draft (.array items)).WellFormed (depth + 1) := by
  rw [draft, draftItems_eq_map]
  exact .array (List.forall_mem_map.2 hitems)

/-- An object has a document without flaws if the values of its members have. -/
theorem wellFormed_object {members : List (String × Json)} {depth : Nat}
    (hmembers : ∀ member ∈ members, member.2.draft.WellFormed depth) :
    (draft (.object members)).WellFormed (depth + 1) := by
  rw [draft, draftMembers_eq_map]
  exact .object (List.forall_mem_map.2 fun member _ => ⟨member.1, rfl⟩)
    (List.forall_mem_map.2 hmembers)

/-- A number ends before a character that is not part of one. -/
theorem endsNumber_cons {c : Char} (hc : ¬ IsDigit c) (hmark : c ∉ ['.', 'e', 'E', '+', '-'])
    (text : List Char) : EndsNumber (c :: text) := by
  rintro d ⟨⟩
  exact ⟨hc, hmark⟩

/-- A number ends before further items, if it does before what comes behind them. -/
theorem endsNumber_moreItems (items : List Json) {text : List Char} (h : EndsNumber text) :
    EndsNumber (moreItems items ++ text) := by
  cases items with
  | nil => exact h
  | cons item items => exact endsNumber_cons (by decide) (by decide) _

/-- A number ends before further members, if it does before what comes behind them. -/
theorem endsNumber_moreMembers (members : List (String × Json)) {text : List Char}
    (h : EndsNumber text) : EndsNumber (moreMembers members ++ text) := by
  cases members with
  | nil => exact h
  | cons member members => exact endsNumber_cons (by decide) (by decide) _

/-- A string in quotes is spelled by its characters. -/
theorem spells_stringChars (s : String) {tokens : List Token} {text : List Char}
    (h : Spells tokens text) :
    Spells (.string (some s) :: tokens) (stringChars s ++ text) := by
  simpa [stringChars] using Spells.string (stringText_flatMap s.toList) h

mutual

/-- The compact writing of a document spells its tokens. -/
theorem spells_chars : ∀ (doc : Json) {tokens : List Token} {text : List Char},
    Spells tokens text → EndsNumber text →
      Spells (doc.draft.tokens ++ tokens) (doc.chars ++ text)
  | .null, _, _, h, _ => Spells.word (by simp [words]) h
  | .bool true, _, _, h, _ => Spells.word (by simp [words]) h
  | .bool false, _, _, h, _ => Spells.word (by simp [words]) h
  | .number n, _, _, h, hend => Spells.number (numberText_toDigits n) hend h
  | .string s, _, _, h, _ => spells_stringChars s h
  | .array [], _, _, h, _ => .mark (by simp [marks]) (.mark (by simp [marks]) h)
  | .array (item :: items), tokens, text, h, _ => by
    have hclosed : Spells (.closeArray :: tokens) (']' :: text) := .mark (by simp [marks]) h
    have hends : EndsNumber (']' :: text) := endsNumber_cons (by decide) (by decide) text
    have hitem := spells_chars item (spells_moreItems items hclosed hends)
      (endsNumber_moreItems items hends)
    have hopened : Spells (.openArray :: _) ('[' :: _) := .mark (by simp [marks]) hitem
    simpa [draft, draftItems, Draft.tokens, Draft.itemTokens, chars] using hopened
  | .object [], _, _, h, _ => .mark (by simp [marks]) (.mark (by simp [marks]) h)
  | .object ((name, value) :: members), tokens, text, h, _ => by
    have hclosed : Spells (.closeObject :: tokens) ('\x7d' :: text) := .mark (by simp [marks]) h
    have hends : EndsNumber ('\x7d' :: text) := endsNumber_cons (by decide) (by decide) text
    have hvalue := spells_chars value (spells_moreMembers members hclosed hends)
      (endsNumber_moreMembers members hends)
    have hcolon : Spells (.colon :: _) (':' :: _) := .mark (by simp [marks]) hvalue
    have hopened : Spells (.openObject :: _) ('\x7b' :: _) :=
      .mark (by simp [marks]) (spells_stringChars name hcolon)
    simpa [draft, draftMembers, Draft.tokens, Draft.memberTokens, Draft.keyTokens, chars,
      memberChars] using hopened

/-- So do the writings of the items after the first. -/
theorem spells_moreItems : ∀ (items : List Json) {tokens : List Token} {text : List Char},
    Spells tokens text → EndsNumber text →
      Spells (Draft.moreItemTokens (draftItems items) ++ tokens) (moreItems items ++ text)
  | [], _, _, h, _ => h
  | item :: items, _, _, h, hend => by
    have hitem := spells_chars item (spells_moreItems items h hend)
      (endsNumber_moreItems items hend)
    have hcomma : Spells (.comma :: _) (',' :: _) := .mark (by simp [marks]) hitem
    simpa [draftItems, Draft.moreItemTokens, moreItems] using hcomma

/-- So do the writings of the members after the first. -/
theorem spells_moreMembers :
    ∀ (members : List (String × Json)) {tokens : List Token} {text : List Char},
      Spells tokens text → EndsNumber text →
        Spells (Draft.moreMemberTokens (draftMembers members) ++ tokens)
          (moreMembers members ++ text)
  | [], _, _, h, _ => h
  | (name, value) :: members, _, _, h, hend => by
    have hvalue := spells_chars value (spells_moreMembers members h hend)
      (endsNumber_moreMembers members hend)
    have hcolon : Spells (.colon :: _) (':' :: _) := .mark (by simp [marks]) hvalue
    have hcomma : Spells (.comma :: _) (',' :: _) :=
      .mark (by simp [marks]) (spells_stringChars name hcolon)
    simpa [draftMembers, Draft.moreMemberTokens, Draft.keyTokens, moreMembers,
      memberChars] using hcomma

end

/-- The compact text of a document writes it. -/
theorem isText_compact {doc : Json} {depth : Nat} (h : doc.draft.WellFormed depth) :
    doc.draft.IsText depth doc.compact := by
  refine ⟨h, ?_⟩
  have hspells := spells_chars doc .nil (by simp [EndsNumber])
  simpa [compact] using hspells

end SegmentCache.Json
