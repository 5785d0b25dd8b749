import SegmentCache.Proofs.Records

/-!
# Records are read from all their writings

A reader takes the fields as they come. Each of them goes to its own place in the record, so that
a field once read stays as it is while others are read, and fields commute. `Layout.Fits` says so
of one layout; that every writing is read as the record it writes follows for all layouts at once.
-/

namespace SegmentCache.Json

/-- A field with a value and where the value goes in a record. -/
structure Component (α : Type) extends Slot where
  /-- Puts the value in its place. -/
  put : α → α

/-- The same field, with only those writings of its value that have no flaws. -/
def Component.within {α : Type} (part : Component α) (depth : Nat) : Component α :=
  { part with toSlot := part.toSlot.within depth }

/-- A field reads the writings of a part and puts its value in its place. -/
structure Field.Takes {α : Type} (field : Field α) (part : Component α) : Prop where
  name : field.name = part.name
  optional : part.omissible → field.required = false
  read : ∀ draft record, part.writes draft → field.read draft record = .ok (part.put record)

/-- A layout has the fields of a value in their order, and their places make up the value without
getting into each other's way. -/
structure Layout.Fits {α : Type} (layout : Layout α) (value : α) (parts : List (Component α)) :
    Prop where
  distinct : (parts.map fun part => part.name).Nodup
  takes : List.Forall₂ Field.Takes layout.fields parts
  again : ∀ part ∈ parts, ∀ record, part.put (part.put record) = part.put record
  apart : ∀ part ∈ parts, ∀ other ∈ parts, ∀ record,
    part.put (other.put record) = other.put (part.put record)
  default : ∀ part ∈ parts, part.omissible → part.put layout.blank = layout.blank
  whole : ∀ record, parts.foldr (fun part record => part.put record) record = value

/-- The fields with some names, and those that may be left out, are in their places. -/
def Settled {α : Type} (parts : List (Component α)) (seen : List String) (record : α) : Prop :=
  ∀ part ∈ parts, part.name ∈ seen ∨ part.omissible → part.put record = record

namespace Layout.Fits

variable {α : Type} {layout : Layout α} {value : α} {parts : List (Component α)}

/-- In the blank record, the fields that may be left out are in their places. -/
theorem settled_blank (hfits : layout.Fits value parts) : Settled parts [] layout.blank := by
  intro part hpart hplaced
  obtain hseen | hdefault := hplaced
  · cases hseen
  · exact hfits.default part hpart hdefault

/-- Putting a field in its place leaves those that are in theirs. -/
theorem settled_put (hfits : layout.Fits value parts) {seen : List String} {record : α}
    (hsettled : Settled parts seen record) {part : Component α} (hpart : part ∈ parts) :
    Settled parts (part.name :: seen) (part.put record) := by
  intro other hother hplaced
  by_cases hname : other.name = part.name
  · have hsame : other = part := List.inj_on_of_nodup_map hfits.distinct hother hpart hname
    rw [hsame]
    exact hfits.again part hpart record
  · have hrest : other.name ∈ seen ∨ other.omissible := by simpa [hname] using hplaced
    rw [hfits.apart other hother part hpart, hsettled other hother hrest]

/-- With all fields in their places, the record is the value. -/
theorem eq_of_settled (hfits : layout.Fits value parts) {seen : List String} {record : α}
    (hsettled : Settled parts seen record)
    (hall : ∀ part ∈ parts, part.name ∈ seen ∨ part.omissible) : record = value := by
  rw [← hfits.whole record]
  have hfixed : ∀ part ∈ parts, part.put record = record :=
    fun part hpart => hsettled part hpart (hall part hpart)
  clear hsettled hall hfits
  induction parts with
  | nil => rfl
  | cons part parts ih =>
    obtain ⟨hfirst, hmore⟩ := List.forall_mem_cons.1 hfixed
    rw [List.foldr_cons, ← ih hmore, hfirst]

/-- Each field of the layout takes a part of the value. -/
theorem exists_part (hfits : layout.Fits value parts) {field : Field α}
    (hfield : field ∈ layout.fields) : ∃ part ∈ parts, field.Takes part := by
  have htakes := hfits.takes
  clear hfits
  generalize layout.fields = fields at htakes hfield
  induction htakes with
  | nil => cases hfield
  | @cons first part fields parts hfirst _ ih =>
    obtain rfl | hfield := List.mem_cons.1 hfield
    · exact ⟨part, by simp, hfirst⟩
    · obtain ⟨other, hother, htakes⟩ := ih hfield
      exact ⟨other, by simp [hother], htakes⟩

/-- Each part of the value is taken by the field with its name. -/
theorem exists_field? (hfits : layout.Fits value parts) {part : Component α}
    (hpart : part ∈ parts) :
    ∃ field, layout.field? part.name = some field ∧ field.Takes part := by
  obtain ⟨hdistinct, htakes, -, -, -, -⟩ := hfits
  unfold field?
  generalize layout.fields = fields at htakes
  induction htakes with
  | nil => cases hpart
  | @cons field first fields parts hfirst _ ih =>
    obtain ⟨hfresh, hdistinct⟩ := List.nodup_cons.1 hdistinct
    obtain rfl | hpart := List.mem_cons.1 hpart
    · exact ⟨field, by simp [hfirst.name], hfirst⟩
    · have hne : field.name ≠ part.name := by
        intro heq
        exact hfresh (List.mem_map.2 ⟨part, hpart, heq.symm.trans hfirst.name⟩)
      obtain ⟨found, hfound, htakes⟩ := ih hpart hdistinct
      exact ⟨found, by simpa [hne] using hfound, htakes⟩

/-- The layout has no field with a name that no part has. -/
theorem field?_eq_none (hfits : layout.Fits value parts) {name : String}
    (hname : ∀ part ∈ parts, name ≠ part.name) : layout.field? name = none := by
  refine List.find?_eq_none.2 fun field hfield hfound => ?_
  obtain ⟨part, hpart, htakes⟩ := hfits.exists_part hfield
  exact hname part hpart (by simpa [htakes.name, eq_comm] using hfound)

/-- One member: a field goes to its place, and anything else is passed over. -/
theorem exists_readMembers_cons (hfits : layout.Fits value parts)
    {pass : Draft → Except ReadFailure Unit} {name : String} {draft : Draft}
    (hpass : pass draft = .ok ()) {seen : List String} {members : List (Key × Draft)}
    (hlegible : Legible (parts.map Component.toSlot) seen ((.name name, draft) :: members))
    {record : α} (hsettled : Settled parts seen record) :
    ∃ later next, layout.readMembers pass seen record ((.name name, draft) :: members) =
        layout.readMembers pass later next members ∧
      Settled parts later next ∧ Legible (parts.map Component.toSlot) later members ∧
      (∀ other ∈ seen, other ∈ later) ∧ ∀ part ∈ parts, part.name = name → name ∈ later := by
  by_cases hfield : ∃ part ∈ parts, part.name = name
  · obtain ⟨part, hpart, rfl⟩ := hfield
    have hslot : part.toSlot ∈ parts.map Component.toSlot := List.mem_map_of_mem hpart
    have hfresh : part.name ∉ seen := fun hseen =>
      hlegible.fresh part.toSlot hslot hseen draft (by simp)
    have hwritten : part.writes draft := hlegible.written part.toSlot hslot draft (by simp)
    obtain ⟨field, hfound, htakes⟩ := hfits.exists_field? hpart
    refine ⟨part.name :: seen, part.put record, ?_, hfits.settled_put hsettled hpart,
      hlegible.tail, by simp +contextual, by simp⟩
    rw [readMembers, hfound]
    simp only [if_neg hfresh, htakes.read draft record hwritten]
    rfl
  · have hother : ∀ part ∈ parts, name ≠ part.name :=
      fun part hpart heq => hfield ⟨part, hpart, heq.symm⟩
    refine ⟨seen, record, ?_, hsettled, hlegible.tail.forget (by simp +contextual),
      fun _ h => h, fun part hpart heq => absurd heq.symm (hother part hpart)⟩
    rw [readMembers, hfits.field?_eq_none hother]
    simp only [hpass]
    rfl

/-- All members, in whatever order they stand. -/
theorem exists_readMembers (hfits : layout.Fits value parts)
    {pass : Draft → Except ReadFailure Unit} {members : List (Key × Draft)}
    (hpass : ∀ member ∈ members, pass member.2 = .ok ()) {seen : List String}
    (hlegible : Legible (parts.map Component.toSlot) seen members) {record : α}
    (hsettled : Settled parts seen record) :
    ∃ later last, layout.readMembers pass seen record members = .ok (later, last) ∧
      Settled parts later last ∧ (∀ name ∈ seen, name ∈ later) ∧
      ∀ part ∈ parts, ∀ draft, (Key.name part.name, draft) ∈ members → part.name ∈ later := by
  induction members generalizing seen record with
  | nil => exact ⟨seen, record, rfl, hsettled, fun _ h => h, by simp⟩
  | cons member members ih =>
    obtain ⟨key, draft⟩ := member
    obtain ⟨name, rfl⟩ := hlegible.named (key, draft) (by simp)
    obtain ⟨hfirst, hmore⟩ := List.forall_mem_cons.1 hpass
    obtain ⟨next, record, hstep, hsettled, hlegible, hkept, hread⟩ :=
      hfits.exists_readMembers_cons hfirst hlegible hsettled
    obtain ⟨later, last, hrest, hsettled, hstay, hall⟩ := ih hmore hlegible hsettled
    refine ⟨later, last, hstep.trans hrest, hsettled, fun other h => hstay other (hkept other h),
      fun part hpart draft hmember => ?_⟩
    obtain heq | hmember := List.mem_cons.1 hmember
    · have hname : part.name = name := Key.name.inj (congrArg Prod.fst heq)
      exact hname ▸ hstay name (hread part hpart hname)
    · exact hall part hpart draft hmember

/-- No field is missing if all parts that may not be left out have been seen. -/
theorem checkSeen_eq_ok (hfits : layout.Fits value parts) {seen : List String}
    (hall : ∀ part ∈ parts, part.name ∈ seen ∨ part.omissible) :
    layout.checkSeen seen = .ok () := by
  have hnone : layout.fields.find? (fun field => field.required && !(field.name ∈ seen)) =
      none := by
    refine List.find?_eq_none.2 fun field hfield hmissing => ?_
    obtain ⟨part, hpart, htakes⟩ := hfits.exists_part hfield
    simp only [Bool.and_eq_true, Bool.not_eq_true', decide_eq_false_iff_not,
      htakes.name] at hmissing
    obtain hseen | hdefault := hall part hpart
    · exact hmissing.2 hseen
    · rw [htakes.optional hdefault] at hmissing
      cases hmissing.1
  rw [checkSeen, hnone]

/-- The members of an object are read as the record whose fields they fill. -/
theorem readMembers_of_fills (hfits : layout.Fits value parts)
    (pass : Draft → Except ReadFailure Unit) {members : List (Key × Draft)}
    (hpass : ∀ member ∈ members, pass member.2 = .ok ())
    (hfills : Fills (parts.map Component.toSlot) members) :
    ∃ seen, layout.readMembers pass [] layout.blank members = .ok (seen, value) ∧
      layout.checkSeen seen = .ok () := by
  obtain ⟨seen, last, hread, hsettled, -, hseen⟩ :=
    hfits.exists_readMembers hpass hfills.toLegible hfits.settled_blank
  have hall : ∀ part ∈ parts, part.name ∈ seen ∨ part.omissible := by
    intro part hpart
    obtain hdefault | ⟨draft, hdraft⟩ := hfills.there part.toSlot (List.mem_map_of_mem hpart)
    · exact .inr hdefault
    · exact .inl (hseen part hpart draft hdraft)
  rw [hfits.eq_of_settled hsettled hall] at hread
  exact ⟨seen, hread, hfits.checkSeen_eq_ok hall⟩

/-- The items of an array, each for the next field. -/
theorem exists_readItems (hfits : layout.Fits value parts) {fields : List (Field α)}
    {rest : List (Component α)} (htakes : List.Forall₂ Field.Takes fields rest)
    (hrest : ∀ part ∈ rest, part ∈ parts) {items : List Draft}
    (hitems : WritesItems (rest.map Component.toSlot) items) {seen : List String} {record : α}
    (hsettled : Settled parts seen record) (position : Nat) :
    ∃ later last, layout.readItems .closed position record fields items = .ok (last, []) ∧
      Settled parts later last ∧ (∀ name ∈ seen, name ∈ later) ∧
      ∀ part ∈ rest, part.name ∈ later ∨ part.omissible := by
  induction htakes generalizing items seen record position with
  | nil =>
    cases hitems
    exact ⟨seen, record, rfl, hsettled, fun _ h => h, by simp⟩
  | @cons field part fields rest hfirst _ ih =>
    obtain ⟨hpart, hmore⟩ := List.forall_mem_cons.1 hrest
    cases hitems with
    | @item _ draft _ items hdraft hitems =>
      obtain ⟨later, last, hlast, hsettled, hkept, hall⟩ :=
        ih hmore hitems (hfits.settled_put hsettled hpart) (position + 1)
      refine ⟨later, last, ?_, hsettled, fun name h => hkept name (by simp [h]),
        List.forall_mem_cons.2 ⟨.inl (hkept part.name (by simp)), hall⟩⟩
      rw [readItems, hfirst.read draft record hdraft]
      exact hlast
    | done hdefault =>
      obtain ⟨homitted, hdefault⟩ := List.forall_mem_cons.1 hdefault
      obtain ⟨later, last, hlast, hsettled, hkept, hall⟩ :=
        ih hmore (.done hdefault) hsettled (position + 1)
      refine ⟨later, last, ?_, hsettled, hkept, List.forall_mem_cons.2 ⟨.inr homitted, hall⟩⟩
      rw [readItems, hfirst.optional homitted]
      exact hlast

/-- The items of an array are read as the record whose fields they are. -/
theorem readItems_of_writesItems (hfits : layout.Fits value parts) {items : List Draft}
    (hitems : WritesItems (parts.map Component.toSlot) items) :
    layout.readItems .closed 0 layout.blank layout.fields items = .ok (value, []) := by
  obtain ⟨seen, last, hread, hsettled, -, hall⟩ :=
    hfits.exists_readItems hfits.takes (fun _ h => h) hitems hfits.settled_blank 0
  rw [hread, hfits.eq_of_settled hsettled hall]

/-- Every writing of a record's fields beside a tag is read as the record. -/
theorem readBody_of_writesBody (hfits : layout.Fits value parts) {body : Body}
    (hbody : WritesBody (parts.map Component.toSlot) body) : layout.readBody body = .ok value := by
  cases body with
  | members members =>
    obtain ⟨seen, hread, hseen⟩ :=
      hfits.readMembers_of_fills (fun _ => .ok ()) (fun _ _ => rfl) hbody
    simp only [readBody, hread]
    exact congrArg (· >>= fun _ => .ok value) hseen
  | items items =>
    simp only [readBody, hfits.readItems_of_writesItems hbody]
    rfl

/-- Every writing of a record is read as the record. -/
theorem read_of_writesRecord (hfits : layout.Fits value parts) {depth : Nat} {draft : Draft}
    (hformed : draft.WellFormed depth) (hwrites : WritesRecord (parts.map Component.toSlot) draft)
    (origin : Origin) : layout.read origin draft = .ok value := by
  obtain ⟨hwritten, hothers, hperm⟩ | hitems := hwrites
  · rename_i written others members
    cases hformed with
    | object hnamed hvalues =>
    have hdistinct : ((parts.map Component.toSlot).map Slot.name).Nodup := by
      rw [List.map_map]
      exact hfits.distinct
    have hskip : ∀ member ∈ members, flawed member.2.skip = .ok () := fun member hmember => by
      rw [(hvalues member hmember).skip]
      rfl
    obtain ⟨seen, hread, hseen⟩ := hfits.readMembers_of_fills (fun draft => flawed draft.skip)
      hskip (hwritten.fills hothers hperm hdistinct hnamed)
    simp only [read, hread]
    exact congrArg (· >>= fun _ => .ok value) hseen
  · simp only [read, hfits.readItems_of_writesItems hitems]
    rfl

end Layout.Fits

/-! ## Values of fields -/

/-- A text is read from its document. -/
theorem Draft.readString_text (text : String) :
    ∀ draft, draft = .string text → readString draft = .ok text := by
  rintro _ rfl
  rfl

/-- A word below a bound is read from its document. -/
theorem Draft.readBelow_natural {bound : Nat} {word : UInt64} (hword : word.toNat < bound)
    (name : String) :
    ∀ draft, draft = .number (.natural word) → readBelow bound name draft = .ok word := by
  rintro _ rfl
  exact if_pos hword

/-- A list is read from an array whose items write its elements. -/
theorem Draft.readList_eq_ok {β : Type} {read : Draft → Except ReadFailure β}
    {writes : β → Draft → Prop}
    (hread : ∀ value draft, writes value draft → read draft = .ok value) (values : List β) :
    ∀ draft, (∃ items, draft = .array items .closed ∧ List.Forall₂ writes values items) →
      readList read draft = .ok values := by
  rintro _ ⟨items, rfl, hitems⟩
  have heach : readEach read items = .ok values := by
    induction hitems with
    | nil => rfl
    | cons hfirst _ ih =>
      rw [readEach, hread _ _ hfirst]
      simp only [ih]
      rfl
  rw [readList, heach]
  rfl

/-- Extents are written as a list of numbers. -/
theorem writes_extents (name : String) (shape : List UInt64) :
    (Slot.extents name shape).writes
      (draft (.array (shape.map fun extent => .number extent.toNat))) := by
  refine ⟨shape.map fun extent => draft (.number extent.toNat), ?_, ?_⟩
  · rw [draft, draftItems_eq_map, List.map_map]
    rfl
  · exact List.forall₂_map_right_iff.2 (List.forall₂_same.2 fun extent _ => draft_word extent)

/-- The document of a shape has no flaws. -/
theorem wellFormed_extents (shape : List UInt64) (depth : Nat) :
    (draft (.array (shape.map fun extent => .number extent.toNat))).WellFormed (depth + 1) :=
  wellFormed_array (List.forall_mem_map.2 fun extent _ => wellFormed_word extent depth)

/-- A shape is read from the array of its extents. -/
theorem Draft.readList_extents (shape : List UInt64) :
    ∀ draft, (∃ items, draft = .array items .closed ∧
        List.Forall₂ (fun extent draft => draft = .number (.natural extent)) shape items) →
      readList readExtent draft = .ok shape :=
  readList_eq_ok (fun extent => readBelow_natural extent.toNat_lt "usize") shape

namespace Field

variable {α β : Type}

/-- A field that may be left out takes a part with its name whose writings it reads. -/
theorem takes_allow {name : String} {read : Draft → Except ReadFailure β} {writes : Draft → Prop}
    {isDefault : Prop} {value : β} (hread : ∀ draft, writes draft → read draft = .ok value)
    {set : β → α → α} : (allow name read set).Takes ⟨⟨name, writes, isDefault⟩, set value⟩ where
  name := rfl
  optional _ := rfl
  read draft record hdraft := by
    show (set · record) <$> read draft = _
    rw [hread draft hdraft]
    rfl

/-- A field that has to be there takes a part with its name whose writings it reads. -/
theorem takes_need {name : String} {read : Draft → Except ReadFailure β} {writes : Draft → Prop}
    {value : β} (hread : ∀ draft, writes draft → read draft = .ok value) {set : β → α → α} :
    (need name read set).Takes ⟨⟨name, writes, False⟩, set value⟩ :=
  { takes_allow hread with optional := fun h => absurd h id }

end Field

end SegmentCache.Json
