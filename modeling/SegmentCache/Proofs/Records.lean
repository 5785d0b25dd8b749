import SegmentCache.Proofs.DraftText

/-!
# The writings of a record

A record is written as an object, with its fields in any order and other members among them, or as
an array of its fields in their order. A field that holds its default may be left out of an object,
and so may the last fields of an array.

A reader does not know where in an object a field stands. `Legible` and `Fills` say what it can
rely on in the members to come, without a word about their order; a tag is found among them
wherever it stands.
-/

namespace SegmentCache.Json

/-- A field of a record with a value. -/
structure Slot where
  /-- The name of the field. -/
  name : String
  /-- The documents that write the value. -/
  writes : Draft → Prop
  /-- Whether the field may be left out since it holds its default. -/
  omissible : Prop

/-- A field that may be left out if it holds its default. -/
def Slot.omittedIf (slot : Slot) (isDefault : Prop) : Slot :=
  { slot with omissible := isDefault }

/-- A field with a text. -/
def Slot.text (name text : String) : Slot where
  name := name
  writes draft := draft = .string text
  omissible := False

/-- A field with a whole number. -/
def Slot.word (name : String) (word : UInt64) : Slot where
  name := name
  writes draft := draft = .number (.natural word)
  omissible := False

/-- A field with a list of values, each written in a way of its own. -/
def Slot.list {β : Type} (name : String) (writes : β → Draft → Prop) (values : List β) : Slot where
  name := name
  writes draft := ∃ items, draft = .array items .closed ∧ List.Forall₂ writes values items
  omissible := False

/-- A field with the extents of an array. -/
def Slot.extents (name : String) (shape : List UInt64) : Slot :=
  .list name (fun extent draft => draft = .number (.natural extent)) shape

/-- The members for some fields in their order, without some that may be left out. -/
inductive WritesInOrder : List Slot → List (Key × Draft) → Prop where
  | nil : WritesInOrder [] []
  | member {slot : Slot} {value : Draft} {slots : List Slot} {members : List (Key × Draft)} :
      slot.writes value → WritesInOrder slots members →
        WritesInOrder (slot :: slots) ((.name slot.name, value) :: members)
  | leave {slot : Slot} {slots : List Slot} {members : List (Key × Draft)} :
      slot.omissible → WritesInOrder slots members → WritesInOrder (slot :: slots) members

/-- The items for some fields, without the last ones if they may be left out. -/
inductive WritesItems : List Slot → List Draft → Prop where
  | item {slot : Slot} {value : Draft} {slots : List Slot} {items : List Draft} :
      slot.writes value → WritesItems slots items →
        WritesItems (slot :: slots) (value :: items)
  | done {slots : List Slot} : (∀ slot ∈ slots, slot.omissible) → WritesItems slots []

/-- The documents that write a record with some fields. In an object the fields stand in any order
and among members with other names. -/
inductive WritesRecord (slots : List Slot) : Draft → Prop where
  | object {written others members : List (Key × Draft)} :
      WritesInOrder slots written →
      (∀ other ∈ others, ∀ slot ∈ slots, other.1 ≠ .name slot.name) →
      members.Perm (written ++ others) → WritesRecord slots (.object members .closed)
  | array {items : List Draft} :
      WritesItems slots items → WritesRecord slots (.array items .closed)

/-- A document with a member for each field in turn writes the record. -/
theorem WritesRecord.of_members {slots : List Slot} {members : List (String × Json)}
    (h : List.Forall₂ (fun slot member => slot.name = member.1 ∧ slot.writes (draft member.2))
      slots members) : WritesRecord slots (draft (.object members)) := by
  have hwritten : WritesInOrder slots (draftMembers members) := by
    induction h with
    | nil => exact .nil
    | @cons slot member slots members hfirst _ ih =>
      obtain ⟨name, value⟩ := member
      obtain ⟨rfl, hvalue⟩ := hfirst
      exact .member hvalue ih
  have hperm : (draftMembers members).Perm (draftMembers members ++ []) := by
    rw [List.append_nil]
  exact .object hwritten (fun _ h => by cases h) hperm

/-- The same field, with only those writings of its value that have no flaws. -/
def Slot.within (slot : Slot) (depth : Nat) : Slot :=
  { slot with writes := fun draft => slot.writes draft ∧ draft.WellFormed depth }

/-- In a document without flaws, the values of fields have none. -/
theorem WritesRecord.within {slots : List Slot} {depth : Nat} {draft : Draft}
    (h : WritesRecord slots draft) (hformed : draft.WellFormed (depth + 1)) :
    WritesRecord (slots.map (Slot.within · depth)) draft := by
  cases h with
  | @object written others members hwritten hothers hperm =>
    cases hformed with
    | object _ hvalues =>
    have hformed : ∀ member ∈ written, member.2.WellFormed depth := fun member hmember =>
      hvalues member (hperm.mem_iff.2 (List.mem_append_left others hmember))
    have hwithin : WritesInOrder (slots.map (Slot.within · depth)) written := by
      clear hothers hperm
      induction hwritten with
      | nil => exact .nil
      | member hvalue _ ih =>
        obtain ⟨hfirst, hmore⟩ := List.forall_mem_cons.1 hformed
        exact @WritesInOrder.member (Slot.within _ depth) _ _ _ ⟨hvalue, hfirst⟩ (ih hmore)
      | leave hslot _ ih => exact .leave hslot (ih hformed)
    exact .object hwithin (by simpa [Slot.within] using hothers) hperm
  | @array items hitems =>
    cases hformed with
    | array hvalues =>
    refine .array ?_
    induction hitems with
    | item hvalue _ ih =>
      obtain ⟨hfirst, hmore⟩ := List.forall_mem_cons.1 hvalues
      exact .item ⟨hvalue, hfirst⟩ (ih hmore)
    | done hall => exact .done (List.forall_mem_map.2 hall)

/-! ## Members in any order -/

/-- What a reader who has seen some fields can rely on in the members to come: they are named, no
field comes twice or again, and each comes with its value. -/
structure Legible (slots : List Slot) (seen : List String) (members : List (Key × Draft)) :
    Prop where
  named : ∀ member ∈ members, ∃ name, member.1 = .name name
  written : ∀ slot ∈ slots, ∀ value, (Key.name slot.name, value) ∈ members → slot.writes value
  once : members.Pairwise fun a b =>
    ∀ slot ∈ slots, ¬ (a.1 = .name slot.name ∧ b.1 = .name slot.name)
  fresh : ∀ slot ∈ slots, slot.name ∈ seen → ∀ value, (Key.name slot.name, value) ∉ members

/-- What a reader can rely on in all members, whatever their order: a field that may not be left
out is there. -/
structure Fills (slots : List Slot) (members : List (Key × Draft)) : Prop
    extends Legible slots [] members where
  there : ∀ slot ∈ slots, slot.omissible ∨ ∃ value, (Key.name slot.name, value) ∈ members

/-- When a member has been read, its name has been seen. -/
theorem Legible.tail {slots : List Slot} {seen : List String} {name : String} {value : Draft}
    {members : List (Key × Draft)} (h : Legible slots seen ((.name name, value) :: members)) :
    Legible slots (name :: seen) members where
  named := (List.forall_mem_cons.1 h.named).2
  written slot hslot value hvalue := h.written slot hslot value (List.mem_cons_of_mem _ hvalue)
  once := (List.pairwise_cons.1 h.once).2
  fresh slot hslot hseen value hvalue := by
    obtain hname | hseen := List.mem_cons.1 hseen
    · exact (List.pairwise_cons.1 h.once).1 _ hvalue slot hslot ⟨congrArg _ hname.symm, rfl⟩
    · exact h.fresh slot hslot hseen value (List.mem_cons_of_mem _ hvalue)

/-- Members that repeat nothing of what has been seen repeat nothing of a part of it. -/
theorem Legible.forget {slots : List Slot} {seen more : List String}
    {members : List (Key × Draft)} (h : Legible slots more members)
    (hseen : ∀ name ∈ seen, name ∈ more) : Legible slots seen members :=
  { h with fresh := fun slot hslot hname => h.fresh slot hslot (hseen slot.name hname) }

/-- Each member writes the field with its name. -/
theorem WritesInOrder.mem_names {slots : List Slot} {members : List (Key × Draft)}
    (h : WritesInOrder slots members) : ∀ member ∈ members, ∃ slot ∈ slots,
      member.1 = .name slot.name ∧ slot.writes member.2 := by
  induction h with
  | nil => simp
  | @member slot value slots members hvalue _ ih =>
    refine List.forall_mem_cons.2 ⟨⟨slot, by simp, rfl, hvalue⟩, fun member hmember => ?_⟩
    obtain ⟨other, hother, hwritten⟩ := ih member hmember
    exact ⟨other, by simp [hother], hwritten⟩
  | @leave slot slots members _ _ ih =>
    intro member hmember
    obtain ⟨other, hother, hwritten⟩ := ih member hmember
    exact ⟨other, by simp [hother], hwritten⟩

/-- Each field may be left out or has a member. -/
theorem WritesInOrder.there {slots : List Slot} {members : List (Key × Draft)}
    (h : WritesInOrder slots members) : ∀ slot ∈ slots,
      slot.omissible ∨ ∃ value, (Key.name slot.name, value) ∈ members := by
  induction h with
  | nil => simp
  | @member slot value slots members _ _ ih =>
    refine List.forall_mem_cons.2 ⟨.inr ⟨value, by simp⟩, fun other hother => ?_⟩
    exact (ih other hother).imp_right fun ⟨value, hvalue⟩ => ⟨value, by simp [hvalue]⟩
  | leave hslot _ ih => exact List.forall_mem_cons.2 ⟨.inl hslot, ih⟩

/-- If the fields have different names, so have the members. -/
theorem WritesInOrder.pairwise_names {slots : List Slot} {members : List (Key × Draft)}
    (h : WritesInOrder slots members) (hnodup : (slots.map Slot.name).Nodup) :
    members.Pairwise fun a b => a.1 ≠ b.1 := by
  induction h with
  | nil => exact .nil
  | @member slot value slots members _ hrest ih =>
    obtain ⟨hfresh, hnodup⟩ := List.nodup_cons.1 hnodup
    refine .cons (fun member hmember heq => hfresh ?_) (ih hnodup)
    obtain ⟨other, hother, hname, -⟩ := hrest.mem_names member hmember
    have hsame : slot.name = other.name := Key.name.inj (heq.trans hname)
    exact hsame ▸ List.mem_map_of_mem hother
  | leave _ _ ih => exact ih (List.nodup_cons.1 hnodup).2

/-- The members of fields can be relied on in any order, and with others among them. -/
theorem WritesInOrder.fills {slots : List Slot} {written others members : List (Key × Draft)}
    (hwritten : WritesInOrder slots written)
    (hothers : ∀ other ∈ others, ∀ slot ∈ slots, other.1 ≠ .name slot.name)
    (hperm : members.Perm (written ++ others)) (hnodup : (slots.map Slot.name).Nodup)
    (hnamed : ∀ member ∈ members, ∃ name, member.1 = .name name) : Fills slots members where
  named := hnamed
  written slot hslot value hvalue := by
    obtain hmem | hmem := List.mem_append.1 (hperm.mem_iff.1 hvalue)
    · obtain ⟨other, hother, hname, hwrites⟩ := hwritten.mem_names _ hmem
      have hsame : slot = other :=
        List.inj_on_of_nodup_map hnodup hslot hother (Key.name.inj hname)
      exact hsame ▸ hwrites
    · exact absurd rfl (hothers _ hmem slot hslot)
  once := by
    refine hperm.symm.pairwise ?_ fun h slot hslot hboth => h slot hslot hboth.symm
    refine List.pairwise_append.2 ⟨?_, ?_, ?_⟩
    · exact (hwritten.pairwise_names hnodup).imp fun hne slot _ hboth =>
        hne (hboth.1.trans hboth.2.symm)
    · exact List.pairwise_of_forall_mem_list fun a ha b _ slot hslot hboth =>
        hothers a ha slot hslot hboth.1
    · exact fun a _ b hb slot hslot hboth => hothers b hb slot hslot hboth.2
  there slot hslot := by
    refine (hwritten.there slot hslot).imp_right fun ⟨value, hvalue⟩ => ⟨value, ?_⟩
    exact hperm.mem_iff.2 (List.mem_append_left others hvalue)
  fresh _ _ hseen := by cases hseen

/-- The same fields are filled without a member that is none of them. -/
theorem Fills.erase {slots : List Slot} {before after : List (Key × Draft)}
    {member : Key × Draft} (h : Fills slots (before ++ member :: after))
    (hmember : ∀ slot ∈ slots, member.1 ≠ .name slot.name) : Fills slots (before ++ after) where
  named other hother := h.named other (by simp at hother ⊢; tauto)
  written slot hslot value hvalue := h.written slot hslot value (by simp at hvalue ⊢; tauto)
  once := h.once.sublist (by simp)
  fresh _ _ hseen := by cases hseen
  there slot hslot := by
    refine (h.there slot hslot).imp_right fun ⟨value, hvalue⟩ => ⟨value, ?_⟩
    obtain hvalue | hvalue := List.mem_append.1 hvalue
    · exact List.mem_append_left _ hvalue
    · obtain hvalue | hvalue := List.mem_cons.1 hvalue
      · exact absurd (congrArg Prod.fst hvalue).symm (hmember slot hslot)
      · exact List.mem_append_right _ hvalue

/-- What can be relied on for some fields can be for a part of them. -/
theorem Fills.mono {slots more : List Slot} {members : List (Key × Draft)}
    (h : Fills more members) (hslots : ∀ slot ∈ slots, slot ∈ more) : Fills slots members where
  named := h.named
  written slot hslot := h.written slot (hslots slot hslot)
  once := h.once.imp fun hboth slot hslot => hboth slot (hslots slot hslot)
  fresh _ _ hseen := by cases hseen
  there slot hslot := h.there slot (hslots slot hslot)

/-! ## Tags -/

/-- What writes the fields beside a tag. -/
def WritesBody (slots : List Slot) : Body → Prop
  | .members members => Fills slots members
  | .items items => WritesItems slots items

/-- Members other than the tag are kept until the tag is found. -/
theorem readTagged_append {τ : Type} {tagName : String} {readTag : Draft → Except ReadFailure τ}
    {depth : Nat} {members : List (Key × Draft)}
    (hmembers : ∀ member ∈ members, (∃ name, name ≠ tagName ∧ member.1 = .name name) ∧
      member.2.check depth = .ok ())
    (tag : Option τ) (others rest : List (Key × Draft)) :
    readTagged tagName readTag depth tag others (members ++ rest) =
      readTagged tagName readTag depth tag (members.reverse ++ others) rest := by
  induction members generalizing others with
  | nil => rfl
  | cons member members ih =>
    obtain ⟨key, value⟩ := member
    obtain ⟨⟨⟨name, hname, rfl⟩, hvalue⟩, hmore⟩ := List.forall_mem_cons.1 hmembers
    rw [List.cons_append, readTagged, if_neg hname, hvalue, List.reverse_cons, List.append_assoc]
    exact ih hmore ((.name name, value) :: others)

/-- The tag is found wherever it stands. -/
theorem readTagged_of_fills {τ : Type} {tag : Slot} {readTag : Draft → Except ReadFailure τ}
    {action : τ} (hread : ∀ value, tag.writes value → readTag value = .ok action) {depth : Nat}
    {value : Draft} {before after : List (Key × Draft)}
    (hfills : Fills [tag] (before ++ (.name tag.name, value) :: after))
    (hvalues : ∀ member ∈ before ++ (.name tag.name, value) :: after,
      member.2.check depth = .ok ()) :
    readTagged tag.name readTag depth none [] (before ++ (.name tag.name, value) :: after) =
      .ok (some action, before ++ after) := by
  have hothers : ∀ member ∈ before ++ after,
      (∃ name, name ≠ tag.name ∧ member.1 = .name name) ∧ member.2.check depth = .ok () := by
    intro member hmember
    have hmem : member ∈ before ++ (.name tag.name, value) :: after := by
      simp at hmember ⊢
      tauto
    obtain ⟨name, hname⟩ := hfills.named member hmem
    refine ⟨⟨name, ?_, hname⟩, hvalues member hmem⟩
    rintro rfl
    have honce := (List.pairwise_cons.1 ((List.pairwise_middle fun h slot hslot hboth =>
      h slot hslot hboth.symm).1 hfills.once)).1 member hmember
    exact honce tag (by simp) ⟨rfl, hname⟩
  obtain ⟨hbefore, hafter⟩ := List.forall_mem_append.1 hothers
  rw [readTagged_append hbefore, readTagged, if_pos rfl,
    hread value (hfills.written tag (by simp) value (by simp))]
  calc readTagged tag.name readTag depth (some action) (before.reverse ++ []) after
      = readTagged tag.name readTag depth (some action) (before.reverse ++ []) (after ++ []) :=
        congrArg _ (List.append_nil after).symm
    _ = readTagged tag.name readTag depth (some action)
          (after.reverse ++ (before.reverse ++ [])) [] := readTagged_append hafter _ _ _
    _ = .ok (some action, before ++ after) := by simp [readTagged]

/-- A record with a tag is split into the tag and what writes the other fields. -/
theorem WritesRecord.exists_splitTagged {τ : Type} {tagName tagText : String} {slots : List Slot}
    {depth : Nat} {draft : Draft} (h : WritesRecord (.text tagName tagText :: slots) draft)
    (hformed : draft.WellFormed depth) (hnodup : (tagName :: slots.map Slot.name).Nodup)
    {ofText? : String → Option τ} {tag : τ} (htag : ofText? tagText = some tag)
    (known : List String) (title : String) :
    ∃ body, splitTagged title tagName (Draft.readTag ofText? known) depth draft =
        .ok (tag, body) ∧ WritesBody slots body := by
  have hread : ∀ value, (Slot.text tagName tagText).writes value →
      Draft.readTag ofText? known value = .ok tag := by
    rintro _ rfl
    rw [Draft.readTag, Draft.readVariant, htag]
  obtain ⟨hwritten, hothers, hperm⟩ | hitems := h
  · rename_i written others members
    cases hformed with
    | @object depth _ hnamed hvalues =>
    have hfills := hwritten.fills hothers hperm hnodup hnamed
    obtain hno | ⟨value, hvalue⟩ := hfills.there (.text tagName tagText) (by simp)
    · cases hno
    have hmember : (Key.name tagName, value) ∈ members := hvalue
    obtain ⟨before, after, rfl⟩ := List.append_of_mem hmember
    have htagged : readTagged tagName (Draft.readTag ofText? known) depth none []
        (before ++ (.name tagName, value) :: after) = .ok (some tag, before ++ after) :=
      readTagged_of_fills hread (hfills.mono (by simp))
        fun member hmember => (hvalues member hmember).check
    refine ⟨.members (before ++ after), ?_, ?_⟩
    · simp only [splitTagged, Nat.add_sub_cancel, htagged]
      rfl
    · refine (hfills.mono (by simp +contextual)).erase fun slot hslot hname => ?_
      have hsame : tagName = slot.name := Key.name.inj hname
      exact (List.nodup_cons.1 hnodup).1 (hsame ▸ List.mem_map_of_mem hslot)
  · rename_i items
    cases hformed with
    | @array depth _ hvalues =>
    cases hitems with
    | done hall => cases hall (.text tagName tagText) (by simp)
    | @item _ value _ items hvalue hitems =>
    refine ⟨.items items, ?_, hitems⟩
    have hchecked : Draft.checkItems depth items = .ok () :=
      Draft.checkItems_eq_ok fun item hitem => (hvalues item (by simp [hitem])).check
    simp only [splitTagged, hread value hvalue, Nat.add_sub_cancel, hchecked]
    rfl

/-- Nothing but the tag is looked at in a record without further fields. -/
theorem readAlone_of_writesBody {body : Body} (h : WritesBody [] body) :
    readAlone body = .ok () := by
  cases body with
  | members members => rfl
  | items items =>
    cases h
    rfl

end SegmentCache.Json
