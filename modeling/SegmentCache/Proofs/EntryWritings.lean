import SegmentCache.Format.Entry
import SegmentCache.Proofs.Layouts

/-!
# Entries in all their writings

An entry is a record that holds another one, the locality of its object. Both have the freedom of
records in their writing, and a kind may stand as its name or as the name of an empty member.
-/

namespace SegmentCache

open Json

/-- The documents that write a kind: its name, alone or as the name of an empty member. -/
inductive ObjectKind.Writes (kind : ObjectKind) : Draft → Prop where
  | name : kind.Writes (.string kind.text)
  | member : kind.Writes (.object [(.name kind.text, .null)] .closed)

/-- A field with a kind. -/
def ObjectKind.slot (name : String) (kind : ObjectKind) : Slot where
  name := name
  writes := kind.Writes
  omissible := False

/-- A kind of objects is read from its name. -/
theorem ObjectKind.readVariant_text (kind : ObjectKind) :
    Draft.readVariant ofText? known kind.text = .ok kind := by
  rw [Draft.readVariant, ofText?_text]

/-- A kind is read from every document that writes it, by a reader that takes all of it. -/
theorem ObjectKind.Writes.readWhole {kind : ObjectKind} {draft : Draft} (h : kind.Writes draft) :
    ObjectKind.readWhole draft = .ok kind := by
  cases h with
  | name => exact kind.readVariant_text
  | member =>
    rw [ObjectKind.readWhole, readWith, kind.readVariant_text]
    rfl

/-- A kind is read from every document that writes it. -/
theorem ObjectKind.Writes.read {kind : ObjectKind} {draft : Draft} (h : kind.Writes draft) :
    ObjectKind.read draft = .ok kind := by
  cases h with
  | name => exact kind.readVariant_text
  | member =>
    simp only [ObjectKind.read, readKey, kind.readVariant_text]
    rfl

namespace Locality

/-- The fields of a locality, the tag among them. -/
def slots : Locality → List Slot
  | .cpu => [.text "type" "cpu"]
  | .gpu device => [.text "type" "gpu", .word "device_id" device.toUInt64]

/-- The documents that write a locality. -/
def Writes (locality : Locality) : Draft → Prop :=
  WritesRecord locality.slots

/-- A short word is read from its document. -/
theorem readWord32_word (word : UInt32) :
    ∀ draft, draft = .number (.natural word.toUInt64) → Draft.readWord32 draft = .ok word := by
  intro draft hdraft
  have hword : word.toUInt64.toNat < UInt32.size := by
    rw [UInt32.toNat_toUInt64]
    exact word.toNat_lt
  rw [Draft.readWord32, Draft.readBelow_natural hword "u32" draft hdraft]
  exact congrArg Except.ok (UInt32.toUInt32_toUInt64 word)

/-- The layout of device places has the number of the device as its field. -/
theorem layout_fits (device : UInt32) :
    layout.Fits device [⟨.word "device_id" device.toUInt64, fun _ => device⟩] where
  distinct := List.nodup_singleton _
  takes := .cons (Field.takes_need (readWord32_word device)) .nil
  again := by simp
  apart := by simp
  default := by simp [Slot.word]
  whole record := rfl

/-- A place is read from every document without flaws that writes it. -/
theorem Writes.read {locality : Locality} {draft : Draft} (h : locality.Writes draft)
    (hformed : draft.WellFormed (maxDepth - 1)) : Locality.read draft = .ok locality := by
  cases locality with
  | cpu =>
    have htag : isDevice? "cpu" = some false := rfl
    obtain ⟨body, hsplit, hbody⟩ :=
      WritesRecord.exists_splitTagged h hformed (List.nodup_singleton _) htag known "Locality"
    simp only [Locality.read, hsplit]
    exact congrArg (· >>= fun _ => .ok Locality.cpu) (readAlone_of_writesBody hbody)
  | gpu device =>
    have htag : isDevice? "gpu" = some true := rfl
    have hnodup : ["type", "device_id"].Nodup := by decide
    obtain ⟨body, hsplit, hbody⟩ :=
      WritesRecord.exists_splitTagged h hformed hnodup htag known "Locality"
    simp only [Locality.read, hsplit]
    exact congrArg (· >>= fun id => .ok (Locality.gpu id))
      ((layout_fits device).readBody_of_writesBody hbody)

/-- The document of a short word is that of the word with the same value. -/
theorem draft_word32 (word : UInt32) :
    draft (.number word.toNat) = .number (.natural word.toUInt64) := by
  rw [← UInt32.toNat_toUInt64, draft_word]

/-- A short word has a document without flaws. -/
theorem wellFormed_word32 (word : UInt32) (depth : Nat) :
    (draft (.number word.toNat)).WellFormed depth := by
  rw [draft_word32]
  exact .number (by simp)

/-- The document that is written for a place writes it. -/
theorem writes_document (locality : Locality) : locality.Writes locality.document.draft := by
  cases locality with
  | cpu => exact .of_members (.cons ⟨rfl, rfl⟩ .nil)
  | gpu device => exact .of_members (.cons ⟨rfl, rfl⟩ (.cons ⟨rfl, draft_word32 device⟩ .nil))

/-- The document of a place has no flaws. -/
theorem wellFormed_document (locality : Locality) (depth : Nat) :
    locality.document.draft.WellFormed (depth + 1) := by
  cases locality with
  | cpu => exact wellFormed_object (by simp [wellFormed_string])
  | gpu device => exact wellFormed_object (by simp [wellFormed_string, wellFormed_word32])

end Locality

namespace Entry

/-- The fields of an entry. -/
def parts (entry : Entry) : List (Component Entry) :=
  [⟨.text "name" entry.name, fun record => { record with name := entry.name }⟩,
   ⟨.text "handle" entry.handle, fun record => { record with handle := entry.handle }⟩,
   ⟨.extents "shape" entry.shape, fun record => { record with shape := entry.shape }⟩,
   ⟨.text "dtype" entry.dtype, fun record => { record with dtype := entry.dtype }⟩,
   ⟨.word "size_bytes" entry.size, fun record => { record with size := entry.size }⟩,
   ⟨.word "hit_count" entry.hits, fun record => { record with hits := entry.hits }⟩,
   ⟨⟨"locality", entry.locality.Writes, False⟩,
     fun record => { record with locality := entry.locality }⟩,
   ⟨entry.kind.slot "kind", fun record => { record with kind := entry.kind }⟩]

/-- The documents that write an entry. -/
def Writes (entry : Entry) : Draft → Prop :=
  WritesRecord (entry.parts.map Component.toSlot)

/-- The layout of entries has the fields of an entry, whose values have no flaws. -/
theorem layout_fits (entry : Entry) :
    layout.Fits entry (entry.parts.map (Component.within · (maxDepth - 1))) where
  distinct := by
    show ["name", "handle", "shape", "dtype", "size_bytes", "hit_count", "locality",
      "kind"].Nodup
    decide
  takes :=
    .cons (Field.takes_need fun draft h => Draft.readString_text _ draft h.1) <|
    .cons (Field.takes_need fun draft h => Draft.readString_text _ draft h.1) <|
    .cons (Field.takes_need fun draft h => Draft.readList_extents _ draft h.1) <|
    .cons (Field.takes_need fun draft h => Draft.readString_text _ draft h.1) <|
    .cons (Field.takes_need fun draft h =>
      Draft.readBelow_natural entry.size.toNat_lt "u64" draft h.1) <|
    .cons (Field.takes_need fun draft h =>
      Draft.readBelow_natural entry.hits.toNat_lt "u64" draft h.1) <|
    .cons (Field.takes_need fun _ h => h.1.read h.2) <|
    .cons (Field.takes_need fun _ h => h.1.read) .nil
  again := by simp [parts, Component.within]
  apart := by simp [parts, Component.within]
  default := by
    simp [parts, Component.within, Slot.within, Slot.text, Slot.word, Slot.extents, Slot.list,
      ObjectKind.slot]
  whole record := rfl

/-- An entry is read from every document without flaws that writes it. -/
theorem Writes.read {entry : Entry} {draft : Draft} (h : entry.Writes draft)
    (hformed : draft.WellFormed maxDepth) : layout.read .text draft = .ok entry :=
  (layout_fits entry).read_of_writesRecord hformed (WritesRecord.within h hformed) .text

/-- The written form of an entry is one of the documents that write it. -/
theorem writes_document (entry : Entry) : entry.Writes entry.document.draft := by
  refine WritesRecord.of_members ?_
  exact .cons ⟨rfl, rfl⟩ <| .cons ⟨rfl, rfl⟩ <| .cons ⟨rfl, writes_extents "shape" entry.shape⟩ <|
    .cons ⟨rfl, rfl⟩ <| .cons ⟨rfl, draft_word entry.size⟩ <|
    .cons ⟨rfl, draft_word entry.hits⟩ <| .cons ⟨rfl, entry.locality.writes_document⟩ <|
    .cons ⟨rfl, .name⟩ .nil

/-- The document of an entry has no flaws and is not too deep. -/
theorem wellFormed_document (entry : Entry) : entry.document.draft.WellFormed maxDepth := by
  have hlocality : entry.locality.document.draft.WellFormed 126 :=
    entry.locality.wellFormed_document 125
  exact wellFormed_object (by
    simp [wellFormed_string, wellFormed_word, wellFormed_extents, hlocality])

/-- An entry is read from every text that writes it. -/
theorem ofText_of_writes (entry : Entry) {draft : Draft} (hwrites : entry.Writes draft)
    {text : String} (htext : draft.IsText maxDepth text) : ofText text = .ok entry :=
  htext.readText (hwrites.read htext.1)

end Entry

end SegmentCache
