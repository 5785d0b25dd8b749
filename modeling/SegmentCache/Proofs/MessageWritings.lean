import SegmentCache.Format.Message
import SegmentCache.Proofs.EntryWritings

/-!
# Messages in all their writings

A message is a tagged record, so that it has many writings: an object or an array, with or without
the fields that hold their defaults, in texts that differ in their blanks and in the writing of
their strings. All of them are read as the message that was meant, its own text among them.
-/

namespace SegmentCache

open Json

namespace Message

/-- The fields of a message that only names a file. -/
def fileParts (fileName : String) : List (Component String) :=
  [⟨.text "file_name" fileName, fun _ => fileName⟩]

/-- The fields of a use. -/
def useParts (use : Use) : List (Component Use) :=
  [⟨.text "file_name" use.fileName, fun record => { record with fileName := use.fileName }⟩,
   ⟨(Slot.text "parameter" use.parameter).omittedIf (use.parameter = ""),
     fun record => { record with parameter := use.parameter }⟩,
   ⟨(Slot.text "function" use.function).omittedIf (use.function = ""),
     fun record => { record with function := use.function }⟩]

/-- The fields of an offer. -/
def offerParts (offer : Offer) : List (Component Offer) :=
  [⟨.text "file_name" offer.fileName, fun record => { record with fileName := offer.fileName }⟩,
   ⟨.text "handle" offer.handle, fun record => { record with handle := offer.handle }⟩,
   ⟨(offer.kind.slot "kind").omittedIf (offer.kind = .sharedMemory),
     fun record => { record with kind := offer.kind }⟩,
   ⟨(Slot.text "parameter" offer.parameter).omittedIf (offer.parameter = ""),
     fun record => { record with parameter := offer.parameter }⟩,
   ⟨(Slot.text "function" offer.function).omittedIf (offer.function = ""),
     fun record => { record with function := offer.function }⟩,
   ⟨.word "size" offer.size, fun record => { record with size := offer.size }⟩,
   ⟨(Slot.text "dtype" offer.dtype).omittedIf (offer.dtype = ""),
     fun record => { record with dtype := offer.dtype }⟩,
   ⟨(Slot.extents "shape" offer.shape).omittedIf (offer.shape = []),
     fun record => { record with shape := offer.shape }⟩]

/-- The fields of an offer for a device. -/
def deviceOfferParts (offer : DeviceOffer) : List (Component DeviceOffer) :=
  [⟨.text "file_name" offer.fileName, fun record => { record with fileName := offer.fileName }⟩,
   ⟨.text "handle" offer.handle, fun record => { record with handle := offer.handle }⟩,
   ⟨.text "pci_bus_id" offer.bus, fun record => { record with bus := offer.bus }⟩,
   ⟨(Slot.text "parameter" offer.parameter).omittedIf (offer.parameter = ""),
     fun record => { record with parameter := offer.parameter }⟩,
   ⟨(Slot.text "function" offer.function).omittedIf (offer.function = ""),
     fun record => { record with function := offer.function }⟩,
   ⟨.word "size" offer.size, fun record => { record with size := offer.size }⟩,
   ⟨(Slot.text "dtype" offer.dtype).omittedIf (offer.dtype = ""),
     fun record => { record with dtype := offer.dtype }⟩,
   ⟨(Slot.extents "shape" offer.shape).omittedIf (offer.shape = []),
     fun record => { record with shape := offer.shape }⟩]

/-- The fields of a message beside its action. -/
def slots : Message → List Slot
  | .get fileName parameter function =>
    (useParts { fileName, parameter, function }).map Component.toSlot
  | .put offer | .replace offer => (offerParts offer).map Component.toSlot
  | .putGpu offer => (deviceOfferParts offer).map Component.toSlot
  | .remove fileName | .lock fileName | .unlock fileName | .isLocked fileName
  | .isInCache fileName => (fileParts fileName).map Component.toSlot
  | .endProfiling | .quit => []

/-- The documents that write a message: a record of its action and its fields. -/
def Writes (message : Message) : Draft → Prop :=
  WritesRecord (.text "action" message.action.text :: message.slots)

/-- The layout of messages about a file has the name of the file as its field. -/
theorem fileLayout_fits (title fileName : String) :
    (fileLayout title).Fits fileName (fileParts fileName) where
  distinct := List.nodup_singleton _
  takes := .cons (Field.takes_need (Draft.readString_text _)) .nil
  again := by simp [fileParts]
  apart := by simp [fileParts]
  default := by simp [fileParts, Slot.text]
  whole record := rfl

/-- The layout of uses has the fields of a use. -/
theorem useLayout_fits (use : Use) : useLayout.Fits use (useParts use) where
  distinct := by
    show ["file_name", "parameter", "function"].Nodup
    decide
  takes :=
    .cons (Field.takes_need (Draft.readString_text _)) <|
    .cons (Field.takes_allow (Draft.readString_text _)) <|
    .cons (Field.takes_allow (Draft.readString_text _)) .nil
  again := by simp [useParts]
  apart := by simp [useParts]
  default := by simp [useParts, useLayout, Slot.omittedIf, Slot.text]
  whole record := rfl

/-- The layout of offers has the fields of an offer. -/
theorem offerLayout_fits (title : String) (offer : Offer) :
    (offerLayout title).Fits offer (offerParts offer) where
  distinct := by
    show ["file_name", "handle", "kind", "parameter", "function", "size", "dtype", "shape"].Nodup
    decide
  takes :=
    .cons (Field.takes_need (Draft.readString_text _)) <|
    .cons (Field.takes_need (Draft.readString_text _)) <|
    .cons (Field.takes_allow fun _ h => ObjectKind.Writes.readWhole h) <|
    .cons (Field.takes_allow (Draft.readString_text _)) <|
    .cons (Field.takes_allow (Draft.readString_text _)) <|
    .cons (Field.takes_need (Draft.readBelow_natural offer.size.toNat_lt "u64")) <|
    .cons (Field.takes_allow (Draft.readString_text _)) <|
    .cons (Field.takes_allow (Draft.readList_extents _)) .nil
  again := by simp [offerParts]
  apart := by simp [offerParts]
  default := by simp [offerParts, offerLayout, Slot.omittedIf, Slot.text, Slot.word]
  whole record := rfl

/-- The layout of offers to a device has the fields of such an offer. -/
theorem deviceOfferLayout_fits (offer : DeviceOffer) :
    deviceOfferLayout.Fits offer (deviceOfferParts offer) where
  distinct := by
    show ["file_name", "handle", "pci_bus_id", "parameter", "function", "size", "dtype",
      "shape"].Nodup
    decide
  takes :=
    .cons (Field.takes_need (Draft.readString_text _)) <|
    .cons (Field.takes_need (Draft.readString_text _)) <|
    .cons (Field.takes_need (Draft.readString_text _)) <|
    .cons (Field.takes_allow (Draft.readString_text _)) <|
    .cons (Field.takes_allow (Draft.readString_text _)) <|
    .cons (Field.takes_need (Draft.readBelow_natural offer.size.toNat_lt "u64")) <|
    .cons (Field.takes_allow (Draft.readString_text _)) <|
    .cons (Field.takes_allow (Draft.readList_extents _)) .nil
  again := by simp [deviceOfferParts]
  apart := by simp [deviceOfferParts]
  default := by simp [deviceOfferParts, deviceOfferLayout, Slot.omittedIf, Slot.text, Slot.word]
  whole record := rfl

/-- What writes the fields of a message is read as the message. -/
theorem readBody_of_writesBody {message : Message} {body : Body}
    (h : WritesBody message.slots body) : readBody body message.action = .ok message := by
  cases message with
  | get fileName parameter function =>
    simp only [action, readBody, (useLayout_fits _).readBody_of_writesBody h]
    rfl
  | put offer =>
    rw [action, readBody, (offerLayout_fits _ offer).readBody_of_writesBody h]
    rfl
  | putGpu offer =>
    rw [action, readBody, (deviceOfferLayout_fits offer).readBody_of_writesBody h]
    rfl
  | replace offer =>
    rw [action, readBody, (offerLayout_fits _ offer).readBody_of_writesBody h]
    rfl
  | remove fileName | lock fileName | unlock fileName | isLocked fileName | isInCache fileName =>
    rw [action, readBody, (fileLayout_fits _ fileName).readBody_of_writesBody h]
    rfl
  | endProfiling | quit =>
    rw [action, readBody, readAlone_of_writesBody h]
    rfl

/-- The fields of a message have different names, and none that of the action. -/
theorem nodup_slots (message : Message) :
    ("action" :: message.slots.map Slot.name).Nodup := by
  cases message with
  | get fileName parameter function =>
    show ["action", "file_name", "parameter", "function"].Nodup
    decide
  | put offer | replace offer =>
    show ["action", "file_name", "handle", "kind", "parameter", "function", "size", "dtype",
      "shape"].Nodup
    decide
  | putGpu offer =>
    show ["action", "file_name", "handle", "pci_bus_id", "parameter", "function", "size", "dtype",
      "shape"].Nodup
    decide
  | remove fileName | lock fileName | unlock fileName | isLocked fileName | isInCache fileName =>
    show ["action", "file_name"].Nodup
    decide
  | endProfiling | quit => exact List.nodup_singleton _

/-- Every document that writes a message is read as the message. -/
theorem Writes.read {message : Message} {draft : Draft} (h : message.Writes draft)
    (hformed : draft.WellFormed maxDepth) : Message.read draft = .ok message := by
  have htag : Action.ofText? message.action.text = some message.action :=
    message.action.ofText?_text
  obtain ⟨body, hsplit, hbody⟩ :=
    WritesRecord.exists_splitTagged h hformed message.nodup_slots htag knownActions "CacheMessage"
  simp only [Message.read, hsplit]
  exact readBody_of_writesBody hbody

/-- The members of a message have values without flaws. -/
theorem wellFormed_members (message : Message) :
    ∀ member ∈ message.members, member.2.draft.WellFormed 126 := by
  cases message <;>
    simp [members, offerMembers, deviceOfferMembers, wellFormed_extents, wellFormed_word,
      wellFormed_string]

/-- The document of a message has no flaws and is not too deep. -/
theorem wellFormed_document (message : Message) :
    message.document.draft.WellFormed maxDepth :=
  wellFormed_object (List.forall_mem_cons.2 ⟨.string _, message.wellFormed_members⟩)

/-- The written form of a message is one of the documents that write it. -/
theorem writes_document (message : Message) : message.Writes message.document.draft := by
  refine WritesRecord.of_members (.cons ⟨rfl, rfl⟩ ?_)
  cases message with
  | get fileName parameter function =>
    exact .cons ⟨rfl, rfl⟩ <| .cons ⟨rfl, rfl⟩ <| .cons ⟨rfl, rfl⟩ .nil
  | put offer | replace offer =>
    exact .cons ⟨rfl, rfl⟩ <| .cons ⟨rfl, rfl⟩ <| .cons ⟨rfl, .name⟩ <| .cons ⟨rfl, rfl⟩ <|
      .cons ⟨rfl, rfl⟩ <| .cons ⟨rfl, draft_word offer.size⟩ <| .cons ⟨rfl, rfl⟩ <|
      .cons ⟨rfl, writes_extents "shape" offer.shape⟩ .nil
  | putGpu offer =>
    exact .cons ⟨rfl, rfl⟩ <| .cons ⟨rfl, rfl⟩ <| .cons ⟨rfl, rfl⟩ <| .cons ⟨rfl, rfl⟩ <|
      .cons ⟨rfl, rfl⟩ <| .cons ⟨rfl, draft_word offer.size⟩ <| .cons ⟨rfl, rfl⟩ <|
      .cons ⟨rfl, writes_extents "shape" offer.shape⟩ .nil
  | remove fileName | lock fileName | unlock fileName | isLocked fileName | isInCache fileName =>
    exact .cons ⟨rfl, rfl⟩ .nil
  | endProfiling | quit => exact .nil

/-- A message is read from its own text and from every other text that writes it. -/
theorem every_writing_read (message : Message) :
    ofText message.document.compact = .ok message ∧
      ∀ draft text, message.Writes draft → draft.IsText maxDepth text →
        ofText text = .ok message := by
  have hread : ∀ draft text, message.Writes draft → draft.IsText maxDepth text →
      ofText text = .ok message :=
    fun draft text hwrites htext => htext.readText (hwrites.read htext.1)
  exact ⟨hread _ _ message.writes_document (isText_compact message.wellFormed_document), hread⟩

/-- An offer whose action comes last, behind a member that is no field, with most of its fields
left out. -/
theorem every_writing_read_reversed :
    ofText ("\x7b\"note\":[null,\x7b\x7d],\"size\":18446744073709551615,\"handle\":\"a\\nb\"," ++
        "\"file_name\":\"é\",\"action\":\"PUT\"\x7d") =
      .ok (.put { fileName := "é", handle := "a\nb", size := 18446744073709551615 }) := by
  let note : Json := .array [.null, .object []]
  let size : UInt64 := 18446744073709551615
  let doc : Json := .object [("note", note), ("size", .number size.toNat),
    ("handle", .string "a\nb"), ("file_name", .string "é"), ("action", .string "PUT")]
  have hnote : note.draft.WellFormed 126 :=
    wellFormed_array (by simpa [draft] using ⟨.null, wellFormed_object (by simp)⟩)
  have hformed : doc.draft.WellFormed maxDepth :=
    wellFormed_object (by simp [hnote, wellFormed_word, wellFormed_string])
  have hwrites : (put { fileName := "é", handle := "a\nb", size }).Writes doc.draft := by
    refine .object (.member rfl <| .member rfl <| .member rfl <| .leave rfl <| .leave rfl <|
      .leave rfl <| .member (draft_word size) <| .leave rfl <| .leave rfl .nil) ?_
      (List.reverse_perm [_, _, _, _, (Key.name "note", note.draft)])
    simp [slots, offerParts, Slot.omittedIf, Slot.text, Slot.word, Slot.extents, Slot.list,
      ObjectKind.slot]
  have htext : doc.compact =
      "\x7b\"note\":[null,\x7b\x7d],\"size\":18446744073709551615,\"handle\":\"a\\nb\"," ++
        "\"file_name\":\"é\",\"action\":\"PUT\"\x7d" := by decide +kernel
  exact htext ▸ (every_writing_read _).2 _ _ hwrites (isText_compact hformed)

end Message

end SegmentCache
