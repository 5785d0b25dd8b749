import SegmentCache.Format.Config
import SegmentCache.Proofs.EntryWritings

/-!
# Configurations in all their writings

A configuration is a record of which all fields but one have defaults, with a list of records for
its devices. Whatever the writing, it is read as the configuration that was meant; whether it is
sound is asked afterwards, so that the writings of a sound configuration are all accepted.
-/

namespace SegmentCache

open Json

namespace Device

/-- The fields of a device. -/
def parts (device : Device) : List (Component Device) :=
  [⟨.word "device_id" device.id.toUInt64, fun record => { record with id := device.id }⟩,
   ⟨.text "pci_bus_id" device.bus, fun record => { record with bus := device.bus }⟩,
   ⟨.word "capacity_bytes" device.capacity,
     fun record => { record with capacity := device.capacity }⟩]

/-- The documents that write a device. -/
def Writes (device : Device) : Draft → Prop :=
  WritesRecord (device.parts.map Component.toSlot)

/-- The layout of devices has the fields of a device. -/
theorem layout_fits (device : Device) : layout.Fits device device.parts where
  distinct := by
    show ["device_id", "pci_bus_id", "capacity_bytes"].Nodup
    decide
  takes :=
    .cons (Field.takes_need (Locality.readWord32_word device.id)) <|
    .cons (Field.takes_need (Draft.readString_text _)) <|
    .cons (Field.takes_need (Draft.readBelow_natural device.capacity.toNat_lt "u64")) .nil
  again := by simp [parts]
  apart := by simp [parts]
  default := by simp [parts, Slot.text, Slot.word]
  whole record := rfl

/-- The document that is written for a device writes it. -/
theorem writes_document (device : Device) : device.Writes device.document.draft :=
  .of_members <| .cons ⟨rfl, Locality.draft_word32 device.id⟩ <| .cons ⟨rfl, rfl⟩ <|
    .cons ⟨rfl, draft_word device.capacity⟩ .nil

/-- The document of a device has no flaws. -/
theorem wellFormed_document (device : Device) (depth : Nat) :
    device.document.draft.WellFormed (depth + 1) :=
  wellFormed_object (by simp [wellFormed_string, wellFormed_word, Locality.wellFormed_word32])

end Device

namespace Config

/-- The document for a path that may be left open. -/
def pathDraft (path : Option String) : Draft :=
  (path.map Draft.string).getD .null

/-- The fields of a configuration. -/
def parts (config : Config) : List (Component Config) :=
  [⟨(Slot.text "process_name" config.processName).omittedIf (config.processName = "cache-manager"),
     fun record => { record with processName := config.processName }⟩,
   ⟨.word "cpu_capacity_bytes" config.cpuCapacity,
     fun record => { record with cpuCapacity := config.cpuCapacity }⟩,
   ⟨(Slot.list "gpu_devices" Device.Writes config.devices).omittedIf (config.devices = []),
     fun record => { record with devices := config.devices }⟩,
   ⟨⟨"profiling", (· = .bool config.profiling), config.profiling = false⟩,
     fun record => { record with profiling := config.profiling }⟩,
   ⟨⟨"log_dir", (· = pathDraft config.logDir), config.logDir = none⟩,
     fun record => { record with logDir := config.logDir }⟩]

/-- The documents that write a configuration. -/
def Writes (config : Config) : Draft → Prop :=
  WritesRecord (config.parts.map Component.toSlot)

/-- A truth value is read from its document. -/
theorem readBool_bool (value : Bool) :
    ∀ draft, draft = .bool value → Draft.readBool draft = .ok value := by
  rintro _ rfl
  rfl

/-- A path, or that there is none, is read from its document. -/
theorem readPath_pathDraft (path : Option String) :
    ∀ draft, draft = pathDraft path → Draft.readPath draft = .ok path := by
  rintro _ rfl
  cases path <;> rfl

/-- A list of devices is read from the writings of the devices. -/
theorem readDevices_eq_ok {depth : Nat} (devices : List Device) :
    ∀ draft, (∃ items, draft = .array items .closed ∧ List.Forall₂ Device.Writes devices items) ∧
        draft.WellFormed depth →
      Draft.readList (Device.layout.read .text) draft = .ok devices := by
  rintro _ ⟨⟨items, rfl, hitems⟩, hformed⟩
  cases hformed with
  | @array depth _ hvalues =>
  have hboth : List.Forall₂ (fun device item => device.Writes item ∧ item.WellFormed depth)
      devices items := by
    induction hitems with
    | nil => exact .nil
    | cons hfirst _ ih =>
      obtain ⟨hvalue, hmore⟩ := List.forall_mem_cons.1 hvalues
      exact .cons ⟨hfirst, hvalue⟩ (ih hmore)
  exact Draft.readList_eq_ok (fun device item h =>
    (Device.layout_fits device).read_of_writesRecord h.2 h.1 .text) devices _ ⟨items, rfl, hboth⟩

/-- The layout of configurations has the fields of a configuration, whose values have no flaws. -/
theorem layout_fits (config : Config) (depth : Nat) :
    (layout .text).Fits config (config.parts.map (Component.within · depth)) where
  distinct := by
    show ["process_name", "cpu_capacity_bytes", "gpu_devices", "profiling", "log_dir"].Nodup
    decide
  takes :=
    .cons (Field.takes_allow fun draft h => Draft.readString_text _ draft h.1) <|
    .cons (Field.takes_need fun draft h =>
      Draft.readBelow_natural config.cpuCapacity.toNat_lt "u64" draft h.1) <|
    .cons (Field.takes_allow (readDevices_eq_ok config.devices)) <|
    .cons (Field.takes_allow fun draft h => readBool_bool _ draft h.1) <|
    .cons (Field.takes_allow fun draft h => readPath_pathDraft _ draft h.1) .nil
  again := by simp [parts, Component.within]
  apart := by simp [parts, Component.within]
  default := by
    simp [parts, layout, Component.within, Slot.within, Slot.omittedIf, Slot.text, Slot.word,
      Slot.list]
  whole record := rfl

/-- A configuration is read from every document without flaws that writes it. -/
theorem Writes.read {config : Config} {draft : Draft} (h : config.Writes draft) {depth : Nat}
    (hformed : draft.WellFormed depth) : (layout .text).read .text draft = .ok config := by
  obtain _ | depth := depth
  · cases h <;> cases hformed
  · exact (layout_fits config depth).read_of_writesRecord hformed
      (WritesRecord.within h hformed) .text

/-- The written form of a configuration is one of the documents that write it. -/
theorem writes_document (config : Config) : config.Writes config.document.draft := by
  have hdevices : List.Forall₂ Device.Writes config.devices
      (draftItems (config.devices.map Device.document)) := by
    rw [draftItems_eq_map, List.map_map]
    exact List.forall₂_map_right_iff.2 (List.forall₂_same.2 fun device _ => device.writes_document)
  have hpath : draft ((config.logDir.map Json.string).getD .null) = pathDraft config.logDir := by
    cases config.logDir <;> rfl
  refine WritesRecord.of_members ?_
  exact .cons ⟨rfl, rfl⟩ <| .cons ⟨rfl, draft_word config.cpuCapacity⟩ <|
    .cons ⟨rfl, _, rfl, hdevices⟩ <| .cons ⟨rfl, rfl⟩ <| .cons ⟨rfl, hpath⟩ .nil

/-- The document of a configuration has no flaws and is not too deep. -/
theorem wellFormed_document (config : Config) : config.document.draft.WellFormed maxDepth := by
  have hdevices : (draft (.array (config.devices.map Device.document))).WellFormed 126 :=
    wellFormed_array (List.forall_mem_map.2 fun device _ => device.wellFormed_document 124)
  have hpath : (draft ((config.logDir.map Json.string).getD .null)).WellFormed 126 := by
    cases config.logDir with
    | none => exact .null
    | some path => exact .string path
  have hprofiling : (draft (.bool config.profiling)).WellFormed 126 := .bool config.profiling
  exact wellFormed_object (by
    simp [wellFormed_string, wellFormed_word, hdevices, hpath, hprofiling])

/-- A sound configuration is read and accepted from every text that writes it. -/
theorem ofSoundText_of_writes {config : Config} (hsound : config.validate = .ok ())
    {draft : Draft} (hwrites : config.Writes draft) {depth : Nat} {text : String}
    (htext : draft.IsText depth text) : ofSoundText text = .ok config := by
  have hread : ofText text = .ok config := htext.readText (hwrites.read htext.1)
  simp only [ofSoundText, hread, hsound]

end Config

/-- Entries and sound configurations are read from their own texts and from every other text that
writes them. -/
theorem stored_forms_read_back :
    (∀ entry : Entry, Entry.ofText entry.document.compact = .ok entry ∧
      ∀ draft text, entry.Writes draft → draft.IsText maxDepth text →
        Entry.ofText text = .ok entry) ∧
    ∀ config : Config, config.validate = .ok () →
      Config.ofSoundText config.document.compact = .ok config ∧
      ∀ draft depth text, config.Writes draft → draft.IsText depth text →
        Config.ofSoundText text = .ok config := by
  refine ⟨fun entry => ⟨?_, fun draft text hwrites htext => entry.ofText_of_writes hwrites htext⟩,
    fun config hsound => ⟨?_, fun draft depth text hwrites htext =>
      Config.ofSoundText_of_writes hsound hwrites htext⟩⟩
  · exact entry.ofText_of_writes entry.writes_document (isText_compact entry.wellFormed_document)
  · exact Config.ofSoundText_of_writes hsound config.writes_document
      (isText_compact config.wellFormed_document)

/-- An entry written as an array with its locality as an array, and a configuration with its fields
in reverse, its name left out and its device as an array. -/
theorem stored_forms_read_back_reversed :
    Entry.ofText "[\"k\",\"h\",[2],\"f4\",8,0,[\"gpu\",3],\"ShareableList\"]" =
        .ok { name := "k", handle := "h", shape := [2], dtype := "f4", size := 8, hits := 0,
              locality := .gpu 3, kind := .shareableList } ∧
      Config.ofSoundText ("\x7b\"log_dir\":\"d\",\"profiling\":true," ++
          "\"gpu_devices\":[[0,\"b\",9]],\"cpu_capacity_bytes\":7\x7d") =
        .ok { cpuCapacity := 7, devices := [{ id := 0, bus := "b", capacity := 9 }],
              profiling := true, logDir := some "d" } := by
  constructor
  · let doc : Json := .array [.string "k", .string "h", .array [.number (2 : UInt64).toNat],
      .string "f4", .number (8 : UInt64).toNat, .number (0 : UInt64).toNat,
      .array [.string "gpu", .number (3 : UInt32).toNat], .string "ShareableList"]
    have hlocality : (draft (.array [.string "gpu", .number (3 : UInt32).toNat])).WellFormed 126 :=
      wellFormed_array (List.forall_mem_cons.2 ⟨.string "gpu", List.forall_mem_singleton.2
        (Locality.wellFormed_word32 3 125)⟩)
    have hformed : doc.draft.WellFormed maxDepth := by
      refine wellFormed_array ?_
      simp only [List.forall_mem_cons]
      exact ⟨.string _, .string _, wellFormed_extents [2] _, .string _, wellFormed_word 8 _,
        wellFormed_word 0 _, hlocality, .string _, by simp⟩
    have htext : doc.compact = "[\"k\",\"h\",[2],\"f4\",8,0,[\"gpu\",3],\"ShareableList\"]" := by
      decide +kernel
    refine htext ▸ (stored_forms_read_back.1 _).2 _ _ ?_ (isText_compact hformed)
    refine .array (.item rfl <| .item rfl <| .item (writes_extents "shape" [2]) <| .item rfl <|
      .item (draft_word 8) <| .item (draft_word 0) <| .item ?_ <| .item .name <| .done (by simp))
    exact .array (.item rfl <| .item (Locality.draft_word32 3) <| .done (by simp))
  · let doc : Json := .object [("log_dir", .string "d"), ("profiling", .bool true),
      ("gpu_devices", .array [.array [.number (0 : UInt32).toNat, .string "b",
        .number (9 : UInt64).toNat]]), ("cpu_capacity_bytes", .number (7 : UInt64).toNat)]
    have hdevice : (draft (.array [.number (0 : UInt32).toNat, .string "b",
        .number (9 : UInt64).toNat])).WellFormed 125 := by
      refine wellFormed_array ?_
      simp only [List.forall_mem_cons]
      exact ⟨Locality.wellFormed_word32 0 _, .string _, wellFormed_word 9 _, by simp⟩
    have hformed : doc.draft.WellFormed maxDepth := by
      refine wellFormed_object ?_
      simp only [List.forall_mem_cons]
      exact ⟨.string _, .bool true, wellFormed_array (List.forall_mem_singleton.2 hdevice),
        wellFormed_word 7 _, by simp⟩
    have htext : doc.compact = "\x7b\"log_dir\":\"d\",\"profiling\":true," ++
        "\"gpu_devices\":[[0,\"b\",9]],\"cpu_capacity_bytes\":7\x7d" := by decide +kernel
    refine htext ▸ (stored_forms_read_back.2 _ (by decide)).2 _ _ _ ?_ (isText_compact hformed)
    refine @WritesRecord.object _ _ [] _ (.leave rfl <| .member (draft_word 7) <| .member ?_ <|
      .member rfl <| .member rfl .nil) (by simp) (List.reverse_perm [_, _, _, _])
    refine ⟨_, rfl, .cons (.array ?_) .nil⟩
    exact .item (Locality.draft_word32 0) <| .item rfl <| .item (draft_word 9) <| .done (by simp)

end SegmentCache
