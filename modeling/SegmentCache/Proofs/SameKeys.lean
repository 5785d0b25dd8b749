import SegmentCache.Proofs.Incarnations
import SegmentCache.Session

/-!
# Paths count only through their keys

Clients may send a path as it is or the key that they have taken of it, and a replacement takes the
key of a key once more when it removes and puts. No handler looks at a path but through its key, so
that a message and its keyed form come to the same. It follows that runs on messages with the same
keys go through the same states with the same results.
-/

namespace SegmentCache

namespace Message

/-- The message with another file name, if it names a file. -/
def withFile (fileName : String) : Message → Message
  | .get _ parameter function => .get fileName parameter function
  | .put offer => .put { offer with fileName := fileName }
  | .putGpu offer => .putGpu { offer with fileName := fileName }
  | .replace offer => .replace { offer with fileName := fileName }
  | .remove _ => .remove fileName
  | .lock _ => .lock fileName
  | .unlock _ => .unlock fileName
  | .isLocked _ => .isLocked fileName
  | .isInCache _ => .isInCache fileName
  | .endProfiling => .endProfiling
  | .quit => .quit

/-- The message with the key of its file name in place of the name. -/
def keyed (message : Message) : Message :=
  match message.fileName? with
  | none => message
  | some fileName => message.withFile (entryKey fileName)

/-- The messages differ only in how the file is spelled, which has the same key in both. -/
structure SameKey (message other : Message) : Prop where
  /-- Under one file name they are the same message. -/
  rest : ∀ fileName, message.withFile fileName = other.withFile fileName
  /-- The names have the same key. -/
  key : message.fileName?.map entryKey = other.fileName?.map entryKey

/-- A message that names no file has no name to change. -/
theorem withFile_of_none {message : Message} (hnone : message.fileName? = none)
    (fileName : String) : message.withFile fileName = message := by
  cases message with
  | endProfiling | quit => rfl
  | get | put | putGpu | replace | remove | lock | unlock | isLocked | isInCache => cases hnone

/-- Changing the file name twice leaves the second name. -/
@[simp] theorem withFile_withFile (message : Message) (fileName later : String) :
    (message.withFile fileName).withFile later = message.withFile later := by
  cases message <;> rfl

/-- The changed file name, where there is one. -/
@[simp] theorem fileName?_withFile (message : Message) (fileName : String) :
    (message.withFile fileName).fileName? = message.fileName?.map fun _ => fileName := by
  cases message <;> rfl

/-- Taking the key of the file name leaves the key. -/
theorem sameKey_keyed (message : Message) : message.SameKey message.keyed := by
  unfold keyed
  cases hname : message.fileName? with
  | none => exact ⟨fun _ => rfl, rfl⟩
  | some fileName =>
    refine ⟨fun later => (message.withFile_withFile _ later).symm, ?_⟩
    simp [hname]

/-- Messages with the same key have the same keyed form. -/
theorem SameKey.keyed_eq {message other : Message} (hsame : message.SameKey other) :
    message.keyed = other.keyed := by
  have hkey := hsame.key
  unfold keyed
  cases hname : message.fileName? with
  | none =>
    rw [hname] at hkey
    have hother : other.fileName? = none := Option.map_eq_none_iff.mp hkey.symm
    simpa [hother, withFile_of_none hname, withFile_of_none hother] using hsame.rest ""
  | some fileName =>
    rw [hname] at hkey
    obtain ⟨spelling, hother, hkeys⟩ := Option.map_eq_some_iff.mp hkey.symm
    simp only [hother, hkeys]
    exact hsame.rest (entryKey fileName)

end Message

namespace State

/-- A message and its keyed form come to the same. -/
theorem handle_keyed (state : State) (message : Message) :
    state.handle message.keyed = state.handle message := by
  cases message with
  | get | put | putGpu | remove | lock | unlock | isLocked | isInCache =>
    simp [Message.keyed, Message.fileName?, Message.withFile, handle, get, put, putGpu, remove,
      lock, unlock, isLocked, isInCache]
  | replace offer =>
    -- What is handed on to be removed and put is the key of the key.
    simp [Message.keyed, Message.fileName?, Message.withFile, handle, replace]
  | endProfiling | quit => rfl

/-- What comes of a message depends on its file name only through the key. -/
theorem handle_congr (state : State) {message other : Message} (hsame : message.SameKey other) :
    state.handle message = state.handle other := by
  rw [← handle_keyed state message, hsame.keyed_eq, handle_keyed]

/-- What comes of each message in turn: the result, the state that it leaves and what is
reported. -/
def outcomes (state : State) (messages : List Message) : List Outcome :=
  (state.turns messages).map fun turn => turn.1.handle turn.2

/-- Messages with the same keys come to the same. -/
theorem outcomes_congr {state : State} {messages others : List Message}
    (hsame : List.Forall₂ Message.SameKey messages others) :
    state.outcomes messages = state.outcomes others := by
  induction hsame generalizing state with
  | nil => rfl
  | cons hfirst _ ih =>
    have hhandle := state.handle_congr hfirst
    simp only [outcomes, turns, List.map_cons, hhandle]
    exact congrArg _ ih

/-- Whatever the state, messages that differ only in how files are spelled come to the same, one
after the other: the results with the names in their failures, and the whole state that each
leaves. The keyed forms, which clients send, are such messages. -/
theorem outcomes_depend_on_keys (state : State) (messages : List Message) :
    (∀ others, List.Forall₂ Message.SameKey messages others →
      state.outcomes others = state.outcomes messages) ∧
    List.Forall₂ Message.SameKey messages (messages.map Message.keyed) := by
  refine ⟨fun others hsame => (outcomes_congr hsame).symm, ?_⟩
  rw [List.forall₂_map_right_iff, List.forall₂_same]
  exact fun message _ => message.sameKey_keyed

/-- Paths as they are and as clients send them come to the same, failures included. A path without
a last name, which is its own key, is among them. -/
theorem outcomes_depend_on_keys_sent :
    let state := State.initial (Config.ofCapacity 10) (Store.empty none) FileTree.empty ""
    let object := Object.collection "h" .shareableList 4
    let offer : Offer := { fileName := "a/..", handle := "h", kind := .shareableList, size := 4 }
    let messages : List Message :=
      [.put offer, .lock "tmp//a/", .replace { offer with fileName := "x/./b" }, .remove "a/..",
        .unlock "y/b"]
    let sent : List Message :=
      [.put (object.offer "a/.." "" ""), .lock (entryKey "tmp//a/"),
        .replace (object.offer "x/./b" "" ""), .remove (entryKey "a/.."),
        .unlock (entryKey "y/b")]
    List.Forall₂ Message.SameKey messages sent ∧
      state.outcomes sent = state.outcomes messages ∧
      (state.outcomes sent).map (·.result) =
        [.ok .none, .error (.lockUnknownEntry "a"), .ok .none, .ok .none,
          .error (.notLocked "b")] := by
  intro state object offer messages sent
  obtain ⟨hcongr, hkeyed⟩ := outcomes_depend_on_keys state messages
  have hsent : messages.map Message.keyed = sent := rfl
  rw [hsent] at hkeyed
  exact ⟨hkeyed, hcongr sent hkeyed, by decide⟩

end State

end SegmentCache
