import SegmentCache.Proofs.Incarnations

/-!
# The profile is the history of uses

The profile keeps counts by function, parameter and file in one nested map and the files that were
served in another. Each recording adds one count and leaves the rest, and the two maps agree on
what was served. Which messages record something depends on what the cache holds when they come:
a file is counted as served when it is there, and an object as offered when its name is free or is
made free. So over messages that succeed, the counts are the numbers of such messages.
-/

namespace SegmentCache

namespace Profile

/-- The counts after those of one file have been set. -/
theorem counts_setCounts (profile : Profile) (function parameter file : String)
    (counts : UseCounts) (function' parameter' file' : String) :
    (profile.setCounts function parameter file counts).counts function' parameter' file' =
      if function = function' ∧ parameter = parameter' ∧ file = file' then counts
      else profile.counts function' parameter' file' := by
  by_cases hfunction : function = function'
  · subst hfunction
    by_cases hparameter : parameter = parameter'
    · subst hparameter
      by_cases hfile : file = file'
      · simp [setCounts, Profile.counts, hfile]
      · simp [setCounts, Profile.counts, Std.ExtTreeMap.getElem?_insert, hfile]
    · simp [setCounts, Profile.counts, Std.ExtTreeMap.getElem?_insert, hparameter]
  · simp [setCounts, Profile.counts, Std.ExtTreeMap.getElem?_insert, hfunction]

/-- The counts after those of one file have been changed. -/
theorem counts_change (profile : Profile) (function parameter file : String)
    (change : UseCounts → UseCounts) (function' parameter' file' : String) :
    (profile.setCounts function parameter file
      (change (profile.counts function parameter file))).counts function' parameter' file' =
      if function = function' ∧ parameter = parameter' ∧ file = file' then
        change (profile.counts function' parameter' file')
      else profile.counts function' parameter' file' := by
  rw [counts_setCounts]
  split
  · rename_i hsame
    obtain ⟨rfl, rfl, rfl⟩ := hsame
    rfl
  · rfl

/-- A file that was served has one more count for the function and parameter it was served to. -/
theorem counts_recordGet (profile : Profile)
    (function parameter file function' parameter' file' : String) :
    (profile.recordGet function parameter file).counts function' parameter' file' =
      if function = function' ∧ parameter = parameter' ∧ file = file' then
        { profile.counts function' parameter' file' with
          gets := (profile.counts function' parameter' file').gets + 1 }
      else profile.counts function' parameter' file' :=
  profile.counts_change function parameter file
    (fun counts => { counts with gets := counts.gets + 1 }) function' parameter' file'

/-- An object that was offered has one more count for the function and parameter it is meant
for. -/
theorem counts_recordPut (profile : Profile)
    (function parameter file function' parameter' file' : String) :
    (profile.recordPut function parameter file).counts function' parameter' file' =
      if function = function' ∧ parameter = parameter' ∧ file = file' then
        { profile.counts function' parameter' file' with
          puts := (profile.counts function' parameter' file').puts + 1 }
      else profile.counts function' parameter' file' :=
  profile.counts_change function parameter file
    (fun counts => { counts with puts := counts.puts + 1 }) function' parameter' file'

/-- The files served after one more has been. -/
theorem mem_filesServed_recordGet {profile : Profile}
    {function parameter file function' parameter' file' : String} :
    file' ∈ (profile.recordGet function parameter file).filesServed function' parameter' ↔
      (function = function' ∧ parameter = parameter' ∧ file = file') ∨
        file' ∈ profile.filesServed function' parameter' := by
  by_cases hfunction : function = function'
  · subst hfunction
    by_cases hparameter : parameter = parameter'
    · subst hparameter
      simp [recordGet, filesServed]
    · simp [recordGet, filesServed, Std.ExtTreeMap.getElem?_insert, hparameter]
  · simp [recordGet, filesServed, Std.ExtTreeMap.getElem?_insert, hfunction]

/-- The files served are listed in the order of their bytes, each once. -/
theorem pairwise_filesServed (profile : Profile) (function parameter : String) :
    (profile.filesServed function parameter).Pairwise fun file later =>
      Text.bytes file < Text.bytes later :=
  Std.ExtTreeSet.ordered_toList.imp Text.compare_eq_lt_iff.mp

/-- The files served are those with a count of being served. -/
def Agrees (profile : Profile) : Prop :=
  ∀ function parameter file, file ∈ profile.filesServed function parameter ↔
    0 < (profile.counts function parameter file).gets

/-- Before anything was counted nothing was served. -/
theorem Agrees.empty : Profile.empty.Agrees := by
  intro function parameter file
  simp [Profile.empty, filesServed, counts]

/-- The later profile counts so many more files served and objects offered for each function,
parameter and file, and keeps the list of files served in agreement with the counts. -/
structure Grows (before after : Profile) (gets puts : String → String → String → Nat) : Prop where
  /-- The files served are still those with a count. -/
  agrees : before.Agrees → after.Agrees
  /-- The files served since. -/
  gets : ∀ function parameter file, (after.counts function parameter file).gets =
    (before.counts function parameter file).gets + gets function parameter file
  /-- The objects offered since. -/
  puts : ∀ function parameter file, (after.counts function parameter file).puts =
    (before.counts function parameter file).puts + puts function parameter file

/-- A profile to which nothing is added. -/
theorem Grows.refl (profile : Profile) : profile.Grows profile (fun _ _ _ => 0) fun _ _ _ => 0 :=
  ⟨id, fun _ _ _ => rfl, fun _ _ _ => rfl⟩

/-- What is added may be worked out in another way. -/
theorem Grows.of_eq {before after : Profile}
    {gets puts gets' puts' : String → String → String → Nat}
    (hgrows : before.Grows after gets puts)
    (hgets : ∀ function parameter file,
      gets' function parameter file = gets function parameter file)
    (hputs : ∀ function parameter file,
      puts' function parameter file = puts function parameter file) :
    before.Grows after gets' puts' where
  agrees := hgrows.agrees
  gets function parameter file := by rw [hgets, hgrows.gets]
  puts function parameter file := by rw [hputs, hgrows.puts]

/-- What is added over two stretches adds up. -/
theorem Grows.trans {first second third : Profile}
    {gets puts gets' puts' : String → String → String → Nat}
    (hfirst : first.Grows second gets puts) (hsecond : second.Grows third gets' puts') :
    first.Grows third
      (fun function parameter file =>
        gets function parameter file + gets' function parameter file)
      fun function parameter file =>
        puts function parameter file + puts' function parameter file where
  agrees hagrees := hsecond.agrees (hfirst.agrees hagrees)
  gets function parameter file := by rw [hsecond.gets, hfirst.gets, Nat.add_assoc]
  puts function parameter file := by rw [hsecond.puts, hfirst.puts, Nat.add_assoc]

/-- A file that was served is added to the counts and to the list. -/
theorem grows_recordGet (profile : Profile) (function parameter file : String) :
    profile.Grows (profile.recordGet function parameter file)
      (fun function' parameter' file' =>
        if function = function' ∧ parameter = parameter' ∧ file = file' then 1 else 0)
      fun _ _ _ => 0 where
  agrees hagrees := by
    intro function' parameter' file'
    rw [mem_filesServed_recordGet, counts_recordGet, hagrees]
    split <;> simp_all
  gets function' parameter' file' := by
    rw [counts_recordGet]
    split <;> rfl
  puts function' parameter' file' := by
    rw [counts_recordGet]
    split <;> rfl

/-- An object that was offered is added to the counts. -/
theorem grows_recordPut (profile : Profile) (function parameter file : String) :
    profile.Grows (profile.recordPut function parameter file) (fun _ _ _ => 0)
      fun function' parameter' file' =>
        if function = function' ∧ parameter = parameter' ∧ file = file' then 1 else 0 := by
  have hgets (function' parameter' file' : String) :
      ((profile.recordPut function parameter file).counts function' parameter' file').gets =
        (profile.counts function' parameter' file').gets := by
    rw [counts_recordPut]
    split <;> rfl
  refine ⟨?_, hgets, ?_⟩
  · intro hagrees function' parameter' file'
    rw [hgets]
    exact hagrees function' parameter' file'
  · intro function' parameter' file'
    rw [counts_recordPut]
    split <;> rfl

end Profile

namespace State

/-- Letting go of an entry counts no use. -/
theorem profile_vacate (state : State) (name : String) :
    (state.vacate name).1.profile = state.profile := by
  unfold vacate
  split
  · rfl
  · rw [release_state]

/-- Whether a message is served the file with a key, for a function and one of its parameters. -/
def serves (state : State) (function parameter name : String) (message : Message) : Bool :=
  message.purpose? = some (function, parameter) && message.gets name &&
    state.table.contains name

/-- Whether a message brings in an object under a key, for a function and one of its parameters. -/
def supplies (state : State) (function parameter name : String) (message : Message) : Bool :=
  message.purpose? = some (function, parameter) && state.inserts name message

/-- The later profile counts a message in addition: the file that it is served, or the object that
it brings in. -/
def Records (state : State) (message : Message) (before after : Profile) : Prop :=
  before.Grows after
    (fun function parameter name =>
      if state.serves function parameter name message then 1 else 0)
    fun function parameter name =>
      if state.supplies function parameter name message then 1 else 0

/-- A message that brings in an object adds it to the counts for its own purpose. -/
theorem records_of_insertion {state : State} {profile : Profile}
    (hprofile : state.profile = some profile) {message : Message} {insertion : Insertion}
    (hbrings : state.insertion? message = some insertion) {response : Response}
    (hok : (state.handle message).result = .ok response) :
    ∃ next, (state.handle message).state.profile = some next ∧
      state.Records message profile next := by
  have hinserts (name : String) : state.inserts name message = decide (insertion.name = name) := by
    simp [inserts, hbrings, hok, Attempt.isOk]
  rcases handle_refused_or_insert hbrings with
    ⟨-, -, hhandle⟩ | ⟨function, parameter, events, hpurpose, hhandle⟩
  · rw [hhandle] at hok
    cases hok
  · obtain ⟨table, replica, store, hframe⟩ := insert_frame
      ((state.vacate insertion.name).1.countPut function parameter insertion.name) insertion
    refine ⟨profile.recordPut function parameter insertion.name, ?_, ?_⟩
    · rw [hhandle, Outcome.after_state, hframe]
      simp only [countPut, profile_vacate, hprofile, Option.map_some]
    · refine (profile.grows_recordPut function parameter insertion.name).of_eq ?_ ?_
      · simp [serves, gets_of_insertion? hbrings]
      · simp [supplies, hinserts, hpurpose, and_assoc]

/-- A message that brings in no object and is served no file adds nothing to the counts. -/
theorem records_nothing {state : State} {profile : Profile}
    (hprofile : state.profile = some profile) {message : Message}
    (hnone : state.insertion? message = none)
    (hkept : (state.handle message).state.profile = state.profile)
    (hmissed : ∀ name, message.gets name = true → state.table.contains name = false) :
    ∃ next, (state.handle message).state.profile = some next ∧
      state.Records message profile next := by
  refine ⟨profile, hkept.trans hprofile, (Profile.Grows.refl profile).of_eq ?_ ?_⟩
  · intro function parameter name
    cases hget : message.gets name with
    | false => simp [serves, hget]
    | true => simp [serves, hmissed name hget]
  · simp [supplies, inserts, hnone]

/-- A message that asks for a file adds it to the counts for its own purpose if it is cached. -/
theorem records_of_get {state : State} {profile : Profile}
    (hprofile : state.profile = some profile) (fileName parameter function : String) :
    ∃ next, (state.handle (.get fileName parameter function)).state.profile = some next ∧
      state.Records (.get fileName parameter function) profile next := by
  have hname {name : String} :
      (Message.get fileName parameter function).gets name = true ↔ entryKey fileName = name :=
    decide_eq_true_iff
  cases hfound : state.table.get? (entryKey fileName) with
  | none =>
    refine records_nothing hprofile rfl (by rw [handle, get_of_free hfound]; rfl) ?_
    intro name hget
    exact hname.mp hget ▸ Table.contains_eq_false_iff.mpr hfound
  | some entry =>
    obtain ⟨table, -, hget⟩ := get_of_there hfound parameter function
    refine ⟨profile.recordGet function parameter (entryKey fileName), ?_, ?_⟩
    · rw [handle, hget]
      simp only [done, countGet, hprofile, Option.map_some]
    · refine (profile.grows_recordGet function parameter (entryKey fileName)).of_eq ?_ ?_
      · intro function' parameter' name
        have hthere := Table.contains_iff.mpr ⟨entry, hfound⟩
        by_cases hkey : entryKey fileName = name
        · subst hkey
          simp [serves, Message.purpose?, Message.gets, hthere]
        · simp [serves, Message.gets, hkey]
      · simp [supplies, inserts, insertion?]

/-- A message that brings in no object and asks for no file adds nothing to the counts. -/
theorem records_of_aside {state : State} {profile : Profile}
    (hprofile : state.profile = some profile) {message : Message}
    (hnone : state.insertion? message = none) (hasks : ∀ name, message.gets name = false) :
    ∃ next, (state.handle message).state.profile = some next ∧
      state.Records message profile next := by
  refine records_nothing hprofile hnone ?_ fun name hget => ?_
  · have haside := handle_aside hnone
    generalize state.handle message = outcome at haside ⊢
    cases haside with
    | stays _ _ _ _ _ _ hkept => exact hkept
    | hit _ _ _ _ hget => cases (hasks _).symm.trans hget
    | vacates name => exact state.profile_vacate name
  · cases (hasks name).symm.trans hget

/-- A message that succeeds adds to the counts the file that it is served or the object that it
brings in, and nothing else. -/
theorem handle_records {state : State} {profile : Profile}
    (hprofile : state.profile = some profile) {message : Message} {response : Response}
    (hok : (state.handle message).result = .ok response) :
    ∃ next, (state.handle message).state.profile = some next ∧
      state.Records message profile next := by
  cases hbrings : state.insertion? message with
  | some insertion => exact records_of_insertion hprofile hbrings hok
  | none =>
    cases message with
    | get fileName parameter function => exact records_of_get hprofile fileName parameter function
    | put | putGpu | replace | remove | lock | unlock | isLocked | isInCache | endProfiling
    | quit =>
      exact records_of_aside hprofile hbrings fun _ => rfl

/-- Over messages that succeed, the counts grow by the numbers of messages that are served a file
and that bring in an object. -/
theorem handleAll_records {messages : List Message} {state : State} {profile : Profile}
    (hprofile : state.profile = some profile)
    (hok : ∀ turn ∈ state.turns messages, (turn.1.handle turn.2).result.isOk = true) :
    ∃ last, (state.handleAll messages).profile = some last ∧
      profile.Grows last
        (fun function parameter name => (state.turns messages).countP fun turn =>
          turn.1.serves function parameter name turn.2)
        fun function parameter name => (state.turns messages).countP fun turn =>
          turn.1.supplies function parameter name turn.2 := by
  induction messages generalizing state profile with
  | nil =>
    refine ⟨profile, hprofile, (Profile.Grows.refl profile).of_eq ?_ ?_⟩
    · simp [turns]
    · simp [turns]
  | cons message messages ih =>
    obtain ⟨hfirst, hrest⟩ := List.forall_mem_cons.mp hok
    obtain ⟨response, hresult⟩ := Attempt.isOk_iff.mp hfirst
    obtain ⟨next, hnext, hrecords⟩ := handle_records hprofile hresult
    obtain ⟨last, hlast, hgrows⟩ := ih hnext hrest
    refine ⟨last, hlast, (Profile.Grows.trans hrecords hgrows).of_eq ?_ ?_⟩
    · intro function parameter name
      rw [turns, List.countP_cons, Nat.add_comm]
    · intro function parameter name
      rw [turns, List.countP_cons, Nat.add_comm]

/-- There is a turn for each message. -/
theorem length_turns (state : State) (messages : List Message) :
    (state.turns messages).length = messages.length := by
  induction messages generalizing state with
  | nil => rfl
  | cons message messages ih => exact congrArg (· + 1) (ih _)

/-- With profiling on, after fewer messages than there are words and all of which succeeded, the
profile counts for each function, parameter and key the messages that were served the file and
those that brought in an object, which left a fresh entry under the key. The counts are in the
range of a word, and the files served are listed in the order of their bytes and are those with a
count. -/
theorem profile_counts_history (config : Config) (hprofiling : config.profiling = true)
    (store : Store) (files : FileTree) (clock : String) {messages : List Message}
    (hfew : messages.length < 2 ^ 64)
    (hok : ∀ turn ∈ (State.initial config store files clock).turns messages,
      (turn.1.handle turn.2).result.isOk = true) :
    let start := State.initial config store files clock
    ∃ profile, (start.handleAll messages).profile = some profile ∧
      ∀ function parameter,
        (∀ name,
          (profile.counts function parameter name).gets =
            (start.turns messages).countP (fun turn =>
              turn.1.serves function parameter name turn.2) ∧
          (profile.counts function parameter name).puts =
            (start.turns messages).countP (fun turn =>
              turn.1.supplies function parameter name turn.2) ∧
          (∀ turn ∈ start.turns messages, turn.1.supplies function parameter name turn.2 = true →
            ∃ entry, (turn.1.handle turn.2).state.table.get? name = some entry ∧ entry.hits = 0) ∧
          (profile.counts function parameter name).gets < 2 ^ 64 ∧
          (profile.counts function parameter name).puts < 2 ^ 64) ∧
        ((profile.filesServed function parameter).Pairwise fun file later =>
          Text.bytes file < Text.bytes later) ∧
        ∀ name, name ∈ profile.filesServed function parameter ↔
          0 < (profile.counts function parameter name).gets := by
  intro start
  have hstart : start.profile = some Profile.empty := by simp [start, State.initial, hprofiling]
  obtain ⟨profile, hprofile, hgrows⟩ := handleAll_records hstart hok
  refine ⟨profile, hprofile, fun function parameter => ⟨fun name => ?_, ?_, ?_⟩⟩
  · have hgets := hgrows.gets function parameter name
    have hputs := hgrows.puts function parameter name
    have hnothing : Profile.empty.counts function parameter name = ⟨0, 0⟩ := by
      simp [Profile.counts, Profile.empty]
    rw [hnothing, Nat.zero_add] at hgets hputs
    have hbound (happens : State × Message → Bool) :
        (start.turns messages).countP happens < 2 ^ 64 :=
      (List.countP_le_length.trans_eq (start.length_turns messages)).trans_lt hfew
    refine ⟨hgets, hputs, fun turn _ hsupplies => ?_, hgets ▸ hbound _, hputs ▸ hbound _⟩
    exact get?_of_inserts (Bool.and_eq_true_iff.mp hsupplies).2
  · exact profile.pairwise_filesServed function parameter
  · exact hgrows.agrees Profile.Agrees.empty function parameter

/-- Two uses that find the file count, and the two that come before the object is offered and after
it is evicted do not; nor does the offer that finds the name taken. -/
theorem profile_counts_history_evicted :
    let start := State.initial { Config.ofCapacity 10 with profiling := true } (Store.empty none)
      FileTree.empty ""
    let offer : Offer :=
      { fileName := "data/a", handle := "h", parameter := "x", function := "f", size := 6 }
    let messages : List Message :=
      [.get "a" "x" "f", .put offer, .put { offer with fileName := "a", handle := "g" },
        .get "a" "x" "f", .put { offer with fileName := "b", handle := "k" }, .get "a" "x" "f",
        .replace { offer with fileName := "tmp/a" }, .get "a/" "x" "f"]
    (∀ turn ∈ start.turns messages, (turn.1.handle turn.2).result.isOk = true) ∧
      ∃ profile, (start.handleAll messages).profile = some profile ∧
        (profile.counts "f" "x" "a").gets = 2 ∧ (profile.counts "f" "x" "a").puts = 2 ∧
        "a" ∈ profile.filesServed "f" "x" := by
  intro start offer messages
  have hok : ∀ turn ∈ start.turns messages, (turn.1.handle turn.2).result.isOk = true := by decide
  obtain ⟨profile, hprofile, hcounts⟩ :=
    profile_counts_history _ rfl _ _ _ (by decide : messages.length < 2 ^ 64) hok
  obtain ⟨hfiles, -, hserved⟩ := hcounts "f" "x"
  obtain ⟨hgets, hputs, -⟩ := hfiles "a"
  have htwo : (profile.counts "f" "x" "a").gets = 2 := hgets.trans (by decide)
  refine ⟨hok, profile, hprofile, htwo, hputs.trans (by decide), (hserved "a").mpr ?_⟩
  rw [htwo]
  decide

end State

end SegmentCache
