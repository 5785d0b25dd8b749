import SegmentCache.Proofs.TableOperations

/-!
# How much leaves

Making room takes entries out from the front of a queue: the unlocked entries of the locality in
the order in which they leave. It stops as soon as the request fits. `LeastPrefix` says so of the
entries that have left, without a word about the loop: they are a prefix of the queue, nothing
shorter would have been enough, and they are enough unless they are all there is.
-/

namespace SegmentCache

/-- The exact number of bytes of entries together. -/
def bytesOf (entries : List Entry) : Nat :=
  (entries.map (·.size.toNat)).sum

/-- What leaves a queue from its front: enough if that can be had at all, and no more. -/
structure LeastPrefix (enough : List Entry → Prop) (queue gone : List Entry) : Prop where
  /-- What leaves stands at the front. -/
  front : gone <+: queue
  /-- Nothing shorter is enough. -/
  needed : ∀ {shorter}, shorter <+: gone → enough shorter → shorter = gone
  /-- What leaves is enough, or all there is. -/
  reached : enough gone ∨ gone = queue

/-- Nothing leaves where nothing has to. -/
theorem LeastPrefix.nil_of_enough {enough : List Entry → Prop} (henough : enough [])
    (queue : List Entry) : LeastPrefix enough queue [] where
  front := List.nil_prefix
  needed hshorter _ := List.prefix_nil.mp hshorter
  reached := Or.inl henough

/-- Nothing leaves an empty queue. -/
theorem LeastPrefix.nil (enough : List Entry → Prop) : LeastPrefix enough [] [] where
  front := List.nil_prefix
  needed hshorter _ := List.prefix_nil.mp hshorter
  reached := Or.inr rfl

/-- Where something has to leave, the first entry does, and with it what the others need. -/
theorem LeastPrefix.cons {enough : List Entry → Prop} (hscarce : ¬ enough []) {first : Entry}
    {queue gone : List Entry}
    (hlater : LeastPrefix (fun later => enough (first :: later)) queue gone) :
    LeastPrefix enough (first :: queue) (first :: gone) where
  front := List.cons_prefix_cons.mpr ⟨rfl, hlater.front⟩
  needed {shorter} hshorter henough := by
    cases shorter with
    | nil => exact absurd henough hscarce
    | cons entry shorter =>
      obtain ⟨rfl, hrest⟩ := List.cons_prefix_cons.mp hshorter
      rw [hlater.needed hrest henough]
  reached := hlater.reached.imp id (congrArg (first :: ·))

namespace Table

/-- Whether a request fits at a locality once entries have left it. The sum is held at the largest
word. -/
def FitsWithout (table : Table) (locality : Locality) (requested capacity : UInt64)
    (gone : List Entry) : Prop :=
  min (2 ^ 64 - 1) ((table.usedBytes locality).toNat - bytesOf gone + requested.toNat) ≤
    capacity.toNat

/-- A request fits when it fits without anything leaving. -/
theorem fits_iff_fitsWithout_nil {table : Table} {locality : Locality}
    {requested capacity : UInt64} :
    table.fits locality requested capacity = true ↔
      table.FitsWithout locality requested capacity [] := by
  simp only [fits, FitsWithout, bytesOf, decide_eq_true_eq, UInt64.le_iff_toNat_le,
    Word.toNat_addSat, Word.size_eq, List.map_nil, List.sum_nil, Nat.sub_zero]
  rw [Nat.min_comm]

/-- Once an entry has left, what fits without others is what fits without it and them. -/
theorem Counted.fitsWithout_remove {table rest : Table} (hcounted : table.Counted) {name : String}
    {entry : Entry} (hremove : table.remove name = .ok (rest, entry)) {requested capacity : UInt64}
    {gone : List Entry} :
    rest.FitsWithout entry.locality requested capacity gone ↔
      table.FitsWithout entry.locality requested capacity (entry :: gone) := by
  have hmoved := hcounted.toNat_usedBytes_remove hremove entry.locality
  have hbytes : entry.bytesAt entry.locality = entry.size.toNat := if_pos rfl
  have hleft : (rest.usedBytes entry.locality).toNat - bytesOf gone =
      (table.usedBytes entry.locality).toNat - bytesOf (entry :: gone) := by
    simp only [bytesOf, List.map_cons, List.sum_cons]
    omega
  rw [FitsWithout, FitsWithout, hleft]

/-- An operation keeps the counters exact, unless it adds an entry that takes its counter out of the
range of a word. -/
theorem Counted.perform {table : Table} (hcounted : table.Counted) {operation : Operation}
    (hfits : ∀ entry, operation = .put entry →
      (table.usedBytes entry.locality).toNat + entry.size.toNat < 2 ^ 64) :
    (table.perform operation).Counted := by
  cases operation with
  | put entry =>
    cases hname : table.contains entry.name with
    | true =>
      rw [Table.perform, put_of_taken hname]
      exact hcounted
    | false => exact hcounted.put hname (hfits entry rfl)
  | recordHit name =>
    simp only [Table.perform]
    split
    · exact hcounted
    · rename_i hhit
      exact hcounted.recordHit hhit
  | remove name =>
    simp only [Table.perform]
    split
    · exact hcounted
    · rename_i hremove
      exact hcounted.remove hremove
  | makeRoom locks locality requested capacity =>
    exact evict_induction (fun hbefore hremove => hbefore.remove hremove) locality requested
      capacity _ hcounted

/-- Evicting from the front of a queue of entries that are there takes out the least prefix that
makes the request fit. -/
theorem Counted.leastPrefix_evict {table : Table} (hcounted : table.Counted) {locality : Locality}
    (requested capacity : UInt64) {queue : List Entry}
    (hthere : ∀ entry ∈ queue, table.get? entry.name = some entry ∧ entry.locality = locality)
    (hdistinct : queue.Pairwise fun a b => a.name ≠ b.name) :
    LeastPrefix (table.FitsWithout locality requested capacity) queue
      (evict locality requested capacity (queue.map (·.name)) table).evicted := by
  induction queue generalizing table with
  | nil => exact .nil _
  | cons first queue ih =>
    obtain ⟨⟨hfound, hplace⟩, hothers⟩ := List.forall_mem_cons.mp hthere
    obtain ⟨hfirst, hdistinct'⟩ := List.pairwise_cons.mp hdistinct
    obtain ⟨rest, hremove⟩ := exists_remove_eq_ok hfound
    simp only [List.map_cons, evict, hremove]
    split
    · rename_i hfits
      exact .nil_of_enough (fits_iff_fitsWithout_nil.mp hfits) _
    · rename_i hscarce
      rw [fits_iff_fitsWithout_nil] at hscarce
      have hthere' (entry : Entry) (hentry : entry ∈ queue) :
          rest.get? entry.name = some entry ∧ entry.locality = locality := by
        rw [get?_remove hremove, if_neg (hfirst entry hentry)]
        exact hothers entry hentry
      have hlater := ih (hcounted.remove hremove) hthere' hdistinct'
      have hsame : rest.FitsWithout locality requested capacity =
          fun later => table.FitsWithout locality requested capacity (first :: later) := by
        subst hplace
        exact funext fun later => propext (hcounted.fitsWithout_remove hremove)
      rw [hsame] at hlater
      exact .cons hscarce hlater

/-- Making room takes out the least prefix of the queue that makes the request fit. -/
theorem Counted.leastPrefix_makeRoom {table : Table} (hcounted : table.Counted)
    (hindexed : table.Indexed) (locks : LockSet) (locality : Locality)
    (requested capacity : UInt64) :
    LeastPrefix (table.FitsWithout locality requested capacity)
      (evictable table.entries locks.names locality)
      (table.makeRoom locks locality requested capacity).evicted := by
  rw [makeRoom, hindexed.candidates_eq]
  refine hcounted.leastPrefix_evict requested capacity ?_
    (hindexed.pairwise_evictable locks.names locality)
  intro entry hentry
  obtain ⟨hfound, hplace, -⟩ := hindexed.mem_evictable.mp hentry
  exact ⟨hfound, hplace⟩

/-- Whatever is evicted, the names of what has left are free and the others keep their entries. -/
theorem Indexed.get?_evict {table : Table} (hindexed : table.Indexed) (locality : Locality)
    (requested capacity : UInt64) (names : List String) (name : String) :
    let eviction := evict locality requested capacity names table
    eviction.table.get? name =
      if name ∈ eviction.evicted.map (·.name) then none else table.get? name := by
  induction names generalizing table with
  | nil => simp [evict]
  | cons other names ih =>
    unfold evict
    split
    · simp
    · split
      · exact ih hindexed
      · rename_i rest entry hremove
        obtain ⟨hfound, -, -, -⟩ := remove_eq_ok hremove
        have hname := hindexed.named hfound
        have hlater := ih (hindexed.remove hremove)
        simp only [List.map_cons, List.mem_cons] at hlater ⊢
        rw [hlater, get?_remove hremove, hname]
        by_cases hsame : name = other
        · simp [hsame]
        · simp [hsame, Ne.symm hsame]

/-- Where the counters are exact, each of them goes down by the bytes that have left its
locality. -/
theorem Counted.toNat_usedBytes_evict {table : Table} (hcounted : table.Counted)
    (locality : Locality) (requested capacity : UInt64) (names : List String)
    (other : Locality) :
    let eviction := evict locality requested capacity names table
    (eviction.table.usedBytes other).toNat + (eviction.evicted.map (·.bytesAt other)).sum =
      (table.usedBytes other).toNat := by
  induction names generalizing table with
  | nil => simp [evict]
  | cons name names ih =>
    unfold evict
    split
    · simp
    · split
      · exact ih hcounted
      · rename_i rest entry hremove
        have hmoved := hcounted.toNat_usedBytes_remove hremove other
        have hlater := ih (hcounted.remove hremove)
        simp only [List.map_cons, List.sum_cons] at hlater ⊢
        omega

/-- The bytes reported as freed are those of what has left, held at the largest word. -/
theorem toNat_freed_evict (table : Table) (locality : Locality) (requested capacity : UInt64)
    (names : List String) :
    let eviction := evict locality requested capacity names table
    eviction.freed.toNat = min (bytesOf eviction.evicted) (2 ^ 64 - 1) := by
  induction names generalizing table with
  | nil => simp [evict, bytesOf]
  | cons name names ih =>
    unfold evict
    split
    · simp [bytesOf]
    · split
      · exact ih table
      · rename_i rest entry hremove
        have hlater := ih rest
        simp only [bytesOf, List.map_cons, List.sum_cons] at hlater ⊢
        rw [Word.toNat_addSat, Word.size_eq, hlater]
        omega

/-- Entries at one locality take their bytes off its counter and off no other. -/
theorem sum_bytesAt_of_locality {entries : List Entry} {locality : Locality}
    (hplace : ∀ entry ∈ entries, entry.locality = locality) (other : Locality) :
    (entries.map (·.bytesAt other)).sum = if other = locality then bytesOf entries else 0 := by
  split
  · rename_i hother
    refine congrArg List.sum (List.map_congr_left fun entry hentry => ?_)
    exact if_pos ((hplace entry hentry).trans hother.symm)
  · rename_i hother
    apply List.sum_eq_zero
    intro bytes hbytes
    obtain ⟨entry, hentry, rfl⟩ := List.mem_map.mp hbytes
    exact if_neg fun hsame => hother (hsame.symm.trans (hplace entry hentry))

/-- Where the index agrees with the entries before and after, a name that keeps its entry or loses
it keeps its place in the buckets or loses it. -/
theorem Indexed.contains_index_evict {table : Table} (hindexed : table.Indexed)
    (locality : Locality) (requested capacity : UInt64) (names : List String) (name : String)
    (hits : UInt64) :
    let eviction := evict locality requested capacity names table
    eviction.table.index.contains name hits = true ↔
      table.index.contains name hits = true ∧ name ∉ eviction.evicted.map (·.name) := by
  intro eviction
  have hleft : eviction.table.Indexed :=
    evict_induction (fun hbefore hremove => hbefore.remove hremove) locality requested capacity
      names hindexed
  have hget : eviction.table.get? name =
      if name ∈ eviction.evicted.map (·.name) then none else table.get? name :=
    hindexed.get?_evict locality requested capacity names name
  rw [hleft.agrees, hindexed.agrees, hget]
  split
  · rename_i hgone
    constructor
    · rintro ⟨entry, hfound, -⟩
      cases hfound
    · rintro ⟨-, hkept⟩
      exact absurd hgone hkept
  · rename_i hkept
    exact (and_iff_left hkept).symm

/-- In a table that any sequence of operations has built and whose counters are exact, making room
takes out the least prefix of the queue that makes the request fit. The queue is what is unlocked
at the locality, by hits and then by the bytes of the name. The bytes reported are those that have
left, the counter of the locality goes down by them, and everything else stays: the other
counters, and the entries and the places in the buckets of the names that have not left. -/
theorem makeRoom_evicts_least_prefix (operations : List Operation)
    (hcounted : (Table.empty.performAll operations).Counted) (locks : LockSet)
    (locality : Locality) (requested capacity : UInt64) :
    let table := Table.empty.performAll operations
    let room := table.makeRoom locks locality requested capacity
    LeastPrefix (table.FitsWithout locality requested capacity)
      (evictable table.entries locks.names locality) room.evicted ∧
    room.freed.toNat = bytesOf room.evicted ∧
    (room.table.usedBytes locality).toNat + bytesOf room.evicted =
      (table.usedBytes locality).toNat ∧
    (∀ other, other ≠ locality → room.table.usedBytes other = table.usedBytes other) ∧
    (∀ name, room.table.get? name =
      if name ∈ room.evicted.map (·.name) then none else table.get? name) ∧
    (∀ name hits, (∃ names, room.table.index.bucket? hits = some names ∧ name ∈ names) ↔
      (∃ names, table.index.bucket? hits = some names ∧ name ∈ names) ∧
        name ∉ room.evicted.map (·.name)) := by
  intro table room
  have hindexed : table.Indexed := (InStep.empty.performAll operations).indexed
  have hleast := hcounted.leastPrefix_makeRoom hindexed locks locality requested capacity
  have hplace (entry : Entry) (hentry : entry ∈ room.evicted) : entry.locality = locality :=
    (hindexed.mem_evictable.mp (hleast.front.subset hentry)).2.1
  have hused (other : Locality) :
      (room.table.usedBytes other).toNat +
          (if other = locality then bytesOf room.evicted else 0) =
        (table.usedBytes other).toNat := by
    rw [← sum_bytesAt_of_locality hplace other]
    exact hcounted.toNat_usedBytes_evict locality requested capacity _ other
  have hlocality := hused locality
  rw [if_pos rfl] at hlocality
  refine ⟨hleast, ?_, hlocality, ?_, hindexed.get?_evict locality requested capacity _, ?_⟩
  · have hfreed : room.freed.toNat = min (bytesOf room.evicted) (2 ^ 64 - 1) :=
      toNat_freed_evict table locality requested capacity _
    have hbound := (table.usedBytes locality).toNat_lt
    omega
  · intro other hother
    have hkept := hused other
    rw [if_neg hother] at hkept
    exact UInt64.toNat_inj.mp hkept
  · intro name hits
    rw [← HitIndex.contains_iff_bucket, ← HitIndex.contains_iff_bucket]
    exact hindexed.contains_index_evict locality requested capacity _ name hits

/-- Of four entries in host memory one is locked and one has been asked for. The other two have no
hits, and the first of them by name leaves although it is empty. -/
theorem makeRoom_evicts_least_prefix_tied :
    let entry (name : String) (size : UInt64) : Entry :=
      { name, handle := "h", shape := [], dtype := "", size, hits := 0, locality := .cpu
        kind := .sharedMemory }
    let operations : List Operation :=
      [.put (entry "d" 3), .put (entry "c" 4), .put (entry "b" 0), .put (entry "a" 5),
        .recordHit "a"]
    let locks : LockSet := { names := Std.ExtTreeSet.empty.insert "d" }
    let table := Table.empty.performAll operations
    let room := table.makeRoom locks .cpu 2 10
    table.Counted ∧ room.evicted.map (·.name) = ["b", "c"] ∧ bytesOf room.evicted = 4 ∧
      (room.table.usedBytes .cpu).toNat = 8 := by
  intro entry operations locks table room
  have hcounted : table.Counted := by
    simp only [table, operations, performAll, List.foldl_cons, List.foldl_nil]
    refine .perform (.perform (.perform (.perform (.perform .empty ?_) ?_) ?_) ?_) ?_
    all_goals rintro put ⟨⟩ <;> decide +kernel
  obtain ⟨-, hbytes, hused, -⟩ := makeRoom_evicts_least_prefix operations hcounted locks .cpu 2 10
  have hfreed : room.freed.toNat = 4 := by decide +kernel
  have hgone : bytesOf room.evicted = 4 := hbytes.symm.trans hfreed
  have hbefore : (table.usedBytes .cpu).toNat = 12 := by decide +kernel
  have hmoved : (room.table.usedBytes .cpu).toNat + 4 = 12 := by
    rw [← hgone, ← hbefore]
    exact hused
  exact ⟨hcounted, by decide +kernel, hgone, by omega⟩

end Table

end SegmentCache
