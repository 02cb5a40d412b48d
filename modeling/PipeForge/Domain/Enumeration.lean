import PipeForge.Domain.Builtins
import PipeForge.Library.Bisection
import PipeForge.Library.Matching
import PipeForge.Library.OrderedMap
import PipeForge.Library.Transition

/-!
# What a registry holds and how it is listed

Sequences of `class_registry::add` from an empty registry, and clients that page
through the names with `list_classes`. `add` and `list` search by bisection and
`find` from the front; they agree because the names stay strictly increasing, which
makes the range partitioned at every name. The registry is then the sorted list of
what was accepted, so the order of the additions is lost.
-/

namespace PipeForge.Domain
open Contracts Library

/-- A call of `add` and what it returned. -/
structure Addition where
  definition : ClassDefinition
  error : Option RemoteError

def accepted (log : List Addition) : List ClassDefinition :=
  (log.filter fun addition => addition.error.isNone).map Addition.definition

namespace ClassRegistry

def addStep (registry : ClassRegistry) (definition : ClassDefinition) :
    ClassRegistry × List Addition :=
  let done := registry.add definition
  (done.2, [⟨definition, done.1⟩])

def build (calls : List ClassDefinition) : ClassRegistry × List Addition :=
  Transition.run addStep .empty calls

def names (registry : ClassRegistry) : List Bytes := registry.definitions.map ClassDefinition.name

/-- The names a cursor has not passed. -/
def namesAfter (registry : ClassRegistry) (cursor : Bytes) : List Bytes :=
  registry.names.filter fun name => decide (cursor < name)

/-- The pages of a chain of requests with these limits, each from the `next` of the
page before. The chain ends with a page whose `next` is empty. -/
def listChain (registry : ClassRegistry) : Bytes → List UInt32 → List ClassesPage
  | _, [] => []
  | cursor, limit :: rest =>
    match registry.list cursor limit with
    | .error _ => []
    | .ok page =>
      if page.next = [] then [page] else page :: listChain registry page.next rest

/-! ## Bisection -/

section
variable (registry : ClassRegistry) (name : Bytes)

/-- `insertion` in `add`. -/
def lowerBound : Nat :=
  Bisection.partitionPoint (fun entry => decide (entry.name < name)) registry.definitions

/-- `item` in `list`. -/
def upperBound : Nat :=
  Bisection.partitionPoint (fun entry => !decide (name < entry.name)) registry.definitions

/-- Names below a bound come first, as `lower_bound` needs it. -/
theorem below_partitioned :
    Bisection.Partitioned (fun entry : ClassDefinition => decide (entry.name < name))
      registry.definitions := by
  refine registry.sorted.imp fun {a b} less below => ?_
  simp only [decide_eq_true_eq] at below ⊢
  exact List.lt_trans less below

/-- Names up to a bound come first, as `upper_bound` needs it. -/
theorem passed_partitioned :
    Bisection.Partitioned (fun entry : ClassDefinition => !decide (name < entry.name))
      registry.definitions := by
  refine registry.sorted.imp fun {a b} less passed => ?_
  simp only [Bool.not_eq_true', decide_eq_false_iff_not] at passed ⊢
  exact fun above => passed (List.lt_trans above less)

/-- The bisections of the source find the splits the model inserts and reads at. -/
theorem insertAt_lowerBound (definition : ClassDefinition) :
    insertAt registry.definitions definition =
      registry.definitions.take (registry.lowerBound definition.name) ++
        definition :: registry.definitions.drop (registry.lowerBound definition.name) := by
  have partitioned := registry.below_partitioned definition.name
  rw [lowerBound, Bisection.take_partitionPoint partitioned,
    Bisection.drop_partitionPoint partitioned, insertAt]

/-- The scan of `list` starts where the binary search points. -/
theorem after_upperBound :
    registry.after name = registry.definitions.drop (registry.upperBound name) := by
  rw [upperBound, Bisection.drop_partitionPoint (registry.passed_partitioned name), after]

end

/-! ## Additions -/

section
variable {registry : ClassRegistry} {definition : ClassDefinition}

theorem perm_insertAt (definitions : List ClassDefinition) (definition : ClassDefinition) :
    (insertAt definitions definition).Perm (definition :: definitions) := by
  unfold insertAt
  apply List.perm_middle.trans
  rw [List.takeWhile_append_dropWhile]

/-- What a call of `add` can do. -/
inductive Added (registry : ClassRegistry) (definition : ClassDefinition) :
    Option RemoteError × ClassRegistry → Prop
  | refused (error : RemoteError)
      (reason : definition.registrable = false ∨ registry.find definition.name ≠ none ∨
        maxEntries ≤ registry.definitions.length) :
      Added registry definition (some error, registry)
  | inserted (later : ClassRegistry)
      (definitions : later.definitions = insertAt registry.definitions definition) :
      Added registry definition (none, later)

/-- `add` in two outcomes, with the reason for each. -/
theorem add_added (registry : ClassRegistry) (definition : ClassDefinition) :
    Added registry definition (registry.add definition) := by
  unfold add
  split
  · split
    · exact .inserted _ rfl
    · rename_i full
      exact .refused _ (Or.inr (Or.inr (Nat.not_lt.mp full)))
  · rename_i invalid
    by_cases valid : definition.registrable = true
    · exact .refused _ (Or.inr (Or.inl fun absent => invalid ⟨valid, absent⟩))
    · exact .refused _ (Or.inl (by simpa using valid))

/-- A refused class leaves the registry as it was. -/
theorem add_refused {error : RemoteError} (failed : (registry.add definition).1 = some error) :
    (registry.add definition).2 = registry := by
  have added := add_added registry definition
  generalize registry.add definition = done at added failed
  cases added with
  | refused => rfl
  | inserted => cases failed

/-- A class that may be added takes its place in the order of names. -/
theorem add_inserted (valid : definition.registrable = true)
    (absent : registry.find definition.name = none)
    (room : registry.definitions.length < maxEntries) :
    (registry.add definition).1 = none ∧
      (registry.add definition).2.definitions = insertAt registry.definitions definition := by
  have added := add_added registry definition
  generalize registry.add definition = done at added
  cases added with
  | refused error reason =>
    rcases reason with invalid | present | full
    · rw [valid] at invalid
      cases invalid
    · exact absurd absent present
    · exact absurd room (Nat.not_lt.mpr full)
  | inserted later definitions => exact ⟨rfl, definitions⟩

theorem accepted_append (log later : List Addition) :
    accepted (log ++ later) = accepted log ++ accepted later := by
  simp only [accepted, List.filter_append, List.map_append]

/-- A registry holds what its calls of `add` accepted. -/
theorem build_accepted (calls : List ClassDefinition) :
    (build calls).1.definitions.Perm (accepted (build calls).2) := by
  refine Transition.run_invariant addStep
    (fun registry log => registry.definitions.Perm (accepted log)) .empty [] (.refl _) ?_ calls
  intro registry log definition held
  have added := add_added registry definition
  unfold addStep
  generalize registry.add definition = done at added
  cases added with
  | refused error => simpa [accepted_append, accepted] using held
  | inserted later definitions =>
    rw [accepted_append]
    show later.definitions.Perm (accepted log ++ [definition])
    rw [definitions]
    calc
      List.Perm (insertAt registry.definitions definition) (definition :: registry.definitions) :=
        perm_insertAt _ _
      List.Perm _ (definition :: accepted log) := held.cons _
      List.Perm _ (accepted log ++ [definition]) := (List.perm_append_singleton _ _).symm

/-- Calls with distinct valid definitions are all accepted while there is room. -/
theorem run_accepted (registry : ClassRegistry) (calls : List ClassDefinition)
    (valid : ∀ definition ∈ calls, definition.registrable = true)
    (distinct : (calls.map ClassDefinition.name).Nodup)
    (fresh : ∀ definition ∈ calls, registry.find definition.name = none)
    (room : registry.definitions.length + calls.length ≤ maxEntries) :
    (Transition.run addStep registry calls).1.definitions.Perm (registry.definitions ++ calls) := by
  induction calls generalizing registry with
  | nil => simp [Transition.run]
  | cons definition rest ih =>
    rw [List.map_cons, List.nodup_cons] at distinct
    rw [List.length_cons] at room
    obtain ⟨-, inserted⟩ := add_inserted (valid definition List.mem_cons_self)
      (fresh definition List.mem_cons_self) (by omega)
    have held : (registry.add definition).2.definitions.Perm (definition :: registry.definitions) :=
      inserted ▸ perm_insertAt _ _
    have later := ih (registry.add definition).2
      (fun other member => valid other (List.mem_cons_of_mem _ member)) distinct.2
      (by
        intro other member
        rw [find_eq_none_iff]
        intro entry present
        rcases List.mem_cons.mp (held.mem_iff.mp present) with rfl | old
        · intro same
          exact distinct.1 (same ▸ List.mem_map_of_mem member)
        · exact (find_eq_none_iff _ _).mp (fresh other (List.mem_cons_of_mem _ member)) entry old)
      (by
        rw [held.length_eq, List.length_cons]
        omega)
    calc
      List.Perm _ ((registry.add definition).2.definitions ++ rest) := later
      List.Perm _ (definition :: registry.definitions ++ rest) := held.append_right rest
      List.Perm _ (registry.definitions ++ definition :: rest) := List.perm_middle.symm

/-- A registry is determined by the definitions in it. -/
theorem eq_of_perm {first second : ClassRegistry}
    (same : first.definitions.Perm second.definitions) : first = second := by
  have order : first.definitions = second.definitions := by
    apply List.Perm.eq_of_pairwise _ first.sorted second.sorted same
    intro a b _ _ less greater
    exact absurd greater (List.lt_asymm less)
  cases first
  cases second
  cases order
  rfl

/-! ## Names -/

theorem names_increasing (registry : ClassRegistry) : registry.names.Pairwise (· < ·) :=
  List.pairwise_map.mpr registry.sorted

theorem names_nodup (registry : ClassRegistry) : registry.names.Nodup :=
  registry.names_increasing.imp fun less same => absurd (same ▸ less) (List.lt_irrefl _)

/-- A search by name finds the one definition of that name. -/
theorem find_iff (registry : ClassRegistry) (name : Bytes) (definition : ClassDefinition) :
    registry.find name = some definition ↔
      definition ∈ registry.definitions ∧ definition.name = name :=
  Matching.find_iff ClassDefinition.name registry.names_nodup name definition

theorem names_valid {registry : ClassRegistry} {name : Bytes} (member : name ∈ registry.names) :
    validName name false = true := by
  obtain ⟨definition, registered, rfl⟩ := List.mem_map.mp member
  have checked := registrable_registered (registry.valid definition registered)
  exact ((validDescription_iff _).mp checked.description).name

/-- The empty cursor is before every name. -/
theorem namesAfter_empty (registry : ClassRegistry) : registry.namesAfter [] = registry.names := by
  apply List.filter_eq_self.mpr
  intro name member
  have valid := names_valid member
  cases name with
  | nil => cases valid
  | cons front rest => exact decide_eq_true (List.nil_lt_cons _ _)

theorem dropWhile_passed (cursor : Bytes) {definitions : List ClassDefinition}
    (sorted : definitions.Pairwise fun a b => a.name < b.name) :
    (definitions.dropWhile fun entry => !decide (cursor < entry.name)) =
      definitions.filter fun entry => decide (cursor < entry.name) := by
  induction definitions with
  | nil => rfl
  | cons head tail ih =>
    obtain ⟨less, rest⟩ := List.pairwise_cons.mp sorted
    by_cases above : cursor < head.name
    · have all : (tail.filter fun entry => decide (cursor < entry.name)) = tail := by
        apply List.filter_eq_self.mpr
        intro entry member
        exact decide_eq_true (List.lt_trans above (less entry member))
      simp [above, all]
    · simp [above, ih rest]

/-- What the binary search leaves to list is what lies behind the cursor. -/
theorem map_after (registry : ClassRegistry) (cursor : Bytes) :
    (registry.after cursor).map ClassDefinition.name = registry.namesAfter cursor := by
  rw [after, dropWhile_passed cursor registry.sorted, namesAfter, names, List.filter_map]
  rfl

/-! ## Pages -/

/-- A page is a front part of what the cursor has not passed, and unless it is the
last one, its `next` is the split point. -/
structure PageAfter (registry : ClassRegistry) (cursor : Bytes) (page : ClassesPage)
    (remaining : List Bytes) : Prop where
  split : page.names ++ remaining = registry.namesAfter cursor
  last : page.next = [] ↔ remaining = []
  back : page.next ≠ [] → page.names.getLast? = some page.next

/-- A page is the next names behind its cursor, as many as were asked for. -/
theorem list_page (registry : ClassRegistry) {cursor : Bytes}
    (valid : validName cursor true = true) {limit : UInt32}
    (sized : validPageSize limit = true) :
    ∃ page remaining, registry.list cursor limit = .ok page ∧
      PageAfter registry cursor page remaining := by
  have positive : limit.toNat ≠ 0 := by
    intro zero
    have none : limit = 0 := UInt32.toNat_inj.mp zero
    rw [none] at sized
    cases sized
  have whole : ((registry.after cursor).take limit.toNat).map ClassDefinition.name ++
      ((registry.after cursor).drop limit.toNat).map ClassDefinition.name =
        registry.namesAfter cursor := by
    rw [← List.map_append, List.take_append_drop, map_after]
  have listed : registry.list cursor limit = .ok
      ⟨((registry.after cursor).take limit.toNat).map ClassDefinition.name,
        if ((registry.after cursor).drop limit.toNat).isEmpty then []
        else (((registry.after cursor).take limit.toNat).map ClassDefinition.name).getLastD []⟩ := by
    simp only [list, valid, sized, Bool.not_true, Bool.or_self, Bool.false_eq_true, if_false]
  refine ⟨_, ((registry.after cursor).drop limit.toNat).map ClassDefinition.name, listed, ?_⟩
  by_cases done : ((registry.after cursor).drop limit.toNat).isEmpty = true
  · rw [if_pos done]
    rw [List.isEmpty_iff] at done
    exact ⟨whole, iff_of_true rfl (by rw [done, List.map_nil]), fun more => absurd rfl more⟩
  · rw [if_neg done]
    -- entries remain, so a first one was taken and `back` has an element
    have taken : ((registry.after cursor).take limit.toNat).map ClassDefinition.name ≠ [] := by
      intro none
      rw [List.map_eq_nil_iff, List.take_eq_nil_iff] at none
      rcases none with zero | empty
      · exact positive zero
      · exact done (by rw [empty, List.drop_nil, List.isEmpty_nil])
    rw [List.getLastD_eq_getLast?, List.getLast?_eq_some_getLast taken]
    refine ⟨whole, iff_of_false (fun ended => ?_) (fun none => ?_),
      fun _ => List.getLast?_eq_some_getLast taken⟩
    · have member : [] ∈ registry.namesAfter cursor := by
        rw [← whole, List.mem_append]
        exact Or.inl (ended ▸ List.getLast_mem taken)
      have nonempty := names_valid (List.mem_of_mem_filter member)
      cases nonempty
    · rw [List.map_eq_nil_iff] at none
      exact done (by rw [none, List.isEmpty_nil])

/-- From the split point on, the cursor of the page leaves what the page left. -/
theorem PageAfter.resume {cursor : Bytes} {page : ClassesPage} {remaining : List Bytes}
    (paged : PageAfter registry cursor page remaining) (more : page.next ≠ []) :
    page.names ≠ [] ∧ validName page.next true = true ∧
      registry.namesAfter page.next = remaining := by
  obtain ⟨front, names⟩ := List.getLast?_eq_some_iff.mp (paged.back more)
  have split : registry.namesAfter cursor = front ++ page.next :: remaining := by
    rw [← paged.split, names, List.append_assoc, List.singleton_append]
  have member : page.next ∈ registry.namesAfter cursor := by
    rw [split]
    exact List.mem_append_right _ List.mem_cons_self
  refine ⟨by simp [names], ?_, OrderedMap.filter_resume id registry.names_increasing split⟩
  exact validName_of_strict (names_valid (List.mem_of_mem_filter member))

/-- The next page is asked for with the cursor of the last. -/
theorem listChain_cons (registry : ClassRegistry) {cursor : Bytes}
    (valid : validName cursor true = true) {limit : UInt32}
    (sized : validPageSize limit = true) (rest : List UInt32) :
    ∃ page remaining, PageAfter registry cursor page remaining ∧
      registry.listChain cursor (limit :: rest) =
        if page.next = [] then [page] else page :: registry.listChain page.next rest := by
  obtain ⟨page, remaining, listed, paged⟩ := list_page registry valid sized
  refine ⟨page, remaining, paged, ?_⟩
  rw [listChain, listed]

/-- Paging from a cursor with these limits. -/
structure ListsAfter (registry : ClassRegistry) (cursor : Bytes) (limits : List UInt32) : Prop where
  cursors : ∀ page ∈ registry.listChain cursor limits, page.next ≠ [] →
    page.names ≠ [] ∧ page.names.getLast? = some page.next
  part : (registry.listChain cursor limits).flatMap ClassesPage.names <+: registry.namesAfter cursor
  whole : ∀ last, (registry.listChain cursor limits).getLast? = some last → last.next = [] →
    (registry.listChain cursor limits).flatMap ClassesPage.names = registry.namesAfter cursor
  ends : max 1 (registry.namesAfter cursor).length ≤ limits.length →
    (registry.listChain cursor limits).length ≤ max 1 (registry.namesAfter cursor).length ∧
      ∃ last, (registry.listChain cursor limits).getLast? = some last ∧ last.next = []

theorem listsAfter_last {cursor : Bytes} {limits : List UInt32} {page : ClassesPage}
    (shown : page.names = registry.namesAfter cursor) (ended : page.next = [])
    (chain : registry.listChain cursor limits = [page]) : ListsAfter registry cursor limits := by
  refine ⟨?_, ?_, ?_, ?_⟩
  · intro other member more
    rw [chain] at member
    rw [List.mem_singleton.mp member] at more
    exact absurd ended more
  · simp [chain, shown]
  · intro last _ _
    simp [chain, shown]
  · intro _
    rw [chain]
    exact ⟨Nat.le_max_left _ _, page, rfl, ended⟩

/-- Pages behind one another list what lies behind the first cursor, without gaps or repetitions.
-/
theorem listsAfter_more {cursor : Bytes} {limit : UInt32} {rest : List UInt32} {page : ClassesPage}
    {remaining : List Bytes} (paged : PageAfter registry cursor page remaining)
    (more : page.next ≠ [])
    (chain : registry.listChain cursor (limit :: rest) = page :: registry.listChain page.next rest)
    (later : ListsAfter registry page.next rest) : ListsAfter registry cursor (limit :: rest) := by
  obtain ⟨taken, -, resumed⟩ := paged.resume more
  have split : registry.namesAfter cursor = page.names ++ registry.namesAfter page.next := by
    rw [resumed, paged.split]
  have size : (registry.namesAfter cursor).length =
      page.names.length + (registry.namesAfter page.next).length := by
    rw [split, List.length_append]
  have positive := List.length_pos_iff.mpr taken
  refine ⟨?_, ?_, ?_, ?_⟩
  · intro other member unfinished
    rw [chain] at member
    rcases List.mem_cons.mp member with rfl | tail
    · exact ⟨taken, paged.back more⟩
    · exact later.cursors other tail unfinished
  · rw [chain, List.flatMap_cons, split]
    exact (List.prefix_append_right_inj _).mpr later.part
  · intro last found ended
    rw [chain] at found ⊢
    rw [List.getLast?_cons] at found
    cases tail : (registry.listChain page.next rest).getLast? with
    | none =>
      rw [tail] at found
      cases found
      exact absurd ended more
    | some other =>
      rw [tail] at found
      cases found
      rw [List.flatMap_cons, split, later.whole _ tail ended]
  · intro enough
    have unlisted : (registry.namesAfter page.next).length ≠ 0 := by
      rw [resumed]
      exact fun none => more (paged.last.mpr (List.length_eq_zero_iff.mp none))
    rw [List.length_cons] at enough
    obtain ⟨few, last, found, ended⟩ := later.ends (by omega)
    rw [chain, List.length_cons, List.getLast?_cons, found]
    exact ⟨by omega, last, rfl, ended⟩

/-- A chain shows what its cursor has not passed. -/
theorem listChain_lists (registry : ClassRegistry) {cursor : Bytes}
    (valid : validName cursor true = true) (limits : List UInt32)
    (sized : ∀ limit ∈ limits, validPageSize limit = true) :
    ListsAfter registry cursor limits := by
  induction limits generalizing cursor with
  | nil =>
    refine ⟨?_, ?_, ?_, ?_⟩
    · intro page member
      cases member
    · exact List.nil_prefix
    · intro last found
      cases found
    · intro enough
      rw [List.length_nil] at enough
      omega
  | cons limit rest ih =>
    obtain ⟨page, remaining, paged, chain⟩ := listChain_cons registry valid
      (sized limit List.mem_cons_self) rest
    by_cases ended : page.next = []
    · rw [if_pos ended] at chain
      have shown : page.names = registry.namesAfter cursor := by
        rw [← paged.split, paged.last.mp ended, List.append_nil]
      exact listsAfter_last shown ended chain
    · rw [if_neg ended] at chain
      obtain ⟨-, resumable, -⟩ := paged.resume ended
      have later := ih resumable fun other member => sized other (List.mem_cons_of_mem _ member)
      exact listsAfter_more paged ended chain later

end

end ClassRegistry

/-! ## The result -/

/-- A registry and the calls of `add` that made it. -/
structure Holds (registry : ClassRegistry) (log : List Addition) : Prop where
  increasing : registry.definitions.Pairwise fun a b => a.name < b.name
  bounded : registry.definitions.length ≤ maxEntries
  exactly : registry.definitions.Perm (accepted log)
  found : ∀ name definition, registry.find name = some definition ↔
    definition ∈ accepted log ∧ definition.name = name
  refused : ∀ definition error, (registry.add definition).1 = some error →
    (registry.add definition).2 = registry
  insertion : ∀ definition, ClassRegistry.insertAt registry.definitions definition =
    registry.definitions.take (registry.lowerBound definition.name) ++
      definition :: registry.definitions.drop (registry.lowerBound definition.name)
  resumption : ∀ cursor, registry.after cursor =
    registry.definitions.drop (registry.upperBound cursor)
  all : registry.namesAfter [] = registry.definitions.map ClassDefinition.name
  listed : ∀ cursor limits, validName cursor true = true →
    (∀ limit ∈ limits, validPageSize limit = true) → registry.ListsAfter cursor limits

/-- After any calls of `add` the registry is the sorted list of the accepted
definitions, paging shows its names once and in order, and the order of the calls
does not matter. -/
theorem registry_holds_accepted (calls : List ClassDefinition) :
    Holds (ClassRegistry.build calls).1 (ClassRegistry.build calls).2 ∧
      ∀ reordered, reordered.Perm calls → calls.length ≤ maxEntries →
        (∀ definition ∈ calls, definition.registrable = true) →
        (calls.map ClassDefinition.name).Nodup →
        (ClassRegistry.build reordered).1 = (ClassRegistry.build calls).1 := by
  have exactly := ClassRegistry.build_accepted calls
  constructor
  · exact {
      increasing := (ClassRegistry.build calls).1.sorted
      bounded := (ClassRegistry.build calls).1.bounded
      exactly := exactly
      found := by
        intro name definition
        rw [ClassRegistry.find_iff, exactly.mem_iff]
      refused := fun definition error failed => ClassRegistry.add_refused failed
      insertion := ClassRegistry.insertAt_lowerBound _
      resumption := ClassRegistry.after_upperBound _
      all := ClassRegistry.namesAfter_empty _
      listed := fun cursor limits valid sized =>
        ClassRegistry.listChain_lists _ valid limits sized }
  · intro reordered same few valid distinct
    have fresh : ∀ definition ∈ calls, ClassRegistry.empty.find definition.name = none :=
      fun _ _ => rfl
    have first := ClassRegistry.run_accepted .empty calls valid distinct fresh
      (by simpa [ClassRegistry.empty] using few)
    have second := ClassRegistry.run_accepted .empty reordered
      (fun definition member => valid definition (same.mem_iff.mp member))
      ((same.map _).nodup_iff.mpr distinct) (fun _ _ => rfl)
      (by simpa [ClassRegistry.empty, same.length_eq] using few)
    apply ClassRegistry.eq_of_perm
    calc
      List.Perm (ClassRegistry.build reordered).1.definitions reordered := second
      List.Perm reordered calls := same
      List.Perm calls (ClassRegistry.build calls).1.definitions := first.symm

/-- The built-in classes in either order, one of them twice, and page by page. -/
theorem registry_holds_accepted_builtins :
    (ClassRegistry.build [textBufferDefinition, counterDefinition]).1 =
        (ClassRegistry.build [counterDefinition, textBufferDefinition]).1 ∧
      ((ClassRegistry.build [textBufferDefinition, counterDefinition, counterDefinition]).1.listChain
        [] [1, 64]).flatMap ClassesPage.names = [ascii "Counter", ascii "TextBuffer"] ∧
      Holds (ClassRegistry.build [textBufferDefinition, counterDefinition, counterDefinition]).1
        (ClassRegistry.build [textBufferDefinition, counterDefinition, counterDefinition]).2 := by
  refine ⟨?_, by decide +kernel, (registry_holds_accepted _).1⟩
  refine (registry_holds_accepted [counterDefinition, textBufferDefinition]).2 _
    (.swap _ _ _) (by decide) ?_ (by decide +kernel)
  intro definition member
  rcases List.mem_pair.mp member with rfl | rfl
  · decide +kernel
  · decide +kernel

end PipeForge.Domain
