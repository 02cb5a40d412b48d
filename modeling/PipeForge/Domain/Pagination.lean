import PipeForge.Domain.Identity
import PipeForge.Domain.Outcomes

/-!
# Listing values page by page

A client pages through its values: the first request has cursor zero, each later
one the `next` of the page before, and anything but a close may happen in between.
Values are never removed and new ones get larger identifiers, so the map only grows
at its end. What the pages have shown so far is therefore always a front part of
the map, and the cursor is exactly the split point.
-/

namespace PipeForge.Domain
open Contracts Library

/-- The pages of a chain of requests, each a limit and the actions that follow it, and
the world at its last request. The chain ends with a page whose `next` is zero. -/
def listChain (registry : ClassRegistry) (session : Nat) :
    World → UInt64 → List (UInt32 × List Action) → List ValuesPage × World
  | w, _, [] => ([], w)
  | w, cursor, (limit, between) :: rest =>
    match World.step registry w (.execute session (.listValues cursor limit)) with
    | (requested, [⟨_, _, .values page⟩]) =>
      if page.next = 0 then ([page], requested)
      else
        let later := listChain registry session
          (Transition.run (World.step registry) requested between).1 page.next rest
        (page :: later.1, later.2)
    | (requested, _) => ([], requested)

def pageEntries (page : ValuesPage) : List (UInt64 × Value) :=
  page.values.map fun record => (record.id, record.data)

/-- Everything the pages show, in order. -/
def shown (pages : List ValuesPage) : List (UInt64 × Value) := pages.flatMap pageEntries

/-! ## One page -/

section
variable {registry : ClassRegistry} {ids : IdentifierSource} {store : SessionStore}

/-- Every record fits an empty page. -/
theorem valueCharge_le {data : Value} (valid : validValue data = true) :
    valueCharge data ≤ pageByteBudget := by
  have bytes := valueBytes_le valid
  have budget : recordCharge + maxStringBytes ≤ pageByteBudget := by decide
  rw [valueCharge]
  omega

/-- `page.values.back()` is evaluated while entries remain, and then a first record
was taken. -/
theorem fillPage_nonempty {limit : Nat} (positive : 0 < limit) {entries : List (UInt64 × Value)}
    (valid : ∀ e ∈ entries, validValue e.2 = true)
    (remain : (SessionStore.fillPage limit 0 0 entries).2 ≠ []) :
    (SessionStore.fillPage limit 0 0 entries).1 ≠ [] := by
  cases entries with
  | nil => exact absurd rfl remain
  | cons entry rest =>
    obtain ⟨id, data⟩ := entry
    have fits := valueCharge_le (valid _ List.mem_cons_self)
    have whole : SizeT.sub pageByteBudget 0 = pageByteBudget := SizeT.sub_eq (Nat.zero_le _) (by decide)
    unfold SessionStore.fillPage
    rw [if_pos positive, whole, if_neg (Nat.not_lt.mpr fits)]
    exact List.cons_ne_nil _ _

/-- A page is what follows the cursor, up to some entry, and `next` names the last
record exactly when entries remain. -/
structure PageOf (store : SessionStore) (cursor : UInt64) (page : ValuesPage)
    (remaining : List (UInt64 × Value)) : Prop where
  split : pageEntries page ++ remaining = store.values.after cursor
  ended : page.next = 0 → remaining = []
  last : page.next ≠ 0 → remaining ≠ [] ∧ page.values ≠ [] ∧
    page.values.getLast?.map (·.id) = some page.next

theorem after_valid (sound : Sound registry ids store) (cursor : UInt64) :
    ∀ e ∈ store.values.after cursor, validValue e.2 = true ∧ e.1 ≠ 0 := by
  intro e listed
  have found := (OrderedMap.find_eq_some_iff store.values e.1 e.2).mpr (List.mem_filter.mp listed).1
  exact ⟨sound.values_valid _ _ found, (sound.values_issued _ _ found).1⟩

theorem validPageSize_pos {limit : UInt32} (valid : validPageSize limit = true) :
    0 < limit.toNat := by
  simp only [validPageSize, Bool.and_eq_true, bne_iff_ne, ne_eq] at valid
  exact UInt32.lt_iff_toNat_lt.mp (UInt32.pos_iff_ne_zero.mpr valid.1)

/-- A page is a stretch of the values behind its cursor, and its next cursor says whether there
are more. -/
theorem listValues_page (sound : Sound registry ids store) (cursor : UInt64) {limit : UInt32}
    (sized : validPageSize limit = true) :
    ∃ page remaining, store.applyListValues cursor limit = .values page ∧
      PageOf store cursor page remaining := by
  have valid := after_valid sound cursor
  have split := (fillPage_spec limit.toNat (store.values.after cursor) 0 0 (Nat.zero_le _)).1
  have nonempty := fillPage_nonempty (validPageSize_pos sized) fun e listed => (valid e listed).1
  simp only [SessionStore.applyListValues, sized, Bool.not_true, Bool.false_eq_true, if_false]
  generalize SessionStore.fillPage limit.toNat 0 0 (store.values.after cursor) = filled
    at split nonempty
  refine ⟨_, filled.2, rfl, ?_⟩
  by_cases remain : filled.2 = []
  · exact ⟨split, fun _ => remain, fun next => absurd (by simp [remain]) next⟩
  · have taken := nonempty remain
    have last := List.getLast?_eq_some_getLast taken
    generalize filled.1.getLast taken = record at last
    have present : (record.id, record.data) ∈ store.values.after cursor := by
      rw [← split]
      exact List.mem_append_left _ (List.mem_map.mpr ⟨record, List.mem_of_getLast? last, rfl⟩)
    have nonzero := (valid _ present).2
    have next : (if filled.2.isEmpty then 0 else ((filled.1.getLast?).map (·.id)).getD 0) =
        record.id := by
      simp [remain, last]
    refine ⟨split, fun zero => ?_, fun _ => ⟨remain, taken, ?_⟩⟩
    · exact absurd (next.symm.trans zero) nonzero
    · dsimp only
      rw [next, last]
      rfl

/-- The cursor of a page separates what it showed from what remains. -/
theorem PageOf.after {cursor : UInt64} {page : ValuesPage} {remaining : List (UInt64 × Value)}
    (paged : PageOf store cursor page remaining) (more : page.next ≠ 0) :
    store.values.after page.next = remaining := by
  obtain ⟨-, taken, last⟩ := paged.last more
  obtain ⟨record, found, same⟩ := Option.map_eq_some_iff.mp last
  obtain ⟨front, split⟩ := List.getLast?_eq_some_iff.mp found
  rw [← same]
  refine OrderedMap.after_resume store.values cursor record.id record.data
    (front.map fun record => (record.id, record.data)) remaining ?_
  rw [← paged.split, pageEntries, split]
  simp

end

/-! ## Between pages -/

/-- An open session's values after anything but a close: new ones at the end only. -/
structure Grown (store store' : SessionStore) (more : List (UInt64 × Value)) : Prop where
  opened : store'.closed = false
  values : store'.values.entries = store.values.entries ++ more

/-- Values are only ever added, behind all that are there. -/
theorem effect_grown {registry : ClassRegistry} {ids : IdentifierSource} {store : SessionStore}
    {operation : Operation} {done : Executed} (sound : Sound registry ids store)
    (opened : store.closed = false) (effect : Effect registry store ids operation done) :
    ∃ more, Grown store done.store more ∧ ((∀ data, operation ≠ .putValue data) → more = []) := by
  cases effect with
  | failed => exact ⟨[], ⟨opened, by simp [SessionStore.fail]⟩, fun _ => rfl⟩
  | answered => exact ⟨[], ⟨opened, by simp [SessionStore.answer]⟩, fun _ => rfl⟩
  | put data id ids' _ valid room fits drawn =>
    refine ⟨[(id, data)], ⟨opened, ?_⟩, fun none => absurd rfl (none data)⟩
    refine OrderedMap.entries_emplace_last store.values id data fun e listed => ?_
    have found := (OrderedMap.find_eq_some_iff store.values e.1 e.2).mpr listed
    exact issued_lt_next drawn (sound.values_issued _ _ found)
  | created => exact ⟨[], ⟨opened, by simp⟩, fun _ => rfl⟩
  | released => exact ⟨[], ⟨opened, by simp⟩, fun _ => rfl⟩
  | invoked => exact ⟨[], ⟨opened, by simp⟩, fun _ => rfl⟩

section
variable {registry : ClassRegistry} {session : Nat}

/-- Whoever takes the step, the values of an open session are kept. -/
theorem step_grown {w : World} {store : SessionStore} (sound : World.AllSound registry w)
    (owner : w.sessions[session]? = some store) (opened : store.closed = false) {action : Action}
    (kept : action ≠ .close session) :
    ∃ store' more, (World.step registry w action).1.sessions[session]? = some store' ∧
      Grown store store' more ∧ ((∀ data, action ≠ .execute session (.putValue data)) → more = []) := by
  have inside := (List.getElem?_eq_some_iff.mp owner).1
  have same : Grown store store [] := ⟨opened, by simp⟩
  cases action with
  | create limits =>
    refine ⟨store, [], ?_, same, fun _ => rfl⟩
    simp only [World.step, List.getElem?_append_left inside, owner]
  | execute target operation =>
    cases present : w.sessions[target]? with
    | none =>
      refine ⟨store, [], ?_, same, fun _ => rfl⟩
      simp only [World.step, present, owner]
    | some found =>
      simp only [World.step, present]
      by_cases equal : target = session
      · subst equal
        cases Option.some.inj (owner.symm.trans present)
        obtain ⟨more, grown, fixed⟩ := effect_grown (sound target store owner) opened
          (execute_effect registry store w.ids operation)
        refine ⟨_, more, List.getElem?_set_self inside, grown, fun none => fixed ?_⟩
        intro data put
        exact none data (congrArg (Action.execute target) put)
      · refine ⟨store, [], ?_, same, fun _ => rfl⟩
        rw [List.getElem?_set_ne equal]
        exact owner
  | close target =>
    have other : target ≠ session := fun equal => kept (congrArg Action.close equal)
    refine ⟨store, [], ?_, same, fun _ => rfl⟩
    cases present : w.sessions[target]? with
    | none => simp only [World.step, present, owner]
    | some found =>
      simp only [World.step, present]
      rw [List.getElem?_set_ne other]
      exact owner

/-- Over any run the values of an open session grow at the end. -/
theorem run_grown {w : World} {store : SessionStore} (sound : World.AllSound registry w)
    (owner : w.sessions[session]? = some store) (opened : store.closed = false)
    (actions : List Action) (kept : Action.close session ∉ actions) :
    World.AllSound registry (Transition.run (World.step registry) w actions).1 ∧
    ∃ store' more,
      (Transition.run (World.step registry) w actions).1.sessions[session]? = some store' ∧
      Grown store store' more ∧
      ((∀ data, Action.execute session (.putValue data) ∉ actions) → more = []) := by
  induction actions generalizing w store with
  | nil => exact ⟨sound, store, [], owner, ⟨opened, by simp⟩, fun _ => rfl⟩
  | cons action rest ih =>
    obtain ⟨first, later⟩ := not_or.mp fun member => kept (List.mem_cons.mpr member)
    obtain ⟨middle, more, held, grown, fixed⟩ := step_grown sound owner opened (Ne.symm first)
    obtain ⟨sound', final, more', held', grown', fixed'⟩ :=
      ih (World.step_sound sound (World.step_spec registry w action)) held grown.opened later
    refine ⟨sound', final, more ++ more', held', ⟨grown'.opened, ?_⟩, fun none => ?_⟩
    · rw [grown'.values, grown.values, List.append_assoc]
    · rw [fixed fun data put => none data (put ▸ List.mem_cons_self),
        fixed' fun data put => none data (List.mem_cons_of_mem _ put), List.append_nil]

/-! ## Whole chains -/

/-- A page request leaves the world as it is. -/
theorem listChain_cons {w : World} {store : SessionStore} (sound : World.AllSound registry w)
    (owner : w.sessions[session]? = some store) (opened : store.closed = false) (cursor : UInt64)
    {limit : UInt32} (sized : validPageSize limit = true) (between : List Action)
    (rest : List (UInt32 × List Action)) :
    ∃ page remaining, PageOf store cursor page remaining ∧
      listChain registry session w cursor ((limit, between) :: rest) =
        if page.next = 0 then ([page], w)
        else
          let later := listChain registry session
            (Transition.run (World.step registry) w between).1 page.next rest
          (page :: later.1, later.2) := by
  obtain ⟨page, remaining, answer, paged⟩ := listValues_page (sound session store owner) cursor sized
  have requested : World.step registry w (.execute session (.listValues cursor limit)) =
      (w, [⟨session, .listValues cursor limit, .values page⟩]) := by
    have kept : w.sessions.set session store = w.sessions := by
      obtain ⟨inside, rfl⟩ := List.getElem?_eq_some_iff.mp owner
      exact List.set_getElem_self inside
    simp only [World.step, owner, SessionStore.execute, opened, Bool.false_eq_true, if_false,
      SessionStore.answer, answer, kept]
  refine ⟨page, remaining, paged, ?_⟩
  rw [listChain, requested]

/-- After a page that is not the last and anything but a close, the page has moved
the split point past itself. -/
theorem PageOf.resume {w : World} {store : SessionStore} (sound : World.AllSound registry w)
    (owner : w.sessions[session]? = some store) (opened : store.closed = false) {cursor : UInt64}
    {page : ValuesPage} {remaining : List (UInt64 × Value)}
    (paged : PageOf store cursor page remaining) (unfinished : page.next ≠ 0)
    {between : List Action} (kept : Action.close session ∉ between) :
    World.AllSound registry (Transition.run (World.step registry) w between).1 ∧
    ∃ store' more,
      (Transition.run (World.step registry) w between).1.sessions[session]? = some store' ∧
      Grown store store' more ∧ store'.values.after page.next = remaining ++ more ∧
      ((∀ data, Action.execute session (.putValue data) ∉ between) → more = []) := by
  obtain ⟨sound', store', more, held, grown, fixed⟩ := run_grown sound owner opened between kept
  refine ⟨sound', store', more, held, grown, ?_, fixed⟩
  rw [← paged.after unfinished]
  refine OrderedMap.after_append store.values store'.values page.next more grown.values ?_
  -- The cursor is the key of an entry, and the new entries come after all of these.
  obtain ⟨-, -, last⟩ := paged.last unfinished
  obtain ⟨record, found, same⟩ := Option.map_eq_some_iff.mp last
  have listed : (record.id, record.data) ∈ store.values.entries := by
    have inPage : (record.id, record.data) ∈ pageEntries page :=
      List.mem_map.mpr ⟨record, List.mem_of_getLast? found, rfl⟩
    have inRange : (record.id, record.data) ∈ store.values.after cursor :=
      paged.split ▸ List.mem_append_left _ inPage
    exact (List.mem_filter.mp inRange).1
  have sorted := store'.values.sorted
  rw [grown.values] at sorted
  intro e new
  rw [← same]
  exact (List.pairwise_append.mp sorted).2.2 _ listed e new

/-- What a chain of pages shows, beyond an already shown front part of the map. -/
structure Listed (pages : List ValuesPage) (front : List (UInt64 × Value)) (final : SessionStore) :
    Prop where
  cursors : ∀ page ∈ pages, page.next ≠ 0 →
    page.values ≠ [] ∧ page.values.getLast?.map (·.id) = some page.next
  part : front ++ shown pages <+: final.values.entries
  whole : ∀ last, pages.getLast? = some last → last.next = 0 →
    front ++ shown pages = final.values.entries

/-- Pages asked for one after the other list the values in order and none twice, also those put
in between. -/
theorem listChain_listed {w : World} {store : SessionStore} (sound : World.AllSound registry w)
    (owner : w.sessions[session]? = some store) (opened : store.closed = false) {cursor : UInt64}
    {front : List (UInt64 × Value)} (split : store.values.entries = front ++ store.values.after cursor)
    (requests : List (UInt32 × List Action))
    (sized : ∀ request ∈ requests, validPageSize request.1 = true)
    (kept : ∀ request ∈ requests, Action.close session ∉ request.2) :
    ∃ final, (listChain registry session w cursor requests).2.sessions[session]? = some final ∧
      Listed (listChain registry session w cursor requests).1 front final := by
  induction requests generalizing w store cursor front with
  | nil =>
    refine ⟨store, owner, nofun, ?_, nofun⟩
    rw [split]
    simp [listChain, shown]
  | cons request rest ih =>
    obtain ⟨limit, between⟩ := request
    obtain ⟨page, remaining, paged, unfolded⟩ := listChain_cons sound owner opened cursor
      (sized _ List.mem_cons_self) between rest
    have untouched : Action.close session ∉ between := kept (limit, between) List.mem_cons_self
    rw [unfolded]
    by_cases finished : page.next = 0
    · have entries : front ++ shown [page] = store.values.entries := by
        rw [split, ← paged.split, paged.ended finished]
        simp [shown]
      rw [if_pos finished]
      refine ⟨store, owner, fun other member => ?_, ?_, fun _ _ _ => entries⟩
      · rw [List.mem_singleton.mp member]
        exact fun next => absurd finished next
      · rw [entries]
    · obtain ⟨sound', store', more, held, grown, resumed, -⟩ :=
        paged.resume sound owner opened finished untouched
      have split' : store'.values.entries =
          (front ++ pageEntries page) ++ store'.values.after page.next := by
        rw [grown.values, split, ← paged.split, resumed]
        simp
      obtain ⟨final, reached, listed⟩ := ih sound' held grown.opened split'
        (fun other member => sized other (List.mem_cons_of_mem _ member))
        (fun other member => kept other (List.mem_cons_of_mem _ member))
      have joined : ∀ pages, front ++ shown (page :: pages) =
          front ++ pageEntries page ++ shown pages := fun pages => by simp [shown]
      rw [if_neg finished]
      refine ⟨final, reached, fun other member => ?_, ?_, fun last found zero => ?_⟩
      · rcases List.mem_cons.mp member with rfl | later
        · exact fun next => (paged.last next).2
        · exact listed.cursors other later
      · rw [joined]
        exact listed.part
      · rw [joined]
        rw [List.getLast?_cons] at found
        cases ends : (listChain registry session
          (Transition.run (World.step registry) w between).1 page.next rest).1.getLast? with
        | none =>
          rw [ends] at found
          cases found
          exact absurd zero finished
        | some other =>
          rw [ends] at found
          cases found
          exact listed.whole _ ends zero

/-- Without new values every page but the last uses up an entry. -/
theorem listChain_ends {w : World} {store : SessionStore} (sound : World.AllSound registry w)
    (owner : w.sessions[session]? = some store) (opened : store.closed = false) (cursor : UInt64)
    (requests : List (UInt32 × List Action))
    (sized : ∀ request ∈ requests, validPageSize request.1 = true)
    (kept : ∀ request ∈ requests, Action.close session ∉ request.2)
    (fixed : ∀ request ∈ requests, ∀ data, Action.execute session (.putValue data) ∉ request.2)
    (enough : max 1 (store.values.after cursor).length ≤ requests.length) :
    (listChain registry session w cursor requests).1.length ≤
        max 1 (store.values.after cursor).length ∧
      ∃ last, (listChain registry session w cursor requests).1.getLast? = some last ∧
        last.next = 0 := by
  induction requests generalizing w store cursor with
  | nil => simp at enough
  | cons request rest ih =>
    obtain ⟨limit, between⟩ := request
    obtain ⟨page, remaining, paged, unfolded⟩ := listChain_cons sound owner opened cursor
      (sized _ List.mem_cons_self) between rest
    have untouched : Action.close session ∉ between := kept (limit, between) List.mem_cons_self
    rw [unfolded]
    by_cases finished : page.next = 0
    · rw [if_pos finished]
      exact ⟨Nat.le_max_left _ _, page, rfl, finished⟩
    · obtain ⟨sound', store', more, held, grown, resumed, unchanged⟩ :=
        paged.resume sound owner opened finished untouched
      rw [unchanged (fixed (limit, between) List.mem_cons_self), List.append_nil] at resumed
      obtain ⟨remain, taken, -⟩ := paged.last finished
      have used : (store.values.after cursor).length = page.values.length + remaining.length := by
        rw [← paged.split]
        simp [pageEntries]
      have some := List.length_pos_iff.mpr taken
      have others := List.length_pos_iff.mpr remain
      simp only [List.length_cons] at enough
      obtain ⟨few, last, found, zero⟩ := ih sound' held grown.opened page.next
        (fun other member => sized other (List.mem_cons_of_mem _ member))
        (fun other member => kept other (List.mem_cons_of_mem _ member))
        (fun other member => fixed other (List.mem_cons_of_mem _ member))
        (by rw [resumed]; omega)
      rw [resumed] at few
      rw [if_neg finished]
      refine ⟨?_, last, ?_, zero⟩
      · simp only [List.length_cons]
        omega
      · rw [List.getLast?_cons, found]
        rfl

end

/-- The contract of a chain of page requests from an open session's store. -/
structure PagesExactly (registry : ClassRegistry) (session : Nat) (w : World) (store : SessionStore)
    (requests : List (UInt32 × List Action)) : Prop where
  cursors : ∀ page ∈ (listChain registry session w 0 requests).1, page.next ≠ 0 →
    page.values ≠ [] ∧ page.values.getLast?.map (·.id) = some page.next
  increasing : (shown (listChain registry session w 0 requests).1).Pairwise fun a b => a.1 < b.1
  complete : ∀ last, (listChain registry session w 0 requests).1.getLast? = some last →
    last.next = 0 → ∃ final,
      (listChain registry session w 0 requests).2.sessions[session]? = some final ∧
      shown (listChain registry session w 0 requests).1 = final.values.entries
  ends : (∀ request ∈ requests, ∀ data, Action.execute session (.putValue data) ∉ request.2) →
    max 1 store.values.size ≤ requests.length →
    (listChain registry session w 0 requests).1.length ≤ max 1 store.values.size ∧
      ∃ last, (listChain registry session w 0 requests).1.getLast? = some last ∧ last.next = 0
  back : ∀ cursor limit, validPageSize limit = true →
    (SessionStore.fillPage limit.toNat 0 0 (store.values.after cursor)).2 ≠ [] →
    (SessionStore.fillPage limit.toNat 0 0 (store.values.after cursor)).1 ≠ []

/-- From any state of any run, paging through the values of an open session shows
each of them once and in order, whatever is interleaved short of closing it. -/
theorem pagination_exact (registry : ClassRegistry) (first : UInt64) (actions : List Action)
    (session : Nat) (store : SessionStore)
    (reached : (World.run registry first actions).1.sessions[session]? = some store)
    (opened : store.closed = false) (requests : List (UInt32 × List Action))
    (sized : ∀ request ∈ requests, validPageSize request.1 = true)
    (kept : ∀ request ∈ requests, Action.close session ∉ request.2) :
    PagesExactly registry session (World.run registry first actions).1 store requests := by
  have sound := World.run_sound registry first actions
  have all : store.values.after 0 = store.values.entries := by
    refine List.filter_eq_self.mpr fun e listed => decide_eq_true ?_
    have found := (OrderedMap.find_eq_some_iff store.values e.1 e.2).mpr listed
    exact UInt64.pos_iff_ne_zero.mpr ((sound session store reached).values_issued _ _ found).1
  have split : store.values.entries = [] ++ store.values.after 0 := by rw [all, List.nil_append]
  obtain ⟨final, held, listed⟩ := listChain_listed sound reached opened split requests sized kept
  exact {
    cursors := listed.cursors
    increasing := final.values.sorted.sublist listed.part.sublist
    complete := fun last found zero => ⟨final, held, listed.whole last found zero⟩
    ends := fun fixed enough => by
      have ended := listChain_ends sound reached opened 0 requests sized kept fixed
      rw [all] at ended
      exact ended enough
    back := fun cursor limit valid => fillPage_nonempty (validPageSize_pos valid)
      fun e member => (after_valid (sound session store reached) cursor e member).1 }

/-- Two values in the first of two sessions. -/
def pagedRun : List Action :=
  [.create ⟨4, 4, 1024⟩, .create ⟨4, 4, 1024⟩, .execute 0 (.putValue (.integer 1)),
   .execute 0 (.putValue (.text (ascii "two")))]

/-- Pages of one record, a new value and another session's value after the first. -/
def pagedRequests : List (UInt32 × List Action) :=
  [(1, [.execute 1 (.putValue (.integer 8)), .execute 0 (.putValue (.integer 9))]), (1, []), (2, [])]

theorem pagination_exact_growing :
    ∃ store, (World.run builtinRegistry 1 pagedRun).1.sessions[0]? = some store ∧
      store.values.size = 2 ∧
      shown (listChain builtinRegistry 0 (World.run builtinRegistry 1 pagedRun).1 0
        pagedRequests).1 = [(1, .integer 1), (2, .text (ascii "two")), (4, .integer 9)] ∧
      PagesExactly builtinRegistry 0 (World.run builtinRegistry 1 pagedRun).1 store pagedRequests :=
  ⟨_, rfl, by decide +kernel, by decide +kernel,
    pagination_exact builtinRegistry 1 pagedRun 0 _ rfl rfl pagedRequests (by decide)
      (by simp [pagedRequests])⟩

end PipeForge.Domain
