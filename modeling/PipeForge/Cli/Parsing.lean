import PipeForge.Cli.Grammar

/-!
# The parser meets the grammar

The loop takes one segment after the other. Each segment passes by itself or is refused
because of the ones before it, and these refusals together do not depend on an order
(`Parsing.AllowsAll`); what a passing list leaves behind is its `meaning`.
-/

namespace PipeForge.Cli
open Contracts Transport

/-! ## The loop takes segments -/

namespace Parsing

def apply (p : Parsing) : Segment → Except Rejection Parsing
  | .command chosen => p.takeCommand chosen
  | .option flag value => p.takeOption flag value

end Parsing

theorem loop_command (p : Parsing) (chosen : ApplicationCommand) (rest : List Bytes) :
    loop p (chosen.text :: rest) = (p.takeCommand chosen >>= fun p => loop p rest) := by
  rw [loop, lookup_command.mpr rfl]

theorem loop_option (p : Parsing) (flag : Flag) (value : Bytes) (rest : List Bytes) :
    loop p (flag.text :: value :: rest) = (p.takeOption flag value >>= fun p => loop p rest) := by
  rw [loop, flag_not_command, lookup_flag.mpr rfl]

/-- The loop over the arguments is a fold over the segments they make up. -/
theorem loop_tokens (p : Parsing) (segments : List Segment) :
    loop p (tokens segments) = segments.foldlM Parsing.apply p := by
  induction segments generalizing p with
  | nil => rfl
  | cons segment segments ih =>
    rw [List.foldlM_cons]
    cases segment with
    | command chosen =>
      exact (loop_command p chosen (tokens segments)).trans (bind_congr fun p => ih p)
    | option flag value =>
      exact (loop_option p flag value (tokens segments)).trans (bind_congr fun p => ih p)

theorem bind_ok {α β : Type} {first : Except Rejection α} {next : α → Except Rejection β} {b : β}
    (done : (first >>= next) = .ok b) : ∃ a, first = .ok a ∧ next a = .ok b := by
  cases first with
  | error rejection => cases done
  | ok a => exact ⟨a, rfl, done⟩

/-- The loop only gets through lists that can be cut. -/
theorem loop_cut {p q : Parsing} {arguments : List Bytes} (done : loop p arguments = .ok q) :
    ∃ segments, arguments = tokens segments := by
  induction p, arguments using loop.induct with
  | case1 p => exact ⟨[], rfl⟩
  | case2 p argument remaining chosen found ih =>
    rw [lookup_command.mp found, loop_command] at done
    obtain ⟨next, -, later⟩ := bind_ok done
    obtain ⟨segments, rfl⟩ := ih next later
    exact ⟨.command chosen :: segments, by rw [lookup_command.mp found]; rfl⟩
  | case3 p argument remaining none unknown =>
    rw [loop, none, unknown] at done
    cases done
  | case4 p argument none flag found =>
    rw [loop, none, found] at done
    cases done
  | case5 p argument none flag found value remaining ih =>
    rw [lookup_flag.mp found, loop_option] at done
    obtain ⟨next, -, later⟩ := bind_ok done
    obtain ⟨segments, rfl⟩ := ih next later
    exact ⟨.option flag value :: segments, by rw [lookup_flag.mp found]; rfl⟩

/-! ## Values -/

theorem fromChars_numeral {value : Bytes} (nonempty : value ≠ []) (digits : value.all digit = true)
    (small : decimal value < 2 ^ 32) : fromChars value = ⟨none, [], decimal value⟩ := by
  have all : ∀ c ∈ value, digit c = true := List.all_eq_true.mp digits
  have whole : value.takeWhile digit = value := List.takeWhile_eq_self_iff.mpr all
  have nothing : value.dropWhile digit = [] := List.dropWhile_eq_nil_iff.mpr all
  unfold fromChars
  simp only [whole, nothing, if_neg nonempty, if_pos small]

/-- Any other value leaves an error or characters. -/
theorem fromChars_other {value : Bytes}
    (other : ¬ (value ≠ [] ∧ value.all digit = true ∧ decimal value < 2 ^ 32)) :
    (fromChars value).ec.isSome = true ∨ (fromChars value).rest ≠ [] := by
  by_contra clean
  apply other
  unfold fromChars at clean
  dsimp only at clean
  split at clean
  · simp at clean
  · rename_i some
    split at clean
    · rename_i small
      have nothing : value.dropWhile digit = [] := by
        by_contra rest
        exact clean (.inr rest)
      have all : ∀ c ∈ value, digit c = true := List.dropWhile_eq_nil_iff.mp nothing
      have whole : value.takeWhile digit = value := List.takeWhile_eq_self_iff.mpr all
      rw [whole] at some small
      exact ⟨some, List.all_eq_true.mpr all, small⟩
    · simp at clean

/-- The check of a number option: a numeral within its bounds, and that value is stored. -/
theorem takeNumber_iff (low high : Nat) (p : Parsing) (value : Bytes) (set : Nat → Parsing)
    {q : Parsing} (word : high < 2 ^ 32) (message : String) :
    (if (fromChars value).ec.isSome ∨ (fromChars value).rest ≠ [] then
        p.reject "Numeric options require unsigned decimal integers.\n"
      else if (fromChars value).number < low ∨ (fromChars value).number > high then
        p.reject message
      else .ok (set (fromChars value).number)) = .ok q ↔
      NumeralIn low high value ∧ q = set (decimal value) := by
  by_cases numeral : value ≠ [] ∧ value.all digit = true ∧ decimal value < 2 ^ 32
  · obtain ⟨nonempty, digits, small⟩ := numeral
    rw [fromChars_numeral nonempty digits small, if_neg (by simp)]
    dsimp only
    split
    · rename_i outside
      refine iff_of_false ?_ ?_
      · intro done
        cases done
      · intro inside
        obtain ⟨⟨-, -, above, below⟩, -⟩ := inside
        omega
    · rename_i inside
      have bounds : low ≤ decimal value ∧ decimal value ≤ high := by omega
      constructor
      · intro done
        cases done
        exact ⟨⟨nonempty, digits, bounds⟩, rfl⟩
      · intro given
        rw [given.2]
  · rw [if_pos (fromChars_other numeral)]
    refine iff_of_false ?_ ?_
    · intro done
      cases done
    · intro inside
      obtain ⟨⟨nonempty, digits, -, below⟩, -⟩ := inside
      exact numeral ⟨nonempty, digits, by omega⟩

/-! ## What each segment does -/

namespace Parsing

def set (p : Parsing) (flag : Flag) (value : Bytes) : Parsing :=
  match flag with
  | .logFile => { p with diagnostics := { p.diagnostics with logFile := value } }
  | .traceFile => { p with diagnostics := { p.diagnostics with traceFile := value } }
  | .endpoint => { p with options := { p.options with endpoint := value.map widen } }
  | .timeoutMs => { p with options := { p.options with timeout := decimal value } }
  | .sessions => { p with options := { p.options with sessions := decimal value } }

/-- The state after a segment that passes. -/
def effect (p : Parsing) : Segment → Parsing
  | .command chosen =>
    { p with hasCommand := true, options := { p.options with command := chosen } }
  | .option flag value => set { p with supplied := insert flag p.supplied } flag value

def Allows (p : Parsing) : Segment → Prop
  | .command _ => p.hasCommand = false
  | .option flag value => flag ∉ p.supplied ∧ flag.Accepts value

/-- A value is taken exactly if its flag accepts it. -/
theorem takeValue_iff (p q : Parsing) (flag : Flag) {value : Bytes} (nonempty : value ≠ [])
    (plain : dashes.isPrefixOf value = false) :
    p.takeValue flag value = .ok q ↔ flag.Accepts value ∧ q = p.set flag value := by
  have accepts : flag.Accepts value ↔ flag.Fits value := by
    simp only [Flag.Accepts, nonempty, plain, ne_eq, not_false_eq_true, true_and]
  rw [accepts]
  cases flag with
  | logFile => simp [takeValue, set, Flag.Fits, eq_comm]
  | traceFile => simp [takeValue, set, Flag.Fits, eq_comm]
  | endpoint =>
    simp only [takeValue, set, Flag.Fits]
    split
    · rename_i valid
      simp [valid, eq_comm]
    · rename_i invalid
      simp [invalid, reject]
  | timeoutMs =>
    exact takeNumber_iff minimumTimeout maximumTimeout p value
      (fun n => { p with options := { p.options with timeout := n } }) (by decide) _
  | sessions =>
    have bound (n : Nat) : (n = 0 ∨ n > maxSessions) ↔ (n < 1 ∨ n > maxSessions) := by omega
    simp only [takeValue, takeNumber, bound, if_true]
    exact takeNumber_iff 1 maxSessions p value
      (fun n => { p with options := { p.options with sessions := n } }) (by decide) _

/-- A segment is applied exactly if it is allowed, with the effect it stands for. -/
theorem apply_iff (p q : Parsing) (segment : Segment) :
    p.apply segment = .ok q ↔ p.Allows segment ∧ q = p.effect segment := by
  cases segment with
  | command chosen =>
    simp only [apply, takeCommand, Allows, effect]
    cases p.hasCommand with
    | true => simp [reject]
    | false => simp [eq_comm]
  | option flag value =>
    simp only [apply, takeOption, Allows, effect]
    by_cases refused : flag ∈ p.supplied ∨ value = [] ∨ dashes.isPrefixOf value = true
    · rw [if_pos refused]
      refine iff_of_false ?_ ?_
      · intro done
        cases done
      · intro given
        obtain ⟨⟨fresh, nonempty, plain, -⟩, -⟩ := given
        rcases refused with present | empty | dashed
        · exact fresh present
        · exact nonempty empty
        · exact Bool.false_ne_true (plain.symm.trans dashed)
    · rw [if_neg refused]
      have fresh : flag ∉ p.supplied := fun present => refused (.inl present)
      have nonempty : value ≠ [] := fun empty => refused (.inr (.inl empty))
      have plain : dashes.isPrefixOf value = false := by
        cases starts : dashes.isPrefixOf value with
        | true => exact absurd (.inr (.inr starts)) refused
        | false => rfl
      rw [takeValue_iff _ _ _ nonempty plain]
      simp only [fresh, not_false_eq_true, true_and]

/-- All checks of the loop at once, in any order. -/
structure AllowsAll (p : Parsing) (segments : List Segment) : Prop where
  one : (if p.hasCommand then 1 else 0) + (commandsOf segments).length ≤ 1
  distinct : (flagsOf segments).Nodup
  fresh : ∀ flag ∈ flagsOf segments, flag ∉ p.supplied
  values : ∀ flag value, .option flag value ∈ segments → flag.Accepts value

theorem set_supplied (p : Parsing) (flag : Flag) (value : Bytes) :
    (p.set flag value).supplied = p.supplied := by
  cases flag <;> rfl

theorem set_hasCommand (p : Parsing) (flag : Flag) (value : Bytes) :
    (p.set flag value).hasCommand = p.hasCommand := by
  cases flag <;> rfl

theorem allowsAll_command (p : Parsing) (chosen : ApplicationCommand) (segments : List Segment) :
    p.AllowsAll (.command chosen :: segments) ↔
      p.hasCommand = false ∧ (p.effect (.command chosen)).AllowsAll segments := by
  constructor
  · intro given
    obtain ⟨one, distinct, fresh, values⟩ := given
    have first : p.hasCommand = false := by
      cases taken : p.hasCommand with
      | true => simp [taken, commandsOf] at one
      | false => rfl
    refine ⟨first, ?_, distinct, fresh, ?_⟩
    · simpa [effect, first, commandsOf] using one
    · intro flag value member
      exact values flag value (List.mem_cons_of_mem _ member)
  · intro given
    obtain ⟨first, one, distinct, fresh, values⟩ := given
    refine ⟨?_, distinct, fresh, ?_⟩
    · simpa [effect, first, commandsOf] using one
    · intro flag value member
      rcases List.mem_cons.mp member with here | later
      · cases here
      · exact values flag value later

theorem allowsAll_option (p : Parsing) (flag : Flag) (value : Bytes) (segments : List Segment) :
    p.AllowsAll (.option flag value :: segments) ↔
      (flag ∉ p.supplied ∧ flag.Accepts value) ∧
        (p.effect (.option flag value)).AllowsAll segments := by
  have supplied : (p.effect (.option flag value)).supplied = insert flag p.supplied :=
    set_supplied _ _ _
  have hasCommand : (p.effect (.option flag value)).hasCommand = p.hasCommand :=
    set_hasCommand _ _ _
  constructor
  · intro given
    obtain ⟨one, distinct, fresh, values⟩ := given
    obtain ⟨new, distinct⟩ := List.nodup_cons.mp distinct
    have unsupplied := fresh flag List.mem_cons_self
    have accepted := values flag value List.mem_cons_self
    refine ⟨⟨unsupplied, accepted⟩, ?_, distinct, ?_, ?_⟩
    · rw [hasCommand]
      exact one
    · intro other member
      rw [supplied, Finset.mem_insert]
      rintro (rfl | earlier)
      · exact new member
      · exact fresh other (List.mem_cons_of_mem _ member) earlier
    · intro other value' member
      exact values other value' (List.mem_cons_of_mem _ member)
  · intro given
    obtain ⟨⟨unsupplied, accepted⟩, one, distinct, fresh, values⟩ := given
    rw [hasCommand] at one
    have new : flag ∉ flagsOf segments := by
      intro member
      exact fresh flag member (supplied ▸ Finset.mem_insert_self _ _)
    refine ⟨one, List.nodup_cons.mpr ⟨new, distinct⟩, ?_, ?_⟩
    · intro other member
      rcases List.mem_cons.mp member with rfl | later
      · exact unsupplied
      · intro earlier
        exact fresh other later (supplied ▸ Finset.mem_insert_of_mem earlier)
    · intro other value' member
      rcases List.mem_cons.mp member with here | later
      · cases here
        exact accepted
      · exact values other value' later

theorem allowsAll_cons (p : Parsing) (segment : Segment) (segments : List Segment) :
    p.AllowsAll (segment :: segments) ↔
      p.Allows segment ∧ (p.effect segment).AllowsAll segments := by
  cases segment with
  | command chosen => exact allowsAll_command p chosen segments
  | option flag value => exact allowsAll_option p flag value segments

/-- The whole fold succeeds exactly if each segment is allowed where it stands. -/
theorem applyAll_iff (p q : Parsing) (segments : List Segment) :
    segments.foldlM apply p = .ok q ↔ p.AllowsAll segments ∧ q = segments.foldl effect p := by
  induction segments generalizing p with
  | nil =>
    have free : p.AllowsAll [] := by
      refine ⟨?_, List.nodup_nil, nofun, nofun⟩
      cases p.hasCommand <;> decide
    constructor
    · intro done
      cases done
      exact ⟨free, rfl⟩
    · intro given
      rw [given.2]
      rfl
  | cons segment segments ih =>
    rw [List.foldlM_cons, allowsAll_cons, List.foldl_cons, and_assoc, ← ih (p.effect segment)]
    constructor
    · intro done
      obtain ⟨next, applied, later⟩ := bind_ok done
      obtain ⟨allowed, rfl⟩ := (apply_iff p next segment).mp applied
      exact ⟨allowed, later⟩
    · intro given
      rw [(apply_iff p _ segment).mpr ⟨given.1, rfl⟩]
      exact given.2

/-! ## The state at the end -/

theorem foldl_hasCommand (p : Parsing) (segments : List Segment) :
    (segments.foldl effect p).hasCommand = (p.hasCommand || !(commandsOf segments).isEmpty) := by
  induction segments generalizing p with
  | nil => simp [commandsOf]
  | cons segment segments ih =>
    rw [List.foldl_cons, ih]
    cases segment with
    | command chosen => simp [effect, commandsOf]
    | option flag value => rw [effect, set_hasCommand]; rfl

theorem foldl_supplied (p : Parsing) (segments : List Segment) (flag : Flag) :
    flag ∈ (segments.foldl effect p).supplied ↔ flag ∈ p.supplied ∨ flag ∈ flagsOf segments := by
  induction segments generalizing p with
  | nil => simp [flagsOf]
  | cons segment segments ih =>
    rw [List.foldl_cons, ih]
    cases segment with
    | command chosen => rfl
    | option other value =>
      rw [effect, set_supplied]
      simp only [flagsOf, List.filterMap_cons, Segment.flagOf, Finset.mem_insert, List.mem_cons]
      tauto

theorem elim_last {α β : Type} (first : α) (list : List α) (absent : β) (present : α → β) :
    (first :: list).getLast?.elim absent present =
      list.getLast?.elim (present first) present := by
  rw [List.getLast?_cons]
  cases list.getLast? <;> rfl

theorem getD_last {α : Type} (first absent : α) (list : List α) :
    (first :: list).getLast?.getD absent = list.getLast?.getD first := by
  rw [List.getLast?_cons, Option.getD_some]

/-- What the segments change in the options and paths of a state. -/
theorem foldl_result (p : Parsing) (segments : List Segment) :
    let given (flag : Flag) := (valuesOf flag segments).getLast?
    let q := segments.foldl effect p
    (q.options, q.diagnostics) =
      ({ command := (commandsOf segments).getLast?.getD p.options.command
         endpoint := (given .endpoint).elim p.options.endpoint (·.map widen)
         timeout := (given .timeoutMs).elim p.options.timeout decimal
         sessions := (given .sessions).elim p.options.sessions decimal },
        { p.diagnostics with
          logFile := (given .logFile).getD p.diagnostics.logFile
          traceFile := (given .traceFile).getD p.diagnostics.traceFile }) := by
  induction segments generalizing p with
  | nil => rfl
  | cons segment segments ih =>
    dsimp only at ih ⊢
    rw [List.foldl_cons, ih]
    cases segment with
    | command chosen => simp [effect, valuesOf, commandsOf, getD_last]
    | option flag value =>
      cases flag <;>
        simp [effect, set, valuesOf, commandsOf, elim_last, getD_last]

end Parsing

/-- Which options go with which command. -/
theorem misapplied_iff (name : Bytes) (p : Parsing) :
    p.misapplied name = false ↔
      (p.options.command.runtime = true → (p.options.command = .serve ↔ name = serverName)) ∧
        (.endpoint ∈ p.supplied ∨ .timeoutMs ∈ p.supplied → p.options.command.runtime = true) ∧
        (.sessions ∈ p.supplied → p.options.command = .serve) := by
  have serves : p.options.command = .serve → p.options.command.runtime = true := by
    intro serve
    rw [serve]
    rfl
  unfold Parsing.misapplied
  simp only [Bool.or_eq_false_iff, Bool.and_eq_false_iff, Bool.not_eq_false',
    decide_eq_false_iff_not, bne_eq_false_iff_eq, decide_eq_decide, not_not]
  by_cases runtime : p.options.command.runtime = true
  · simp only [runtime]
    tauto
  · rw [Bool.not_eq_true] at runtime
    rw [runtime] at serves
    simp only [runtime]
    tauto

/-! ## Whole command lines -/

section
variable {command : ApplicationCommand} {segments : List Segment}
  (diagnostics : DiagnosticOptions)

theorem result_eq (one : commandsOf segments = [command]) :
    ((segments.foldl Parsing.effect { diagnostics }).options,
      (segments.foldl Parsing.effect { diagnostics }).diagnostics) =
        meaning command segments diagnostics := by
  have result := Parsing.foldl_result { diagnostics } segments
  rw [one] at result
  exact result

/-- What the parser allows is what the grammar calls well-formed. -/
theorem accepted_iff (name : Bytes) (one : commandsOf segments = [command]) :
    Parsing.AllowsAll { diagnostics } segments ∧
        (segments.foldl Parsing.effect { diagnostics }).misapplied name = false ↔
      WellFormed name command segments := by
  have chosen : (segments.foldl Parsing.effect { diagnostics }).options.command = command :=
    congrArg (·.1.command) (result_eq diagnostics one)
  have supplied (flag : Flag) :
      flag ∈ (segments.foldl Parsing.effect { diagnostics }).supplied ↔
        flag ∈ flagsOf segments := by
    rw [Parsing.foldl_supplied]
    simp
  rw [misapplied_iff, chosen]
  simp only [supplied]
  constructor
  · intro given
    obtain ⟨⟨-, distinct, -, values⟩, executable, runtimeOnly, serveOnly⟩ := given
    exact ⟨one, distinct, values, executable, runtimeOnly, serveOnly⟩
  · intro given
    obtain ⟨-, distinct, values, executable, runtimeOnly, serveOnly⟩ := given
    refine ⟨⟨by rw [one]; exact Nat.le_refl 1, distinct, ?_, values⟩, executable, runtimeOnly,
      serveOnly⟩
    intro flag _
    exact Finset.notMem_empty flag

end

/-- On arguments that are segments the parser decides the grammar. -/
theorem parse_tokens (name : Bytes) (segments : List Segment) (diagnostics : DiagnosticOptions)
    (result : Invocation × DiagnosticOptions) :
    parse name (tokens segments) diagnostics = .ok result ↔
      ∃ command, WellFormed name command segments ∧
        result = meaning command segments diagnostics := by
  unfold parse
  rw [loop_tokens]
  constructor
  · intro done
    split at done
    · cases done
    · rename_i q ended
      obtain ⟨allowed, rfl⟩ := (Parsing.applyAll_iff _ _ _).mp ended
      split at done
      · cases done
      · rename_i taken
        split at done
        · cases done
        · rename_i applies
          rw [Parsing.foldl_hasCommand] at taken
          have single := allowed.one
          obtain ⟨command, one⟩ : ∃ command, commandsOf segments = [command] := by
            cases found : commandsOf segments with
            | nil => simp [found] at taken
            | cons command more =>
              cases more with
              | nil => exact ⟨command, rfl⟩
              | cons => simp [found] at single
          cases done
          have wellFormed := (accepted_iff diagnostics name one).mp
            ⟨allowed, by simpa using applies⟩
          exact ⟨command, wellFormed, result_eq diagnostics one⟩
  · intro given
    obtain ⟨command, wellFormed, rfl⟩ := given
    obtain ⟨allowed, applies⟩ := (accepted_iff diagnostics name wellFormed.one).mpr
      wellFormed
    rw [(Parsing.applyAll_iff _ _ _).mpr ⟨allowed, rfl⟩]
    dsimp only
    rw [Parsing.foldl_hasCommand, wellFormed.one, if_neg (by simp), if_neg (by simp [applies])]
    exact congrArg Except.ok (result_eq diagnostics wellFormed.one)

/-- The parser accepts the language of the grammar, and nothing else. -/
theorem parse_ok_iff (name : Bytes) (arguments : List Bytes) (diagnostics : DiagnosticOptions)
    (result : Invocation × DiagnosticOptions) :
    parse name arguments diagnostics = .ok result ↔
      ∃ segments command, arguments = tokens segments ∧ WellFormed name command segments ∧
        result = meaning command segments diagnostics := by
  constructor
  · intro done
    obtain ⟨segments, rfl⟩ : ∃ segments, arguments = tokens segments := by
      cases ended : loop { diagnostics } arguments with
      | error rejection => simp [parse, ended] at done
      | ok q => exact loop_cut ended
    obtain ⟨command, wellFormed, same⟩ := (parse_tokens _ _ _ _).mp done
    exact ⟨segments, command, rfl, wellFormed, same⟩
  · intro given
    obtain ⟨segments, command, rfl, wellFormed, same⟩ := given
    exact (parse_tokens _ _ _ _).mpr ⟨command, wellFormed, same⟩

/-- The accepted argument lists are those of the grammar, each with one cut, and the order
of the segments does not matter. -/
theorem command_line_exact (name : Bytes) (arguments : List Bytes)
    (diagnostics : DiagnosticOptions) :
    ((∃ result, parse name arguments diagnostics = .ok result) ↔
        ∃ segments command, arguments = tokens segments ∧ WellFormed name command segments) ∧
      (∀ segments other, arguments = tokens segments → arguments = tokens other →
        segments = other) ∧
      ∀ segments command, arguments = tokens segments → WellFormed name command segments →
        parse name arguments diagnostics = .ok (meaning command segments diagnostics) ∧
          ∀ reordered, reordered.Perm segments →
            parse name (tokens reordered) diagnostics = parse name arguments diagnostics := by
  refine ⟨?_, ?_, ?_⟩
  · constructor
    · intro given
      obtain ⟨result, done⟩ := given
      obtain ⟨segments, command, cut, wellFormed, -⟩ := (parse_ok_iff _ _ _ _).mp done
      exact ⟨segments, command, cut, wellFormed⟩
    · intro given
      obtain ⟨segments, command, cut, wellFormed⟩ := given
      exact ⟨_, (parse_ok_iff _ _ _ _).mpr ⟨segments, command, cut, wellFormed, rfl⟩⟩
  · intro segments other cut cut'
    exact tokens_injective (cut.symm.trans cut')
  · intro segments command cut wellFormed
    have done : parse name arguments diagnostics = .ok (meaning command segments diagnostics) :=
      (parse_ok_iff _ _ _ _).mpr ⟨segments, command, cut, wellFormed, rfl⟩
    refine ⟨done, ?_⟩
    intro reordered same
    rw [done, ← meaning_perm same wellFormed.distinct command diagnostics]
    exact (parse_tokens _ _ _ _).mpr ⟨command, wellFormed.perm same, rfl⟩

example :
    parse serverName ([ "--sessions", "0004", "--serve", "--timeout-ms", "60000"].map ascii) {} =
      .ok (⟨.serve, defaultEndpoint, 60000, 4⟩, {}) := by
  decide

end PipeForge.Cli
