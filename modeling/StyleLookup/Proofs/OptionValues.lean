import StyleLookup.Command.Arguments
import StyleLookup.Proofs.Acceptance

/-!
# What a command line gives to its options

Arguments are read from the left, with an option pending that takes what follows. `valuesOf` says
without that reading what an option is given: the arguments behind its spelling up to the next dash,
or only the first of them if it takes one value, and what is written behind an equals sign.

The two are compared by what an option **gets** in all: what is settled of it, what it took while
pending, and what the arguments still hold for it. One step of the reading moves values between the
three and leaves the whole as it is (`Progress.Gets.next`), so at the end all is settled that the
command line gave (`Given.shows_of_ofArguments`).
-/

namespace StyleLookup.Command

/-! ## Values on the command line -/

/-- Whether an argument starts with a dash and goes on. -/
def isDashed (argument : String) : Bool :=
  match argument.toList with
  | '-' :: _ :: _ => true
  | _ => false

namespace OptionName

/-- An option with its dashes, as it is written in front of its values. -/
def written (name : OptionName) : List Char := '-' :: '-' :: name.spelling.toList

end OptionName

/-- What an option takes of the arguments behind it. -/
def valuesBehind (name : OptionName) (arguments : List String) : List String :=
  let values := arguments.takeWhile fun argument => !isDashed argument
  if name.takesMany then values else values.take 1

/-- All values that arguments give to an option, in order. -/
def valuesOf (name : OptionName) : List String → List String
  | [] => []
  | argument :: arguments =>
      if argument.toList = ['-', '-'] then []
      else if argument.toList = name.written then
        valuesBehind name arguments ++ valuesOf name arguments
      else if (name.written ++ ['=']).isPrefixOf argument.toList then
        String.ofList (argument.toList.drop (name.written.length + 1)) :: valuesOf name arguments
      else valuesOf name arguments

example : valuesOf .map ["./a.css", "--map", "a=.x", "b=.y", "--from", "c", "--map=d=", "e"]
    = ["a=.x", "b=.y", "d="] := by decide

/-! ## What is given shows what was read -/

/-- What was read of values, one by one. -/
def Reads {α : Type} (read : String → Except UsageFault α) (values : List String)
    (given : List α) : Prop := values.map read = given.map .ok

theorem Reads.single {α : Type} {read : String → Except UsageFault α} {value : String} {a : α}
    (h : read value = .ok a) : Reads read [value] [a] := congrArg (fun result => [result]) h

theorem reads_cons_iff {α : Type} {read : String → Except UsageFault α} {value : String}
    {values : List String} {a : α} {given : List α} :
    Reads read (value :: values) (a :: given) ↔ read value = .ok a ∧ Reads read values given :=
  List.cons_eq_cons

theorem Reads.append {α : Type} {read : String → Except UsageFault α} {values more : List String}
    {given given' : List α} (h : Reads read values given) (h' : Reads read more given') :
    Reads read (values ++ more) (given ++ given') := by
  rw [Reads, List.map_append, List.map_append, h, h']

theorem reads_ok_iff {values given : List String} : Reads .ok values given ↔ given = values := by
  rw [Reads, List.map_inj_right fun _ _ h => Except.ok.inj h]
  exact eq_comm

theorem Reads.unique {α : Type} {read : String → Except UsageFault α} {values : List String}
    {given given' : List α} (h : Reads read values given) (h' : Reads read values given') :
    given = given' :=
  (List.map_inj_right fun _ _ h => Except.ok.inj h).mp (h.symm.trans h')

theorem Reads.once {α : Type} {read : String → Except UsageFault α} {before after : Option α}
    {values more : List String} (h : Reads read values before.toList)
    (hmore : once before read more = .ok after) : Reads read (values ++ more) after.toList := by
  unfold Command.once at hmore
  split at hmore
  · rename_i value
    cases hread : read value with
    | error fault => rw [hread] at hmore; cases hmore
    | ok a =>
        rw [hread] at hmore
        cases hmore
        exact h.append (.single hread)
  · cases hmore

theorem reads_of_mapEntries {texts : List String} {entries : List (String × String)}
    (h : mapEntries texts = .ok entries) : Reads mapEntry texts entries := by
  induction texts generalizing entries with
  | nil =>
      cases h
      rfl
  | cons text texts ih =>
      rw [mapEntries] at h
      cases hentry : mapEntry text with
      | error fault => rw [hentry] at h; cases h
      | ok entry =>
          rw [hentry] at h
          obtain ⟨rest, hrest, rfl⟩ := Css.map_eq_ok_iff.mp h
          exact (Reads.single hentry).append (ih hrest)

/-- What is given of an option is what was read of these values. -/
def Given.Shows (g : Given) : OptionName → List String → Prop
  | .from, values => Reads callerOf values g.caller.toList
  | .selector, values => Reads .ok values g.selector.toList
  | .list, values => Reads .ok values (g.list.getD []) ∧ g.list ≠ some []
  | .regex, values => Reads .ok values g.regex.toList
  | .flags, values => Reads .ok values g.flags.toList
  | .map, values => Reads mapEntry values (g.map.getD []) ∧ g.map ≠ some []
  | .format, values => Reads formatOf values g.format.toList
  | .accessor, values => Reads .ok values g.accessor.toList
  | .emit, values => Reads emitOf values g.emit.toList

namespace Given

variable {g g' : Given} {name other : OptionName} {values more : List String}

theorem shows_nothing (name : OptionName) : nothing.Shows name [] := by
  cases name <;> simp [Shows, Reads, nothing]

theorem Shows.stylesheet (h : g.Shows name values) (text : Option String) :
    Shows { g with stylesheet := text } name values := by
  cases name <;> exact h

/-- An option that was added shows what it took besides. -/
theorem Shows.add_self (h : g.Shows name values) (hadd : g.add name more = .ok g') :
    g'.Shows name (values ++ more) := by
  cases name with
  | list =>
      rw [add] at hadd
      split at hadd
      · cases hadd
      · rename_i hmore
        cases hadd
        rw [List.isEmpty_iff] at hmore
        refine ⟨h.1.append (reads_ok_iff.mpr rfl), ?_⟩
        simp [hmore]
  | map =>
      rw [add] at hadd
      split at hadd
      · cases hadd
      · rename_i hmore
        obtain ⟨entries, hentries, rfl⟩ := Css.map_eq_ok_iff.mp hadd
        have hreads := reads_of_mapEntries hentries
        refine ⟨h.1.append hreads, ?_⟩
        -- as many entries were read as there are values
        have hlength := congrArg List.length hreads
        rw [List.length_map, List.length_map] at hlength
        intro hempty
        rw [Option.some.injEq, List.append_eq_nil_iff] at hempty
        rw [hempty.2, List.length_nil, List.length_eq_zero_iff] at hlength
        exact hmore (List.isEmpty_iff.mpr hlength)
  | _ =>
      obtain ⟨v, hv, rfl⟩ := Css.map_eq_ok_iff.mp hadd
      exact Reads.once h hv

/-- No other option shows anything of it. -/
theorem Shows.add_other (h : g.Shows other values) (hadd : g.add name more = .ok g')
    (hne : other ≠ name) : g'.Shows other values := by
  cases name with
  | list =>
      rw [add] at hadd
      split at hadd
      · cases hadd
      · cases hadd
        cases other <;> first | exact h | exact absurd rfl hne
  | map =>
      rw [add] at hadd
      split at hadd
      · cases hadd
      · obtain ⟨entries, _, rfl⟩ := Css.map_eq_ok_iff.mp hadd
        cases other <;> first | exact h | exact absurd rfl hne
  | _ =>
      obtain ⟨v, _, rfl⟩ := Css.map_eq_ok_iff.mp hadd
      cases other <;> first | exact h | exact absurd rfl hne

theorem Shows.add (h : g.Shows other values) (hadd : g.add name more = .ok g') :
    g'.Shows other (values ++ if name = other then more else []) := by
  by_cases hname : name = other
  · subst hname
    rw [if_pos rfl]
    exact h.add_self hadd
  · rw [if_neg hname, List.append_nil]
    exact h.add_other hadd (Ne.symm hname)

end Given

/-! ## Equals signs -/

/-- What stands in front of the first equals sign. -/
theorem takeWhile_equals {key : List Char} (h : '=' ∉ key) (value : List Char) :
    (key ++ '=' :: value).takeWhile (· != '=') = key := by
  rw [List.takeWhile_append_of_pos, List.takeWhile_cons_of_neg (by simp), List.append_nil]
  intro c hc
  rw [bne_iff_ne]
  rintro rfl
  exact h hc

theorem drop_length_takeWhile (test : Char → Bool) (cs : List Char) :
    cs.drop (cs.takeWhile test).length = cs.dropWhile test :=
  List.append_cancel_left ((List.prefix_iff_eq_append.mp (List.takeWhile_prefix test)).trans
    List.takeWhile_append_dropWhile.symm)

/-- A text with an equals sign is cut at the first one. -/
theorem eq_append_of_dropWhile {cs rest : List Char} {c : Char}
    (h : cs.dropWhile (· != '=') = c :: rest) :
    '=' ∉ cs.takeWhile (· != '=') ∧ cs = cs.takeWhile (· != '=') ++ '=' :: rest := by
  refine ⟨fun hmem => by simpa using List.mem_takeWhile_imp hmem, ?_⟩
  have hc : c = '=' := by
    have := List.head?_dropWhile_not (· != '=') cs
    rw [h] at this
    simpa using this
  subst hc
  rw [← h]
  exact List.takeWhile_append_dropWhile.symm

/-! ## Spellings -/

variable {name other : OptionName} {argument : String} {arguments : List String}

theorem written_injective (h : name.written = other.written) : name = other := by
  cases name <;> cases other <;> first | rfl | exact absurd h (by decide)

theorem not_mem_written (name : OptionName) : '=' ∉ name.written := by
  cases name <;> decide

theorem written_ne_dashes (name : OptionName) : name.written ≠ ['-', '-'] := by
  cases name <;> decide

theorem isDashed_of_toList {c : Char} {cs : List Char} (h : argument.toList = '-' :: c :: cs) :
    isDashed argument = true := by
  rw [isDashed, h]
  rfl

/-- An argument that is no option gives nothing. -/
theorem valuesOf_plain (h : isDashed argument = false) :
    valuesOf name (argument :: arguments) = valuesOf name arguments := by
  have hne : ∀ {c cs}, argument.toList ≠ '-' :: c :: cs := by
    intro c cs htext
    rw [isDashed_of_toList htext] at h
    cases h
  have hwritten : argument.toList ≠ name.written := hne
  rw [valuesOf, if_neg hne, if_neg hwritten, if_neg]
  intro hprefix
  obtain ⟨value, hvalue⟩ := List.isPrefixOf_iff_prefix.mp hprefix
  exact hne hvalue.symm

theorem valuesOf_dashes (h : argument.toList = ['-', '-']) :
    valuesOf name (argument :: arguments) = [] := by
  rw [valuesOf, if_pos h]

theorem valuesOf_written (h : argument.toList = other.written) :
    valuesOf name (argument :: arguments)
      = (if other = name then valuesBehind other arguments else []) ++ valuesOf name arguments := by
  rw [valuesOf, h, if_neg (written_ne_dashes other)]
  by_cases hname : other = name
  · subst hname
    rw [if_pos rfl, if_pos rfl]
  · rw [if_neg fun heq => hname (written_injective heq), if_neg hname, if_neg, List.nil_append]
    intro hprefix
    have hmem := (List.isPrefixOf_iff_prefix.mp hprefix).subset
      (List.mem_append_right _ (List.mem_singleton_self '='))
    exact not_mem_written other hmem

theorem valuesOf_assigned {value : List Char}
    (h : argument.toList = other.written ++ '=' :: value) :
    valuesOf name (argument :: arguments)
      = (if other = name then [String.ofList value] else []) ++ valuesOf name arguments := by
  have hne : ∀ {cs : List Char}, '=' ∉ cs → argument.toList ≠ cs := by
    rintro cs hcs rfl
    refine hcs ?_
    rw [h]
    exact List.mem_append_right _ List.mem_cons_self
  rw [valuesOf, if_neg (hne (by decide)), if_neg (hne (not_mem_written name)), h]
  by_cases hname : other = name
  · subst hname
    rw [if_pos, if_pos rfl, List.drop_append, List.drop_eq_nil_of_le (by omega)]
    · simp
    · rw [List.isPrefixOf_iff_prefix]
      exact ⟨value, by simp⟩
  · rw [if_neg, if_neg hname, List.nil_append]
    intro hprefix
    -- both are what stands in front of the first equals sign
    obtain ⟨rest, hrest⟩ := List.isPrefixOf_iff_prefix.mp hprefix
    rw [List.append_assoc, List.singleton_append] at hrest
    have hwritten := congrArg (List.takeWhile (· != '=')) hrest
    rw [takeWhile_equals (not_mem_written name), takeWhile_equals (not_mem_written other)]
      at hwritten
    exact hname (written_injective hwritten).symm

theorem valuesBehind_dashed (h : isDashed argument = true) :
    valuesBehind name (argument :: arguments) = [] := by
  rw [valuesBehind, List.takeWhile_cons_of_neg (by simp [h])]
  split <;> rfl

theorem valuesBehind_plain (h : isDashed argument = false) :
    valuesBehind name (argument :: arguments)
      = argument :: if name.takesMany then valuesBehind name arguments else [] := by
  rw [valuesBehind, List.takeWhile_cons_of_pos (by simp [h])]
  split
  · rename_i hmany
    rw [valuesBehind, if_pos hmany]
  · rfl

/-! ## Steps of the reading -/

namespace Progress

variable {p p' q : Progress} {known : List OptionName} {values : List String}

/-- What the pending option took, as far as it is this one. -/
def taken (p : Progress) (name : OptionName) : List String :=
  match p.pending with
  | some (pending, values) => if pending = name then values else []
  | none => []

/-- What the pending option, as far as it is this one, will take of the next arguments. -/
def awaited (p : Progress) (name : OptionName) (arguments : List String) : List String :=
  match p.pending with
  | some (pending, _) =>
      if pending = name ∧ p.wantsValue = true then valuesBehind pending arguments else []
  | none => []

/--
What an option gets in all: what is settled of it, what it took while it is pending, and what the
arguments that are left hold for it.
-/
def Gets (p : Progress) (name : OptionName) (arguments values : List String) : Prop :=
  ∃ settled, p.given.Shows name settled
    ∧ values = settled ++ p.taken name ++ p.awaited name arguments
      ++ if p.onlyPositional then [] else valuesOf name arguments

theorem gets_start (name : OptionName) (arguments : List String) :
    start.Gets name arguments (valuesOf name arguments) :=
  ⟨[], Given.shows_nothing name, rfl⟩

theorem awaited_of_wantsValue (h : p.wantsValue = false) (name : OptionName)
    (arguments : List String) : p.awaited name arguments = [] := by
  unfold awaited
  split
  · rw [if_neg]
    rintro ⟨_, hwants⟩
    rw [h] at hwants
    cases hwants
  · rfl

theorem awaited_dashed (h : isDashed argument = true) (name : OptionName)
    (arguments : List String) : p.awaited name (argument :: arguments) = [] := by
  unfold awaited
  split
  · rw [valuesBehind_dashed h, ite_self]
  · rfl

theorem wantsValue_of_onlyPositional (h : p.onlyPositional = true) : p.wantsValue = false := by
  unfold wantsValue
  split
  · rfl
  · rw [h]
    rfl

/-- What was pending is shown once it is settled. -/
theorem shows_settle {g : Given} {settled : List String} (h : p.given.Shows name settled)
    (hg : p.settle = .ok g) : g.Shows name (settled ++ p.taken name) := by
  unfold settle at hg
  unfold taken
  split at hg
  · rename_i hpending
    cases hg
    rw [hpending, List.append_nil]
    exact h
  · rename_i hpending
    rw [hpending]
    exact h.add hg

/-- Every way in which an argument can be taken. -/
theorem next_cases (h : p.next known argument = .ok p') :
    (p.positional argument = .ok p' ∧ p.wantsValue = false
        ∧ (p.onlyPositional = true ∨ isDashed argument = false))
      ∨ (p.onlyPositional = false ∧ argument.toList = ['-', '-']
        ∧ p' = { p with onlyPositional := true })
      ∨ (p.onlyPositional = false ∧ ∃ written, argument.toList = '-' :: '-' :: written
        ∧ p.option known written = .ok p')
      ∨ (p.onlyPositional = false ∧ isDashed argument = false ∧ p.wantsValue = true
        ∧ p' = p.push argument) := by
  unfold next at h
  split at h
  · rename_i honly
    exact .inl ⟨h, wantsValue_of_onlyPositional honly, .inl honly⟩
  · rename_i honly
    rw [Bool.not_eq_true] at honly
    split at h
    · rename_i hdashes
      cases h
      exact .inr (.inl ⟨honly, hdashes, rfl⟩)
    · rename_i written _ htext
      exact .inr (.inr (.inl ⟨honly, written, htext, h⟩))
    · cases h
    · rename_i hdashed
      have hplain : isDashed argument = false := by
        unfold isDashed
        split
        · rename_i htext
          exact absurd htext (hdashed _ _)
        · rfl
      split at h
      · rename_i hwants
        cases h
        exact .inr (.inr (.inr ⟨honly, hplain, hwants, rfl⟩))
      · rename_i hwants
        rw [Bool.not_eq_true] at hwants
        exact .inl ⟨h, hwants, .inr hplain⟩

/-- Every way in which an option can be taken: with its values behind it, or with one value. -/
theorem option_cases {written : List Char} (h : p.option known written = .ok p') :
    ∃ option g, p.settle = .ok g
      ∧ ((written = option.spelling.toList
          ∧ p' = { p with given := g, pending := some (option, []) })
        ∨ ∃ value g', written = option.spelling.toList ++ '=' :: value
          ∧ g.add option [String.ofList value] = .ok g'
          ∧ p' = { p with given := g', pending := none }) := by
  unfold option at h
  dsimp only at h
  rw [drop_length_takeWhile] at h
  split at h
  · cases h
  · rename_i option hfind hrest
    obtain ⟨g, hg, rfl⟩ := Css.map_eq_ok_iff.mp h
    have hspelling := List.find?_some hfind
    rw [beq_iff_eq] at hspelling
    refine ⟨option, g, hg, .inl ⟨?_, rfl⟩⟩
    have hcut := List.takeWhile_append_dropWhile (p := fun c => c != '=') (l := written)
    rw [← hcut, hrest, List.append_nil, hspelling]
  · rename_i option c value hfind hrest
    have hspelling := List.find?_some hfind
    rw [beq_iff_eq] at hspelling
    split at h
    · cases h
    · rename_i g hg
      obtain ⟨g', hg', rfl⟩ := Css.map_eq_ok_iff.mp h
      refine ⟨option, g, hg, .inr ⟨value, g', ?_, hg', rfl⟩⟩
      rw [hspelling]
      exact (eq_append_of_dropWhile hrest).2

namespace Gets

theorem positional (h : p.Gets name (argument :: arguments) values)
    (hp : p.positional argument = .ok p') (hwants : p.wantsValue = false)
    (hplain : p.onlyPositional = true ∨ isDashed argument = false) :
    p'.Gets name arguments values := by
  obtain ⟨settled, hsettled, rfl⟩ := h
  unfold Progress.positional at hp
  split at hp
  · cases hp
  · obtain ⟨g, hg, rfl⟩ := Css.map_eq_ok_iff.mp hp
    refine ⟨_, (shows_settle hsettled hg).stylesheet _, ?_⟩
    rw [awaited_of_wantsValue hwants, awaited_of_wantsValue rfl]
    rcases hplain with honly | hplain
    · simp [honly, taken]
    · simp [valuesOf_plain hplain, taken]

theorem dashes (h : p.Gets name (argument :: arguments) values)
    (hdashes : argument.toList = ['-', '-']) :
    Gets { p with onlyPositional := true } name arguments values := by
  obtain ⟨settled, hsettled, rfl⟩ := h
  refine ⟨settled, hsettled, ?_⟩
  rw [awaited_dashed (isDashed_of_toList hdashes), valuesOf_dashes hdashes,
    awaited_of_wantsValue (wantsValue_of_onlyPositional rfl)]
  simp [taken]

theorem option (h : p.Gets name (argument :: arguments) values) (honly : p.onlyPositional = false)
    {written : List Char} (htext : argument.toList = '-' :: '-' :: written)
    (hp : p.option known written = .ok p') : p'.Gets name arguments values := by
  obtain ⟨settled, hsettled, rfl⟩ := h
  obtain ⟨option, g, hg, hcase⟩ := option_cases hp
  have hshows := shows_settle hsettled hg
  rw [awaited_dashed (isDashed_of_toList htext)]
  rcases hcase with ⟨rfl, rfl⟩ | ⟨value, g', rfl, hadd, rfl⟩
  · refine ⟨_, hshows, ?_⟩
    rw [valuesOf_written htext]
    simp [honly, taken, awaited, wantsValue]
  · refine ⟨_, hshows.add hadd, ?_⟩
    rw [valuesOf_assigned htext, awaited_of_wantsValue rfl]
    simp [honly, taken]

theorem push (h : p.Gets name (argument :: arguments) values) (honly : p.onlyPositional = false)
    (hplain : isDashed argument = false) (hwants : p.wantsValue = true) :
    (p.push argument).Gets name arguments values := by
  obtain ⟨settled, hsettled, rfl⟩ := h
  refine ⟨settled, hsettled, ?_⟩
  obtain ⟨given, pending, only⟩ := p
  cases pending with
  | none => cases hwants
  | some pending =>
      obtain ⟨option, had⟩ := pending
      obtain rfl : only = false := honly
      rw [valuesOf_plain hplain]
      by_cases hname : option = name
      · subst hname
        cases hmany : option.takesMany with
        | true =>
            simp [taken, awaited, wantsValue, Progress.push, valuesBehind_plain hplain, hmany]
        | false =>
            -- it took nothing so far, and takes nothing after this
            obtain rfl : had = [] := by simpa [wantsValue, hmany] using hwants
            simp [taken, awaited, wantsValue, Progress.push, valuesBehind_plain hplain, hmany]
      · simp [taken, awaited, Progress.push, hname]

/-- **One step moves values, and neither loses nor adds any.** -/
theorem next (h : p.Gets name (argument :: arguments) values)
    (hp : p.next known argument = .ok p') : p'.Gets name arguments values := by
  rcases next_cases hp with ⟨hpos, hwants, hplain⟩ | ⟨_, hdashes, rfl⟩
    | ⟨honly, written, htext, hopt⟩ | ⟨honly, hplain, hwants, rfl⟩
  · exact h.positional hpos hwants hplain
  · exact h.dashes hdashes
  · exact h.option honly htext hopt
  · exact h.push honly hplain hwants

/-- At the end of a run, no values are left on the command line. -/
theorem nextAll (h : p.Gets name arguments values) (hp : p.nextAll known arguments = .ok q) :
    q.Gets name [] values := by
  induction arguments generalizing p with
  | nil =>
      cases hp
      exact h
  | cons argument arguments ih =>
      rw [Progress.nextAll] at hp
      split at hp
      · cases hp
      · rename_i p' hnext
        exact ih (h.next hnext) hp

theorem shows_of_settle {g : Given} (h : q.Gets name [] values) (hg : q.settle = .ok g) :
    g.Shows name values := by
  obtain ⟨settled, hsettled, rfl⟩ := h
  have hawaited : q.awaited name [] = [] := by
    unfold awaited valuesBehind
    split <;> simp
  have hnone : (if q.onlyPositional = true then [] else valuesOf name []) = [] := by
    rw [valuesOf, ite_self]
  rw [hawaited, hnone, List.append_nil, List.append_nil]
  exact shows_settle hsettled hg

end Gets

end Progress

/-- **What arguments give of an option is what was read of the values that stand there for it.** -/
theorem Given.shows_of_ofArguments {g : Given} {known : List OptionName}
    (h : Given.ofArguments known arguments = .ok g) (name : OptionName) :
    g.Shows name (valuesOf name arguments) := by
  unfold Given.ofArguments at h
  split at h
  · cases h
  · rename_i q hq
    exact ((Progress.gets_start name arguments).nextAll hq).shows_of_settle h

end StyleLookup.Command
