import StyleLookup.Command.Program
import StyleLookup.Proofs.Calls
import StyleLookup.Proofs.OptionValues
import StyleLookup.Proofs.RegExpGetters

/-!
# Runs of the program and calls

The program is given a matcher on its command line, and a script passes one. `Asks` says what
matcher a command line means, by the values that stand on it and not by how they are read.
`run_resolve_like_call` says that the program then ends as the call does: with the text on a line of
its own, or with what the call throws, in which a stylesheet is called by its path.

The two run on platforms of their own, so one thing is asked of a pattern. The limit on the size of
what it stands for must not tell the platforms apart (`FitsAlike`): `\w{220}` is too large where
addresses have 64 bits, and not where they have 32.

A call sees of a RegExp what its getters give, and these are to be the text and the flags of the
command line. A RegExp that a script made of the two is such if it leaves them alone (`LeftAlone`);
an escaped slash or flags in another order would show in what is thrown.
-/

namespace StyleLookup

namespace CallSite.CallFault

/-- A fault that calls the stylesheet by this name. -/
def naming (name : String) : CallFault → CallFault
  | .stylesheet e => .stylesheet { e with file := name }
  | fault => fault

end CallSite.CallFault

/-- What a call throws calls the stylesheet inline. -/
theorem CallSite.Call.naming_of_resolution [Platform] {c : Call} {fault : CallFault}
    (h : c.resolution = .error fault) : fault.naming sourceName = fault := by
  unfold resolution at h
  split at h
  · cases h
    rfl
  · split at h
    · rename_i e hsheet
      cases h
      show CallFault.stylesheet { e with file := sourceName } = _
      rw [← Css.file_of_parse hsheet]
    · obtain ⟨problem, _, rfl⟩ := Css.mapError_eq_error_iff.mp h
      rfl

/-! ## One matcher on two platforms -/

namespace Matcher

open Pattern CallSite

/-- A matcher as a script passes it. A pattern is passed by a RegExp made of its text and flags. -/
def passed : Matcher → Argument
  | .selector text => .string text
  | .list items => .array (items.map .string)
  | .pattern text flags => .regExp (RegExp.source text) (RegExp.flags flags)
  | .map entries => .object (entries.map fun (key, text) => (key, .string text))

/-- A RegExp gives back the text and the flags that it was made of. -/
def LeftAlone : Matcher → Prop
  | .pattern text flags => RegExp.source text = text ∧ RegExp.flags flags = flags
  | _ => True

/-- Then a call is handed the text and the flags themselves, and not otherwise. -/
theorem leftAlone_iff (m : Matcher) : m.LeftAlone ↔ m.passed = m.argument := by
  cases m with
  | pattern text flags =>
      rw [LeftAlone, passed, argument, Argument.regExp.injEq]
  | _ => exact iff_of_true trivial rfl

/-- What a pattern stands for is too large on both of two platforms or on none. -/
def FitsAlike (shell page : Platform) : Matcher → Prop
  | .pattern text flags => ∀ f e, Flags.read flags.toList = .ok f →
      expressionOf f.modes (f.source text.toList) = .ok e →
      @Expression.isTooLarge shell e = @Expression.isTooLarge page e
  | _ => True

/-- A pattern that is accepted on both platforms fits both. -/
theorem FitsAlike.of_compile {shell page : Platform} {text flags : String}
    (hshell : (@Matcher.compile shell text flags).toBool = true)
    (hpage : (@Matcher.compile page text flags).toBool = true) :
    FitsAlike shell page (.pattern text flags) := by
  intro f e hf he
  have hfits {p : Platform} (h : (@Matcher.compile p text flags).toBool = true) :
      @Expression.isTooLarge p e = false := by
    simp only [Matcher.compile, hf, Flags.compile, Pattern.compile, he] at h
    cases hlarge : @Expression.isTooLarge p e with
    | false => rfl
    | true =>
        rw [hlarge] at h
        cases h
  rw [hfits hshell, hfits hpage]

theorem FitsAlike.resolve_eq {shell page : Platform} {m : Matcher} (h : m.FitsAlike shell page)
    (sheet : Css.Stylesheet) (format : Format) :
    @Css.Stylesheet.resolve shell sheet format m = @Css.Stylesheet.resolve page sheet format m := by
  cases m with
  | pattern text flags =>
      simp only [Css.Stylesheet.resolve, Matcher.compile, Flags.compile, Pattern.compile]
      cases hread : Flags.read flags.toList with
      | error fault => rfl
      | ok f =>
          cases hmeant : expressionOf f.modes (f.source text.toList) with
          | error fault => simp only [hmeant]
          | ok e => simp only [hmeant, h f e hread hmeant]
  | _ => rfl

end Matcher

namespace Command

open CallSite Files

/-! ## What a command line asks for -/

/-- The key of an entry ends at the first equals sign, and the rest is its selector. -/
theorem mapEntry_eq_ok_iff {text : String} {entry : String × String} :
    mapEntry text = .ok entry
      ↔ (entry.1 ≠ "" ∧ '=' ∉ entry.1.toList) ∧ text = entry.1 ++ "=" ++ entry.2 := by
  obtain ⟨key, selector⟩ := entry
  unfold mapEntry
  dsimp only
  rw [drop_length_takeWhile]
  constructor
  · intro h
    split at h
    · rename_i c cs d selector' hkey hrest
      cases h
      have hcut := eq_append_of_dropWhile hrest
      rw [hkey] at hcut ⊢
      refine ⟨⟨?_, ?_⟩, ?_⟩
      · rw [← String.toList_inj.ne, String.toList_ofList]
        exact List.cons_ne_nil c cs
      · rw [String.toList_ofList]
        exact hcut.1
      · rw [← String.toList_inj, hcut.2]
        simp
    · cases h
  · rintro ⟨⟨hne, hkey⟩, rfl⟩
    have htext : (key ++ "=" ++ selector).toList = key.toList ++ '=' :: selector.toList := by simp
    -- cut at the first equals sign, it falls into its key and its selector again
    have hcut := takeWhile_equals hkey selector.toList
    have hrest : (key.toList ++ '=' :: selector.toList).dropWhile (· != '=')
        = '=' :: selector.toList := by
      rw [← drop_length_takeWhile, hcut, List.drop_left]
    rw [htext, hcut, hrest]
    split
    · rename_i c cs d rest hcs hds
      injection hds with _ hrest
      rw [← hrest, String.ofList_toList, String.ofList_toList]
    · rename_i hnot
      obtain ⟨c, cs, hcs⟩ := List.exists_cons_of_ne_nil (String.toList_inj.ne.mpr hne)
      exact absurd rfl (hnot c cs '=' selector.toList hcs)

theorem reads_mapEntry_iff {texts : List String} {entries : List (String × String)} :
    Reads mapEntry texts entries ↔ (∀ e ∈ entries, e.1 ≠ "" ∧ '=' ∉ e.1.toList)
      ∧ texts = entries.map fun e => e.1 ++ "=" ++ e.2 := by
  induction texts generalizing entries with
  | nil => cases entries <;> simp [Reads]
  | cons text texts ih =>
      cases entries with
      | nil => simp [Reads]
      | cons entry entries =>
          rw [reads_cons_iff, mapEntry_eq_ok_iff, ih, List.forall_mem_cons, List.map_cons,
            List.cons_eq_cons]
          exact and_and_and_comm

/--
The matchers that a command line asks for: a selector, a list of selectors, a pattern which may have
flags, or a map. Each entry of a map is written as its key, an equals sign and its selector; the key
is not empty and has no equals sign in it.
-/
inductive Asks (arguments : List String) : Matcher → Prop where
  | selector {text : String} (hvalues : valuesOf .selector arguments = [text]) :
      Asks arguments (.selector text)
  | list {items : List String} (hvalues : valuesOf .list arguments = items) (hne : items ≠ []) :
      Asks arguments (.list items)
  | pattern {text : String} {flags : Option String} (hvalues : valuesOf .regex arguments = [text])
      (hflags : valuesOf .flags arguments = flags.toList) :
      Asks arguments (.pattern text (flags.getD ""))
  | map {entries : List (String × String)}
      (hvalues : valuesOf .map arguments = entries.map fun e => e.1 ++ "=" ++ e.2)
      (hkeys : ∀ e ∈ entries, e.1 ≠ "" ∧ '=' ∉ e.1.toList) (hne : entries ≠ []) :
      Asks arguments (.map entries)

variable {arguments : List String} {g : Given}

theorem eq_some_of_getD {α : Type} {given : Option (List α)} {items : List α}
    (h : given.getD [] = items) (hne : items ≠ []) : given = some items := by
  cases given with
  | none => exact absurd h.symm hne
  | some items' => exact congrArg some h

/-- The matchers that are given are those that the command line asks for. -/
theorem mem_matchers_iff (hshows : ∀ name, g.Shows name (valuesOf name arguments)) {m : Matcher} :
    m ∈ g.matchers ↔ Asks arguments m := by
  have hselector := reads_ok_iff.mp (hshows .selector)
  have hlist := reads_ok_iff.mp (hshows .list).1
  have hregex := reads_ok_iff.mp (hshows .regex)
  have hflags := reads_ok_iff.mp (hshows .flags)
  have hmap := reads_mapEntry_iff.mp (hshows .map).1
  constructor
  · intro h
    simp only [Given.matchers, List.mem_append, Option.mem_toList, Option.map_eq_some_iff] at h
    rcases h with ((⟨text, h, rfl⟩ | ⟨items, h, rfl⟩) | ⟨text, h, rfl⟩) | ⟨entries, h, rfl⟩
    · rw [h] at hselector
      exact .selector hselector.symm
    · -- a list without items is no option that was given
      have hne := (hshows .list).2
      rw [h] at hlist hne
      exact .list hlist.symm fun hnil => hne (congrArg some hnil)
    · rw [h] at hregex
      exact .pattern hregex.symm hflags.symm
    · have hne := (hshows .map).2
      rw [h] at hmap hne
      exact .map hmap.2 hmap.1 fun hnil => hne (congrArg some hnil)
  · intro h
    simp only [Given.matchers, List.mem_append, Option.mem_toList, Option.map_eq_some_iff]
    cases h with
    | selector hvalues =>
        rw [hvalues, Option.toList_eq_singleton_iff] at hselector
        exact .inl (.inl (.inl ⟨_, hselector, rfl⟩))
    | list hvalues hne =>
        exact .inl (.inl (.inr ⟨_, eq_some_of_getD (hlist.trans hvalues) hne, rfl⟩))
    | pattern hvalues hvaluesFlags =>
        rw [hvalues, Option.toList_eq_singleton_iff] at hregex
        have hsame := congrArg List.head? (hflags.trans hvaluesFlags)
        rw [Option.head?_toList, Option.head?_toList] at hsame
        subst hsame
        exact .inl (.inr ⟨_, hregex, rfl⟩)
    | map hvalues hkeys hne =>
        have hentries := (hshows .map).1.unique (reads_mapEntry_iff.mpr ⟨hkeys, hvalues⟩)
        exact .inr ⟨_, eq_some_of_getD hentries hne, rfl⟩

/-- The format is that of the accessor, unless it is named. -/
theorem chosenFormat_of_unnamed (hshows : ∀ name, g.Shows name (valuesOf name arguments))
    (hformat : valuesOf .format arguments = []) :
    valuesOf .accessor arguments = g.accessor.toList
      ∧ g.chosenFormat = .ok (Format.ofAccessor g.accessor) := by
  refine ⟨(reads_ok_iff.mp (hshows .accessor)).symm, ?_⟩
  have hnone := hshows .format
  rw [hformat] at hnone
  have hformat : g.format = none := Option.toList_eq_nil_iff.mp (List.map_eq_nil_iff.mp hnone.symm)
  rw [Given.chosenFormat, hformat]

/-- A request to resolve has one matcher, and all of it is given. -/
theorem ofArguments_resolve {specifier : String} {caller : Option String} {matcher : Matcher}
    {format : Format} {emit : Emit}
    (h : Request.ofArguments ("resolve" :: arguments)
      = .ok (.resolve specifier caller matcher format emit)) :
    ∃ g, Given.ofArguments resolveOptions arguments = .ok g ∧ g.matchers = [matcher]
      ∧ g.chosenFormat = .ok format := by
  rw [Request.ofArguments] at h
  split at h
  · cases h
  · rename_i g hg
    refine ⟨g, hg, ?_⟩
    unfold Given.resolveRequest at h
    split at h
    · rename_i hmatchers
      obtain ⟨chosen, hchosen, heq⟩ := Css.map_eq_ok_iff.mp h
      injection heq with _ _ hmatcher hformat _
      rw [hmatchers, hchosen, hmatcher, hformat]
      exact ⟨rfl, rfl⟩
    · cases h

/-! ## How a run ends -/

theorem resolve_renamed [Platform] (sheet : Css.Stylesheet) (name : String) (format : Format)
    (m : Matcher) :
    Css.Stylesheet.resolve { sheet with source := name } format m = sheet.resolve format m := by
  cases m <;> rfl

/-- Where the stylesheet is in a file, a matcher is answered as in a call. -/
theorem resolveOutcome_of_read {shell page : Platform} {files : FileSystem} {path : Path}
    {css : String} (hread : files.read path = .ok css) {m : Matcher}
    (hlimit : m.FitsAlike shell page) (accessor : Option String) :
    @resolveOutcome shell (load files path) m (Format.ofAccessor accessor) .js
      = match @Call.source page ⟨css, m.argument, accessor⟩ with
        | .ok text => .line text
        | .error fault => .failure (fault.naming path.text).message := by
  rw [load, hread, Call.source, Call.resolution_of_matcher (m := m) rfl]
  dsimp only
  -- both read the same text, and only call it differently
  rw [Css.parse_renamed css Call.sourceName path.text]
  cases Css.Stylesheet.parse css Call.sourceName with
  | error e => rfl
  | ok sheet =>
      show @resolveOutcome shell (.ok { sheet with source := path.text }) _ _ _ = _
      unfold resolveOutcome
      dsimp only
      rw [@resolve_renamed shell, hlimit.resolve_eq]
      cases @Css.Stylesheet.resolve page sheet (Format.ofAccessor accessor) m <;> rfl

end Command

end StyleLookup
