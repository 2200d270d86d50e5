import Mathlib.Data.List.Basic
import StyleLookup.CallSite.Call
import StyleLookup.Proofs.Acceptance
import StyleLookup.Proofs.LiteralRoundTrip

/-!
# What calls return and throw

A call answers with a value or with the source text of one, and both answers go wrong alike. What
they throw is said here once more, by what was passed and not by how it is checked (`Throws`):
first the shape of the argument, whatever the stylesheet, then the stylesheet, then the flags of a
pattern and at last the pattern. `value_source_agree` says that a call throws just that, by either
way of asking, and that otherwise the text is a literal of the value.
-/

namespace StyleLookup

/-- The argument that a matcher is read from. Of a RegExp this is what its getters give. -/
def Matcher.argument : Matcher → CallSite.Argument
  | .selector text => .string text
  | .list items => .array (items.map .string)
  | .pattern text flags => .regExp text flags
  | .map entries => .object (entries.map fun (key, text) => (key, .string text))

namespace CallSite

open Css

/-! ## Shapes of arguments -/

namespace Argument

/-- Whether an argument is a text. -/
def IsText (a : Argument) : Prop := ∃ text, a = .string text

/-- Values of a script that are no matchers whatever they hold, and the names of their types. -/
def strangers : List (Argument × String) :=
  [(.number, "number"), (.boolean, "boolean"), (.bigint, "bigint"), (.symbol, "symbol"),
    (.function, "function"), (.undefined, "undefined"), (.null, "object")]

/-- An argument with a shape that no matcher has, and what is said of it. -/
inductive Misshapen : Argument → String → Prop where
  | array {items : List Argument} {item : Argument} (hmem : item ∈ items) (hitem : ¬ item.IsText) :
      Misshapen (.array items) "unrecognized matcher: list items must be strings"
  | object {entries : List (String × Argument)} {key : String} {item : Argument}
      (hmem : (key, item) ∈ entries) (hitem : ¬ item.IsText) :
      Misshapen (.object entries) "unrecognized matcher: map values must be strings"
  | stranger {a : Argument} {typeName : String} (hmem : (a, typeName) ∈ strangers) :
      Misshapen a
        ("unrecognized matcher: expected a string, array, RegExp, or object, got " ++ typeName)

theorem text?_eq_some_iff {a : Argument} {text : String} :
    a.text? = some text ↔ a = .string text := by
  cases a <;> simp [text?]

theorem text?_eq_none_iff {a : Argument} : a.text? = none ↔ ¬ a.IsText := by
  rw [IsText, Option.eq_none_iff_forall_ne_some, not_exists]
  exact forall_congr' fun text => not_congr text?_eq_some_iff

/-- If a part is read exactly from what it is written as, a row is read from the written row. -/
theorem mapM_eq_some_iff_eq_map {α β : Type} {f : α → Option β} {g : β → α}
    (hfg : ∀ a b, f a = some b ↔ a = g b) {as : List α} {bs : List β} :
    as.mapM f = some bs ↔ as = bs.map g := by
  induction as generalizing bs with
  | nil => cases bs <;> simp
  | cons a as ih =>
      rw [List.mapM_cons]
      constructor
      · intro h
        simp only [Option.bind_eq_bind, Option.bind_eq_some_iff] at h
        obtain ⟨b, hb, rest, hrest, h⟩ := h
        obtain rfl := Option.some.inj h
        rw [List.map_cons, (hfg a b).mp hb, ih.mp hrest]
      · intro h
        cases bs with
        | nil => cases h
        | cons b bs =>
            injection h with hhead htail
            rw [(hfg a b).mpr hhead, ih.mpr htail]
            rfl

theorem mapM_eq_none_iff {α β : Type} {f : α → Option β} {as : List α} :
    as.mapM f = none ↔ ∃ a ∈ as, f a = none := by
  induction as with
  | nil => simp
  | cons a as ih =>
      rw [List.mapM_cons, List.exists_mem_cons_iff, ← ih]
      cases f a with
      | none => simp
      | some b => cases as.mapM f <;> simp

theorem texts?_eq_mapM (items : List Argument) : texts? items = items.mapM text? := by
  induction items with
  | nil => rfl
  | cons item items ih =>
      rw [texts?, ih, List.mapM_cons]
      cases item.text? <;> cases items.mapM text? <;> rfl

theorem textEntries?_eq_mapM (entries : List (String × Argument)) :
    textEntries? entries = entries.mapM fun e => e.2.text?.map (Prod.mk e.1) := by
  induction entries with
  | nil => rfl
  | cons entry entries ih =>
      obtain ⟨key, item⟩ := entry
      rw [textEntries?, ih, List.mapM_cons]
      cases item.text? <;>
        cases entries.mapM fun e : String × Argument => e.2.text?.map (Prod.mk e.1) <;> rfl

theorem texts?_eq_some_iff {items : List Argument} {texts : List String} :
    texts? items = some texts ↔ items = texts.map .string := by
  rw [texts?_eq_mapM]
  exact mapM_eq_some_iff_eq_map fun _ _ => text?_eq_some_iff

theorem texts?_eq_none_iff {items : List Argument} :
    texts? items = none ↔ ∃ item ∈ items, ¬ item.IsText := by
  rw [texts?_eq_mapM, mapM_eq_none_iff]
  simp only [text?_eq_none_iff]

theorem textEntries?_eq_some_iff {entries : List (String × Argument)}
    {texts : List (String × String)} :
    textEntries? entries = some texts
      ↔ entries = texts.map fun (key, text) => (key, .string text) := by
  rw [textEntries?_eq_mapM]
  refine mapM_eq_some_iff_eq_map fun e b => ?_
  rw [Option.map_eq_some_iff, Prod.ext_iff]
  simp only [text?_eq_some_iff]
  constructor
  · rintro ⟨text, htext, rfl⟩
    exact ⟨rfl, htext⟩
  · rintro ⟨hkey, htext⟩
    exact ⟨b.2, htext, by rw [hkey]⟩

theorem textEntries?_eq_none_iff {entries : List (String × Argument)} :
    textEntries? entries = none ↔ ∃ e ∈ entries, ¬ e.2.IsText := by
  rw [textEntries?_eq_mapM, mapM_eq_none_iff]
  simp only [Option.map_eq_none_iff, text?_eq_none_iff]

/-- An argument has just the matcher that is read from it. -/
theorem matcher_eq_ok_iff {a : Argument} {m : Matcher} :
    a.matcher = .ok m ↔ a = m.argument := by
  constructor
  · intro h
    unfold matcher at h
    split at h
    · cases h
      rfl
    · split at h
      · rename_i htexts
        cases h
        exact congrArg Argument.array (texts?_eq_some_iff.mp htexts)
      · cases h
    · cases h
      rfl
    · split at h
      · rename_i hentries
        cases h
        exact congrArg Argument.object (textEntries?_eq_some_iff.mp hentries)
      · cases h
    · cases h
  · rintro rfl
    cases m with
    | selector text => rfl
    | list items => simp only [Matcher.argument, matcher, texts?_eq_some_iff.mpr rfl]
    | pattern text flags => rfl
    | map entries => simp only [Matcher.argument, matcher, textEntries?_eq_some_iff.mpr rfl]

/-- An argument without a matcher is misshapen, and the fault says how. -/
theorem exists_matcher_eq_error_iff {a : Argument} {message : String} :
    (∃ fault, a.matcher = .error fault ∧ fault.message = message) ↔ a.Misshapen message := by
  constructor
  · rintro ⟨fault, h, rfl⟩
    unfold matcher at h
    split at h
    · cases h
    · split at h
      · cases h
      · rename_i htexts
        cases h
        obtain ⟨item, hmem, hitem⟩ := texts?_eq_none_iff.mp htexts
        exact .array hmem hitem
    · cases h
    · split at h
      · cases h
      · rename_i hentries
        cases h
        obtain ⟨⟨key, item⟩, hmem, hitem⟩ := textEntries?_eq_none_iff.mp hentries
        exact .object hmem hitem
    · rename_i hstring harray hregExp hobject
      cases h
      refine .stranger ?_
      -- what has a matcher of its own shape was taken before
      cases a with
      | string text => exact absurd rfl (hstring text)
      | array items => exact absurd rfl (harray items)
      | regExp source flags => exact absurd rfl (hregExp source flags)
      | object entries => exact absurd rfl (hobject entries)
      | _ => simp [strangers, typeName]
  · intro h
    cases h with
    | array hmem hitem =>
        refine ⟨.itemNotText, ?_, rfl⟩
        rw [matcher, texts?_eq_none_iff.mpr ⟨_, hmem, hitem⟩]
    | object hmem hitem =>
        refine ⟨.entryNotText, ?_, rfl⟩
        rw [matcher, textEntries?_eq_none_iff.mpr ⟨_, hmem, hitem⟩]
    | @stranger a typeName hmem =>
        refine ⟨.noMatcher typeName, ?_, rfl⟩
        simp only [strangers, List.mem_cons, Prod.mk.injEq, List.not_mem_nil, or_false] at hmem
        rcases hmem with ⟨rfl, rfl⟩ | ⟨rfl, rfl⟩ | ⟨rfl, rfl⟩ | ⟨rfl, rfl⟩ | ⟨rfl, rfl⟩ | ⟨rfl, rfl⟩
          | ⟨rfl, rfl⟩ <;> rfl

theorem exists_eq_argument_iff {a : Argument} :
    (∃ m : Matcher, a = m.argument) ↔ ∀ message, ¬ a.Misshapen message := by
  constructor
  · rintro ⟨m, hm⟩ message h
    obtain ⟨fault, hfault, _⟩ := exists_matcher_eq_error_iff.mpr h
    rw [matcher_eq_ok_iff.mpr hm] at hfault
    cases hfault
  · intro h
    cases hm : a.matcher with
    | ok m => exact ⟨m, matcher_eq_ok_iff.mp hm⟩
    | error fault =>
        exact absurd (exists_matcher_eq_error_iff.mp ⟨fault, hm, rfl⟩) (h fault.message)

end Argument

/-! ## What a call throws -/

/-- Only a pattern can be refused: for its flags, or under them for itself. -/
theorem resolve_eq_error_iff [Platform] {sheet : Stylesheet} {format : Format} {m : Matcher}
    {problem : Matcher.Problem} :
    sheet.resolve format m = .error problem ↔ ∃ text flags, m = .pattern text flags
      ∧ ((∃ fault, Matcher.Flags.read flags.toList = .error fault
          ∧ problem = .invalidFlags flags fault)
        ∨ ∃ f refusal, Matcher.Flags.read flags.toList = .ok f
          ∧ f.compile text.toList = .error refusal
          ∧ problem = .invalidPattern text (String.ofList (f.source text.toList)) refusal) := by
  cases m with
  | selector text => simp [Stylesheet.resolve]
  | list items => simp [Stylesheet.resolve]
  | map entries => simp [Stylesheet.resolve]
  | pattern text flags =>
      rw [Stylesheet.resolve, map_eq_error_iff, Matcher.compile]
      cases hflags : Matcher.Flags.read flags.toList with
      | error fault => simp [hflags, eq_comm]
      | ok f => cases hcompile : f.compile text.toList <;> simp [hflags, hcompile, eq_comm]

/-- The wording of a refusal, of a stylesheet that was called inline. -/
theorem message_stylesheet {text : String} {e : ParseError}
    (h : Stylesheet.parse text Call.sourceName = .error e) :
    (CallFault.stylesheet e).message = "CSS parse error in <inline> at line "
      ++ toString e.location.line ++ ", column " ++ toString e.location.column ++ ": "
      ++ e.cause.message := by
  have hname : "CSS parse error in " ++ "<inline>" ++ " at line "
      = "CSS parse error in <inline> at line " := by decide
  show "CSS parse error in " ++ e.file ++ " at line " ++ toString e.location.line ++ ", column "
    ++ toString e.location.column ++ ": " ++ e.cause.message = _
  rw [file_of_parse h, Call.sourceName, hname]

theorem message_invalidPattern (text : String) (compiled : List Char)
    (refusal : Pattern.Refusal) :
    (CallFault.matcher (.invalidPattern text (String.ofList compiled) refusal)).message
      = "invalid regex pattern /" ++ text ++ "/: " ++ refusal.message compiled := by
  show "invalid regex pattern /" ++ text ++ "/: "
    ++ refusal.message (String.ofList compiled).toList = _
  rw [String.toList_ofList]

namespace Call

/--
What a call throws. The shape of the argument comes first, whatever the stylesheet is; then the
stylesheet, which is called inline; then the flags of a pattern, and at last the pattern under
these flags.
-/
inductive Throws [Platform] (c : Call) : String → Prop where
  | shape {message : String} (hshape : c.argument.Misshapen message) : c.Throws message
  | stylesheet {e : ParseError} (hshape : ∀ message, ¬ c.argument.Misshapen message)
      (hsheet : Stylesheet.parse c.css sourceName = .error e) :
      c.Throws ("CSS parse error in <inline> at line " ++ toString e.location.line ++ ", column "
        ++ toString e.location.column ++ ": " ++ e.cause.message)
  | flags {text flags : String} {sheet : Stylesheet} {fault : Matcher.FlagFault}
      (hshape : c.argument = .regExp text flags)
      (hsheet : Stylesheet.parse c.css sourceName = .ok sheet)
      (hflags : Matcher.Flags.read flags.toList = .error fault) :
      c.Throws ("invalid regex flags '" ++ flags ++ "': " ++ fault.reason)
  | pattern {text flags : String} {sheet : Stylesheet} {f : Matcher.Flags}
      {refusal : Pattern.Refusal} (hshape : c.argument = .regExp text flags)
      (hsheet : Stylesheet.parse c.css sourceName = .ok sheet)
      (hflags : Matcher.Flags.read flags.toList = .ok f)
      (hpattern : f.compile text.toList = .error refusal) :
      c.Throws ("invalid regex pattern /" ++ text ++ "/: "
        ++ refusal.message (f.source text.toList))

/-- A call whose argument is a matcher looks it up, once the stylesheet is read. -/
theorem resolution_of_matcher [Platform] {c : Call} {m : Matcher} (hm : c.argument = m.argument) :
    c.resolution = match Stylesheet.parse c.css sourceName with
      | .error e => .error (.stylesheet e)
      | .ok sheet => (sheet.resolve (Format.ofAccessor c.accessor) m).mapError .matcher := by
  have hmatcher := Argument.matcher_eq_ok_iff.mpr hm
  cases hsheet : Stylesheet.parse c.css sourceName with
  | error e => simp only [resolution, hmatcher, hsheet]
  | ok sheet => simp only [resolution, hmatcher, hsheet]

theorem Throws.of_resolution [Platform] {c : Call} {fault : CallFault}
    (h : c.resolution = .error fault) : c.Throws fault.message := by
  cases hm : c.argument.matcher with
  | error shape =>
      rw [resolution, hm] at h
      cases h
      exact .shape (Argument.exists_matcher_eq_error_iff.mp ⟨shape, hm, rfl⟩)
  | ok m =>
      -- from here on only the stylesheet and a pattern can be at fault
      have harg := Argument.matcher_eq_ok_iff.mp hm
      rw [resolution_of_matcher harg] at h
      cases hsheet : Stylesheet.parse c.css sourceName with
      | error e =>
          rw [hsheet] at h
          cases h
          rw [message_stylesheet hsheet]
          exact .stylesheet (Argument.exists_eq_argument_iff.mp ⟨m, harg⟩) hsheet
      | ok sheet =>
          rw [hsheet] at h
          obtain ⟨problem, hproblem, rfl⟩ := mapError_eq_error_iff.mp h
          obtain ⟨text, flags, rfl, hcase⟩ := resolve_eq_error_iff.mp hproblem
          rcases hcase with ⟨fault, hflags, rfl⟩ | ⟨f, refusal, hflags, hpattern, rfl⟩
          · exact .flags harg hsheet hflags
          · rw [message_invalidPattern]
            exact .pattern harg hsheet hflags hpattern

theorem Throws.exists_resolution [Platform] {c : Call} {message : String} (h : c.Throws message) :
    ∃ fault, c.resolution = .error fault ∧ fault.message = message := by
  cases h with
  | shape hshape =>
      obtain ⟨fault, hm, rfl⟩ := Argument.exists_matcher_eq_error_iff.mpr hshape
      exact ⟨.shape fault, by rw [resolution, hm], rfl⟩
  | @stylesheet e hshape hsheet =>
      obtain ⟨m, harg⟩ := Argument.exists_eq_argument_iff.mpr hshape
      exact ⟨.stylesheet e, by rw [resolution_of_matcher harg, hsheet], message_stylesheet hsheet⟩
  | @flags text flags sheet fault hshape hsheet hflags =>
      refine ⟨.matcher (.invalidFlags flags fault), ?_, rfl⟩
      rw [resolution_of_matcher (m := .pattern text flags) hshape, hsheet]
      refine mapError_eq_error_iff.mpr ⟨_, ?_, rfl⟩
      exact resolve_eq_error_iff.mpr ⟨text, flags, rfl, .inl ⟨fault, hflags, rfl⟩⟩
  | @pattern text flags sheet f refusal hshape hsheet hflags hpattern =>
      refine ⟨_, ?_, message_invalidPattern _ _ _⟩
      rw [resolution_of_matcher (m := .pattern text flags) hshape, hsheet]
      refine mapError_eq_error_iff.mpr ⟨_, ?_, rfl⟩
      exact resolve_eq_error_iff.mpr ⟨text, flags, rfl, .inr ⟨f, refusal, hflags, hpattern, rfl⟩⟩

/-! ## Two ways of asking -/

/--
**A call answers alike with a value and with its text.**

Either way it throws the same message, which is the one that its argument, its stylesheet, its flags
or its pattern earns it, in that order. Where it does not throw, the text is a script literal that
reads as the value.
-/
theorem value_source_agree [Platform] (c : Call) :
    (∀ message, c.value.mapError CallFault.message = .error message ↔ c.Throws message)
      ∧ (∀ message, c.source.mapError CallFault.message = .error message ↔ c.Throws message)
      ∧ ∀ v, c.value = .ok v
        ↔ ∃ text, c.source = .ok text ∧ Dialect.script.read text.toList = some v := by
  -- both ways map what was found, so they fail where and as the search for it fails
  have hthrows : ∀ {α : Type} (f : Resolution → α) (message : String),
      (c.resolution.map f).mapError CallFault.message = .error message ↔ c.Throws message := by
    intro α f message
    rw [mapError_eq_error_iff]
    simp only [map_eq_error_iff]
    constructor
    · rintro ⟨fault, h, rfl⟩
      exact .of_resolution h
    · exact Throws.exists_resolution
  refine ⟨hthrows _, hthrows _, ?_⟩
  intro v
  rw [value, returned, source]
  cases c.resolution with
  | error fault => exact ⟨fun h => (nomatch h), fun ⟨_, h, _⟩ => (nomatch h)⟩
  | ok r =>
      -- the expression says the value, and the value is the tree that is handed over
      have hread : Dialect.script.read r.script.toList = some (r.serialize .tree) := by
        rw [Serializer.tree_makes.serialize r, r.read_script, id]
      constructor
      · intro h
        exact ⟨r.script, rfl, hread.trans (congrArg some (Except.ok.inj h))⟩
      · rintro ⟨text, htext, h⟩
        rw [← Except.ok.inj htext, hread] at h
        exact congrArg Except.ok (Option.some.inj h)

end Call

end CallSite

end StyleLookup
