import StyleLookup.Resolution
import StyleLookup.Pattern.Matching
import StyleLookup.Proofs.FlagLetters

/-!
# One result or all of them

A pattern is searched for in two ways: without the global flag the first rule is looked up that has
a matching selector, and with it all such rules are. `Finds` says what a search should find in a
list of rules, rule by rule, and without a word about how selectors are tested. `finds_results`
says that the rules which are found are these, and from there on both searches are one list: the
global one has all of it, and the other one has its first member.

That the flag changes nothing else is `resolve_with_global`. A text of flags and the same text with
the flag put in are refused for the same letter, and patterns are compiled alike under both.
-/

namespace StyleLookup

open Css Pattern Matcher

/-- Some stretch of a text is matched. -/
def Pattern.Regex.OccursIn (e : Regex Atom) (text : List Char) : Prop :=
  ∃ i j, i ≤ text.length ∧ Matches text e i j

/-- A rule is wanted if a selector of it has what the expression matches. -/
def Wanted (e : Regex Atom) (r : Rule) : Prop := ∃ selector ∈ r.selectors, e.OccursIn selector.toList

/--
`Finds P format rules results`: the results are the rules with the property in their order, each of
them once and in the format.
-/
inductive Finds (P : Rule → Prop) (format : Format) : List Rule → List Formatted → Prop where
  | nil : Finds P format [] []
  | take {r : Rule} {rules : List Rule} {results : List Formatted} (h : P r)
      (hs : Finds P format rules results) :
      Finds P format (r :: rules) (Formatted.ofRule format r :: results)
  | pass {r : Rule} {rules : List Rule} {results : List Formatted} (h : ¬ P r)
      (hs : Finds P format rules results) : Finds P format (r :: rules) results

/-- A test for a property finds the rules that have it. -/
theorem finds_filter {P : Rule → Prop} (test : Rule → Bool) (htest : ∀ r, test r = true ↔ P r)
    (format : Format) (rules : List Rule) :
    Finds P format rules ((rules.filter test).map (Formatted.ofRule format)) := by
  induction rules with
  | nil => exact .nil
  | cons r rules ih =>
      by_cases h : test r = true
      · rw [List.filter_cons_of_pos h, List.map_cons]
        exact .take ((htest r).mp h) ih
      · rw [List.filter_cons_of_neg h]
        exact .pass (fun hp => h ((htest r).mpr hp)) ih

/-! ## Searches -/

/-- The rules in which an expression is found. -/
def results (e : Regex Atom) (format : Format) (rules : List Rule) : List Formatted :=
  (rules.filter (Rule.passes fun selector => e.foundIn selector.toList)).map
    (Formatted.ofRule format)

theorem passes_foundIn_iff (e : Regex Atom) (r : Rule) :
    r.passes (fun selector => e.foundIn selector.toList) = true ↔ Wanted e r := by
  simp only [Rule.passes, List.any_eq_true, Wanted, Regex.OccursIn, Regex.foundIn_iff]

theorem finds_results (e : Regex Atom) (format : Format) (rules : List Rule) :
    Finds (Wanted e) format rules (results e format rules) :=
  finds_filter _ (passes_foundIn_iff e) format rules

theorem results_append (e : Regex Atom) (format : Format) (rules more : List Rule) :
    results e format (rules ++ more) = results e format rules ++ results e format more := by
  rw [results, List.filter_append, List.map_append]
  rfl

theorem search_global (s : Stylesheet) (format : Format) (e : Regex Atom) :
    s.search format true e = .sequence ((results e format s.rules).map some) := by
  rw [Stylesheet.search, if_pos rfl, results, List.map_map]
  rfl

theorem search_single (s : Stylesheet) (format : Format) (e : Regex Atom) :
    s.search format false e = .single (results e format s.rules).head? := by
  rw [Stylesheet.search, if_neg Bool.false_ne_true, results, List.head?_map, List.head?_filter]
  rfl

/-! ## Resolving patterns -/

section Pattern

variable [Platform] {s : Stylesheet} {format : Format} {text flags : String} {f : Flags}

theorem resolve_of_read_eq_error {fault : FlagFault} (h : Flags.read flags.toList = .error fault) :
    s.resolve format (.pattern text flags) = .error (.invalidFlags flags fault) := by
  rw [Stylesheet.resolve, Matcher.compile, h]
  rfl

theorem resolve_of_refused {refusal : Refusal} (h : Flags.read flags.toList = .ok f)
    (hf : f.compile text.toList = .error refusal) :
    s.resolve format (.pattern text flags)
      = .error (.invalidPattern text (String.ofList (f.source text.toList)) refusal) := by
  simp only [Stylesheet.resolve, Matcher.compile, h, hf]
  rfl

theorem resolve_of_compiled {e : Regex Atom} (h : Flags.read flags.toList = .ok f)
    (hf : f.compile text.toList = .ok e) :
    s.resolve format (.pattern text flags) = .ok (s.search format f.global e) := by
  simp only [Stylesheet.resolve, Matcher.compile, h, hf]
  rfl

end Pattern

/-- Problems that differ in nothing but the whole text of flags, of which the same letter is blamed. -/
inductive Matcher.Problem.Alike : Problem → Problem → Prop where
  | flags {flags flags' : String} {fault : FlagFault} :
      Alike (.invalidFlags flags fault) (.invalidFlags flags' fault)
  | pattern {text compiled : String} {refusal : Refusal} :
      Alike (.invalidPattern text compiled refusal) (.invalidPattern text compiled refusal)

/--
**The global flag asks for all results in place of the first, and changes nothing else.**

Let it be put into a text of flags that does not have it. Then either both texts are refused alike,
whatever the rules, or there is an expression for both. Of any rules, the one search then finds
the rules with a matching selector, each once and none absent, and the other one the first of
these. What is found of rules and more rules is what is found of both parts, one behind the other.
-/
theorem resolve_with_global [Platform] (source : String) (format : Format) (text : String)
    (front back : List Char) (hfront : 'g' ∉ front) (hback : 'g' ∉ back) :
    let once (rules : List Rule) := Stylesheet.resolve ⟨source, rules⟩ format
      (.pattern text (String.ofList (front ++ back)))
    let every (rules : List Rule) := Stylesheet.resolve ⟨source, rules⟩ format
      (.pattern text (String.ofList (front ++ 'g' :: back)))
    (∃ problem problem' : Problem, problem.Alike problem'
      ∧ ∀ rules, once rules = .error problem ∧ every rules = .error problem')
    ∨ ∃ (f : Flags) (e : Regex Atom) (found : List Rule → List Formatted),
      Matcher.compile text (String.ofList (front ++ back)) = .ok (f, e)
        ∧ ∀ rules, Finds (Wanted e) format rules (found rules)
          ∧ every rules = .ok (.sequence ((found rules).map some))
          ∧ once rules = .ok (.single (found rules).head?)
          ∧ ∀ more,
            every (rules ++ more) = .ok (.sequence ((found rules ++ found more).map some))
              ∧ once (rules ++ more) = .ok (.single ((found rules).head?.or (found more).head?)) := by
  intro once every
  have hread := Flags.read_with 'g' (by decide) hfront hback
  cases hflags : Flags.read (front ++ back) with
  | error fault =>
      rw [hflags] at hread
      refine .inl ⟨.invalidFlags (String.ofList (front ++ back)) fault,
        .invalidFlags (String.ofList (front ++ 'g' :: back)) fault, .flags, fun rules => ⟨?_, ?_⟩⟩
      · exact resolve_of_read_eq_error (by rw [String.toList_ofList, hflags])
      · exact resolve_of_read_eq_error (by rw [String.toList_ofList, hread]; rfl)
  | ok f =>
      rw [hflags] at hread
      have honce : Flags.read (String.ofList (front ++ back)).toList = .ok f := by
        rw [String.toList_ofList, hflags]
      have hevery : Flags.read (String.ofList (front ++ 'g' :: back)).toList = .ok (f.set 'g') := by
        rw [String.toList_ofList, hread]
        rfl
      have hglobal : f.global = false := by
        have := Flags.has_of_read hflags 'g'
        rw [show f.has 'g' = f.global from rfl] at this
        rw [this, List.contains_eq_mem, decide_eq_false_iff_not, List.mem_append, not_or]
        exact ⟨hfront, hback⟩
      cases hcompile : f.compile text.toList with
      | error refusal =>
          let problem := Problem.invalidPattern text (String.ofList (f.source text.toList)) refusal
          refine .inl ⟨problem, problem, .pattern, fun rules => ⟨?_, ?_⟩⟩
          · exact resolve_of_refused honce hcompile
          · exact resolve_of_refused (f := f.set 'g') hevery hcompile
      | ok e =>
          have hall (rules : List Rule) :
              every rules = .ok (.sequence ((results e format rules).map some)) := by
            show Stylesheet.resolve _ _ _ = _
            rw [resolve_of_compiled hevery hcompile]
            exact congrArg Except.ok (search_global _ _ _)
          have hfirst (rules : List Rule) :
              once rules = .ok (.single (results e format rules).head?) := by
            show Stylesheet.resolve _ _ _ = _
            rw [resolve_of_compiled honce hcompile, hglobal, search_single]
          refine .inr ⟨f, e, results e format, by simp only [Matcher.compile, honce, hcompile], ?_⟩
          intro rules
          refine ⟨finds_results e format rules, hall rules, hfirst rules, fun more => ⟨?_, ?_⟩⟩
          · rw [hall, results_append]
          · rw [hfirst, results_append, List.head?_append]

/-- The flag stands between two others, and the pattern is one that can be compiled. -/
theorem resolve_with_global_between :
    ('g' ∉ ['m'] ∧ 'g' ∉ ['u'])
    ∧ ∃ (f : Flags) (e : Regex Atom) (found : List Rule → List Formatted),
      Matcher.compile "^\\.card" "mu" = .ok (f, e)
        ∧ ∀ rules, Finds (Wanted e) .string rules (found rules)
          ∧ Stylesheet.resolve ⟨"", rules⟩ .string (.pattern "^\\.card" "mgu")
            = .ok (.sequence ((found rules).map some))
          ∧ Stylesheet.resolve ⟨"", rules⟩ .string (.pattern "^\\.card" "mu")
            = .ok (.single (found rules).head?) := by
  have compiled : (Stylesheet.resolve ⟨"", []⟩ .string (.pattern "^\\.card" "mu")).toOption
      = some (.single none) := by decide +kernel
  refine ⟨by decide, ?_⟩
  rcases resolve_with_global "" .string "^\\.card" ['m'] ['u'] (by decide)
      (by decide) with ⟨problem, _, _, h⟩ | ⟨f, e, found, hcompile, h⟩
  · have refused : Stylesheet.resolve ⟨"", []⟩ .string (.pattern "^\\.card" "mu")
        = .error problem := (h []).1
    rw [refused] at compiled
    cases compiled
  · exact ⟨f, e, found, hcompile, fun rules => ⟨(h rules).1, (h rules).2.1, (h rules).2.2.1⟩⟩

end StyleLookup
