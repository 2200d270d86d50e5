import StyleLookup.Proofs.StoredText
import StyleLookup.Resolution

/-!
# What is listed is what is found

A stylesheet lists its selectors, those of the first rule first, and a selector is looked up rule by
rule. The two go through the same selectors in the same order, one flat and one nested, so what is
found is the rule that the first place in the list belongs to (`Stylesheet.listsFirst_of_first?`).

That the list holds nothing odd is a matter of reading. Selectors are stored trimmed, and pieces of
which nothing is left do not count, also if it was the comments that went; rules without selectors
are dropped. A property is the name in an identifier, and an identifier names something even if all
of it is written as escapes. So a text that is empty, or has white space around it, is in no list
and is never found (`parse_lists`).
-/

namespace StyleLookup.Css

open Text Component Lexer

/-! ## Looking up -/

/--
The rule lists the selector, no rule in front of it does, and so the place in the rule is the first
one in the list of the stylesheet.
-/
def Stylesheet.ListsFirst (sheet : Stylesheet) (selector : String) (r : Rule) : Prop :=
  ∃ before after front rest, sheet.rules = before ++ r :: after
    ∧ r.selectors = front ++ selector :: rest
    ∧ sheet.selectors = (before.flatMap Rule.selectors ++ front)
      ++ selector :: (rest ++ after.flatMap Rule.selectors)
    ∧ selector ∉ before.flatMap Rule.selectors ++ front

theorem Rule.passes_iff (r : Rule) (selector : String) :
    r.passes (· == selector) = true ↔ selector ∈ r.selectors := by
  rw [Rule.passes, List.any_eq_true]
  refine ⟨?_, fun h => ⟨selector, h, beq_self_eq_true selector⟩⟩
  intro h
  obtain ⟨s, hs, hself⟩ := h
  exact eq_of_beq hself ▸ hs

/-- **The first rule found is the one that lists the selector first.** -/
theorem Stylesheet.listsFirst_of_first? {sheet : Stylesheet} {selector : String} {r : Rule}
    (h : sheet.first? (· == selector) = some r) : sheet.ListsFirst selector r := by
  obtain ⟨hpasses, before, after, hrules, hbefore⟩ := List.find?_eq_some_iff_append.mp h
  obtain ⟨front, rest, hselectors, hfront⟩ :=
    List.eq_append_cons_of_mem ((r.passes_iff selector).mp hpasses)
  refine ⟨before, after, front, rest, hrules, hselectors, ?_, ?_⟩
  · rw [Stylesheet.selectors, hrules, List.flatMap_append, List.flatMap_cons, hselectors]
    simp only [List.append_assoc, List.cons_append]
  · rw [List.mem_append, List.mem_flatMap, not_or]
    refine ⟨?_, hfront⟩
    intro hlisted
    obtain ⟨q, hq, hmem⟩ := hlisted
    have hnone := hbefore q hq
    rw [(q.passes_iff selector).mpr hmem] at hnone
    exact Bool.noConfusion hnone

theorem Stylesheet.first?_eq_none_iff (sheet : Stylesheet) (selector : String) :
    sheet.first? (· == selector) = none ↔ selector ∉ sheet.selectors := by
  rw [Stylesheet.first?, List.find?_eq_none, Stylesheet.selectors, List.mem_flatMap]
  refine ⟨?_, ?_⟩
  · intro h hlisted
    obtain ⟨r, hr, hmem⟩ := hlisted
    exact h r hr ((r.passes_iff selector).mpr hmem)
  · intro h r hr hpasses
    exact h ⟨r, hr, (r.passes_iff selector).mp hpasses⟩

/-! ## Names -/

/-- Where an identifier starts, a name is read that is not empty. -/
theorem Lexer.name_ne_nil {s : List Char} (h : atIdent s = true) : (name s).1 ≠ [] := by
  cases s with
  | nil => exact absurd h Bool.false_ne_true
  | cons c cs =>
      rw [atIdent_cons] at h
      rw [name]
      by_cases hchar : isNameChar c = true
      · rw [if_pos hchar]
        exact List.cons_ne_nil _ _
      · rw [if_neg hchar]
        have hminus : c ≠ '-' := by
          intro hc
          rw [hc] at hchar
          exact hchar rfl
        rw [if_neg hminus] at h
        by_cases hback : c = '\\'
        · rw [if_pos hback, Bool.not_eq_true'] at h
          rw [if_pos ⟨hback, h⟩]
          exact List.cons_ne_nil _ _
        · rw [if_neg hback] at h
          exact absurd (isNameChar_of_isNameStart h) hchar

/-- A declaration in a text has a name. -/
theorem Declares.name_ne_nil {text name : List Char} {piece value : List Component}
    (h : Declares piece name value) (hlies : Lies text piece) : name ≠ [] := by
  obtain ⟨lead, c, gap, colon, _, hkind, _, _, rfl⟩ := h
  have hmem : c.head ∈ tokensOf (lead ++ c :: (gap ++ colon :: value)) := by
    rw [tokensOf_append, tokensOf]
    refine List.mem_append_right _ (List.mem_append_left _ ?_)
    cases c with
    | token t => exact List.mem_singleton.mpr rfl
    | block opening body closing => exact List.mem_cons_self
  obtain ⟨x, hstands⟩ := hlies.exists_stands hmem
  obtain ⟨hname, hident⟩ := hstands.name_eq hkind
  have hne := Lexer.name_ne_nil hident
  rwa [hname] at hne

/-! ## Rules as they are stored -/

/-- A rule that can be looked up, and whose texts are named and trimmed. -/
structure Rule.IsTidy (r : Rule) : Prop where
  selected : r.selectors ≠ []
  selectors : ∀ s ∈ r.selectors, s ≠ "" ∧ trim s.toList = s.toList
  declarations : ∀ d ∈ r.declarations, d.property ≠ "" ∧ trim d.value.toList = d.value.toList

theorem Stores.selectors_ne_nil {is : List Item} {rs : List Rule} {r : Rule} (h : Stores is rs)
    (hr : r ∈ rs) : r.selectors ≠ [] := by
  induction h with
  | nil => exact absurd hr List.not_mem_nil
  | filler _ ih => exact ih hr
  | atRule _ ih => exact ih hr
  | unselected _ _ _ ih => exact ih hr
  | rule _ _ hne _ _ _ ih =>
      rcases List.mem_cons.mp hr with rfl | hr
      · exact hne
      · exact ih hr

theorem trim_storedText (row : List Component) : trim (storedText row) = storedText row :=
  trim_trim _

/-- A selector of a prelude is what is left of a piece, and something is left. -/
theorem exists_of_mem_selectorsOf {prelude : List Component} {s : String}
    (h : s ∈ selectorsOf prelude) :
    ∃ row, s = String.ofList (storedText row) ∧ storedText row ≠ [] := by
  rw [selectorsOf, List.mem_map] at h
  obtain ⟨_, hpiece, rfl⟩ := h
  obtain ⟨hrow, hne⟩ := List.mem_filter.mp hpiece
  obtain ⟨row, _, rfl⟩ := List.mem_map.mp hrow
  refine ⟨row, rfl, ?_⟩
  intro hempty
  rw [hempty] at hne
  exact Bool.noConfusion hne

theorem ofList_ne_empty {s : List Char} (h : s ≠ []) : String.ofList s ≠ "" := by
  intro hempty
  have hlist := congrArg String.toList hempty
  rw [String.toList_ofList] at hlist
  exact h hlist

/-- **The rules of a text are tidy.** -/
theorem isTidy_of_parse {text source : String} {sheet : Stylesheet}
    (hsheet : Stylesheet.parse text source = .ok sheet) {r : Rule} (hr : r ∈ sheet.rules) :
    r.IsTidy := by
  have hstores := (readRules_eq_ok_iff _ _).mp ((parse_eq_ok_iff _ _ _).mp hsheet).1
  obtain ⟨prelude, b, hmem, hselectors, hbody⟩ := hstores.exists_of_mem hr
  refine ⟨hstores.selectors_ne_nil hr, ?_, ?_⟩
  · intro s hs
    rw [← hselectors] at hs
    obtain ⟨row, rfl, hne⟩ := exists_of_mem_selectorsOf hs
    rw [String.toList_ofList]
    exact ⟨ofList_ne_empty hne, trim_storedText row⟩
  · intro d hd
    obtain ⟨piece, hpiece, name, value, hdeclares, rfl⟩ := hbody.exists_of_mem hd
    have hne := hdeclares.name_ne_nil (lies_bodyPiece hmem hpiece)
    rw [String.toList_ofList]
    exact ⟨ofList_ne_empty hne, trim_storedText value⟩

/-- A selector in the list is not empty and has no white space around it. -/
theorem not_isBlank_of_listed {text source : String} {sheet : Stylesheet}
    (hsheet : Stylesheet.parse text source = .ok sheet) {selector : String}
    (h : selector ∈ sheet.selectors) :
    selector ≠ "" ∧ ∀ c, selector.toList.head? = some c ∨ selector.toList.getLast? = some c →
      isBlank c = false := by
  obtain ⟨r, hr, hmem⟩ := List.mem_flatMap.mp h
  obtain ⟨hne, htrim⟩ := (isTidy_of_parse hsheet hr).selectors selector hmem
  refine ⟨hne, ?_⟩
  rw [← htrim]
  intro c hc
  rcases hc with hhead | hlast
  · exact head?_trim _ c hhead
  · exact getLast?_trimEnd _ c hlast

theorem lookup_eq_none_iff (sheet : Stylesheet) (format : Format) (selector : String) :
    sheet.lookup format selector = none ↔ selector ∉ sheet.selectors := by
  rw [Stylesheet.lookup, Option.map_eq_none_iff, sheet.first?_eq_none_iff]

/--
**What a stylesheet lists is what is found in it.**

Of every text that is accepted, each rule has a selector, no selector and no property is empty, and
selectors and values have no white space around them. A selector is found exactly if it is in the
list of selectors, and then the result is the rule to which its first place in the list belongs. An
empty text, or one with white space around it, is not found.
-/
theorem parse_lists (text source : String) (sheet : Stylesheet)
    (hsheet : Stylesheet.parse text source = .ok sheet) :
    (∀ r ∈ sheet.rules, r.IsTidy)
      ∧ (∀ selector format, ∃ result,
        sheet.resolve format (.selector selector) = .ok (.single result)
          ∧ (result ≠ none ↔ selector ∈ sheet.selectors)
          ∧ ∀ formatted, result = some formatted → ∃ r, sheet.ListsFirst selector r
            ∧ formatted = Formatted.ofRule format r)
      ∧ ∀ selector format, (selector = "" ∨ ∃ c, isBlank c = true
          ∧ (selector.toList.head? = some c ∨ selector.toList.getLast? = some c)) →
        sheet.resolve format (.selector selector) = .ok (.single none) := by
  refine ⟨fun r hr => isTidy_of_parse hsheet hr, ?_, ?_⟩
  · intro selector format
    refine ⟨sheet.lookup format selector, rfl, ?_, ?_⟩
    · rw [Ne, lookup_eq_none_iff, not_not]
    · intro formatted hfound
      obtain ⟨r, hfirst, rfl⟩ := Option.map_eq_some_iff.mp hfound
      exact ⟨r, Stylesheet.listsFirst_of_first? hfirst, rfl⟩
  · intro selector format hodd
    have hunlisted : selector ∉ sheet.selectors := by
      intro hlisted
      obtain ⟨hne, hinked⟩ := not_isBlank_of_listed hsheet hlisted
      rcases hodd with hempty | ⟨c, hblank, hedge⟩
      · exact hne hempty
      · rw [hinked c hedge] at hblank
        exact Bool.noConfusion hblank
    rw [Stylesheet.resolve, (lookup_eq_none_iff sheet format selector).mpr hunlisted]

/-- Two rules share a selector, and a comment and a no-break space go. -/
theorem parse_lists_shared :
    let text := ".a/* c */.b , p\x7bx: 1\u00a0 \x7d p\x7by:2\x7d"
    let sheet : Stylesheet := ⟨"s", [⟨[".a.b", "p"], [⟨"x", "1"⟩]⟩, ⟨["p"], [⟨"y", "2"⟩]⟩]⟩
    Stylesheet.parse text "s" = .ok sheet
      ∧ (∀ r ∈ sheet.rules, r.IsTidy)
      ∧ (∃ result, sheet.resolve .string (.selector "p") = .ok (.single result)
        ∧ (result ≠ none ↔ "p" ∈ sheet.selectors)
        ∧ ∀ formatted, result = some formatted → ∃ r, sheet.ListsFirst "p" r
          ∧ formatted = Formatted.ofRule .string r)
      ∧ sheet.resolve .string (.selector " p") = .ok (.single none) := by
  intro text sheet
  have hsheet : Stylesheet.parse text "s" = .ok sheet := by decide +kernel
  obtain ⟨htidy, hfound, hodd⟩ := parse_lists text "s" sheet hsheet
  exact ⟨hsheet, htidy, hfound "p" .string,
    hodd " p" .string (.inr ⟨' ', by decide, .inl (by decide)⟩)⟩

end StyleLookup.Css
