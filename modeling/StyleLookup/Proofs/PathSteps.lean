import Mathlib.Data.List.Infix
import StyleLookup.Files.Import
import StyleLookup.Files.Tree
import StyleLookup.Proofs.Grammar

/-!
# Paths as steps

`parent?` and `join` work on the text of a path. They can be said in **steps**, the pieces that lead
somewhere: the parent has all steps but the last, and what is put into an absolute directory follows
its steps. So the steps of the ancestors of an absolute path are the beginnings of its steps, the
longest first. A step up is a step like any other there. The parent of `/a/..` is `/a`, although it
lies deeper.

Where a path leads is another matter. Its **place** is what is left when each step up has taken back
the step before it. Steps and place agree as long as there is no step up.
-/

namespace StyleLookup.Text

/-! ## Cutting what was joined -/

variable {separator : Char}

theorem cutAt_cons_separator (cs : List Char) :
    cutAt separator (separator :: cs) = [] :: cutAt separator cs := by
  refine Css.cutWhere_cons_separator ?_ cs
  exact beq_self_eq_true separator

theorem cutAt_cons {c : Char} {cs p : List Char} {ps : List (List Char)} (hc : c ≠ separator)
    (hcs : cutAt separator cs = p :: ps) : cutAt separator (c :: cs) = (c :: p) :: ps := by
  refine Css.cutWhere_cons ?_ hcs
  exact beq_eq_false_iff_ne.mpr hc

theorem exists_cutAt_eq_cons (separator : Char) (cs : List Char) :
    ∃ p ps, cutAt separator cs = p :: ps := List.exists_cons_of_ne_nil (cutWhere_ne_nil _ cs)

theorem cutAt_append_separator (xs ys : List Char) :
    cutAt separator (xs ++ separator :: ys) = cutAt separator xs ++ cutAt separator ys := by
  induction xs with
  | nil => exact cutAt_cons_separator ys
  | cons c xs ih =>
      by_cases hc : c = separator
      · rw [hc, List.cons_append, cutAt_cons_separator, ih, cutAt_cons_separator, List.cons_append]
      · obtain ⟨p, ps, hxs⟩ := exists_cutAt_eq_cons separator xs
        rw [hxs, List.cons_append] at ih
        rw [List.cons_append, cutAt_cons hc ih, cutAt_cons hc hxs, List.cons_append]

theorem not_mem_of_mem_cutAt {s : List Char} :
    ∀ piece ∈ cutAt separator s, separator ∉ piece := by
  induction s with
  | nil =>
      show ∀ piece ∈ [[]], separator ∉ piece
      rw [List.forall_mem_singleton]
      exact List.not_mem_nil
  | cons c s ih =>
      by_cases hc : c = separator
      · rw [hc, cutAt_cons_separator, List.forall_mem_cons]
        exact ⟨List.not_mem_nil, ih⟩
      · obtain ⟨p, ps, hs⟩ := exists_cutAt_eq_cons separator s
        rw [hs, List.forall_mem_cons] at ih
        rw [cutAt_cons hc hs, List.forall_mem_cons, List.mem_cons, not_or]
        exact ⟨⟨Ne.symm hc, ih.1⟩, ih.2⟩

theorem cutAt_joinWith {pieces : List (List Char)} (hne : pieces ≠ [])
    (h : ∀ piece ∈ pieces, separator ∉ piece) :
    cutAt separator (joinWith [separator] pieces) = pieces := by
  induction pieces with
  | nil => exact absurd rfl hne
  | cons piece pieces ih =>
      rw [List.forall_mem_cons] at h
      have hpiece : ∀ c ∈ piece, (c == separator) = false := by
        intro c hc
        rw [beq_eq_false_iff_ne]
        rintro rfl
        exact h.1 hc
      cases pieces with
      | nil => exact Css.cutWhere_eq_singleton hpiece
      | cons next pieces =>
          rw [show joinWith [separator] (piece :: next :: pieces)
            = piece ++ separator :: joinWith [separator] (next :: pieces) by simp [joinWith],
            cutAt_append_separator, ih (List.cons_ne_nil _ _) h.2]
          show Text.cutWhere _ piece ++ _ = _
          rw [Css.cutWhere_eq_singleton hpiece, List.singleton_append]

end StyleLookup.Text

namespace StyleLookup.Files

open Text

namespace Path

/-! ## Steps -/

/-- Whether a piece leads somewhere. -/
def isBusy (piece : List Char) : Bool := !isIdle piece

/-- The pieces of a path that lead somewhere. -/
def steps (p : Path) : List (List Char) := (cutAt '/' p.chars).filter isBusy

variable {p q : Path}

theorem isAbsolute_iff : p.isAbsolute = true ↔ ∃ rest, p.chars = '/' :: rest := by
  rw [isAbsolute, beq_iff_eq]
  cases p.chars with
  | nil => simp
  | cons c cs => simp

theorem steps_cons_slash (rest : List Char) :
    steps ⟨'/' :: rest⟩ = (cutAt '/' rest).filter isBusy := by
  rw [steps, cutAt_cons_separator, List.filter_cons_of_neg (by decide)]

theorem filter_isBusy_dropWhile (pieces : List (List Char)) :
    (pieces.dropWhile isIdle).filter isBusy = pieces.filter isBusy := by
  have hidle : (pieces.takeWhile isIdle).filter isBusy = [] := by
    refine List.filter_eq_nil_iff.mpr fun piece hpiece => ?_
    simp [isBusy, List.mem_takeWhile_imp hpiece]
  have hsplit := congrArg (List.filter isBusy)
    (List.takeWhile_append_dropWhile (p := isIdle) (l := pieces))
  rwa [List.filter_append, hidle, List.nil_append] at hsplit

/-! ## Parents -/

theorem joinWith_isPrefix (separator : List Char) {front all : List (List Char)}
    (h : front <+: all) : joinWith separator front <+: joinWith separator all := by
  induction front generalizing all with
  | nil => exact List.nil_prefix
  | cons piece front ih =>
      obtain ⟨rest, rfl⟩ := h
      cases front with
      | nil =>
          cases rest with
          | nil => exact List.prefix_rfl
          | cons next rest =>
              show piece <+: piece ++ separator ++ _
              rw [List.append_assoc]
              exact List.prefix_append _ _
      | cons next front =>
          show piece ++ separator ++ _ <+: piece ++ separator ++ _
          rw [List.prefix_append_right_inj]
          exact ih (List.prefix_append _ _)

theorem filter_cutAt_joinWith {pieces : List (List Char)} (h : ∀ piece ∈ pieces, '/' ∉ piece) :
    (cutAt '/' (joinWith ['/'] pieces)).filter isBusy = pieces.filter isBusy := by
  by_cases hne : pieces = []
  · rw [hne]
    rfl
  · rw [cutAt_joinWith hne h]

theorem lead_cases (p : Path) :
    (p.isAbsolute = true ∧ p.lead = ['/'])
      ∨ (p.isAbsolute = false ∧ p.lead = [])
      ∨ (p.isAbsolute = false ∧ p.lead = ['.'] ∧ (p.body = [] ∨ ∃ rest, p.body = '/' :: rest)) := by
  obtain ⟨chars⟩ := p
  unfold body lead
  dsimp only
  split
  · exact .inl ⟨rfl, rfl⟩
  · exact .inr (.inr ⟨rfl, rfl, .inl rfl⟩)
  · exact .inr (.inr ⟨rfl, rfl, .inr ⟨_, rfl⟩⟩)
  · rename_i hslash _ _
    refine .inr (.inl ⟨?_, rfl⟩)
    rw [Bool.eq_false_iff]
    intro habs
    obtain ⟨rest, hrest⟩ := isAbsolute_iff.mp habs
    exact hslash rest hrest

/-- The lead adds no steps to what follows it. -/
theorem steps_lead_append {text : List Char} (h : text <+: p.body) :
    steps ⟨p.lead ++ text⟩ = (cutAt '/' text).filter isBusy := by
  rcases p.lead_cases with ⟨_, hlead⟩ | ⟨_, hlead⟩ | ⟨_, hlead, hbody⟩
  · rw [hlead]
    exact steps_cons_slash text
  · rw [hlead]
    rfl
  · rw [hlead]
    cases text with
    | nil => decide
    | cons c text =>
        -- a dot leads only if nothing or a slash follows it
        obtain rfl : c = '/' := by
          rcases hbody with hbody | ⟨rest, hbody⟩
          · rw [hbody, List.prefix_nil] at h
            cases h
          · rw [hbody, List.cons_prefix_cons] at h
            exact h.1
        show ((cutAt '/' ('.' :: '/' :: text)).filter isBusy) = _
        rw [cutAt_cons (by decide) (cutAt_cons_separator text), cutAt_cons_separator,
          List.filter_cons_of_neg (by decide), List.filter_cons_of_neg (by decide)]

theorem steps_eq (p : Path) : p.steps = (cutAt '/' p.body).filter isBusy := by
  rw [← steps_lead_append List.prefix_rfl, lead_append_body]

theorem isAbsolute_lead_append {text : List Char} (h : text <+: p.body) :
    isAbsolute ⟨p.lead ++ text⟩ = p.isAbsolute := by
  rcases p.lead_cases with ⟨habs, hlead⟩ | ⟨hrel, hlead⟩ | ⟨hrel, hlead, _⟩
  · rw [hlead, habs]
    rfl
  · have hbody := p.lead_append_body
    rw [hlead, List.nil_append] at hbody
    rw [hbody] at h
    cases text with
    | nil => rw [hlead, hrel]; rfl
    | cons c text =>
        obtain ⟨rest, hrest⟩ := h
        rw [hlead, isAbsolute, isAbsolute, ← hrest]
        rfl
  · rw [hlead, hrel]
    rfl

/-- What a parent keeps of the pieces: a beginning of them, without one step. -/
theorem kept_of_parent {all pieces : List (List Char)} {step : List Char}
    (hrow : all.reverse.dropWhile isIdle = step :: pieces) :
    (pieces.dropWhile isIdle).reverse <+: all
      ∧ all.filter isBusy = (pieces.dropWhile isIdle).reverse.filter isBusy ++ [step] := by
  refine ⟨?_, ?_⟩
  · have hpieces : step :: pieces <:+ all.reverse := by
      rw [← hrow]
      exact List.dropWhile_suffix _
    rw [← List.reverse_suffix, List.reverse_reverse]
    exact (List.dropWhile_suffix _).trans ((List.suffix_cons step pieces).trans hpieces)
  · -- the step that is dropped is the first from the right that leads somewhere
    have hbusy : isBusy step = true := by
      have := List.head?_dropWhile_not isIdle all.reverse
      rw [hrow] at this
      simpa [isBusy] using this
    have hreverse : (all.filter isBusy).reverse = step :: pieces.filter isBusy := by
      rw [← List.filter_reverse, ← filter_isBusy_dropWhile, hrow, List.filter_cons_of_pos hbusy]
    rw [List.filter_reverse, filter_isBusy_dropWhile, ← List.reverse_cons, ← hreverse,
      List.reverse_reverse]

/--
**A path with steps has a parent, with all its steps but the last.**

A path without steps has none, unless it is a dot.
-/
theorem parent_cases (p : Path) :
    (p.steps = [] ∧ p.parent? = if p.lead = ['.'] then some ⟨[]⟩ else none)
      ∨ ∃ q step, p.parent? = some q ∧ p.steps = q.steps ++ [step]
        ∧ q.isAbsolute = p.isAbsolute := by
  unfold parent?
  split
  · rename_i hidle
    refine .inl ⟨?_, rfl⟩
    rw [steps_eq, List.filter_eq_nil_iff]
    intro piece hpiece
    have : isIdle piece = true :=
      List.dropWhile_eq_nil_iff.mp hidle piece (List.mem_reverse.mpr hpiece)
    simp [isBusy, this]
  · rename_i step pieces hrow
    obtain ⟨hkept, hfilter⟩ := kept_of_parent hrow
    have hslash : ∀ piece ∈ (pieces.dropWhile isIdle).reverse, '/' ∉ piece :=
      fun piece hpiece => not_mem_of_mem_cutAt piece (hkept.subset hpiece)
    have htext := joinWith_isPrefix ['/'] hkept
    rw [joinWith_cutAt] at htext
    refine .inr ⟨_, step, rfl, ?_, isAbsolute_lead_append htext⟩
    rw [steps_lead_append htext, filter_cutAt_joinWith hslash, steps_eq, hfilter]

theorem exists_parent (h : p.steps ≠ []) :
    ∃ q step, p.parent? = some q ∧ p.steps = q.steps ++ [step]
      ∧ q.isAbsolute = p.isAbsolute :=
  p.parent_cases.resolve_left fun hnone => h hnone.1

theorem lead_of_isAbsolute (habs : p.isAbsolute = true) : p.lead = ['/'] := by
  rcases p.lead_cases with ⟨_, hlead⟩ | ⟨hrel, _⟩ | ⟨hrel, _⟩
  · exact hlead
  · rw [habs] at hrel
    cases hrel
  · rw [habs] at hrel
    cases hrel

/-- What has no parent has no steps. -/
theorem steps_of_parent_none (h : p.parent? = none) : p.steps = [] := by
  rcases p.parent_cases with ⟨hsteps, _⟩ | ⟨q, step, hparent, _⟩
  · exact hsteps
  · rw [h] at hparent
    cases hparent

/-- **The parent of an absolute path has all its steps but the last.** -/
theorem steps_of_parent (habs : p.isAbsolute = true) (h : p.parent? = some q) :
    q.isAbsolute = true ∧ ∃ step, p.steps = q.steps ++ [step] := by
  rcases p.parent_cases with ⟨_, hnone⟩ | ⟨r, step, hparent, hsteps, hr⟩
  · rw [h, lead_of_isAbsolute habs, if_neg (by decide)] at hnone
    cases hnone
  · rw [h] at hparent
    obtain rfl : q = r := Option.some.inj hparent
    exact ⟨hr.trans habs, step, hsteps⟩

/-! ## Ancestors -/

theorem ancestors_of_parent_none (h : p.parent? = none) : p.ancestors = [p] := by
  rw [ancestors]
  split
  · rfl
  · rename_i heq
    rw [h] at heq
    cases heq

theorem ancestors_of_parent (h : p.parent? = some q) : p.ancestors = p :: q.ancestors := by
  rw [ancestors]
  split
  · rename_i heq
    rw [h] at heq
    cases heq
  · rename_i heq
    rw [h] at heq
    rw [Option.some.inj heq]

/-- The steps of the ancestors are the beginnings of the steps, the longest first. -/
theorem steps_ancestors (habs : p.isAbsolute = true) :
    p.ancestors.map steps = p.steps.inits.reverse := by
  induction p using ancestors.induct with
  | case1 p hparent =>
      rw [ancestors_of_parent_none hparent, steps_of_parent_none hparent, List.map_singleton,
        steps_of_parent_none hparent]
      rfl
  | case2 p q hparent ih =>
      obtain ⟨hq, step, hsteps⟩ := steps_of_parent habs hparent
      rw [ancestors_of_parent hparent, List.map_cons, ih hq, hsteps, List.inits_append]
      simp

/-- The ancestors of an absolute path are absolute, and their steps begin its steps. -/
theorem prefix_of_mem_ancestors (habs : p.isAbsolute = true) :
    ∀ q ∈ p.ancestors, q.isAbsolute = true ∧ q.steps <+: p.steps := by
  induction p using ancestors.induct with
  | case1 p hparent =>
      rw [ancestors_of_parent_none hparent, List.forall_mem_singleton]
      exact ⟨habs, List.prefix_rfl⟩
  | case2 p q hparent ih =>
      obtain ⟨hq, step, hsteps⟩ := steps_of_parent habs hparent
      rw [ancestors_of_parent hparent, List.forall_mem_cons]
      refine ⟨⟨habs, List.prefix_rfl⟩, fun r hr => ?_⟩
      obtain ⟨hrabs, hbegins⟩ := ih hq r hr
      exact ⟨hrabs, hbegins.trans (by rw [hsteps]; exact List.prefix_append _ _)⟩

/-- Every beginning of the steps belongs to an ancestor. -/
theorem exists_mem_ancestors (habs : p.isAbsolute = true) {front : List (List Char)}
    (hfront : front <+: p.steps) : ∃ q ∈ p.ancestors, q.steps = front := by
  rw [← List.mem_map, steps_ancestors habs, List.mem_reverse, List.mem_inits]
  exact hfront

/-- Ancestors come with ever fewer steps. -/
theorem pairwise_ancestors (habs : p.isAbsolute = true) :
    p.ancestors.Pairwise fun q r => r.steps.length < q.steps.length := by
  induction p using ancestors.induct with
  | case1 p hparent =>
      rw [ancestors_of_parent_none hparent]
      exact List.pairwise_singleton _ _
  | case2 p q hparent ih =>
      obtain ⟨hq, step, hsteps⟩ := steps_of_parent habs hparent
      rw [ancestors_of_parent hparent, List.pairwise_cons]
      refine ⟨fun r hr => ?_, ih hq⟩
      have hlength := (prefix_of_mem_ancestors hq r hr).2.length_le
      rw [hsteps, List.length_append, List.length_singleton]
      omega

/-! ## Places -/

/-- Where a piece leads from a place. There is nothing above the root. -/
def enter (place : List Name) (piece : List Char) : List Name :=
  if isIdle piece then place else if piece = ['.', '.'] then place.dropLast else place ++ [piece]

/-- The place that pieces lead to from the root. -/
def placeOf (pieces : List (List Char)) : List Name := pieces.foldl enter []

/-- The place that an absolute path denotes, whatever lies there. -/
def place (p : Path) : List Name := placeOf (cutAt '/' p.chars)

theorem foldl_enter_filter (place : List Name) (pieces : List (List Char)) :
    (pieces.filter isBusy).foldl enter place = pieces.foldl enter place := by
  induction pieces generalizing place with
  | nil => rfl
  | cons piece pieces ih =>
      by_cases hidle : isIdle piece = true
      · rw [List.filter_cons_of_neg (by simp [isBusy, hidle]), ih, List.foldl_cons, enter,
          if_pos hidle]
      · rw [List.filter_cons_of_pos (by simp [isBusy, hidle]), List.foldl_cons, ih, List.foldl_cons]

theorem placeOf_steps (p : Path) : placeOf p.steps = p.place := foldl_enter_filter [] _

/-- A name: a piece that leads into a directory. -/
def IsName (piece : List Char) : Prop := isBusy piece = true ∧ piece ≠ ['.', '.']

theorem enter_name {piece : List Char} (h : IsName piece) (place : List Name) :
    enter place piece = place ++ [piece] := by
  have hbusy : isIdle piece = false := by simpa [isBusy] using h.1
  rw [enter, hbusy, if_neg Bool.false_ne_true, if_neg h.2]

/-- Entering names piles them up. -/
theorem foldl_enter_names {names : List (List Char)} (h : ∀ name ∈ names, IsName name)
    (place : List Name) : names.foldl enter place = place ++ names := by
  induction names generalizing place with
  | nil => rw [List.foldl_nil, List.append_nil]
  | cons name names ih =>
      rw [List.forall_mem_cons] at h
      rw [List.foldl_cons, enter_name h.1, ih h.2, List.append_assoc, List.singleton_append]

theorem length_enter_le (place : List Name) (piece : List Char) :
    (enter place piece).length ≤ place.length + 1 := by
  unfold enter
  split
  · omega
  · split
    · rw [List.length_dropLast]
      omega
    · rw [List.length_append, List.length_singleton]

theorem isName_of_mem_enter {place : List Name} (h : ∀ name ∈ place, IsName name)
    (piece : List Char) : ∀ name ∈ enter place piece, IsName name := by
  intro name hname
  unfold enter at hname
  split at hname
  · exact h name hname
  · rename_i hidle
    split at hname
    · exact h name (List.dropLast_subset _ hname)
    · rename_i hup
      rcases List.mem_append.mp hname with hname | hname
      · exact h name hname
      · rw [List.mem_singleton.mp hname]
        exact ⟨by simpa [isBusy] using hidle, hup⟩

theorem isName_of_mem_foldl_enter (pieces : List (List Char)) {place : List Name}
    (h : ∀ name ∈ place, IsName name) : ∀ name ∈ pieces.foldl enter place, IsName name := by
  induction pieces generalizing place with
  | nil => exact h
  | cons piece pieces ih => exact ih (isName_of_mem_enter h piece)

/-- A place is made of names. -/
theorem isName_of_mem_placeOf (pieces : List (List Char)) :
    ∀ name ∈ placeOf pieces, IsName name :=
  isName_of_mem_foldl_enter pieces fun _ h => absurd h List.not_mem_nil

theorem placeOf_append (front rest : List (List Char)) :
    placeOf (front ++ rest) = rest.foldl enter (placeOf front) := List.foldl_append

/-- A place leads to itself. -/
theorem placeOf_placeOf (pieces : List (List Char)) : placeOf (placeOf pieces) = placeOf pieces :=
  (foldl_enter_names (isName_of_mem_placeOf pieces) []).trans (List.nil_append _)

/-! ## Joining -/

/-- What is put into a directory follows the pieces of the directory. -/
theorem cutAt_join {r : Path} (hp : p.isAbsolute = true) (hr : r.isAbsolute = false) :
    ∃ front, cutAt '/' (p.join r).chars = front ++ cutAt '/' r.chars
      ∧ front.filter isBusy = p.steps := by
  obtain ⟨rest, hrest⟩ := isAbsolute_iff.mp hp
  have hne : p.chars ≠ [] := by rw [hrest]; exact List.cons_ne_nil _ _
  rw [join, hr, if_neg Bool.false_ne_true]
  split
  · rename_i hend
    -- the slash is there already
    obtain ⟨front, hfront⟩ : ∃ front, p.chars = front ++ ['/'] := by
      refine ⟨p.chars.dropLast, ?_⟩
      have hlast := hend.resolve_left hne
      rw [List.getLast?_eq_some_getLast hne, Option.some.injEq] at hlast
      rw [← hlast, List.dropLast_concat_getLast hne]
    refine ⟨cutAt '/' front, ?_, ?_⟩
    · rw [hfront, List.append_assoc, List.singleton_append, cutAt_append_separator]
    · rw [steps, hfront, cutAt_append_separator, List.filter_append]
      simp [cutAt, cutWhere, isBusy, isIdle]
  · exact ⟨cutAt '/' p.chars, by rw [cutAt_append_separator], rfl⟩

theorem steps_join {r : Path} (hp : p.isAbsolute = true) (hr : r.isAbsolute = false) :
    (p.join r).steps = p.steps ++ r.steps := by
  obtain ⟨front, hcut, hfront⟩ := cutAt_join hp hr
  rw [steps, hcut, List.filter_append, hfront, steps, steps]

theorem isAbsolute_join {r : Path} (hp : p.isAbsolute = true) : (p.join r).isAbsolute = true := by
  obtain ⟨rest, hrest⟩ := isAbsolute_iff.mp hp
  unfold join
  split
  · rename_i habs
    exact habs
  · split
    · exact isAbsolute_iff.mpr ⟨_, by rw [hrest]; rfl⟩
    · exact isAbsolute_iff.mpr ⟨_, by rw [hrest]; rfl⟩

end Path

/-- The pieces that lead to a file of a package, through those that lead to a directory. -/
def packagePieces (directory : List (List Char)) (specifier : Path) : List (List Char) :=
  directory ++ packagesName.chars :: cutAt '/' specifier.chars

/-- The pieces of a path where a file of a package may be. -/
theorem cutAt_packagePath {directory specifier : Path} (hdirectory : directory.isAbsolute = true)
    (hspecifier : specifier.isAbsolute = false) :
    ∃ front, cutAt '/' ((directory.join packagesName).join specifier).chars
        = packagePieces front specifier
      ∧ front.filter Path.isBusy = directory.steps := by
  obtain ⟨front, hcut, hfront⟩ :=
    Path.cutAt_join hdirectory (show packagesName.isAbsolute = false from rfl)
  rw [show cutAt '/' packagesName.chars = [packagesName.chars] by decide] at hcut
  refine ⟨front, ?_, hfront⟩
  -- the directory of packages is written without a slash at its end
  obtain ⟨text, htext⟩ : ∃ text, (directory.join packagesName).chars = text ++ ['s'] := by
    rw [Path.join, show packagesName.isAbsolute = false from rfl, if_neg Bool.false_ne_true]
    split
    · exact ⟨directory.chars ++ packagesName.chars.dropLast, by simp [packagesName]⟩
    · exact ⟨directory.chars ++ '/' :: packagesName.chars.dropLast, by simp [packagesName]⟩
  have hopen : ¬ ((directory.join packagesName).chars = []
      ∨ (directory.join packagesName).chars.getLast? = some '/') := by
    rw [htext]
    simp
  rw [Path.join.eq_def (directory.join packagesName), hspecifier, if_neg Bool.false_ne_true,
    if_neg hopen, cutAt_append_separator, hcut, List.append_assoc, List.singleton_append,
    packagePieces]

/-- The directory of an importing file is absolute, unless that file is the root. -/
theorem isAbsolute_baseOf {caller workingDirectory : Path}
    (hcwd : workingDirectory.isAbsolute = true)
    (hcaller : caller.isAbsolute = true → caller.parent? ≠ none) :
    (baseOf caller workingDirectory).isAbsolute = true := by
  unfold baseOf
  dsimp only
  split
  · rename_i habs
    obtain ⟨directory, hparent⟩ := Option.ne_none_iff_exists'.mp (hcaller habs)
    rw [hparent]
    exact (Path.steps_of_parent habs hparent).1
  · exact Path.isAbsolute_join hcwd

end StyleLookup.Files
