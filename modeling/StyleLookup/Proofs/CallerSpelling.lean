import StyleLookup.Proofs.Acceptance
import StyleLookup.Proofs.PackageChain

/-!
# How an importing file is written

An importing file may be given relative to the working directory, or as a path from the root that
the working directory is already part of. The directory of the one is the working directory with a
parent put into it, that of the other the parent of a path, and the two need not be the same text:
`/app/./` and `/app` come from `x.js` in `/app/.`. They have the same steps (`steps_baseOf_join`),
and nothing that is asked or answered later depends on more. The candidates of the search are
made from the beginnings of the steps (`ofSpecifier_alike`), so for a file system that goes by
**components** both searches stop at the same place (`find?_alike`).

The importing file needs a name. The directory of the file `.` is the working directory, but the
parent of the path that it is in the working directory is one step further up.

A tree goes by components for all paths that are asked for here (`FileTree.fileSystem_agreesOn`). It
does not for all paths there are: a slash at the end of a path wants a directory.
-/

namespace StyleLookup.Files

open Text Files.Path

namespace Path

variable {p q : Path}

/-! ## Components -/

/-- What a path leads with, if that is anything, and its steps. -/
def components (p : Path) : List (List Char) :=
  if p.lead = [] then p.steps else p.lead :: p.steps

example : components (ofText "./a//../b/.") = [['.'], ['a'], ['.', '.'], ['b']] := by decide

theorem components_of_isAbsolute (habs : p.isAbsolute = true) : p.components = ['/'] :: p.steps := by
  rw [components, lead_of_isAbsolute habs, if_neg (by decide)]

theorem components_eq_iff (hp : p.isAbsolute = true) (hq : q.isAbsolute = true) :
    p.components = q.components ↔ p.steps = q.steps := by
  rw [components_of_isAbsolute hp, components_of_isAbsolute hq, List.cons.injEq]
  exact and_iff_right rfl

/-- The last component of a path names something in a directory. -/
def HasFileName (p : Path) : Prop :=
  ∃ name ∈ p.components.getLast?, name ≠ ['.'] ∧ name ≠ ['.', '.']

theorem HasFileName.steps_ne_nil (h : p.HasFileName) (hrel : p.isAbsolute = false) :
    p.steps ≠ [] := by
  intro hsteps
  obtain ⟨name, hname, hdot, _⟩ := h
  rw [components, hsteps] at hname
  rcases p.lead_cases with ⟨habs, _⟩ | ⟨_, hlead⟩ | ⟨_, hlead, _⟩
  · rw [habs] at hrel
    cases hrel
  · rw [hlead, if_pos rfl] at hname
    cases hname
  · rw [hlead, if_neg (by decide)] at hname
    exact hdot (Option.some.inj hname).symm

end Path

/-! ## The directory of an importing file -/

theorem baseOf_of_isAbsolute {caller directory : Path} (habs : caller.isAbsolute = true)
    (hparent : caller.parent? = some directory) (workingDirectory : Path) :
    baseOf caller workingDirectory = directory := by
  rw [baseOf, hparent, Option.getD_some, if_pos habs]

theorem baseOf_of_relative {caller directory : Path} (hrel : caller.isAbsolute = false)
    (hparent : caller.parent? = some directory) (workingDirectory : Path) :
    baseOf caller workingDirectory = workingDirectory.join directory := by
  rw [baseOf, hparent, Option.getD_some, hrel, if_neg Bool.false_ne_true]

/-- **However it is written, an importing file lies in a directory with the same steps.** -/
theorem steps_baseOf_join {caller workingDirectory : Path}
    (hcwd : workingDirectory.isAbsolute = true) (hrel : caller.isAbsolute = false)
    (hsteps : caller.steps ≠ []) (elsewhere : Path) :
    (baseOf caller workingDirectory).isAbsolute = true
      ∧ (baseOf (workingDirectory.join caller) elsewhere).isAbsolute = true
      ∧ (baseOf caller workingDirectory).steps
        = (baseOf (workingDirectory.join caller) elsewhere).steps := by
  have habs : (workingDirectory.join caller).isAbsolute = true := isAbsolute_join hcwd
  have hjoin : (workingDirectory.join caller).steps = workingDirectory.steps ++ caller.steps :=
    steps_join hcwd hrel
  obtain ⟨directory, step, hparent, hcaller, hdirectory⟩ := exists_parent hsteps
  have hne : (workingDirectory.join caller).steps ≠ [] := by
    rw [hjoin]
    exact List.append_ne_nil_of_right_ne_nil _ hsteps
  obtain ⟨directory', step', hparent', hcaller', hdirectory'⟩ := exists_parent hne
  rw [baseOf_of_relative hrel hparent, baseOf_of_isAbsolute habs hparent']
  refine ⟨isAbsolute_join hcwd, hdirectory'.trans habs, ?_⟩
  rw [hjoin, hcaller, ← List.append_assoc] at hcaller'
  rw [steps_join hcwd (hdirectory.trans hrel)]
  exact (List.append_inj' hcaller' rfl).1

/-! ## What is asked for -/

/-- The paths that may be asked for. -/
def Target.paths : Target → List Path
  | .path p => [p]
  | .package ps => ps

/-- How a specifier is resolved shows from the specifier alone. -/
theorem ofSpecifier_cases (specifier : String) :
    ((ofText specifier).isAbsolute = true
        ∧ ∀ base, Target.ofSpecifier base specifier = .path (ofText specifier))
      ∨ ((ofText specifier).isAbsolute = false
        ∧ ∀ base, Target.ofSpecifier base specifier = .path (base.join (ofText specifier)))
      ∨ ((ofText specifier).isAbsolute = false
        ∧ ∀ base, Target.ofSpecifier base specifier
          = .package (packagePaths base (ofText specifier))) := by
  unfold Target.ofSpecifier
  dsimp only
  by_cases habs : (ofText specifier).isAbsolute = true
  · exact .inl ⟨habs, fun base => if_pos habs⟩
  have hrel : (ofText specifier).isAbsolute = false := Bool.eq_false_iff.mpr habs
  by_cases hdot : (ofText specifier).chars.head? = some '.'
  · refine .inr (.inl ⟨hrel, ?_⟩)
    intro base
    rw [if_neg habs, if_pos hdot]
  · refine .inr (.inr ⟨hrel, ?_⟩)
    intro base
    rw [if_neg habs, if_neg hdot]

/-- Two targets ask for the same components, in the same order. -/
inductive Target.Alike : Target → Target → Prop where
  | path {p q : Path} (h : p.components = q.components) : Alike (.path p) (.path q)
  | package {ps qs : List Path} (h : ps.map components = qs.map components) :
      Alike (.package ps) (.package qs)

section Search

variable {files : FileSystem} {base base' : Path} {specifier : String}

theorem components_packagePath {directory path : Path} (hdirectory : directory.isAbsolute = true)
    (hpath : path.isAbsolute = false) :
    ((directory.join packagesName).join path).components
      = ['/'] :: (directory.steps ++ packagesName.steps ++ path.steps) := by
  have hpackages : (directory.join packagesName).isAbsolute = true := isAbsolute_join hdirectory
  rw [components_of_isAbsolute (isAbsolute_join hpackages), steps_join hpackages hpath,
    steps_join hdirectory (by decide)]

/-- The candidates for a file of a package are made from the beginnings of the steps. -/
theorem components_packagePaths {path : Path} (hbase : base.isAbsolute = true)
    (hpath : path.isAbsolute = false) :
    (packagePaths base path).map components
      = base.steps.inits.reverse.map fun front =>
        ['/'] :: (front ++ packagesName.steps ++ path.steps) := by
  rw [packagePaths, ← steps_ancestors hbase, List.map_map, List.map_map]
  refine List.map_congr_left fun directory hdirectory => ?_
  exact components_packagePath (prefix_of_mem_ancestors hbase directory hdirectory).1 hpath

/-- From directories with the same steps, a specifier asks for the same components. -/
theorem ofSpecifier_alike (hbase : base.isAbsolute = true) (hbase' : base'.isAbsolute = true)
    (hsteps : base.steps = base'.steps) (specifier : String) :
    (Target.ofSpecifier base specifier).Alike (Target.ofSpecifier base' specifier) := by
  rcases ofSpecifier_cases specifier with ⟨_, htarget⟩ | ⟨hrel, htarget⟩ | ⟨hrel, htarget⟩
  · rw [htarget, htarget]
    exact .path rfl
  · rw [htarget, htarget]
    refine .path ?_
    rw [components_eq_iff (isAbsolute_join hbase) (isAbsolute_join hbase'), steps_join hbase hrel,
      steps_join hbase' hrel, hsteps]
  · rw [htarget, htarget]
    refine .package ?_
    rw [components_packagePaths hbase hrel, components_packagePaths hbase' hrel, hsteps]

/-! ## The same answers -/

/-- Where paths of the two lists have the same components, they denote the same file. -/
def FileSystem.AgreesOn (files : FileSystem) (ps qs : List Path) : Prop :=
  ∀ p ∈ ps, ∀ q ∈ qs, p.components = q.components →
    files.isFile p = files.isFile q ∧ files.read p = files.read q

/-- Searches through candidates with the same components stop at the same candidate. -/
theorem find?_alike {ps qs : List Path} (h : ps.map components = qs.map components)
    (hfiles : files.AgreesOn ps qs) :
    (∃ p ∈ ps, ∃ q ∈ qs, ps.find? files.isFile = some p ∧ qs.find? files.isFile = some q
        ∧ p.components = q.components)
      ∨ (ps.find? files.isFile = none ∧ qs.find? files.isFile = none) := by
  induction ps generalizing qs with
  | nil =>
      rw [List.map_nil, eq_comm, List.map_eq_nil_iff] at h
      rw [h]
      exact .inr ⟨rfl, rfl⟩
  | cons p ps ih =>
      obtain ⟨q, qs, rfl⟩ : ∃ q qs', qs = q :: qs' := by
        cases qs with
        | nil => cases h
        | cons q qs => exact ⟨q, qs, rfl⟩
      rw [List.map_cons, List.map_cons, List.cons.injEq] at h
      obtain ⟨hhead, htail⟩ := h
      have hsame := (hfiles p List.mem_cons_self q List.mem_cons_self hhead).1
      rw [List.find?_cons, List.find?_cons, ← hsame]
      by_cases hfile : files.isFile p = true
      · rw [hfile]
        exact .inl ⟨p, List.mem_cons_self, q, List.mem_cons_self, rfl, rfl, hhead⟩
      · rw [Bool.eq_false_iff.mpr hfile]
        rcases ih htail fun r hr s hs =>
            hfiles r (List.mem_cons_of_mem _ hr) s (List.mem_cons_of_mem _ hs) with
          ⟨r, hr, s, hs, hfound, hfound', hcomponents⟩ | hnone
        · exact .inl ⟨r, List.mem_cons_of_mem _ hr, s, List.mem_cons_of_mem _ hs, hfound, hfound',
            hcomponents⟩
        · exact .inr hnone

/-- From directories with the same steps, a specifier leads to the same file or to none. -/
theorem locate_alike (hbase : base.isAbsolute = true) (hbase' : base'.isAbsolute = true)
    (hsteps : base.steps = base'.steps)
    (hfiles : files.AgreesOn (Target.ofSpecifier base specifier).paths
      (Target.ofSpecifier base' specifier).paths) :
    (∃ found found', locate files base specifier = .ok found
        ∧ locate files base' specifier = .ok found'
        ∧ found.components = found'.components ∧ files.read found = files.read found')
      ∨ (locate files base specifier = .error (.packageNotFound specifier base)
        ∧ locate files base' specifier = .error (.packageNotFound specifier base')) := by
  have halike := ofSpecifier_alike hbase hbase' hsteps specifier
  unfold locate
  generalize Target.ofSpecifier base specifier = target at halike hfiles ⊢
  generalize Target.ofSpecifier base' specifier = target' at halike hfiles ⊢
  cases halike with
  | @path p q h =>
      have hsame := hfiles p (List.mem_singleton.mpr rfl) q (List.mem_singleton.mpr rfl) h
      exact .inl ⟨p, q, rfl, rfl, h, hsame.2⟩
  | @package ps qs h =>
      dsimp only
      rcases find?_alike h hfiles with
        ⟨p, hp, q, hq, hfound, hfound', hcomponents⟩ | ⟨hnone, hnone'⟩
      · rw [hfound, hfound']
        exact .inl ⟨p, q, rfl, rfl, hcomponents, (hfiles p hp q hq hcomponents).2⟩
      · rw [hnone, hnone']
        exact .inr ⟨rfl, rfl⟩

end Search

/-! ## The same outcome -/

/-- Faults that differ only in how a path is written. -/
inductive LoadFault.Alike : LoadFault → LoadFault → Prop where
  | packageNotFound {specifier : String} {base base' : Path}
      (h : base.components = base'.components) :
      Alike (.packageNotFound specifier base) (.packageNotFound specifier base')
  | unreadable {p q : Path} {fault : ReadFault} (h : p.components = q.components) :
      Alike (.unreadable p fault) (.unreadable q fault)
  | faulty {p q : Path} {cause : Css.Cause} {location : Text.Location}
      (h : p.components = q.components) :
      Alike (.faulty ⟨cause, p.text, location⟩) (.faulty ⟨cause, q.text, location⟩)

/-- Outcomes of loading that differ only in how a path is written. -/
inductive LoadsAlike : Except LoadFault Css.Stylesheet → Except LoadFault Css.Stylesheet → Prop where
  | ok {p q : Path} {sheet : Css.Stylesheet} (h : p.components = q.components) :
      LoadsAlike (.ok { sheet with source := p.text }) (.ok { sheet with source := q.text })
  | error {fault fault' : LoadFault} (h : fault.Alike fault') :
      LoadsAlike (.error fault) (.error fault')

theorem load_alike {files : FileSystem} {p q : Path} (h : p.components = q.components)
    (hread : files.read p = files.read q) : LoadsAlike (load files p) (load files q) := by
  unfold load
  rw [← hread]
  cases files.read p with
  | error fault => exact .error (.unreadable h)
  | ok text =>
      dsimp only
      rw [Css.parse_renamed text "" p.text, Css.parse_renamed text "" q.text]
      cases Css.Stylesheet.parse text "" with
      | error e => exact .error (.faulty h)
      | ok sheet => exact .ok h

/-! ## Trees -/

namespace FileTree

variable {t : FileTree}

/-- Where paths end in the same pieces and have the same steps, a walk leads to the same. -/
theorem walk_eq_of_steps_eq {p q : Path} {ending : List (List Char)} (hne : ending ≠ [])
    (hp : ending <:+ cutAt '/' p.chars) (hq : ending <:+ cutAt '/' q.chars)
    (hsteps : p.steps = q.steps) :
    t.walk [] (cutAt '/' p.chars) = t.walk [] (cutAt '/' q.chars) := by
  obtain ⟨front, hp⟩ := hp
  obtain ⟨front', hq⟩ := hq
  rw [steps, steps, ← hp, ← hq, List.filter_append, List.filter_append,
    List.append_left_inj] at hsteps
  rw [← hp, ← hq, ← walk_filter_append front hne, ← walk_filter_append front' hne, hsteps]

end FileTree

/-- What a specifier asks for ends in its pieces. -/
theorem suffix_of_mem_paths {base : Path} {specifier : String} (hbase : base.isAbsolute = true) :
    ∀ p ∈ (Target.ofSpecifier base specifier).paths, p.isAbsolute = true
      ∧ cutAt '/' specifier.toList <:+ cutAt '/' p.chars := by
  rcases ofSpecifier_cases specifier with ⟨habs, htarget⟩ | ⟨hrel, htarget⟩ | ⟨hrel, htarget⟩
  · rw [htarget, Target.paths, List.forall_mem_singleton]
    exact ⟨habs, List.suffix_rfl⟩
  · rw [htarget, Target.paths, List.forall_mem_singleton]
    obtain ⟨front, hcut, _⟩ := cutAt_join hbase hrel
    exact ⟨isAbsolute_join hbase, front, hcut.symm⟩
  · rw [htarget, Target.paths, packagePaths, List.forall_mem_map]
    intro directory hdirectory
    have hdirectoryAbs := (prefix_of_mem_ancestors hbase directory hdirectory).1
    obtain ⟨front, hcut, _⟩ := cutAt_packagePath hdirectoryAbs hrel
    refine ⟨isAbsolute_join (isAbsolute_join hdirectoryAbs), front ++ [packagesName.chars], ?_⟩
    rw [hcut, packagePieces, List.append_assoc, List.singleton_append]
    rfl

/-- A tree goes by components for all that a specifier asks for and that is not too long. -/
theorem FileTree.fileSystem_agreesOn (t : FileTree) {base base' : Path} {specifier : String}
    (hbase : base.isAbsolute = true) (hbase' : base'.isAbsolute = true)
    (hfits : ∀ p ∈ (Target.ofSpecifier base specifier).paths
        ++ (Target.ofSpecifier base' specifier).paths,
      '\x00' ∉ p.chars ∧ byteLength p.chars ≤ pathLimit) :
    t.fileSystem.AgreesOn (Target.ofSpecifier base specifier).paths
      (Target.ofSpecifier base' specifier).paths := by
  intro p hp q hq hcomponents
  obtain ⟨hpabs, hpends⟩ := suffix_of_mem_paths hbase p hp
  obtain ⟨hqabs, hqends⟩ := suffix_of_mem_paths hbase' q hq
  obtain ⟨hpnul, hplength⟩ := hfits p (List.mem_append_left _ hp)
  obtain ⟨hqnul, hqlength⟩ := hfits q (List.mem_append_right _ hq)
  have hentry : t.entryOf p = t.entryOf q := by
    rw [entryOf_of_isAbsolute hpabs hpnul hplength, entryOf_of_isAbsolute hqabs hqnul hqlength]
    exact walk_eq_of_steps_eq (cutWhere_ne_nil _ _) hpends hqends
      ((components_eq_iff hpabs hqabs).mp hcomponents)
  refine ⟨?_, ?_⟩
  · show t.isFile p = t.isFile q
    rw [isFile, isFile, hentry]
  · show t.read p = t.read q
    rw [FileTree.read, FileTree.read, hentry]

/-! ## Importing files -/

/--
**A relative importing file is only another way to write the file from the root.**

Let a relative importing file have a name. Resolved from there, and from the file put into the
working directory, a specifier leads to paths with the same components, or both fail to find a
package. So the same file is loaded, up to how paths are written. Where the importing file is
written from the root, the working directory does not matter.
-/
theorem loadImport_join_caller {files : FileSystem} {caller workingDirectory elsewhere : Path}
    {specifier : String} (hcwd : workingDirectory.isAbsolute = true)
    (hrel : caller.isAbsolute = false) (hname : caller.HasFileName)
    (hfiles : files.AgreesOn (Target.ofSpecifier (baseOf caller workingDirectory) specifier).paths
      (Target.ofSpecifier (baseOf (workingDirectory.join caller) elsewhere) specifier).paths) :
    let base := baseOf caller workingDirectory
    let base' := baseOf (workingDirectory.join caller) elsewhere
    ((∃ found found', locate files base specifier = .ok found
          ∧ locate files base' specifier = .ok found'
          ∧ found.components = found'.components ∧ files.read found = files.read found')
        ∨ (locate files base specifier = .error (.packageNotFound specifier base)
          ∧ locate files base' specifier = .error (.packageNotFound specifier base')
          ∧ base.components = base'.components))
      ∧ LoadsAlike (loadImport files caller specifier workingDirectory)
        (loadImport files (workingDirectory.join caller) specifier elsewhere)
      ∧ ∀ other, baseOf (workingDirectory.join caller) other = base'
        ∧ loadImport files (workingDirectory.join caller) specifier other
          = loadImport files (workingDirectory.join caller) specifier elsewhere := by
  intro base base'
  obtain ⟨hbase, hbase', hsteps⟩ :=
    steps_baseOf_join hcwd hrel (hname.steps_ne_nil hrel) elsewhere
  have hcomponents : base.components = base'.components :=
    (components_eq_iff hbase hbase').mpr hsteps
  have hother : ∀ other, baseOf (workingDirectory.join caller) other = base' := by
    intro other
    have habs : (workingDirectory.join caller).isAbsolute = true := isAbsolute_join hcwd
    show baseOf _ _ = baseOf _ _
    unfold baseOf
    rw [if_pos habs, if_pos habs]
  refine ⟨?_, ?_, fun other => ⟨hother other, ?_⟩⟩
  · rcases locate_alike hbase hbase' hsteps hfiles with hfound | ⟨hnone, hnone'⟩
    · exact .inl hfound
    · exact .inr ⟨hnone, hnone', hcomponents⟩
  · unfold loadImport
    rcases locate_alike hbase hbase' hsteps hfiles with
      ⟨found, found', hfound, hfound', hsame, hread⟩ | ⟨hnone, hnone'⟩
    · rw [hfound, hfound']
      exact load_alike hsame hread
    · rw [hnone, hnone']
      exact .error (.packageNotFound hcomponents)
  · rw [loadImport, loadImport, hother other]

/-- The file `x.js` of `/app/.`: the search starts from `/app/./` and from `/app`. -/
theorem loadImport_join_caller_dotted :
    let t : FileTree := ⟨[
      (["app", "node_modules", "kit", "k.css"].map String.toList, .file default),
      (["app", "x.js"].map String.toList, .file default)], []⟩
    let caller := Path.ofText "x.js"
    let workingDirectory := Path.ofText "/app/."
    let elsewhere := Path.ofText "srv"
    locate t.fileSystem (baseOf caller workingDirectory) "kit/k.css"
        = .ok (.ofText "/app/./node_modules/kit/k.css")
      ∧ locate t.fileSystem (baseOf (workingDirectory.join caller) elsewhere) "kit/k.css"
        = .ok (.ofText "/app/node_modules/kit/k.css")
      ∧ LoadsAlike (loadImport t.fileSystem caller "kit/k.css" workingDirectory)
        (loadImport t.fileSystem (workingDirectory.join caller) "kit/k.css" elsewhere) := by
  intro t caller workingDirectory elsewhere
  refine ⟨by decide +kernel, by decide +kernel, ?_⟩
  have hname : caller.HasFileName := ⟨"x.js".toList, by decide, by decide, by decide⟩
  exact (loadImport_join_caller (by decide) (by decide) hname
    (t.fileSystem_agreesOn (by decide) (by decide) (by decide +kernel))).2.1

example : (baseOf (.ofText ".") (.ofText "/app")).components = [['/'], ['a', 'p', 'p']]
    ∧ (baseOf ((Path.ofText "/app").join (.ofText ".")) (.ofText "/")).components = [['/']] := by
  decide

end StyleLookup.Files
