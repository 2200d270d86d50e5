import StyleLookup.Proofs.PathSteps

/-!
# Where packages are found

A package is searched in the directory of the importing file and in the directories above it. The
search goes by the text of a path, from which it takes away one step after the other
(`locate_steps`), while the directories above a place are the beginnings of the place. The two are
the same search as long as the path **keeps to the chain** of the directory that it denotes: at no
step does it stand in a directory that is not above that one. Then the nearest file is found, and
only a file of the chain (`locate_nearest`). A path without steps up keeps to its chain.

What is nearer on the chain could be missed all the same if the text of the path led through
directories that do not exist. It is not, because to stand in the nearer directory all directories
above it must be there, and those are all that the path leads through
(`FileTree.exists_walk_of_stands`).

In a path that leaves the chain, the search comes through directories that have nothing to do with
the importing file, and finds what they hold (`locate_beside_chain`).
-/

namespace StyleLookup.Files

open Text Files.Path

namespace FileTree

variable {t : FileTree}

/-! ## Walking in two parts -/

theorem walk_append (front : List (List Char)) {rest : List (List Char)} (hne : rest ≠ [])
    (place : List Name) :
    t.walk place (front ++ rest) = match t.walk place front with
      | .ok .directory => t.walk (front.foldl enter place) rest
      | .ok (.file _) => .error .notDirectory
      | .error fault => .error fault := by
  induction front generalizing place with
  | nil => rw [walk, List.nil_append, List.foldl_nil]
  | cons piece front ih =>
      rw [List.cons_append, walk, walk, List.foldl_cons, enter]
      by_cases hidle : isIdle piece = true
      · rw [if_pos hidle, if_pos hidle, if_pos hidle]
        exact ih place
      rw [if_neg hidle, if_neg hidle, if_neg hidle]
      by_cases hup : piece = ['.', '.']
      · rw [if_pos hup, if_pos hup, if_pos hup]
        exact ih place.dropLast
      rw [if_neg hup, if_neg hup, if_neg hup]
      by_cases hlong : nameLimit < byteLength piece
      · rw [if_pos hlong, if_pos hlong]
      rw [if_neg hlong, if_neg hlong]
      cases t.entryAt (place ++ [piece]) with
      | none => rfl
      | some entry =>
          cases entry with
          | directory => exact ih (place ++ [piece])
          | file content =>
              have hmore : (front ++ rest).isEmpty = false := by simp [hne]
              dsimp only
              rw [hmore, if_neg Bool.false_ne_true]
              cases front <;> rfl

theorem walk_append_eq_ok_iff {front rest : List (List Char)} (hne : rest ≠ [])
    {place : List Name} {entry : Entry} :
    t.walk place (front ++ rest) = .ok entry
      ↔ t.walk place front = .ok .directory
        ∧ t.walk (front.foldl enter place) rest = .ok entry := by
  rw [walk_append front hne]
  split
  · rename_i h
    rw [h]
    exact (and_iff_right rfl).symm
  · rename_i h
    rw [h]
    exact ⟨fun h => (by cases h), fun h => (by cases h.1)⟩
  · rename_i h
    rw [h]
    exact ⟨fun h => (by cases h), fun h => (by cases h.1)⟩

/-- A walk to a directory passes directories. -/
theorem walk_append_eq_directory_iff {front rest : List (List Char)} {place : List Name} :
    t.walk place (front ++ rest) = .ok .directory
      ↔ t.walk place front = .ok .directory
        ∧ t.walk (front.foldl enter place) rest = .ok .directory := by
  by_cases hne : rest = []
  · rw [hne, List.append_nil, walk]
    exact (and_iff_left rfl).symm
  · exact walk_append_eq_ok_iff hne

/-- A walk leads to a file. -/
def LeadsToFile (t : FileTree) (place : List Name) (pieces : List (List Char)) : Prop :=
  ∃ content, t.walk place pieces = .ok (.file content)

/-- A walk to a file passes directories. -/
theorem leadsToFile_append_iff {front rest : List (List Char)} (hne : rest ≠ [])
    {place : List Name} :
    t.LeadsToFile place (front ++ rest)
      ↔ t.walk place front = .ok .directory
        ∧ t.LeadsToFile (front.foldl enter place) rest := by
  simp only [LeadsToFile, walk_append_eq_ok_iff hne, exists_and_left]

/-- Pieces that lead nowhere do not matter in front of others. -/
theorem walk_filter_append (front : List (List Char)) {rest : List (List Char)} (hne : rest ≠ [])
    (place : List Name) :
    t.walk place (front.filter isBusy ++ rest) = t.walk place (front ++ rest) := by
  induction front generalizing place with
  | nil => rfl
  | cons piece front ih =>
      by_cases hidle : isIdle piece = true
      · rw [List.filter_cons_of_neg (by simp [isBusy, hidle]), List.cons_append, walk,
          if_pos hidle, ih]
      rw [List.filter_cons_of_pos (by simp [isBusy, hidle]), List.cons_append, List.cons_append,
        walk, walk]
      have hleft : (front.filter isBusy ++ rest).isEmpty = false := by simp [hne]
      have hright : (front ++ rest).isEmpty = false := by simp [hne]
      rw [hleft, hright]
      simp only [ih]

/-! ## Directories that stand -/

/-- The directory at a place is there, and so are all above it. -/
def Stands (t : FileTree) (place : List Name) : Prop := t.walk [] place = .ok .directory

theorem Stands.of_prefix {place longer : List Name} (h : t.Stands longer)
    (hbegins : place <+: longer) : t.Stands place := by
  obtain ⟨rest, rfl⟩ := hbegins
  exact (walk_append_eq_directory_iff.mp h).1

/-- Walking on from a directory that stands. -/
theorem Stands.append_iff {place : List Name} (h : t.Stands place)
    (hnames : ∀ name ∈ place, IsName name) {rest : List (List Char)} :
    t.walk [] (place ++ rest) = .ok .directory ↔ t.walk place rest = .ok .directory := by
  rw [walk_append_eq_directory_iff, foldl_enter_names hnames, List.nil_append]
  exact and_iff_right h

/-- One step from a directory that stands leads to one that does. -/
theorem Stands.step {place : List Name} {piece : List Char} (h : t.Stands place)
    (hnames : ∀ name ∈ place, IsName name) (hpiece : t.walk place [piece] = .ok .directory) :
    t.Stands (enter place piece) := by
  unfold enter
  split
  · exact h
  · split
    · exact h.of_prefix (List.dropLast_prefix _)
    · exact (h.append_iff hnames).mpr hpiece

theorem Stands.run (pieces : List (List Char)) {place : List Name} (h : t.Stands place)
    (hnames : ∀ name ∈ place, IsName name) (hwalk : t.walk place pieces = .ok .directory) :
    t.Stands (pieces.foldl enter place) := by
  induction pieces generalizing place with
  | nil => exact h
  | cons piece pieces ih =>
      rw [← List.singleton_append, walk_append_eq_directory_iff] at hwalk
      exact ih (h.step hnames hwalk.1) (isName_of_mem_enter hnames piece) hwalk.2

/-- **A walk ends in a directory that stands.** -/
theorem stands_placeOf {pieces : List (List Char)} (h : t.walk [] pieces = .ok .directory) :
    t.Stands (placeOf pieces) :=
  Stands.run pieces (by rw [Stands, walk]) (fun _ h => absurd h List.not_mem_nil) h

/-- A step on the way to a directory that stands can be taken. -/
theorem Stands.walk_piece {target place : List Name} {piece : List Char} (h : t.Stands target)
    (hnames : ∀ name ∈ target, IsName name) (hplace : place <+: target)
    (hentered : enter place piece <+: target) : t.walk place [piece] = .ok .directory := by
  unfold enter at hentered
  split at hentered
  · rename_i hidle
    rw [walk, if_pos hidle, walk]
  · rename_i hidle
    split at hentered
    · rename_i hup
      rw [walk, if_neg hidle, if_pos hup, walk]
    · have hplaceNames : ∀ name ∈ place, IsName name :=
        fun name hname => hnames name (hplace.subset hname)
      exact ((h.of_prefix hplace).append_iff hplaceNames).mp (h.of_prefix hentered)

/--
**A directory that stands is passed on the way.**

Pieces that lead from a place to the end of a chain, and never off the chain, come through every
directory of the chain below that place; up to the first time they only pass directories above it,
which stand too.
-/
theorem exists_walk_of_stands {target chain : List Name} (h : t.Stands target)
    (hnames : ∀ name ∈ target, IsName name) (htarget : target <+: chain)
    (pieces : List (List Char)) :
    ∀ place : List Name, place <+: target → pieces.foldl enter place = chain →
      (∀ front, front <+: pieces → front.foldl enter place <+: chain) →
      ∃ front, front <+: pieces ∧ t.walk place front = .ok .directory
        ∧ front.foldl enter place = target := by
  induction pieces with
  | nil =>
      intro place hplace hend _
      obtain rfl : place = chain := hend
      exact ⟨[], List.prefix_rfl, by rw [walk], hplace.eq_of_length_le htarget.length_le⟩
  | cons piece pieces ih =>
      intro place hplace hend hchain
      by_cases hthere : place = target
      · exact ⟨[], List.nil_prefix, by rw [walk], hthere⟩
      -- one more piece leads at most one directory further
      have hshort : place.length < target.length :=
        Nat.lt_of_le_of_ne hplace.length_le fun hlength => hthere (hplace.eq_of_length hlength)
      have hlength := length_enter_le place piece
      have hentered : enter place piece <+: target :=
        List.prefix_of_prefix_length_le
          (hchain [piece] (List.cons_prefix_cons.mpr ⟨rfl, List.nil_prefix⟩)) htarget (by omega)
      obtain ⟨front, hfront, hwalk, hreached⟩ := ih (enter place piece) hentered hend
        fun front hfront => hchain (piece :: front) (List.cons_prefix_cons.mpr ⟨rfl, hfront⟩)
      refine ⟨piece :: front, List.cons_prefix_cons.mpr ⟨rfl, hfront⟩, ?_, hreached⟩
      rw [← List.singleton_append]
      exact walk_append_eq_directory_iff.mpr ⟨h.walk_piece hnames hplace hentered, hwalk⟩

/-! ## Files of packages -/

/-- The file of a package is in the directory that pieces lead to. -/
def Holds (t : FileTree) (directory : List (List Char)) (specifier : Path) : Prop :=
  t.LeadsToFile [] (packagePieces directory specifier)

theorem holds_iff {specifier : Path} {pieces : List (List Char)} :
    t.Holds pieces specifier
      ↔ t.walk [] pieces = .ok .directory
        ∧ t.LeadsToFile (placeOf pieces) (packagesName.chars :: cutAt '/' specifier.chars) :=
  leadsToFile_append_iff (List.cons_ne_nil _ _)

/-- What pieces lead to holds the same when it is named by its place. -/
theorem holds_placeOf_iff {specifier : Path} {pieces : List (List Char)}
    (h : t.walk [] pieces = .ok .directory) :
    t.Holds (placeOf pieces) specifier ↔ t.Holds pieces specifier := by
  rw [holds_iff, holds_iff, placeOf_placeOf]
  exact and_congr_left fun _ => iff_of_true (stands_placeOf h) h

/-- A path that is not too long is walked from the root. -/
theorem entryOf_of_isAbsolute {p : Path} (habs : p.isAbsolute = true) (hnul : '\x00' ∉ p.chars)
    (hlength : byteLength p.chars ≤ pathLimit) :
    t.entryOf p = t.walk [] (cutAt '/' p.chars) := by
  obtain ⟨rest, hrest⟩ := isAbsolute_iff.mp habs
  rw [entryOf, if_neg (by simpa using hnul), if_neg (by simp [hrest]),
    if_neg (Nat.not_lt.mpr hlength), if_pos habs]

end FileTree

/-- A file system is asked for paths as a tree without links answers. -/
def FileSystem.Follows (files : FileSystem) (t : FileTree) (paths : List Path) : Prop :=
  ∀ p ∈ paths, files.isFile p = true ↔ t.LeadsToFile [] (cutAt '/' p.chars)

/-- A tree answers so for all paths that are not too long. -/
theorem FileTree.fileSystem_follows (t : FileTree) {paths : List Path}
    (h : ∀ p ∈ paths, p.isAbsolute = true ∧ '\x00' ∉ p.chars ∧ byteLength p.chars ≤ pathLimit) :
    t.fileSystem.Follows t paths := by
  intro p hp
  obtain ⟨habs, hnul, hlength⟩ := h p hp
  show t.isFile p = true ↔ _
  rw [isFile, entryOf_of_isAbsolute habs hnul hlength, LeadsToFile]
  split
  · rename_i content hwalk
    exact iff_of_true rfl ⟨content, hwalk⟩
  · rename_i hno
    exact iff_of_false Bool.false_ne_true fun ⟨content, hwalk⟩ => hno content hwalk

/-! ## The search -/

section Search

variable {files : FileSystem} {t : FileTree} {base : Path} {specifier : String}

theorem ofSpecifier_bare (habs : (Path.ofText specifier).isAbsolute = false)
    (hdot : specifier.toList.head? ≠ some '.') :
    Target.ofSpecifier base specifier = .package (packagePaths base (.ofText specifier)) := by
  have hplain : (Path.ofText specifier).chars.head? ≠ some '.' := hdot
  unfold Target.ofSpecifier
  dsimp only
  rw [habs, if_neg Bool.false_ne_true, if_neg hplain]

/-- A candidate leads where its directory leads, and on to the file of the package. -/
theorem isFile_packagePath (directory : Path) {path : Path}
    (hfollows : files.Follows t (packagePaths base path)) (hbase : base.isAbsolute = true)
    (hpath : path.isAbsolute = false) (hdirectory : directory ∈ base.ancestors) :
    (files.isFile ((directory.join packagesName).join path) = true
        ↔ t.Holds directory.steps path)
      ∧ ((directory.join packagesName).join path).place
        = placeOf (packagePieces directory.steps path) := by
  obtain ⟨front, hcut, hfront⟩ :=
    cutAt_packagePath (prefix_of_mem_ancestors hbase directory hdirectory).1 hpath
  refine ⟨?_, ?_⟩
  · rw [hfollows _ (List.mem_map_of_mem hdirectory), hcut, FileTree.Holds, ← hfront,
      FileTree.LeadsToFile, FileTree.LeadsToFile, packagePieces, packagePieces,
      FileTree.walk_filter_append front (List.cons_ne_nil _ _)]
  · rw [place, hcut, packagePieces, packagePieces, placeOf_append, placeOf_append, ← hfront,
      placeOf, placeOf, foldl_enter_filter]

/--
**The search takes step after step away from the path.**

It finds the first beginning of the steps that leads to a directory with the file, the longest
first, and fails if there is none.
-/
theorem locate_steps (habs : (Path.ofText specifier).isAbsolute = false)
    (hdot : specifier.toList.head? ≠ some '.') (hbase : base.isAbsolute = true)
    (hfollows : files.Follows t (packagePaths base (Path.ofText specifier))) :
    (∃ found front, locate files base specifier = .ok found ∧ files.isFile found = true
        ∧ front <+: base.steps ∧ t.Holds front (.ofText specifier)
        ∧ found.place = placeOf (packagePieces front (.ofText specifier))
        ∧ ∀ longer, longer <+: base.steps → front.length < longer.length →
          ¬ t.Holds longer (.ofText specifier))
      ∨ (locate files base specifier = .error (.packageNotFound specifier base)
        ∧ ∀ front, front <+: base.steps → ¬ t.Holds front (.ofText specifier)) := by
  have hcandidate := fun directory => isFile_packagePath directory hfollows hbase habs
  rw [locate, ofSpecifier_bare habs hdot]
  dsimp only
  cases hfind : (packagePaths base (Path.ofText specifier)).find? files.isFile with
  | none =>
      refine .inr ⟨rfl, fun front hfront hholds => ?_⟩
      obtain ⟨directory, hdirectory, rfl⟩ := exists_mem_ancestors hbase hfront
      have hfile := ((hcandidate directory hdirectory).1).mpr hholds
      exact List.find?_eq_none.mp hfind _ (List.mem_map_of_mem hdirectory) hfile
  | some found =>
      rw [packagePaths, List.find?_map, Option.map_eq_some_iff] at hfind
      obtain ⟨directory, hfind, rfl⟩ := hfind
      have hdirectory := List.mem_of_find?_eq_some hfind
      obtain ⟨hfile, before, after, hsplit, hbefore⟩ := List.find?_eq_some_iff_append.mp hfind
      refine .inl ⟨_, directory.steps, rfl, hfile,
        (prefix_of_mem_ancestors hbase directory hdirectory).2,
        (hcandidate directory hdirectory).1.mp hfile, (hcandidate directory hdirectory).2, ?_⟩
      intro longer hlonger hlength hholds
      obtain ⟨other, hother, rfl⟩ := exists_mem_ancestors hbase hlonger
      have hotherFile := (hcandidate other hother).1.mpr hholds
      -- with more steps it stands before what was found, and would have been found itself
      have hpairwise := pairwise_ancestors hbase
      rw [hsplit] at hother hpairwise
      rcases List.mem_append.mp hother with hin | hin
      · have := hbefore other hin
        rw [Function.comp_apply, hotherFile] at this
        cases this
      · rcases List.mem_cons.mp hin with rfl | hin
        · omega
        · have := (List.pairwise_cons.mp (List.pairwise_append.mp hpairwise).2.1).1 other hin
          omega

/-! ## Chains of directories -/

/-- At each of its steps a path stands in a directory that is not off the chain of its own. -/
def Path.KeepsToChain (p : Path) : Prop :=
  ∀ k ≤ p.steps.length, placeOf (p.steps.take k) <+: p.place

instance (p : Path) : Decidable p.KeepsToChain :=
  inferInstanceAs (Decidable (∀ k ≤ p.steps.length, placeOf (p.steps.take k) <+: p.place))

theorem Path.KeepsToChain.of_prefix {p : Path} (h : p.KeepsToChain) {front : List (List Char)}
    (hfront : front <+: p.steps) : placeOf front <+: p.place := by
  have := h front.length hfront.length_le
  rwa [← List.prefix_iff_eq_take.mp hfront] at this

/-- A path without steps up keeps to its chain. -/
theorem Path.keepsToChain_of_no_up {p : Path} (h : ['.', '.'] ∉ p.steps) : p.KeepsToChain := by
  have hplace : ∀ front, front <+: p.steps → placeOf front = front := by
    intro front hfront
    refine (foldl_enter_names (fun name hname => ?_) []).trans (List.nil_append _)
    have hmem := hfront.subset hname
    exact ⟨(List.mem_filter.mp hmem).2, fun hup => h (hup ▸ hmem)⟩
  intro k _
  rw [← placeOf_steps, hplace _ (List.take_prefix _ _), hplace _ List.prefix_rfl]
  exact List.take_prefix _ _

/-- From any of its steps, a path that keeps to its chain comes through what stands below. -/
theorem exists_longer_of_stands {front : List (List Char)} (hchain : base.KeepsToChain)
    (hfront : front <+: base.steps) (hwalk : t.walk [] front = .ok .directory)
    {target : List Name} (htarget : target <+: base.place) (hbelow : placeOf front <+: target)
    (hstands : t.Stands target) :
    ∃ longer, longer <+: base.steps ∧ front <+: longer ∧ t.walk [] longer = .ok .directory
      ∧ placeOf longer = target := by
  obtain ⟨rest, hrest⟩ := hfront
  have hnames : ∀ name ∈ target, IsName name :=
    fun name hname => isName_of_mem_placeOf _ name (htarget.subset hname)
  obtain ⟨more, hmore, hwalkMore, hreached⟩ :=
    FileTree.exists_walk_of_stands hstands hnames htarget rest (placeOf front) hbelow
      (by rw [placeOf, ← List.foldl_append, hrest]; exact placeOf_steps base)
      (fun more hmore => by
        rw [placeOf, ← List.foldl_append]
        exact hchain.of_prefix (by rw [← hrest]; exact (List.prefix_append_right_inj _).mpr hmore))
  refine ⟨front ++ more, by rw [← hrest]; exact (List.prefix_append_right_inj _).mpr hmore,
    List.prefix_append _ _, ?_, by rw [placeOf, List.foldl_append]; exact hreached⟩
  exact FileTree.walk_append_eq_directory_iff.mpr ⟨hwalk, hwalkMore⟩

/-- What a directory of the chain holds is passed by the search, with its longer steps first. -/
theorem exists_longer_of_holds {front : List (List Char)} (hchain : base.KeepsToChain)
    (hfront : front <+: base.steps) (hwalk : t.walk [] front = .ok .directory)
    {target : List Name} (htarget : target <+: base.place) (hbelow : placeOf front <+: target)
    {path : Path} (hholds : t.Holds target path) :
    ∃ longer, longer <+: base.steps ∧ front <+: longer ∧ t.Holds longer path
      ∧ placeOf longer = target := by
  obtain ⟨longer, hlonger, hfrontLonger, hwalkLonger, hplace⟩ :=
    exists_longer_of_stands hchain hfront hwalk htarget hbelow (FileTree.holds_iff.mp hholds).1
  refine ⟨longer, hlonger, hfrontLonger, ?_, hplace⟩
  rw [← FileTree.holds_placeOf_iff hwalkLonger, hplace]
  exact hholds

/--
**The search finds what is nearest on the chain of directories, and nothing else.**

Let the directory of the importing file keep to its chain. If the search finds a path, it is a file
and denotes the file of the package in a directory of the chain, and no directory of the chain that
is nearer holds the file. The search fails exactly if no directory of the chain holds it.
-/
theorem locate_nearest {caller workingDirectory : Path}
    (hcwd : workingDirectory.isAbsolute = true)
    (hcaller : caller.isAbsolute = true → caller.parent? ≠ none)
    (habs : (Path.ofText specifier).isAbsolute = false)
    (hdot : specifier.toList.head? ≠ some '.')
    (hchain : (baseOf caller workingDirectory).KeepsToChain)
    (hfollows : files.Follows t
      (packagePaths (baseOf caller workingDirectory) (Path.ofText specifier))) :
    (∀ found, locate files (baseOf caller workingDirectory) specifier = .ok found →
      files.isFile found = true
        ∧ ∃ directory, directory <+: (baseOf caller workingDirectory).place
          ∧ t.Holds directory (.ofText specifier)
          ∧ found.place = placeOf (packagePieces directory (.ofText specifier))
          ∧ ∀ nearer, nearer <+: (baseOf caller workingDirectory).place →
            directory.length < nearer.length → ¬ t.Holds nearer (.ofText specifier))
      ∧ (locate files (baseOf caller workingDirectory) specifier
          = .error (.packageNotFound specifier (baseOf caller workingDirectory))
        ↔ ∀ directory, directory <+: (baseOf caller workingDirectory).place →
          ¬ t.Holds directory (.ofText specifier)) := by
  have hbase := isAbsolute_baseOf hcwd hcaller
  generalize baseOf caller workingDirectory = base at hchain hfollows hbase ⊢
  rcases locate_steps habs hdot hbase hfollows with
    ⟨path, front, hlocate, hfile, hfront, hholds, hplace, hnearest⟩ | ⟨hlocate, hnone⟩
  · have hwalk := (FileTree.holds_iff.mp hholds).1
    have hholdsPlace := (FileTree.holds_placeOf_iff hwalk).mpr hholds
    refine ⟨?_, ?_⟩
    · intro found hfound
      obtain rfl : path = found := by
        rw [hlocate] at hfound
        exact Except.ok.inj hfound
      refine ⟨hfile, placeOf front, hchain.of_prefix hfront, hholdsPlace, ?_, ?_⟩
      · rw [hplace, packagePieces, packagePieces, placeOf_append, placeOf_append,
          placeOf_placeOf]
      · intro nearer hnearer hlength hnearerHolds
        have hbelow : placeOf front <+: nearer :=
          List.prefix_of_prefix_length_le (hchain.of_prefix hfront) hnearer (Nat.le_of_lt hlength)
        obtain ⟨longer, hlonger, hfrontLonger, hlongerHolds, hreached⟩ :=
          exists_longer_of_holds hchain hfront hwalk hnearer hbelow hnearerHolds
        refine hnearest longer hlonger ?_ hlongerHolds
        refine Nat.lt_of_le_of_ne hfrontLonger.length_le fun heq => ?_
        rw [hfrontLonger.eq_of_length heq, hreached] at hlength
        exact Nat.lt_irrefl _ hlength
    · rw [hlocate]
      refine ⟨fun h => (by cases h), fun h => ?_⟩
      exact absurd hholdsPlace (h _ (hchain.of_prefix hfront))
  · refine ⟨fun found hfound => ?_, fun _ directory hdirectory hholds => ?_, fun _ => hlocate⟩
    · rw [hlocate] at hfound
      cases hfound
    · obtain ⟨longer, hlonger, _, hlongerHolds, _⟩ :=
        exists_longer_of_holds hchain List.nil_prefix (by rw [FileTree.walk]) hdirectory
          List.nil_prefix hholds
      exact hnone longer hlonger hlongerHolds

end Search

/-- The importing file lies in `/app/src/ui`, written with detours that stay on the chain. -/
theorem locate_nearest_detour :
    let t : FileTree := ⟨[
      (["app", "node_modules", "kit", "k.css"].map String.toList, .file default),
      (["node_modules", "kit", "k.css"].map String.toList, .file default),
      (["app", "src", "ui", "x.js"].map String.toList, .file default)], []⟩
    let base := baseOf (.ofText "./ui/..//ui/x.js") (.ofText "/app/../app/src/")
    let found := Path.ofText "/app/../app/node_modules/kit/k.css"
    base.place = ["app", "src", "ui"].map String.toList
      ∧ locate t.fileSystem base "kit/k.css" = .ok found
      ∧ t.fileSystem.isFile found = true
      ∧ ∃ directory, directory <+: base.place
        ∧ t.Holds directory (.ofText "kit/k.css")
        ∧ found.place = placeOf (packagePieces directory (.ofText "kit/k.css"))
        ∧ ∀ nearer, nearer <+: base.place →
          directory.length < nearer.length → ¬ t.Holds nearer (.ofText "kit/k.css") := by
  intro t base found
  have hfound : locate t.fileSystem base "kit/k.css" = .ok found := by decide +kernel
  refine ⟨by decide +kernel, hfound, ?_⟩
  exact (locate_nearest (by decide) (by decide) (by decide) (by decide) (by decide +kernel)
    (t.fileSystem_follows (by decide +kernel))).1 found hfound

/--
The directory of the importing file is `/b`, written `/a/../b`. The search finds a file of `/a`,
although neither `/b` nor the root holds one.
-/
theorem locate_beside_chain :
    let t : FileTree := ⟨[(["a", "node_modules", "p.css"].map String.toList, .file default),
      (["b", "x.js"].map String.toList, .file default)], []⟩
    let base := baseOf (.ofText "/a/../b/x.js") (.ofText "/")
    let found := Path.ofText "/a/node_modules/p.css"
    base.place = ["b".toList]
      ∧ (∀ directory, directory <+: base.place → ¬ t.Holds directory (.ofText "p.css"))
      ∧ locate t.fileSystem base "p.css" = .ok found
      ∧ ∀ directory, directory <+: base.place →
        found.place ≠ placeOf (packagePieces directory (.ofText "p.css")) := by
  intro t base found
  have hplace : base.place = [] ++ ["b".toList] := by decide +kernel
  have hchain : ∀ directory, directory <+: base.place →
      directory = ["b".toList] ∨ directory = [] := by
    intro directory h
    rw [hplace, List.prefix_concat_iff] at h
    exact h.imp id List.prefix_nil.mp
  refine ⟨hplace, ?_, by decide +kernel, ?_⟩
  · intro directory h ⟨content, hwalk⟩
    have hnone : ∀ d ∈ [["b".toList], []],
        t.walk [] (packagePieces d (.ofText "p.css")) = .error .notFound := by
      rw [List.forall_mem_cons, List.forall_mem_singleton]
      exact ⟨rfl, rfl⟩
    rw [hnone directory (by simpa using hchain directory h)] at hwalk
    cases hwalk
  · intro directory h
    rcases hchain directory h with rfl | rfl
    · decide +kernel
    · decide +kernel

end StyleLookup.Files
