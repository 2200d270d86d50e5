import StyleLookup.Proofs.Grammar

/-!
# Which stylesheets are accepted

The second half of the grammar: what a rule must look like, and what is stored of it.

* A piece of a body is only layout, or it **declares** a property: a name, a colon, a value.
* A rule is **well formed** if it has a block, does not start like the declaration of a custom
  property, and all pieces of its body are one or the other.
* `Stores items rules`: every rule among the items is well formed, and `rules` is what they say, in
  order, with nothing left out but the rules that have no selector.

`parse_accepts_wellFormed` is the main statement: reading a stylesheet succeeds on exactly the texts
whose rules are all well formed, and it stores what the grammar says.
-/

namespace StyleLookup.Css

open Text Component

/-! ## Declarations -/

/-- White space and comments, and nothing else. -/
def OnlyLayout (cs : List Component) : Prop := ∀ c ∈ cs, c.isLayout = true

/-- A piece that sets the property `name` to the text of `value`. -/
def Declares (piece : List Component) (name : List Char) (value : List Component) : Prop :=
  ∃ lead t gap colon, OnlyLayout lead ∧ t.kind = .ident name ∧ OnlyLayout gap
    ∧ colon.kind = .colon ∧ piece = lead ++ t :: (gap ++ colon :: value)

/-- The pieces of a body and the declarations that they hold. -/
inductive Body : List (List Component) → List Declaration → Prop where
  | nil : Body [] []
  | layout {piece : List Component} {pieces : List (List Component)} {ds : List Declaration} :
      OnlyLayout piece → Body pieces ds → Body (piece :: pieces) ds
  | declaration {piece value : List Component} {name : List Char}
      {pieces : List (List Component)} {ds : List Declaration} :
      Declares piece name value → Body pieces ds →
      Body (piece :: pieces) (⟨String.ofList name, String.ofList (storedText value)⟩ :: ds)

theorem onlyLayout_nil : OnlyLayout [] := fun _ h => absurd h (List.not_mem_nil)

theorem onlyLayout_cons {c : Component} {cs : List Component} :
    OnlyLayout (c :: cs) ↔ c.isLayout = true ∧ OnlyLayout cs := by
  unfold OnlyLayout
  exact List.forall_mem_cons

theorem dropWhile_isLayout {lead cs : List Component} {c : Component} (h : OnlyLayout lead)
    (hc : c.isLayout = false) : (lead ++ c :: cs).dropWhile isLayout = c :: cs := by
  rw [List.dropWhile_append_of_pos h, List.dropWhile_cons_of_neg]
  rw [hc]
  exact Bool.false_ne_true

theorem onlyLayout_takeWhile (cs : List Component) : OnlyLayout (cs.takeWhile isLayout) :=
  fun _ h => List.mem_takeWhile_imp h

theorem isLayout_of_ident {c : Component} {name : List Char} (h : c.kind = .ident name) :
    c.isLayout = false := by
  rw [isLayout, h]; rfl

theorem isLayout_of_colon {c : Component} (h : c.kind = .colon) : c.isLayout = false := by
  rw [isLayout, h]; rfl

/-- The parts of a declaration are found from the left. -/
theorem declares_iff {piece value : List Component} {name : List Char} :
    Declares piece name value ↔ ∃ t rest colon, piece.dropWhile isLayout = t :: rest
      ∧ t.kind = .ident name ∧ rest.dropWhile isLayout = colon :: value ∧ colon.kind = .colon := by
  refine ⟨?_, ?_⟩
  · intro h
    obtain ⟨lead, t, gap, colon, hlead, ht, hgap, hcolon, rfl⟩ := h
    exact ⟨t, _, colon, dropWhile_isLayout hlead (isLayout_of_ident ht), ht,
      dropWhile_isLayout hgap (isLayout_of_colon hcolon), hcolon⟩
  · intro h
    obtain ⟨t, rest, colon, hpiece, ht, hrest, hcolon⟩ := h
    refine ⟨piece.takeWhile isLayout, t, rest.takeWhile isLayout, colon, onlyLayout_takeWhile _, ht,
      onlyLayout_takeWhile _, hcolon, ?_⟩
    rw [← hrest, List.takeWhile_append_dropWhile, ← hpiece, List.takeWhile_append_dropWhile]

theorem Declares.unique {piece value value' : List Component} {name name' : List Char}
    (h : Declares piece name value) (h' : Declares piece name' value') :
    name = name' ∧ value = value' := by
  obtain ⟨t, rest, colon, hpiece, ht, hrest, _⟩ := declares_iff.mp h
  obtain ⟨t', rest', colon', hpiece', ht', hrest', _⟩ := declares_iff.mp h'
  rw [hpiece] at hpiece'
  injection hpiece' with h1 h2
  subst h1; subst h2
  rw [hrest] at hrest'
  rw [ht] at ht'
  exact ⟨Kind.ident.inj ht', (List.cons.inj hrest').2⟩

theorem Declares.not_onlyLayout {piece value : List Component} {name : List Char}
    (h : Declares piece name value) : ¬ OnlyLayout piece := by
  intro hlayout
  obtain ⟨lead, t, gap, colon, _, ht, _, _, rfl⟩ := h
  have := hlayout t (by simp)
  rw [isLayout_of_ident ht] at this
  exact Bool.false_ne_true this

/-- A body starts with a piece of layout exactly if that piece can be left out. -/
theorem body_onlyLayout_iff {piece : List Component} {pieces : List (List Component)}
    {ds : List Declaration} (h : OnlyLayout piece) :
    Body (piece :: pieces) ds ↔ Body pieces ds := by
  refine ⟨?_, ?_⟩
  · intro hb
    cases hb with
    | layout _ hb => exact hb
    | declaration hd _ => exact absurd h hd.not_onlyLayout
  · exact .layout h

/-- Layout in front of a piece makes no difference. -/
theorem body_cons_layout_iff {c : Component} {piece : List Component}
    {pieces : List (List Component)} {ds : List Declaration} (hc : c.isLayout = true) :
    Body ((c :: piece) :: pieces) ds ↔ Body (piece :: pieces) ds := by
  have hdrop : (c :: piece).dropWhile isLayout = piece.dropWhile isLayout :=
    List.dropWhile_cons_of_pos hc
  have hdeclares : ∀ name value, Declares (c :: piece) name value ↔ Declares piece name value := by
    intro name value
    rw [declares_iff, declares_iff, hdrop]
  refine ⟨?_, ?_⟩
  · intro hb
    cases hb with
    | layout hl hb => exact .layout (onlyLayout_cons.mp hl).2 hb
    | declaration hd hb => exact .declaration ((hdeclares _ _).mp hd) hb
  · intro hb
    cases hb with
    | layout hl hb => exact .layout (onlyLayout_cons.mpr ⟨hc, hl⟩) hb
    | declaration hd hb => exact .declaration ((hdeclares _ _).mpr hd) hb

/-! ## Results that are changed -/

section Results

variable {ε ε' α β : Type} {result : Except ε α}

theorem map_eq_ok_iff {f : α → β} {b : β} :
    result.map f = .ok b ↔ ∃ a, result = .ok a ∧ f a = b := by
  cases result with
  | ok a =>
      constructor
      · intro h
        exact ⟨a, rfl, Except.ok.inj h⟩
      · rintro ⟨_, h, rfl⟩
        rw [← Except.ok.inj h]
        rfl
  | error e => exact ⟨fun h => (nomatch h), fun ⟨_, h, _⟩ => (nomatch h)⟩

/-- A result that is changed where it is good fails as before. -/
theorem map_eq_error_iff {f : α → β} {e : ε} : result.map f = .error e ↔ result = .error e := by
  cases result with
  | ok a => exact ⟨fun h => (nomatch h), fun h => (nomatch h)⟩
  | error e' =>
      constructor
      · intro h
        exact congrArg Except.error (Except.error.inj h)
      · rintro ⟨⟩
        rfl

theorem mapError_eq_ok_iff {f : ε → ε'} {a : α} : result.mapError f = .ok a ↔ result = .ok a := by
  cases result with
  | ok b => exact ⟨fun h => congrArg Except.ok (Except.ok.inj h),
      fun h => congrArg Except.ok (Except.ok.inj h)⟩
  | error e => exact ⟨fun h => (nomatch h), fun h => (nomatch h)⟩

theorem mapError_eq_error_iff {f : ε → ε'} {e : ε'} :
    result.mapError f = .error e ↔ ∃ e', result = .error e' ∧ f e' = e := by
  cases result with
  | ok a => exact ⟨fun h => (nomatch h), fun ⟨_, h, _⟩ => (nomatch h)⟩
  | error e' =>
      constructor
      · intro h
        exact ⟨e', rfl, Except.error.inj h⟩
      · rintro ⟨_, h, rfl⟩
        rw [← Except.error.inj h]
        rfl

end Results

theorem shifted_eq_ok_iff {α : Type} {n : Nat} {result : Except Fault α} {a : α} :
    shifted n result = .ok a ↔ result = .ok a :=
  mapError_eq_ok_iff

/-- A fault behind some text is the fault of what follows, with the text in front of it. -/
theorem shifted_eq_error_iff {α : Type} {n : Nat} {result : Except Fault α} {f : Fault} :
    shifted n result = .error f ↔ ∃ f', result = .error f' ∧ f'.shift n = f :=
  mapError_eq_error_iff

/-! ## Reading declarations -/

/-- What stands between the name of a declaration and the next semicolon. -/
theorem valueAfterName_eq_ok {gap value rest : List Component} {colon : Component}
    (hgap : OnlyLayout gap) (hcolon : colon.kind = .colon)
    (hvalue : ∀ c ∈ value, c.isSemicolon = false)
    (hrest : ∀ c ∈ rest.head?, c.isSemicolon = true) :
    valueAfterName (gap ++ colon :: (value ++ rest)) = .ok (storedText value, rest) := by
  have hcut := Item.before_eq hvalue hrest
  unfold Item.before at hcut
  injection hcut with htake hdrop
  unfold valueAfterName
  rw [dropWhile_isLayout hgap (isLayout_of_colon hcolon)]
  dsimp only
  rw [hcolon, if_pos (beq_self_eq_true _), htake, hdrop]

theorem exists_of_valueAfterName {cs rest : List Component} {text : List Char}
    (h : valueAfterName cs = .ok (text, rest)) :
    ∃ gap colon value, OnlyLayout gap ∧ colon.kind = .colon
      ∧ (∀ c ∈ value, c.isSemicolon = false) ∧ (∀ c ∈ rest.head?, c.isSemicolon = true)
      ∧ text = storedText value ∧ cs = gap ++ colon :: (value ++ rest) := by
  unfold valueAfterName at h
  dsimp only at h
  split at h
  · cases h
  · rename_i colon after hafter
    split at h
    · rename_i hcolon
      injection h with h
      injection h with htext hrest
      obtain ⟨value, rest', hcut, hrow, hvalue, hend⟩ :=
        Item.exists_before_eq isSemicolon after
      unfold Item.before at hcut
      injection hcut with htake hdrop
      rw [htake] at htext
      rw [hdrop] at hrest
      subst hrest
      refine ⟨cs.takeWhile isLayout, colon, value, onlyLayout_takeWhile _, eq_of_beq hcolon, hvalue,
        hend, htext.symm, ?_⟩
      rw [← hrow, ← hafter, List.takeWhile_append_dropWhile]
    · split at h <;> cases h

theorem isSemicolon_of_ident {c : Component} {name : List Char} (h : c.kind = .ident name) :
    c.isSemicolon = false := by
  rw [isSemicolon, h]; rfl

theorem isSemicolon_of_colon {c : Component} (h : c.kind = .colon) : c.isSemicolon = false := by
  rw [isSemicolon, h]; rfl

theorem isSemicolon_of_isLayout {c : Component} (h : c.isLayout = true) :
    c.isSemicolon = false := by
  rw [isSemicolon, beq_eq_false_iff_ne]
  intro hc
  rw [isLayout, hc] at h
  exact Bool.false_ne_true h

/-- A declaration with its semicolon, in front of the rest of a body. -/
theorem pieces_declaration {c colon : Component} {gap value rest : List Component}
    (hc : c.isSemicolon = false) (hgap : OnlyLayout gap) (hcolon : colon.kind = .colon)
    (hvalue : ∀ c ∈ value, c.isSemicolon = false)
    (hrest : ∀ c ∈ rest.head?, c.isSemicolon = true) :
    ∃ ps, cutWhere isSemicolon (c :: (gap ++ colon :: (value ++ rest)))
        = (c :: (gap ++ colon :: value)) :: ps
      ∧ ∀ ds, Body (cutWhere isSemicolon rest) ds ↔ Body ps ds := by
  have hpiece : ∀ d ∈ c :: (gap ++ colon :: value), d.isSemicolon = false := by
    intro d hd
    rcases List.mem_cons.mp hd with h | h
    · rw [h]; exact hc
    · rcases List.mem_append.mp h with h | h
      · exact isSemicolon_of_isLayout (hgap d h)
      · rcases List.mem_cons.mp h with h | h
        · rw [h]; exact isSemicolon_of_colon hcolon
        · exact hvalue d h
  have hrow : c :: (gap ++ colon :: (value ++ rest)) = (c :: (gap ++ colon :: value)) ++ rest := by
    simp
  rw [hrow]
  cases rest with
  | nil =>
      refine ⟨[], by rw [List.append_nil, cutWhere_eq_singleton hpiece], ?_⟩
      intro ds
      exact body_onlyLayout_iff onlyLayout_nil
  | cons s rest =>
      have hs : s.isSemicolon = true := hrest s rfl
      refine ⟨_, cutWhere_append_separator hpiece hs rest, ?_⟩
      intro ds
      rw [cutWhere_cons_separator hs]
      exact body_onlyLayout_iff onlyLayout_nil

/-- What a body holds besides layout and semicolons starts a declaration. -/
theorem exists_valueAfterName {c : Component} {cs : List Component} {ds : List Declaration}
    (hlayout : c.isLayout = false) (hsemi : c.isSemicolon = false)
    (hb : Body (cutWhere isSemicolon (c :: cs)) ds) :
    ∃ name value, c.kind = .ident name ∧ valueAfterName cs = .ok value := by
  obtain ⟨p, ps, rest, hcut, hcs, hp, hend⟩ := exists_cutWhere_eq_cons isSemicolon cs
  rw [cutWhere_cons hsemi hcut] at hb
  cases hb with
  | layout hl _ =>
      rw [(onlyLayout_cons.mp hl).1] at hlayout
      exact Bool.noConfusion hlayout
  | @declaration _ value name _ _ hd _ =>
      obtain ⟨t, after, colon, hpiece, ht, hafter, hcolon⟩ := declares_iff.mp hd
      rw [List.dropWhile_cons_of_neg (by rw [hlayout]; exact Bool.false_ne_true)] at hpiece
      injection hpiece with h1 h2
      subst h1; subst h2
      have hrow := List.takeWhile_append_dropWhile (p := isLayout) (l := p)
      rw [hafter] at hrow
      refine ⟨name, (storedText value, rest), ht, ?_⟩
      rw [hcs, ← hrow, List.append_assoc, List.cons_append]
      refine valueAfterName_eq_ok (onlyLayout_takeWhile p) hcolon ?_ hend
      intro d hd
      refine hp d ?_
      rw [← hrow]
      exact List.mem_append_right _ (List.mem_cons_of_mem _ hd)

/-- **A body is read exactly if all its pieces are layout or declarations.** -/
theorem declarationsOf_eq_ok_iff (cs : List Component) (ds : List Declaration) :
    declarationsOf cs = .ok ds ↔ Body (cutWhere isSemicolon cs) ds := by
  fun_induction declarationsOf cs generalizing ds with
  | case1 =>
      rw [cutWhere, body_onlyLayout_iff onlyLayout_nil]
      refine ⟨?_, ?_⟩
      · intro h; rw [← Except.ok.inj h]; exact .nil
      · intro h; cases h; rfl
  | case2 c cs width hskip ih =>
      refine shifted_eq_ok_iff.trans ((ih ds).trans ?_)
      -- layout in front of a piece belongs to it, and a semicolon makes an empty piece
      rw [Bool.or_eq_true] at hskip
      rcases hskip with h | h
      · obtain ⟨p, ps, _, hcut, _, _, _⟩ := exists_cutWhere_eq_cons isSemicolon cs
        rw [cutWhere_cons (isSemicolon_of_isLayout h) hcut, hcut]
        exact (body_cons_layout_iff h).symm
      · rw [cutWhere_cons_separator h, body_onlyLayout_iff onlyLayout_nil]
  | case3 c cs width hskip name hname fault hvalue =>
      rw [Bool.or_eq_true, not_or, Bool.not_eq_true, Bool.not_eq_true] at hskip
      refine ⟨?_, ?_⟩
      · intro h; cases h
      · intro h
        obtain ⟨_, _, _, hok⟩ := exists_valueAfterName hskip.1 hskip.2 h
        rw [hvalue] at hok
        cases hok
  | case4 c cs width hskip name hname value rest hvalue _ ih =>
      -- a name with its value is the first piece, up to the semicolon that stops the value
      obtain ⟨gap, colon, v, hgap, hcolon, hv, hend, htext, hcs⟩ := exists_of_valueAfterName hvalue
      obtain ⟨ps, hcut, hps⟩ :=
        pieces_declaration (isSemicolon_of_ident hname) hgap hcolon hv hend
      have hdeclares : Declares (c :: (gap ++ colon :: v)) name v :=
        ⟨[], c, gap, colon, onlyLayout_nil, hname, hgap, hcolon, rfl⟩
      rw [map_eq_ok_iff, hcs, hcut, htext]
      refine ⟨?_, ?_⟩
      · intro h
        obtain ⟨ds', hds', heq⟩ := h
        rw [← heq]
        exact .declaration hdeclares ((hps ds').mp ((ih ds').mp (shifted_eq_ok_iff.mp hds')))
      · intro h
        cases h with
        | layout hl _ => exact absurd hl hdeclares.not_onlyLayout
        | declaration hd hb =>
            obtain ⟨h1, h2⟩ := hd.unique hdeclares
            subst h1; subst h2
            exact ⟨_, shifted_eq_ok_iff.mpr ((ih _).mpr ((hps _).mpr hb)), rfl⟩
  | case5 c cs width hskip name hname =>
      rw [Bool.or_eq_true, not_or, Bool.not_eq_true, Bool.not_eq_true] at hskip
      refine ⟨?_, ?_⟩
      · intro h; cases h
      · intro h
        obtain ⟨_, _, hident, _⟩ := exists_valueAfterName hskip.1 hskip.2 h
        rw [hname] at hident
        cases hident
  | case6 c cs hskip hident _ =>
      rw [Bool.or_eq_true, not_or, Bool.not_eq_true, Bool.not_eq_true] at hskip
      refine ⟨?_, ?_⟩
      · intro h; cases h
      · intro h
        obtain ⟨name, _, hname, _⟩ := exists_valueAfterName hskip.1 hskip.2 h
        exact absurd hname (hident name)

theorem exists_body_iff (pieces : List (List Component)) :
    (∃ ds, Body pieces ds)
      ↔ ∀ piece ∈ pieces, OnlyLayout piece ∨ ∃ name value, Declares piece name value := by
  induction pieces with
  | nil => exact ⟨fun _ _ h => absurd h List.not_mem_nil, fun _ => ⟨[], .nil⟩⟩
  | cons piece pieces ih =>
      rw [List.forall_mem_cons, ← ih]
      refine ⟨?_, ?_⟩
      · intro h
        obtain ⟨ds, hb⟩ := h
        cases hb with
        | layout hl hb => exact ⟨.inl hl, _, hb⟩
        | declaration hd hb => exact ⟨.inr ⟨_, _, hd⟩, _, hb⟩
      · intro h
        obtain ⟨hl | ⟨name, value, hd⟩, ds, hb⟩ := h
        · exact ⟨ds, .layout hl hb⟩
        · exact ⟨_, .declaration hd hb⟩

/-! ## Rules -/

/-- A prelude that starts like the declaration of a custom property. -/
def OpensCustomProperty (prelude : List Component) : Prop :=
  ∃ t name gap colon rest, t.kind = .ident ('-' :: '-' :: name) ∧ OnlyLayout gap
    ∧ colon.kind = .colon ∧ prelude = t :: (gap ++ colon :: rest)

/-- The selectors of a prelude: what stands between its commas, unless nothing is left of it. -/
def HasSelectors (prelude : List Component) (selectors : List String) : Prop :=
  ∃ pieces, Pieces (fun c => c.kind == .comma) prelude pieces
    ∧ selectors = ((pieces.map storedText).filter (fun s => !s.isEmpty)).map String.ofList

/-- What a rule must look like. -/
structure RuleWellFormed (prelude : List Component) (block : Option Block) : Prop where
  /-- The text does not end before the block. -/
  hasBlock : block.isSome
  /-- The rule is not taken for a declaration. -/
  notCustomProperty : ¬ OpensCustomProperty prelude
  /-- Between semicolons there are declarations, or nothing but layout. -/
  declarations : ∀ b ∈ block, ∃ pieces, Pieces isSemicolon b.body pieces
    ∧ ∀ piece ∈ pieces, OnlyLayout piece ∨ ∃ name value, Declares piece name value

/-- The rules that items stand for, if every rule among them is well formed. -/
inductive Stores : List Item → List Rule → Prop where
  | nil : Stores [] []
  | filler {c : Component} {is : List Item} {rs : List Rule} :
      Stores is rs → Stores (.filler c :: is) rs
  | atRule {parts : List Component} {is : List Item} {rs : List Rule} :
      Stores is rs → Stores (.atRule parts :: is) rs
  /-- A rule without selectors leaves nothing, but its body counts. -/
  | unselected {prelude : List Component} {b : Block} {is : List Item} {rs : List Rule} :
      RuleWellFormed prelude (some b) → HasSelectors prelude [] →
      Stores is rs → Stores (.rule prelude (some b) :: is) rs
  | rule {prelude : List Component} {b : Block} {selectors : List String}
      {pieces : List (List Component)} {ds : List Declaration} {is : List Item} {rs : List Rule} :
      RuleWellFormed prelude (some b) → HasSelectors prelude selectors → selectors ≠ [] →
      Pieces isSemicolon b.body pieces → Body pieces ds →
      Stores is rs → Stores (.rule prelude (some b) :: is) (⟨selectors, ds⟩ :: rs)

theorem startsCustomProperty_iff (prelude : List Component) :
    startsCustomProperty prelude = true ↔ OpensCustomProperty prelude := by
  refine ⟨?_, ?_⟩
  · intro h
    unfold startsCustomProperty at h
    split at h
    · rename_i t rest
      split at h
      · rename_i name colon after ht hafter
        refine ⟨t, name, rest.takeWhile isLayout, colon, after, ht, onlyLayout_takeWhile rest,
          eq_of_beq h, ?_⟩
        rw [← hafter, List.takeWhile_append_dropWhile]
      · exact absurd h Bool.false_ne_true
    · exact absurd h Bool.false_ne_true
  · intro h
    obtain ⟨t, name, gap, colon, rest, ht, hgap, hcolon, rfl⟩ := h
    simp [startsCustomProperty, ht, dropWhile_isLayout hgap (isLayout_of_colon hcolon), hcolon]

theorem hasSelectors_iff (prelude : List Component) (selectors : List String) :
    HasSelectors prelude selectors ↔ selectorsOf prelude = selectors := by
  refine ⟨?_, ?_⟩
  · intro h
    obtain ⟨pieces, hpieces, rfl⟩ := h
    rw [← (pieces_iff _ _ _).mp hpieces]
    rfl
  · intro h
    exact ⟨_, (pieces_iff _ _ _).mpr rfl, h.symm⟩

theorem ruleOf_eq_ok_iff (prelude : List Component) (block : Option Block) (r : Option Rule) :
    ruleOf prelude block = .ok r ↔ ¬ OpensCustomProperty prelude ∧ ∃ b ds, block = some b
      ∧ Body (cutWhere isSemicolon b.body) ds
      ∧ r = if (selectorsOf prelude).isEmpty then none else some ⟨selectorsOf prelude, ds⟩ := by
  unfold ruleOf
  by_cases hcustom : OpensCustomProperty prelude
  · rw [if_pos ((startsCustomProperty_iff prelude).mpr hcustom)]
    exact ⟨fun h => (nomatch h), fun h => absurd hcustom h.1⟩
  · rw [if_neg (fun h => hcustom ((startsCustomProperty_iff prelude).mp h))]
    cases block with
    | none => exact ⟨fun h => (nomatch h), fun ⟨_, _, _, h, _⟩ => (nomatch h)⟩
    | some b =>
        dsimp only
        rw [map_eq_ok_iff]
        refine ⟨?_, ?_⟩
        · intro h
          obtain ⟨ds, hds, hr⟩ := h
          have hbody := (declarationsOf_eq_ok_iff _ ds).mp (shifted_eq_ok_iff.mp hds)
          exact ⟨hcustom, b, ds, rfl, hbody, hr.symm⟩
        · intro h
          obtain ⟨_, b', ds, hb, hbody, hr⟩ := h
          injection hb with hb
          subst hb
          exact ⟨ds, shifted_eq_ok_iff.mpr ((declarationsOf_eq_ok_iff _ ds).mpr hbody), hr.symm⟩

theorem ruleWellFormed_iff (prelude : List Component) (block : Option Block) :
    RuleWellFormed prelude block ↔ ∃ r, ruleOf prelude block = .ok r := by
  refine ⟨?_, ?_⟩
  · intro h
    obtain ⟨b, rfl⟩ := Option.isSome_iff_exists.mp h.hasBlock
    obtain ⟨pieces, hpieces, hall⟩ := h.declarations b rfl
    obtain ⟨ds, hbody⟩ := (exists_body_iff pieces).mpr hall
    rw [← (pieces_iff _ _ _).mp hpieces] at hbody
    exact ⟨_, (ruleOf_eq_ok_iff _ _ _).mpr ⟨h.notCustomProperty, b, ds, rfl, hbody, rfl⟩⟩
  · intro h
    obtain ⟨r, hr⟩ := h
    obtain ⟨hcustom, b, ds, rfl, hbody, _⟩ := (ruleOf_eq_ok_iff _ _ _).mp hr
    refine ⟨rfl, hcustom, ?_⟩
    intro b' hb
    rw [Option.mem_def] at hb
    injection hb with hb
    subst hb
    exact ⟨_, (pieces_iff _ _ _).mpr rfl, (exists_body_iff _).mp ⟨ds, hbody⟩⟩

theorem rulesOf_cons {i : Item} {is : List Item} {found : Option Rule}
    (h : i.rule? = .ok found) :
    rulesOf (i :: is) = (shifted i.text.length (rulesOf is)).map (found.toList ++ ·) := by
  rw [rulesOf, h]

theorem rulesOf_cons_eq_ok_iff {i : Item} {is : List Item} {rs : List Rule} :
    rulesOf (i :: is) = .ok rs
      ↔ ∃ found rest, i.rule? = .ok found ∧ rulesOf is = .ok rest ∧ rs = found.toList ++ rest := by
  cases hi : i.rule? with
  | error fault =>
      rw [rulesOf, hi]
      exact ⟨fun h => (nomatch h), fun ⟨_, _, h, _⟩ => (nomatch h)⟩
  | ok found =>
      rw [rulesOf_cons hi, map_eq_ok_iff]
      refine ⟨?_, ?_⟩
      · intro h
        obtain ⟨rest, hrest, hrs⟩ := h
        exact ⟨found, rest, rfl, shifted_eq_ok_iff.mp hrest, hrs.symm⟩
      · intro h
        obtain ⟨found', rest, hfound, hrest, hrs⟩ := h
        rw [Except.ok.inj hfound]
        exact ⟨rest, shifted_eq_ok_iff.mpr hrest, hrs.symm⟩

/-- What is stored of items: what is stored of the first, and then the rest. -/
theorem stores_cons_iff {i : Item} {is : List Item} {rs : List Rule} :
    Stores (i :: is) rs
      ↔ ∃ found rest, i.rule? = .ok found ∧ Stores is rest ∧ rs = found.toList ++ rest := by
  refine ⟨?_, ?_⟩
  · intro h
    cases h with
    | filler hrest => exact ⟨none, rs, rfl, hrest, rfl⟩
    | atRule hrest => exact ⟨none, rs, rfl, hrest, rfl⟩
    | @unselected prelude b _ _ hwf hselectors hrest =>
        obtain ⟨found, hfound⟩ := (ruleWellFormed_iff _ _).mp hwf
        obtain ⟨_, _, _, _, _, hr⟩ := (ruleOf_eq_ok_iff _ _ _).mp hfound
        rw [(hasSelectors_iff _ _).mp hselectors] at hr
        exact ⟨found, rs, hfound, hrest, by rw [hr]; rfl⟩
    | @rule prelude b selectors pieces ds _ rest hwf hselectors hne hpieces hbody hrest =>
        rw [← (pieces_iff _ _ _).mp hpieces] at hbody
        have hr := (ruleOf_eq_ok_iff prelude (some b) (some ⟨selectors, ds⟩)).mpr
          ⟨hwf.notCustomProperty, b, ds, rfl, hbody, by
            rw [(hasSelectors_iff _ _).mp hselectors,
              if_neg (fun h => hne (List.isEmpty_iff.mp h))]⟩
        exact ⟨_, rest, hr, hrest, rfl⟩
  · intro h
    obtain ⟨found, rest, hfound, hrest, rfl⟩ := h
    cases i with
    | filler c =>
        rw [← Except.ok.inj hfound]
        exact .filler hrest
    | atRule parts =>
        rw [← Except.ok.inj hfound]
        exact .atRule hrest
    | rule prelude block =>
        have hwf := (ruleWellFormed_iff prelude block).mpr ⟨found, hfound⟩
        obtain ⟨_, b, ds, rfl, hbody, hfound⟩ := (ruleOf_eq_ok_iff _ _ _).mp hfound
        rw [hfound]
        by_cases hempty : selectorsOf prelude = []
        · rw [hempty]
          exact .unselected hwf ((hasSelectors_iff _ _).mpr hempty) hrest
        · rw [if_neg (fun h => hempty (List.isEmpty_iff.mp h))]
          exact .rule hwf ((hasSelectors_iff _ _).mpr rfl) hempty ((pieces_iff _ _ _).mpr rfl)
            hbody hrest

/-- **The rules of items are read exactly if all of them are well formed.** -/
theorem rulesOf_eq_ok_iff (is : List Item) (rs : List Rule) :
    rulesOf is = .ok rs ↔ Stores is rs := by
  induction is generalizing rs with
  | nil =>
      refine ⟨?_, ?_⟩
      · intro h; rw [← Except.ok.inj h]; exact .nil
      · intro h; cases h; rfl
  | cons i is ih => simp only [rulesOf_cons_eq_ok_iff, stores_cons_iff, ih]

/-- Something is stored of an item unless it is a rule that is not well formed. -/
theorem Item.exists_rule?_iff (i : Item) : (∃ found, i.rule? = .ok found)
    ↔ ∀ prelude block, i = .rule prelude block → RuleWellFormed prelude block := by
  cases i with
  | filler c => exact ⟨fun _ _ _ h => (nomatch h), fun _ => ⟨none, rfl⟩⟩
  | atRule parts => exact ⟨fun _ _ _ h => (nomatch h), fun _ => ⟨none, rfl⟩⟩
  | rule prelude block =>
      rw [Item.rule?, ← ruleWellFormed_iff]
      refine ⟨?_, fun h => h prelude block rfl⟩
      intro hwf prelude' block' h
      injection h with h1 h2
      rw [← h1, ← h2]
      exact hwf

theorem exists_stores_iff (is : List Item) :
    (∃ rs, Stores is rs)
      ↔ ∀ prelude block, Item.rule prelude block ∈ is → RuleWellFormed prelude block := by
  induction is with
  | nil => exact ⟨fun _ _ _ h => absurd h List.not_mem_nil, fun _ => ⟨[], .nil⟩⟩
  | cons i is ih =>
      refine ⟨?_, ?_⟩
      · intro h prelude block hmem
        obtain ⟨rs, hrs⟩ := h
        obtain ⟨found, rest, hfound, hrest, _⟩ := stores_cons_iff.mp hrs
        rcases List.mem_cons.mp hmem with h | h
        · exact i.exists_rule?_iff.mp ⟨found, hfound⟩ prelude block h.symm
        · exact ih.mp ⟨rest, hrest⟩ prelude block h
      · intro h
        obtain ⟨found, hfound⟩ := i.exists_rule?_iff.mpr fun prelude block hi =>
          h prelude block (hi ▸ List.mem_cons_self)
        obtain ⟨rest, hrest⟩ := ih.mpr fun prelude block hmem =>
          h prelude block (List.mem_cons_of_mem i hmem)
        exact ⟨_, stores_cons_iff.mpr ⟨found, rest, hfound, hrest, rfl⟩⟩

theorem readRules_eq_ok_iff (text : List Char) (rs : List Rule) :
    readRules text = .ok rs ↔ Stores (Item.ofText text) rs := rulesOf_eq_ok_iff _ _

theorem parse_eq_ok_iff (text source : String) (sheet : Stylesheet) :
    Stylesheet.parse text source = .ok sheet
      ↔ readRules text.toList = .ok sheet.rules ∧ sheet.source = source := by
  unfold Stylesheet.parse
  split
  · rename_i rules hrules
    rw [hrules]
    refine ⟨?_, ?_⟩
    · intro h; rw [← Except.ok.inj h]; exact ⟨rfl, rfl⟩
    · intro h
      obtain ⟨h1, h2⟩ := h
      rw [Except.ok.inj h1, ← h2]
  · rename_i fault hfault
    rw [hfault]
    exact ⟨fun h => (nomatch h), fun h => (nomatch h.1)⟩

/-- The name of a text is of no account: it is only put on what is read, or on the refusal. -/
theorem parse_renamed (text source name : String) :
    Stylesheet.parse text name = match Stylesheet.parse text source with
      | .ok sheet => .ok { sheet with source := name }
      | .error e => .error { e with file := name } := by
  unfold Stylesheet.parse
  cases readRules text.toList with
  | ok rules => rfl
  | error fault => rfl

/-- A refusal names the text that was refused. -/
theorem file_of_parse {text source : String} {e : ParseError}
    (h : Stylesheet.parse text source = .error e) : e.file = source := by
  have hsame := parse_renamed text source source
  rw [h] at hsame
  exact congrArg ParseError.file (Except.error.inj hsame)

/-- The items of a row make up its text. -/
theorem textOf_flatMap_components (is : List Item) :
    textOf (is.flatMap Item.components) = is.flatMap Item.text := by
  induction is with
  | nil => rfl
  | cons i is ih => rw [List.flatMap_cons, List.flatMap_cons, ← ih, textOf_append, Item.text]

theorem flatMap_text_ofComponents (cs : List Component) :
    (Item.ofComponents cs).flatMap Item.text = textOf cs := by
  rw [← textOf_flatMap_components, Item.flatMap_components_ofComponents]

/-- The items of a text make up the text. -/
theorem flatMap_text_ofText (text : List Char) :
    (Item.ofText text).flatMap Item.text = text := by
  rw [Item.ofText, flatMap_text_ofComponents, textOf_ofText]

/--
**Reading accepts exactly the grammar and loses nothing.**

Every text reads in one way as items, which make up the text. It is accepted exactly if each rule
among the items is well formed, and then the stylesheet holds what the items say.
-/
theorem parse_accepts_wellFormed (text source : String) :
    ∃ items, Reads text.toList items ∧ (∀ others, Reads text.toList others → others = items)
      ∧ items.flatMap Item.text = text.toList
      ∧ ((∃ sheet, Stylesheet.parse text source = .ok sheet)
        ↔ ∀ prelude block, Item.rule prelude block ∈ items → RuleWellFormed prelude block)
      ∧ ∀ sheet, Stylesheet.parse text source = .ok sheet
        ↔ Stores items sheet.rules ∧ sheet.source = source := by
  have hsheet : ∀ sheet, Stylesheet.parse text source = .ok sheet
      ↔ Stores (Item.ofText text.toList) sheet.rules ∧ sheet.source = source := by
    intro sheet
    rw [parse_eq_ok_iff, readRules_eq_ok_iff]
  refine ⟨Item.ofText text.toList, (reads_iff _ _).mpr rfl, ?_, flatMap_text_ofText _, ?_, hsheet⟩
  · intro others h
    exact ((reads_iff _ _).mp h).symm
  · rw [← exists_stores_iff]
    refine ⟨?_, ?_⟩
    · intro h
      obtain ⟨sheet, hs⟩ := h
      exact ⟨sheet.rules, ((hsheet sheet).mp hs).1⟩
    · intro h
      obtain ⟨rs, hrs⟩ := h
      exact ⟨⟨source, rs⟩, (hsheet ⟨source, rs⟩).mpr ⟨hrs, rfl⟩⟩

end StyleLookup.Css
