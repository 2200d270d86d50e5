import StyleLookup.Css.Component

/-!
# The shape of nested tokens

`Component.ofTokens` reads tokens with a stack of open blocks. What comes out can be said without
the stack: it is the one row of components that has these tokens in this order and in which every
block stands as blocks must.

* In a **closed** row every block has its closing bracket, and that bracket does not stand alone
  anywhere in the block. A bracket that closes something else may.
* A **nested** row is a closed row that may end in one more block, whose contents are nested and
  which the end of the text closes.

`ofTokens_eq_iff` is the whole account. What later files use most are its two consequences: a
closed row stays as it is in front of any other tokens (`ofTokens_append`), and in any block that
it does not close (`foldl_push_tokensOf`).
-/

namespace StyleLookup.Css

namespace Component

mutual

/-- The tokens of a component, in order. -/
def tokens : Component → List Token
  | .token t => [t]
  | .block opening body closing => opening :: (tokensOf body ++ closing.toList)

/-- The tokens of components in a row. -/
def tokensOf : List Component → List Token
  | [] => []
  | c :: cs => tokens c ++ tokensOf cs

end

theorem tokensOf_append (a b : List Component) : tokensOf (a ++ b) = tokensOf a ++ tokensOf b := by
  induction a with
  | nil => rfl
  | cons c cs ih => rw [List.cons_append, tokensOf, tokensOf, ih, List.append_assoc]

mutual

theorem text_eq_flatMap (c : Component) : text c = c.tokens.flatMap Token.text := by
  cases c with
  | token t => simp [text, tokens]
  | block opening body closing =>
      rw [text, tokens, textOf_eq_flatMap body]
      cases closing <;> simp

/-- The text of a row is the text of its tokens. -/
theorem textOf_eq_flatMap (cs : List Component) :
    textOf cs = (tokensOf cs).flatMap Token.text := by
  cases cs with
  | nil => rfl
  | cons c cs =>
      rw [textOf, tokensOf, List.flatMap_append, text_eq_flatMap c, textOf_eq_flatMap cs]

end

/-- A row in which every block is closed, and in which the kind `stop` does not stand alone. -/
inductive Closed : Option Kind → List Component → Prop where
  | nil {stop : Option Kind} : Closed stop []
  | token {stop : Option Kind} {t : Token} {cs : List Component} :
      t.kind.closer? = none → stop ≠ some t.kind → Closed stop cs → Closed stop (.token t :: cs)
  | block {stop : Option Kind} {opening closing : Token} {body cs : List Component} :
      opening.kind.closer? = some closing.kind → Closed (some closing.kind) body →
      Closed stop cs → Closed stop (.block opening body (some closing) :: cs)

/-- A closed row that may end in a block which the end of the text closes. -/
inductive Nested : Option Kind → List Component → Prop where
  | closed {stop : Option Kind} {cs : List Component} : Closed stop cs → Nested stop cs
  | cut {stop : Option Kind} {kind : Kind} {opening : Token} {body cs : List Component} :
      Closed stop cs → opening.kind.closer? = some kind → Nested (some kind) body →
      Nested stop (cs ++ [.block opening body none])

theorem Closed.append {stop : Option Kind} {a b : List Component} (ha : Closed stop a)
    (hb : Closed stop b) : Closed stop (a ++ b) := by
  induction ha with
  | nil => exact hb
  | token ht hs _ ih => exact .token ht hs (ih hb)
  | block ho hbody _ _ ih => exact .block ho hbody (ih hb)

theorem Closed.of_append {stop : Option Kind} {a b : List Component} (h : Closed stop (a ++ b)) :
    Closed stop a ∧ Closed stop b := by
  induction a with
  | nil => exact ⟨.nil, h⟩
  | cons c cs ih =>
      cases h with
      | token ht hs hrest => exact ⟨.token ht hs (ih hrest).1, (ih hrest).2⟩
      | block ho hbody hrest => exact ⟨.block ho hbody (ih hrest).1, (ih hrest).2⟩

theorem Closed.nested_append {stop : Option Kind} {a b : List Component} (ha : Closed stop a)
    (hb : Nested stop b) : Nested stop (a ++ b) := by
  cases hb with
  | closed hb => exact .closed (ha.append hb)
  | cut hcs ho hbody =>
      rw [← List.append_assoc]
      exact .cut (ha.append hcs) ho hbody

/-- What follows the front of a nested row is a nested row. -/
theorem Nested.of_append {stop : Option Kind} {a b : List Component}
    (h : Nested stop (a ++ b)) : Nested stop b := by
  generalize hrow : a ++ b = row at h
  cases h with
  | closed hc => exact .closed (hrow ▸ hc : Closed stop (a ++ b)).of_append.2
  | @cut _ kind opening body cs hcs ho hbody =>
      rcases List.eq_nil_or_concat b with rfl | ⟨front, last, rfl⟩
      · exact .closed .nil
      · rw [List.concat_eq_append, ← List.append_assoc] at hrow
        obtain ⟨hfront, hlast⟩ := List.append_inj' hrow rfl
        injection hlast with hlast _
        rw [List.concat_eq_append, hlast]
        rw [← hfront] at hcs
        exact .cut hcs.of_append.2 ho hbody

/-- No opening bracket stands alone in a nested row. -/
theorem Nested.closer?_eq_none {stop : Option Kind} {t : Token} {cs : List Component}
    (h : Nested stop (.token t :: cs)) : t.kind.closer? = none := by
  generalize hrow : Component.token t :: cs = row at h
  cases h with
  | closed hc =>
      subst hrow
      cases hc with
      | token ht _ _ => exact ht
  | @cut _ _ _ _ front hcs _ _ =>
      cases front with
      | nil => injection hrow with h; exact Component.noConfusion h
      | cons c front =>
          injection hrow with h
          subst h
          cases hcs with
          | token ht _ _ => exact ht

end Component

open Component

namespace Nesting

/-- The kind that closes the innermost open block. -/
def stop? : List (Token × List Component) → Option Kind
  | [] => none
  | (opening, _) :: _ => opening.kind.closer?

/-- Every open block was opened by an opening bracket, behind a closed row. -/
def Sound : List (Token × List Component) → Prop
  | [] => True
  | (opening, before) :: rest =>
      opening.kind.closer?.isSome ∧ Closed (stop? rest) before.reverse ∧ Sound rest

/-- All tokens that were taken. -/
def tokens (items : List Component) : List (Token × List Component) → List Token
  | [] => tokensOf items.reverse
  | (opening, before) :: rest => tokens before rest ++ opening :: tokensOf items.reverse

theorem tokens_cons (c : Component) (items : List Component)
    (enclosing : List (Token × List Component)) :
    tokens (c :: items) enclosing = tokens items enclosing ++ c.tokens := by
  cases enclosing with
  | nil => simp [tokens, tokensOf_append, tokensOf]
  | cons entry rest => simp [tokens, tokensOf_append, tokensOf]

theorem tokens_push (n : Nesting) (t : Token) :
    tokens (n.push t).items (n.push t).enclosing = tokens n.items n.enclosing ++ [t] := by
  unfold push
  split
  · simp [tokens, tokensOf]
  · split
    · rw [add, tokens_cons, Component.tokens]
    · rename_i opening before rest h
      split
      · rw [tokens_cons, Component.tokens, h, tokens, List.append_assoc]; rfl
      · rw [add, tokens_cons, Component.tokens]

theorem tokens_foldl (ts : List Token) (n : Nesting) :
    tokens (ts.foldl push n).items (ts.foldl push n).enclosing
      = tokens n.items n.enclosing ++ ts := by
  induction ts generalizing n with
  | nil => rw [List.foldl_nil, List.append_nil]
  | cons t ts ih => rw [List.foldl_cons, ih, tokens_push, List.append_assoc]; rfl

theorem tokensOf_finish (items : List Component) (enclosing : List (Token × List Component)) :
    tokensOf (finish items enclosing) = tokens items enclosing := by
  induction enclosing generalizing items with
  | nil => rfl
  | cons entry rest ih =>
      obtain ⟨opening, before⟩ := entry
      rw [finish, ih, tokens_cons, tokens, Component.tokens]
      simp

/-- **One token keeps the rows closed.** -/
theorem sound_push {n : Nesting} (t : Token)
    (hitems : Closed (stop? n.enclosing) n.items.reverse) (hs : Sound n.enclosing) :
    Closed (stop? (n.push t).enclosing) (n.push t).items.reverse ∧ Sound (n.push t).enclosing := by
  unfold push
  split
  · rename_i ht
    exact ⟨.nil, ht, hitems, hs⟩
  · rename_i ht
    have hplain : t.kind.closer? = none := Option.not_isSome_iff_eq_none.mp ht
    -- a token that neither opens nor closes a block joins the row
    have hadd : stop? n.enclosing ≠ some t.kind →
        Closed (stop? n.enclosing) (n.add (.token t)).items.reverse := by
      intro hstop
      rw [add, List.reverse_cons]
      exact hitems.append (.token hplain hstop .nil)
    split
    · rename_i h
      refine ⟨hadd ?_, hs⟩
      rw [h]
      exact (Option.some_ne_none t.kind).symm
    · rename_i opening before rest h
      rw [h] at hitems hs
      split
      · rename_i hclose
        rw [stop?, hclose] at hitems
        rw [List.reverse_cons]
        exact ⟨hs.2.1.append (.block hclose hitems .nil), hs.2.2⟩
      · rename_i hclose
        refine ⟨hadd ?_, h ▸ hs⟩
        rw [h]
        exact hclose

theorem sound_foldl (ts : List Token) (n : Nesting)
    (hitems : Closed (stop? n.enclosing) n.items.reverse) (hs : Sound n.enclosing) :
    Closed (stop? (ts.foldl push n).enclosing) (ts.foldl push n).items.reverse
      ∧ Sound (ts.foldl push n).enclosing := by
  induction ts generalizing n with
  | nil => exact ⟨hitems, hs⟩
  | cons t ts ih =>
      obtain ⟨h1, h2⟩ := sound_push t hitems hs
      exact ih (n.push t) h1 h2

/-- The end of the text closes one block after the other, from the inside. -/
theorem nested_finish (items : List Component) (enclosing : List (Token × List Component))
    (hitems : Nested (stop? enclosing) items.reverse) (hs : Sound enclosing) :
    Nested none (finish items enclosing) := by
  induction enclosing generalizing items with
  | nil => exact hitems
  | cons entry rest ih =>
      obtain ⟨opening, before⟩ := entry
      obtain ⟨kind, hkind⟩ := Option.isSome_iff_exists.mp hs.1
      rw [stop?, hkind] at hitems
      refine ih _ ?_ hs.2.2
      rw [List.reverse_cons]
      exact .cut hs.2.1 hkind hitems

/-- **A closed row joins any block that it does not close.** -/
theorem foldl_push_tokensOf {stop : Option Kind} {cs : List Component} (h : Closed stop cs) :
    ∀ n : Nesting, stop? n.enclosing = stop →
      (tokensOf cs).foldl push n = ⟨cs.reverse ++ n.items, n.enclosing⟩ := by
  induction h with
  | nil => intro n _; rfl
  | @token stop t cs ht hstop _ ih =>
      intro n hn
      have hpush : n.push t = n.add (.token t) := by
        unfold push
        rw [if_neg (by rw [ht]; exact Bool.false_ne_true)]
        split
        · rfl
        · rename_i opening before rest henc
          rw [henc, stop?] at hn
          rw [if_neg (by rw [hn]; exact hstop)]
      rw [tokensOf, Component.tokens, List.singleton_append, List.foldl_cons, hpush,
        ih (n.add (.token t)) hn]
      simp [add]
  | @block stop opening closing body cs ho _ _ ihbody ihcs =>
      intro n hn
      have hopen : n.push opening = ⟨[], (opening, n.items) :: n.enclosing⟩ := by
        unfold push
        rw [if_pos (by rw [ho]; rfl)]
      -- no bracket that closes a block opens one
      have hcloser : closing.kind.closer? = none := by
        unfold Kind.closer? at ho
        split at ho
        · injection ho with ho; rw [← ho]; rfl
        · injection ho with ho; rw [← ho]; rfl
        · injection ho with ho; rw [← ho]; rfl
        · injection ho with ho; rw [← ho]; rfl
        · exact absurd ho (by simp)
      have hclose : push ⟨body.reverse ++ [], (opening, n.items) :: n.enclosing⟩ closing
          = n.add (.block opening body (some closing)) := by
        unfold push
        rw [if_neg (by rw [hcloser]; exact Bool.false_ne_true)]
        dsimp only
        rw [if_pos ho, List.append_nil, List.reverse_reverse, add]
      rw [tokensOf, Component.tokens, List.cons_append, List.foldl_cons, hopen, List.append_assoc,
        List.foldl_append, ihbody _ (by rw [stop?, ho]), Option.toList_some,
        List.singleton_append, List.foldl_cons, hclose,
        ihcs (n.add (.block opening body (some closing))) hn]
      simp [add]

/-- A nested row comes out as it went in. -/
theorem finish_tokensOf {stop : Option Kind} {cs : List Component} (h : Nested stop cs) :
    ∀ n : Nesting, stop? n.enclosing = stop →
      finish ((tokensOf cs).foldl push n).items ((tokensOf cs).foldl push n).enclosing
        = finish (cs.reverse ++ n.items) n.enclosing := by
  induction h with
  | closed hc =>
      intro n hn
      rw [foldl_push_tokensOf hc n hn]
  | @cut stop kind opening body cs hcs ho _ ih =>
      intro n hn
      -- the block that is left open is closed by the end of the text
      have hopen : push ⟨cs.reverse ++ n.items, n.enclosing⟩ opening
          = ⟨[], (opening, cs.reverse ++ n.items) :: n.enclosing⟩ := by
        unfold push
        rw [if_pos (by rw [ho]; rfl)]
      rw [tokensOf_append, List.foldl_append, foldl_push_tokensOf hcs n hn]
      simp only [tokensOf, Component.tokens, Option.toList_none, List.append_nil, List.foldl_cons,
        hopen]
      rw [ih _ (by rw [stop?, ho]), List.append_nil, finish, List.reverse_reverse,
        List.reverse_append]
      rfl

end Nesting

namespace Component

theorem nested_ofTokens (ts : List Token) : Nested none (ofTokens ts) := by
  obtain ⟨hitems, hs⟩ := Nesting.sound_foldl ts Nesting.empty .nil trivial
  exact Nesting.nested_finish _ _ (.closed hitems) hs

theorem tokensOf_ofTokens (ts : List Token) : tokensOf (ofTokens ts) = ts := by
  rw [ofTokens, Nesting.tokensOf_finish, Nesting.tokens_foldl]
  rfl

/-- **Nesting finds the one nested row that has these tokens.** -/
theorem ofTokens_eq_iff (ts : List Token) (cs : List Component) :
    ofTokens ts = cs ↔ Nested none cs ∧ tokensOf cs = ts := by
  refine ⟨?_, ?_⟩
  · intro h
    rw [← h]
    exact ⟨nested_ofTokens ts, tokensOf_ofTokens ts⟩
  · intro h
    obtain ⟨hn, rfl⟩ := h
    have := Nesting.finish_tokensOf hn Nesting.empty rfl
    rw [ofTokens, this, Nesting.empty, List.append_nil, Nesting.finish, List.reverse_reverse]

/-- Behind a closed row nesting starts afresh. -/
theorem ofTokens_append {cs : List Component} (h : Closed none cs) (ts : List Token) :
    ofTokens (tokensOf cs ++ ts) = cs ++ ofTokens ts := by
  rw [ofTokens_eq_iff]
  refine ⟨h.nested_append (nested_ofTokens ts), ?_⟩
  rw [tokensOf_append, tokensOf_ofTokens]

theorem nested_ofText (s : List Char) : Nested none (ofText s) := nested_ofTokens _

theorem tokensOf_ofText (s : List Char) : tokensOf (ofText s) = tokenize s := tokensOf_ofTokens _

end Component

end StyleLookup.Css
