import Mathlib.Data.List.Nodup
import StyleLookup.Proofs.LiteralRoundTrip

/-!
# Script literals as expressions

What a script literal says and what it evaluates to are two things, because an object literal is a
program: its entries are carried out one after the other. An entry makes a property, or gives a new
value to one that an earlier entry made, so of a repeated key the last value stays. But an entry
with the key `__proto__` makes no property. If its value is an object or null, that becomes the
prototype of the object; any other value is dropped. An initializer with two such entries is an
error before anything is evaluated (ECMAScript, `__proto__` Property Names in Object
Initializers). Quotes around the key make no difference to this.

`script_evaluates` says what remains of a resolution: all its keys but that one, each with its last
value, and an error exactly if the key is repeated in one object. So a resolution evaluates to all
that it says exactly if no object of it that remains has the key, and none repeats it. A map that
has the key is the shortest example of what is lost (`script_loses_prototype`).
-/

namespace StyleLookup

namespace Script

/-! ## Evaluation -/

/-- What an expression evaluates to. An object may have a prototype other than the usual one. -/
inductive Result where
  | null
  | text (content : String)
  | list (items : List Result)
  | object (prototype : Option Result) (own : List (String × Result))

/-- Whether a result can be the prototype of an object: null and all objects, lists included. -/
def Result.canBePrototype : Result → Bool
  | .text _ => false
  | _ => true

/-- The key of an entry that sets the prototype. -/
def prototypeKey : String := "__proto__"

/-- Gives a property of its own to an object: a new one, or a new value for one that is there. -/
def setOwn (key : String) (value : Result) : List (String × Result) → List (String × Result)
  | [] => [(key, value)]
  | property :: own =>
      if property.1 = key then (key, value) :: own else property :: setOwn key value own

/-- The prototype and the own properties of an object while its initializer is carried out. -/
structure Building where
  prototype : Option Result
  own : List (String × Result)

/-- Carries out one entry of an initializer. -/
def Building.carryOut (b : Building) (entry : String × Result) : Building :=
  if entry.1 = prototypeKey then
    if entry.2.canBePrototype then { b with prototype := some entry.2 } else b
  else { b with own := setOwn entry.1 entry.2 b.own }

/-- The object before any entry is carried out. -/
def Building.start : Building := ⟨none, []⟩

end Script

open Script

mutual

/-- What a literal evaluates to. -/
def Value.evaluate : Value → Result
  | .null => .null
  | .text content => .text content
  | .list items => .list (evaluateItems items)
  | .object entries =>
      let built := (evaluateEntries entries).foldl Building.carryOut .start
      .object built.prototype built.own

/-- What the items of a list literal evaluate to. -/
def Value.evaluateItems : List Value → List Result
  | [] => []
  | item :: items => item.evaluate :: evaluateItems items

/-- The entries of an object literal with their values evaluated. -/
def Value.evaluateEntries : List (String × Value) → List (String × Result)
  | [] => []
  | (key, item) :: entries => (key, item.evaluate) :: evaluateEntries entries

end

mutual

/--
The keys of each object literal in a literal, as they are listed. Only with `all` those count that
stand in the value of a key which is listed again behind it.
-/
def Value.objectKeys (all : Bool) : Value → List (List String)
  | .null => []
  | .text _ => []
  | .list items => itemsKeys all items
  | .object entries => entries.map Prod.fst :: entriesKeys all entries

/-- The keys of each object literal in the items of a list. -/
def Value.itemsKeys (all : Bool) : List Value → List (List String)
  | [] => []
  | item :: items => item.objectKeys all ++ itemsKeys all items

/-- The keys of each object literal in the values of an object. -/
def Value.entriesKeys (all : Bool) : List (String × Value) → List (List String)
  | [] => []
  | (key, item) :: entries =>
      (if all = true ∨ key ∉ entries.map Prod.fst then item.objectKeys all else [])
        ++ entriesKeys all entries

end

/-- Some object literal sets its prototype twice. -/
def Value.RepeatsPrototype (v : Value) : Prop :=
  ∃ keys ∈ v.objectKeys true, 2 ≤ keys.count prototypeKey

instance (v : Value) : Decidable v.RepeatsPrototype :=
  inferInstanceAs (Decidable (∃ keys ∈ v.objectKeys true, 2 ≤ keys.count prototypeKey))

/-- Some object literal that is not overwritten sets its prototype. -/
def Value.SetsPrototype (v : Value) : Prop :=
  ∃ keys ∈ v.objectKeys false, prototypeKey ∈ keys

/-- Evaluates a text as an expression. The result is missing if the text has an error of syntax. -/
def Script.evaluate (text : String) : Option Result :=
  match Dialect.script.read text.toList with
  | none => none
  | some v => if v.RepeatsPrototype then none else some v.evaluate

/-! ## What a result should hold -/

mutual

/--
A result holds a value. Its objects have as their own keys the distinct keys that the value lists
for them, so far as these are `counted`, each with the last value that is listed.
-/
def Value.HeldBy (counted : String → Bool) : Value → Result → Prop
  | .null, result => result = .null
  | .text content, result => result = .text content
  | .list items, result => ∃ results, result = .list results ∧ itemsHeldBy counted items results
  | .object entries, result =>
      ∃ prototype own, result = .object prototype own ∧ (own.map Prod.fst).Nodup
        ∧ (∀ key, key ∈ own.map Prod.fst ↔ counted key = true ∧ key ∈ entries.map Prod.fst)
        ∧ entriesHeldBy counted entries own

/-- The items of a list are held, one by one. -/
def Value.itemsHeldBy (counted : String → Bool) : List Value → List Result → Prop
  | [], results => results = []
  | item :: items, results =>
      ∃ first rest, results = first :: rest ∧ item.HeldBy counted first
        ∧ itemsHeldBy counted items rest

/-- The properties hold the value of each entry whose key is not listed again. -/
def Value.entriesHeldBy (counted : String → Bool) :
    List (String × Value) → List (String × Result) → Prop
  | [], _ => True
  | (key, item) :: entries, own =>
      (counted key = true → key ∉ entries.map Prod.fst →
        ∃ result, (key, result) ∈ own ∧ item.HeldBy counted result)
      ∧ entriesHeldBy counted entries own

end

/-! ## One entry after the other -/

namespace Script

variable {key : String} {value : Result} {own : List (String × Result)}

theorem keys_setOwn (key : String) (value : Result) (own : List (String × Result)) :
    (setOwn key value own).map Prod.fst
      = if key ∈ own.map Prod.fst then own.map Prod.fst else own.map Prod.fst ++ [key] := by
  induction own with
  | nil => rfl
  | cons property own ih =>
      rw [setOwn, List.map_cons]
      by_cases hkey : property.1 = key
      · rw [if_pos hkey, List.map_cons, if_pos (by rw [hkey]; exact List.mem_cons_self), hkey]
      · rw [if_neg hkey, List.map_cons, ih]
        have hmem : key ∈ property.1 :: own.map Prod.fst ↔ key ∈ own.map Prod.fst := by
          rw [List.mem_cons]
          exact or_iff_right (Ne.symm hkey)
        by_cases hin : key ∈ own.map Prod.fst
        · rw [if_pos hin, if_pos (hmem.mpr hin)]
        · rw [if_neg hin, if_neg (mt hmem.mp hin), List.cons_append]

theorem mem_setOwn_self (key : String) (value : Result) (own : List (String × Result)) :
    (key, value) ∈ setOwn key value own := by
  induction own with
  | nil => exact List.mem_singleton.mpr rfl
  | cons property own ih =>
      rw [setOwn]
      split
      · exact List.mem_cons_self
      · exact List.mem_cons_of_mem _ ih

/-- Properties with other keys stay as they are. -/
theorem mem_setOwn_of_ne {property : String × Result} (hmem : property ∈ own)
    (hne : property.1 ≠ key) : property ∈ setOwn key value own := by
  induction own with
  | nil => exact absurd hmem List.not_mem_nil
  | cons first own ih =>
      rw [setOwn]
      rcases List.mem_cons.mp hmem with rfl | hmem
      · rw [if_neg hne]
        exact List.mem_cons_self
      · split
        · exact List.mem_cons_of_mem _ hmem
        · exact List.mem_cons_of_mem _ (ih hmem)

namespace Building

/-- One entry: nothing for the own properties, or one of them set. -/
theorem own_carryOut (b : Building) (entry : String × Result) :
    (b.carryOut entry).own
      = if entry.1 = prototypeKey then b.own else setOwn entry.1 entry.2 b.own := by
  unfold carryOut
  split
  · split
    · rfl
    · rfl
  · rfl

theorem nodup_carryOut {b : Building} (h : (b.own.map Prod.fst).Nodup)
    (entry : String × Result) : ((b.carryOut entry).own.map Prod.fst).Nodup := by
  rw [own_carryOut]
  split
  · exact h
  · rw [keys_setOwn]
    split
    · exact h
    · rename_i hnew
      rw [List.nodup_append]
      refine ⟨h, List.nodup_cons.mpr ⟨List.not_mem_nil, List.nodup_nil⟩, ?_⟩
      rintro key hkey other hother rfl
      rw [List.mem_singleton.mp hother] at hkey
      exact hnew hkey

theorem mem_keys_carryOut (b : Building) (entry : String × Result) (key : String) :
    key ∈ (b.carryOut entry).own.map Prod.fst
      ↔ key ∈ b.own.map Prod.fst ∨ key ≠ prototypeKey ∧ key = entry.1 := by
  rw [own_carryOut]
  split
  · rename_i hprototype
    rw [hprototype]
    exact (or_iff_left fun h => h.1 h.2).symm
  · rename_i hplain
    rw [keys_setOwn]
    split
    · rename_i hin
      refine (or_iff_left_of_imp ?_).symm
      rintro ⟨_, rfl⟩
      exact hin
    · rw [List.mem_append, List.mem_singleton]
      refine or_congr_right ⟨?_, And.right⟩
      rintro rfl
      exact ⟨hplain, rfl⟩

/-- The own keys after a row of entries, which stay distinct. -/
theorem keys_foldl (entries : List (String × Result)) (b : Building)
    (h : (b.own.map Prod.fst).Nodup) :
    ((entries.foldl carryOut b).own.map Prod.fst).Nodup
      ∧ ∀ key, key ∈ (entries.foldl carryOut b).own.map Prod.fst
        ↔ key ∈ b.own.map Prod.fst ∨ key ≠ prototypeKey ∧ key ∈ entries.map Prod.fst := by
  induction entries generalizing b with
  | nil => exact ⟨h, fun key => by simp⟩
  | cons entry entries ih =>
      obtain ⟨hnodup, hkeys⟩ := ih (b.carryOut entry) (nodup_carryOut h entry)
      refine ⟨hnodup, fun key => ?_⟩
      rw [List.foldl_cons, hkeys key, mem_keys_carryOut, List.map_cons, List.mem_cons, or_assoc,
        and_or_left]

/-- A property stays unless a later entry has its key. -/
theorem mem_foldl {property : String × Result} (entries : List (String × Result)) (b : Building)
    (hmem : property ∈ b.own) (hlast : property.1 ∉ entries.map Prod.fst) :
    property ∈ (entries.foldl carryOut b).own := by
  induction entries generalizing b with
  | nil => exact hmem
  | cons entry entries ih =>
      rw [List.map_cons, List.mem_cons, not_or] at hlast
      refine ih (b.carryOut entry) ?_ hlast.2
      rw [own_carryOut]
      split
      · exact hmem
      · exact mem_setOwn_of_ne hmem hlast.1

end Building

end Script

/-! ## What literals evaluate to -/

namespace Value

open Script.Building

theorem evaluateItems_eq_map (items : List Value) : evaluateItems items = items.map evaluate := by
  induction items with
  | nil => rw [evaluateItems]; rfl
  | cons item items ih => rw [evaluateItems, ih]; rfl

theorem evaluateEntries_eq_map (entries : List (String × Value)) :
    evaluateEntries entries = entries.map fun e => (e.1, e.2.evaluate) := by
  induction entries with
  | nil => rw [evaluateEntries]; rfl
  | cons entry entries ih => rw [evaluateEntries, ih]; rfl

theorem keys_evaluateEntries (entries : List (String × Value)) :
    (evaluateEntries entries).map Prod.fst = entries.map Prod.fst := by
  rw [evaluateEntries_eq_map, List.map_map]
  rfl

/-- An entry makes its property, and none of the later ones touches it. -/
theorem mem_foldl_carryOut {key : String} (value : Result) {entries : List (String × Value)}
    (hkey : key ≠ prototypeKey) (hlast : key ∉ entries.map Prod.fst) (b : Building) :
    (key, value) ∈ ((evaluateEntries entries).foldl carryOut (b.carryOut (key, value))).own := by
  refine mem_foldl _ _ ?_ (by rw [keys_evaluateEntries]; exact hlast)
  rw [own_carryOut, if_neg hkey]
  exact mem_setOwn_self _ _ _

variable {counted : String → Bool}

/-- In every object of a literal, just the keys that set no prototype are counted. -/
def CountsProperties (counted : String → Bool) (rows : List (List String)) : Prop :=
  ∀ keys ∈ rows, ∀ key ∈ keys, counted key = true ↔ key ≠ prototypeKey

theorem CountsProperties.append {a b : List (List String)} (h : CountsProperties counted (a ++ b)) :
    CountsProperties counted a ∧ CountsProperties counted b :=
  ⟨fun keys hkeys => h keys (List.mem_append_left b hkeys),
    fun keys hkeys => h keys (List.mem_append_right a hkeys)⟩

mutual

/-- **A literal evaluates to what it lists, without the keys that set a prototype.** -/
theorem heldBy_evaluate : ∀ v : Value, CountsProperties counted (v.objectKeys false) →
    v.HeldBy counted v.evaluate
  | .null, _ => by rw [HeldBy, evaluate]
  | .text content, _ => by rw [HeldBy, evaluate]
  | .list items, h => by
      rw [objectKeys] at h
      rw [HeldBy, evaluate]
      exact ⟨_, rfl, itemsHeldBy_evaluate items h⟩
  | .object entries, h => by
      rw [objectKeys, ← List.singleton_append] at h
      obtain ⟨hown, hnested⟩ := h.append
      have hown := hown _ (List.mem_singleton.mpr rfl)
      obtain ⟨hnodup, hkeys⟩ := keys_foldl (evaluateEntries entries) .start List.nodup_nil
      rw [HeldBy, evaluate]
      refine ⟨_, _, rfl, hnodup, fun key => ?_, entriesHeldBy_evaluate entries .start hown hnested⟩
      rw [hkeys key, keys_evaluateEntries]
      constructor
      · rintro (hmem | ⟨hne, hmem⟩)
        · exact absurd hmem List.not_mem_nil
        · exact ⟨(hown key hmem).mpr hne, hmem⟩
      · rintro ⟨hc, hmem⟩
        exact .inr ⟨(hown key hmem).mp hc, hmem⟩

theorem itemsHeldBy_evaluate : ∀ items : List Value,
    CountsProperties counted (itemsKeys false items) →
    itemsHeldBy counted items (evaluateItems items)
  | [], _ => by rw [itemsHeldBy, evaluateItems]
  | item :: items, h => by
      rw [itemsKeys] at h
      rw [itemsHeldBy, evaluateItems]
      exact ⟨_, _, rfl, heldBy_evaluate item h.append.1, itemsHeldBy_evaluate items h.append.2⟩

theorem entriesHeldBy_evaluate : ∀ (entries : List (String × Value)) (b : Building),
    (∀ key ∈ entries.map Prod.fst, counted key = true ↔ key ≠ prototypeKey) →
    CountsProperties counted (entriesKeys false entries) →
    entriesHeldBy counted entries ((evaluateEntries entries).foldl carryOut b).own
  | [], _, _, _ => by rw [entriesHeldBy]; trivial
  | (key, item) :: entries, b, hown, h => by
      rw [entriesKeys] at h
      rw [List.map_cons, List.forall_mem_cons] at hown
      rw [entriesHeldBy, evaluateEntries, List.foldl_cons]
      refine ⟨fun hc hlast => ?_, entriesHeldBy_evaluate entries _ hown.2 h.append.2⟩
      have hitem := h.append.1
      rw [if_pos (.inr hlast)] at hitem
      exact ⟨_, mem_foldl_carryOut item.evaluate (hown.1.mp hc) hlast b,
        heldBy_evaluate item hitem⟩

end

mutual

/-- **A literal that evaluates to all that it lists sets no prototype.** -/
theorem absent_of_heldBy : ∀ v : Value, v.HeldBy (fun _ => true) v.evaluate →
    ∀ keys ∈ v.objectKeys false, prototypeKey ∉ keys
  | .null, _ => by rw [objectKeys]; exact fun _ h => absurd h List.not_mem_nil
  | .text _, _ => by rw [objectKeys]; exact fun _ h => absurd h List.not_mem_nil
  | .list items, h => by
      rw [HeldBy, evaluate] at h
      obtain ⟨_, heq, hitems⟩ := h
      cases heq
      rw [objectKeys]
      exact absent_of_itemsHeldBy items hitems
  | .object entries, h => by
      rw [HeldBy, evaluate] at h
      obtain ⟨_, _, heq, _, hkeys, hentries⟩ := h
      cases heq
      have hfoldl := (keys_foldl (evaluateEntries entries) .start List.nodup_nil).2 prototypeKey
      have habsent : prototypeKey ∉ entries.map Prod.fst := by
        intro hmem
        rcases hfoldl.mp ((hkeys prototypeKey).mpr ⟨rfl, hmem⟩) with hstart | ⟨hne, _⟩
        · exact absurd hstart List.not_mem_nil
        · exact hne rfl
      rw [objectKeys, List.forall_mem_cons]
      exact ⟨habsent, absent_of_entriesHeldBy entries .start List.nodup_nil habsent hentries⟩

theorem absent_of_itemsHeldBy : ∀ items : List Value,
    itemsHeldBy (fun _ => true) items (evaluateItems items) →
    ∀ keys ∈ itemsKeys false items, prototypeKey ∉ keys
  | [], _ => by rw [itemsKeys]; exact fun _ h => absurd h List.not_mem_nil
  | item :: items, h => by
      rw [itemsHeldBy, evaluateItems] at h
      obtain ⟨_, _, heq, hitem, hitems⟩ := h
      cases heq
      rw [itemsKeys, List.forall_mem_append]
      exact ⟨absent_of_heldBy item hitem, absent_of_itemsHeldBy items hitems⟩

theorem absent_of_entriesHeldBy : ∀ (entries : List (String × Value)) (b : Building),
    (b.own.map Prod.fst).Nodup → prototypeKey ∉ entries.map Prod.fst →
    entriesHeldBy (fun _ => true) entries ((evaluateEntries entries).foldl carryOut b).own →
    ∀ keys ∈ entriesKeys false entries, prototypeKey ∉ keys
  | [], _, _, _, _ => by rw [entriesKeys]; exact fun _ h => absurd h List.not_mem_nil
  | (key, item) :: entries, b, hnodup, habsent, h => by
      rw [List.map_cons, List.mem_cons, not_or] at habsent
      rw [entriesHeldBy, evaluateEntries, List.foldl_cons] at h
      have hcarried := nodup_carryOut hnodup (key, item.evaluate)
      rw [entriesKeys, List.forall_mem_append]
      refine ⟨?_, absent_of_entriesHeldBy entries _ hcarried habsent.2 h.2⟩
      split
      · rename_i hlast
        replace hlast : key ∉ entries.map Prod.fst := hlast.resolve_left Bool.false_ne_true
        -- the property with this key can only be the one that the entry made
        obtain ⟨result, hmem, hitem⟩ := h.1 rfl hlast
        have hmade := mem_foldl_carryOut item.evaluate (Ne.symm habsent.1) hlast b
        obtain rfl : result = item.evaluate := by
          have := List.inj_on_of_nodup_map (keys_foldl _ _ hcarried).1 hmem hmade rfl
          exact congrArg Prod.snd this
        exact absent_of_heldBy item hitem
      · exact fun _ h => absurd h List.not_mem_nil

end

end Value

/-- Reading and evaluating the expression of a resolution. -/
theorem evaluate_script (r : Resolution) :
    Script.evaluate r.script
      = if r.value.RepeatsPrototype then none else some r.value.evaluate := by
  rw [Script.evaluate, r.read_script]

/--
**What the expression of a resolution evaluates to.**

Its syntax is in error exactly if some object of the resolution lists the key of the prototype more
than once. Otherwise every object of the result has as its own keys the distinct keys that the
resolution gives it, except for that one, each with the value that is listed last. Nothing is left
out exactly if the syntax is in order and no object that remains lists that key.
-/
theorem script_evaluates (r : Resolution) :
    (Script.evaluate r.script = none ↔ r.value.RepeatsPrototype)
      ∧ (∀ result, Script.evaluate r.script = some result →
        r.value.HeldBy (fun key => key != prototypeKey) result)
      ∧ ((∃ result, Script.evaluate r.script = some result
          ∧ r.value.HeldBy (fun _ => true) result)
        ↔ ¬ r.value.RepeatsPrototype ∧ ¬ r.value.SetsPrototype) := by
  rw [evaluate_script]
  by_cases hrepeats : r.value.RepeatsPrototype
  · rw [if_pos hrepeats]
    exact ⟨iff_of_true rfl hrepeats, fun _ h => (by cases h),
      iff_of_false (fun ⟨_, h, _⟩ => by cases h) fun h => h.1 hrepeats⟩
  rw [if_neg hrepeats]
  refine ⟨iff_of_false (fun h => by cases h) hrepeats, ?_, ?_, ?_⟩
  · intro result hresult
    obtain rfl := Option.some.inj hresult
    exact r.value.heldBy_evaluate fun keys _ key _ => by rw [bne_iff_ne]
  · rintro ⟨result, hresult, hheld⟩
    obtain rfl := Option.some.inj hresult
    exact ⟨hrepeats, fun ⟨keys, hkeys, hmem⟩ => r.value.absent_of_heldBy hheld keys hkeys hmem⟩
  · rintro ⟨_, hsets⟩
    refine ⟨_, rfl, r.value.heldBy_evaluate fun keys hkeys key hkey => iff_of_true rfl ?_⟩
    rintro rfl
    exact hsets ⟨keys, hkeys, hkey⟩

/--
A map with the key of the prototype: on its own it is dropped, and repeated it is an error.
-/
theorem script_loses_prototype :
    let once : Resolution := .mapping [("__proto__", some (.text "x"))]
    let twice : Resolution := .mapping [("__proto__", none), ("__proto__", none)]
    once.script = "\x7b \"__proto__\": \"x\" \x7d"
      ∧ (∃ result, Script.evaluate once.script = some result
        ∧ ¬ once.value.HeldBy (fun _ => true) result)
      ∧ Script.evaluate twice.script = none := by
  intro once twice
  refine ⟨by decide +kernel, ⟨.object none [], ?_, ?_⟩, ?_⟩
  · rw [evaluate_script]
    rfl
  · intro h
    obtain ⟨_, own, hresult, _, hkeys, _⟩ := h
    cases hresult
    exact absurd ((hkeys "__proto__").mpr ⟨rfl, List.mem_singleton.mpr rfl⟩) List.not_mem_nil
  · rw [evaluate_script, if_pos (by decide +kernel)]

end StyleLookup
