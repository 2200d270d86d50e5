import StyleLookup.Proofs.Calls
import StyleLookup.Proofs.ObjectInitializer
import StyleLookup.Proofs.WrittenForms

/-!
# What calls return

A call hands over what it found, part by part, to a serializer of the host, and returns what the
host makes of it. `returned_positionwise` keeps the two apart. That there is one answer for each
item of a list and for each key of an object, whatever the others find, is up to the call, and
holds of every host. That a script then finds the answers at their places, under the same keys and
in the same order, is up to the host. It rests on what is documented of the host's serializer
(`json_compatible` of `serde_wasm_bindgen`): plain objects, null for what is absent, and the same
result as that of reading the JSON text (`ReturnsJson`).

Reading JSON makes a property of every key. A host that assigns one property after the other makes
none of the key `__proto__`, as in an initializer: there it sets the prototype, or does nothing.
Such a host keeps to what is documented as long as no object has that key
(`returnsJson_assigning`), and of an object that has it this key alone is lost
(`returned_assigning`).
-/

namespace StyleLookup

open Script

namespace Script

/-! ## How a script lists properties -/

/-- Indices of arrays are below this number, 2 ^ 32 - 1. -/
def indexBound : Nat := 4294967295

/-- The index of an array that a key is the decimal of, without leading zeros. -/
def arrayIndex? (key : String) : Option Nat :=
  let n := key.toList.foldl (fun n c => 10 * n + (c.toNat - '0'.toNat)) 0
  if Nat.toDigits 10 n = key.toList ∧ n < indexBound then some n else none

/-- The rank of a key in a listing: indices come first and ascend, and other keys are level. -/
def rank (key : String) : Nat := (arrayIndex? key).getD indexBound

/-- The keys of an object as a script lists them: all distinct, and by rank. -/
def Listed (keys : List String) : Prop :=
  keys.Nodup ∧ keys.Pairwise fun a b => rank a ≤ rank b

/-- The properties of an object as a script lists them. Those that are level stay as they came. -/
def Result.entries? : Result → Option (List (String × Result))
  | .object _ own => some (own.mergeSort fun a b => decide (rank a.1 ≤ rank b.1))
  | _ => none

/-- The items of an array. -/
def Result.items? : Result → Option (List Result)
  | .list items => some items
  | _ => none

theorem entries?_of_listed {prototype : Option Result} {own : List (String × Result)}
    (h : Listed (own.map Prod.fst)) : (Result.object prototype own).entries? = some own := by
  have hpairwise := List.pairwise_map.mp h.2
  rw [Result.entries?, List.mergeSort_of_pairwise (hpairwise.imp decide_eq_true)]

/-! ## Properties made one after the other -/

/-- Makes a property of each entry. -/
def setAll (own entries : List (String × Result)) : List (String × Result) :=
  entries.foldl (fun own entry => setOwn entry.1 entry.2 own) own

theorem setOwn_of_not_mem {key : String} (value : Result) {own : List (String × Result)}
    (h : key ∉ own.map Prod.fst) : setOwn key value own = own ++ [(key, value)] := by
  induction own with
  | nil => rfl
  | cons property own ih =>
      rw [List.map_cons, List.mem_cons, not_or] at h
      rw [setOwn, if_neg (Ne.symm h.1), ih h.2, List.cons_append]

/-- Entries with keys of their own become properties as they are. -/
theorem setAll_of_nodup {own entries : List (String × Result)}
    (h : ((own ++ entries).map Prod.fst).Nodup) : setAll own entries = own ++ entries := by
  induction entries generalizing own with
  | nil => exact (List.append_nil own).symm
  | cons entry entries ih =>
      have hnew : entry.1 ∉ own.map Prod.fst := by
        rw [List.map_append, List.nodup_append] at h
        exact fun hmem => h.2.2 _ hmem _ List.mem_cons_self rfl
      rw [List.append_cons] at h
      rw [setAll, List.foldl_cons, setOwn_of_not_mem entry.2 hnew]
      exact (ih h).trans (List.append_cons own entry entries).symm

theorem setAll_nil_of_nodup {entries : List (String × Result)}
    (h : (entries.map Prod.fst).Nodup) : setAll [] entries = entries := setAll_of_nodup h

/-- The entries of an initializer make properties of all keys but that of the prototype. -/
theorem own_foldl_carryOut (entries : List (String × Result)) (b : Building) :
    (entries.foldl Building.carryOut b).own
      = setAll b.own (entries.filter fun e => e.1 ≠ prototypeKey) := by
  induction entries generalizing b with
  | nil => rfl
  | cons entry entries ih =>
      rw [List.foldl_cons, ih, Building.own_carryOut]
      by_cases hkey : entry.1 = prototypeKey
      · rw [if_pos hkey, List.filter_cons_of_neg (by simpa using hkey)]
      · rw [if_neg hkey, List.filter_cons_of_pos (by simpa using hkey)]
        rfl

/-- Without that key, all entries make properties and the prototype stays as it is. -/
theorem foldl_carryOut_of_absent {entries : List (String × Result)}
    (h : prototypeKey ∉ entries.map Prod.fst) (b : Building) :
    entries.foldl Building.carryOut b = ⟨b.prototype, setAll b.own entries⟩ := by
  induction entries generalizing b with
  | nil => rfl
  | cons entry entries ih =>
      rw [List.map_cons, List.mem_cons, not_or] at h
      rw [List.foldl_cons, ih h.2, Building.carryOut, if_neg (Ne.symm h.1)]
      rfl

end Script

/-! ## Two hosts -/

/-- A host that assigns the entries of a map to a new object, one after the other. -/
def Serializer.assigning : Serializer Result where
  nothing := .null
  text := .text
  sequence := .list
  map entries :=
    let built := entries.foldl Building.carryOut .start
    .object built.prototype built.own

mutual

/-- What reading a value from JSON makes: every key is that of a property. -/
def Value.parsed : Value → Result
  | .null => .null
  | .text content => .text content
  | .list items => .list (parsedItems items)
  | .object entries => .object none (setAll [] (parsedEntries entries))

/-- What reading the items of a list makes. -/
def Value.parsedItems : List Value → List Result
  | [] => []
  | item :: items => item.parsed :: parsedItems items

/-- What reading the values of an object makes. -/
def Value.parsedEntries : List (String × Value) → List (String × Result)
  | [] => []
  | (key, item) :: entries => (key, item.parsed) :: parsedEntries entries

end

/-- What a script makes of a JSON text that has no numbers and no truth values. -/
def Script.parseJson (text : String) : Option Result :=
  (Dialect.json.read text.toList).map Value.parsed

theorem Script.parseJson_data (r : Resolution) :
    parseJson (r.data .compact) = some r.value.parsed := by
  rw [parseJson, r.data_eq_written, Dialect.json_understands_compact.read_written]
  rfl

namespace Value

theorem parsedItems_eq_map (items : List Value) : parsedItems items = items.map parsed := by
  induction items with
  | nil => rw [parsedItems]; rfl
  | cons item items ih => rw [parsedItems, ih]; rfl

theorem parsedEntries_eq_map (entries : List (String × Value)) :
    parsedEntries entries = entries.map fun e => (e.1, e.2.parsed) := by
  induction entries with
  | nil => rw [parsedEntries]; rfl
  | cons entry entries ih => rw [parsedEntries, ih]; rfl

theorem parsed_list (items : List Value) : (list items).parsed = .list (items.map parsed) := by
  rw [parsed, parsedItems_eq_map]

theorem parsed_object (entries : List (String × Value)) :
    (object entries).parsed
      = .object none (setAll [] (entries.map fun e => (e.1, e.2.parsed))) := by
  rw [parsed, parsedEntries_eq_map]

mutual

/-- Without the key of the prototype, a literal evaluates to what reading makes of it. -/
theorem evaluate_eq_parsed : ∀ v : Value, (∀ keys ∈ v.objectKeys true, prototypeKey ∉ keys) →
    v.evaluate = v.parsed
  | .null, _ => by rw [evaluate, parsed]
  | .text content, _ => by rw [evaluate, parsed]
  | .list items, h => by
      rw [objectKeys] at h
      rw [evaluate, parsed, evaluateItems_eq_parsedItems items h]
  | .object entries, h => by
      rw [objectKeys, List.forall_mem_cons] at h
      have hkeys : prototypeKey ∉ (parsedEntries entries).map Prod.fst := by
        rw [parsedEntries_eq_map, List.map_map]
        exact h.1
      rw [evaluate, parsed, evaluateEntries_eq_parsedEntries entries h.2]
      exact congrArg (fun b : Building => Result.object b.prototype b.own)
        (foldl_carryOut_of_absent hkeys .start)

theorem evaluateItems_eq_parsedItems : ∀ items : List Value,
    (∀ keys ∈ itemsKeys true items, prototypeKey ∉ keys) → evaluateItems items = parsedItems items
  | [], _ => by rw [evaluateItems, parsedItems]
  | item :: items, h => by
      rw [itemsKeys, List.forall_mem_append] at h
      rw [evaluateItems, parsedItems, evaluate_eq_parsed item h.1,
        evaluateItems_eq_parsedItems items h.2]

theorem evaluateEntries_eq_parsedEntries : ∀ entries : List (String × Value),
    (∀ keys ∈ entriesKeys true entries, prototypeKey ∉ keys) →
    evaluateEntries entries = parsedEntries entries
  | [], _ => by rw [evaluateEntries, parsedEntries]
  | (key, item) :: entries, h => by
      rw [entriesKeys, List.forall_mem_append, if_pos (.inl rfl)] at h
      rw [evaluateEntries, parsedEntries, evaluate_eq_parsed item h.1,
        evaluateEntries_eq_parsedEntries entries h.2]

end

end Value

/-- **A host that assigns makes what the expression of a resolution evaluates to.** -/
theorem Serializer.assigning_makes : Serializer.assigning.Makes Value.evaluate where
  null := by rw [Value.evaluate]; rfl
  text content := by rw [Value.evaluate]; rfl
  list items := by rw [Value.evaluate, Value.evaluateItems_eq_map]; rfl
  object entries := by rw [Value.evaluate, Value.evaluateEntries_eq_map]; rfl

namespace CallSite.Call

open Css

variable {α : Type}

/--
For a call, the host does what is documented of its serializer: what it makes is what reading the
JSON text makes.
-/
def ReturnsJson [Platform] (host : Serializer Result) (c : Call) : Prop :=
  ∀ r, c.resolution = .ok r → parseJson (r.data .compact) = some (r.serialize host)

/-- A host that assigns does so if no object of what is found has the key of the prototype. -/
theorem returnsJson_assigning [Platform] {c : Call} {r : Resolution} (hr : c.resolution = .ok r)
    (h : ∀ keys ∈ r.value.objectKeys true, prototypeKey ∉ keys) : c.ReturnsJson .assigning := by
  intro found hfound
  obtain rfl := Except.ok.inj (hr.symm.trans hfound)
  rw [parseJson_data, Serializer.assigning_makes.serialize r, r.value.evaluate_eq_parsed h]

theorem ReturnsJson.serialize [Platform] {host : Serializer Result} {c : Call}
    (h : c.ReturnsJson host) {r : Resolution} (hr : c.resolution = .ok r) :
    r.serialize host = r.value.parsed :=
  Option.some.inj ((h r hr).symm.trans (parseJson_data r))

/-! ## Many selectors at once -/

/-- What a host makes of what is found of one selector. -/
def resultOf (host : Serializer α) (sheet : Stylesheet) (accessor : Option String)
    (text : String) : α :=
  serializeResult host (sheet.lookup (Format.ofAccessor accessor) text)

section Readable

variable [Platform] {css : String} {sheet : Stylesheet}
  (hsheet : Stylesheet.parse css sourceName = .ok sheet) (accessor : Option String)

include hsheet

theorem resolution_of_sheet (m : Matcher) : resolution ⟨css, m.argument, accessor⟩
    = (sheet.resolve (Format.ofAccessor accessor) m).mapError .matcher := by
  rw [resolution_of_matcher (m := m) rfl, hsheet]

theorem resolution_string (text : String) : resolution ⟨css, .string text, accessor⟩
    = .ok (.single (sheet.lookup (Format.ofAccessor accessor) text)) :=
  resolution_of_sheet hsheet accessor (.selector text)

theorem resolution_array (texts : List String) :
    resolution ⟨css, .array (texts.map .string), accessor⟩
      = .ok (.sequence (texts.map (sheet.lookup (Format.ofAccessor accessor)))) :=
  resolution_of_sheet hsheet accessor (.list texts)

theorem resolution_object (entries : List (String × String)) :
    resolution ⟨css, .object (entries.map fun e => (e.1, .string e.2)), accessor⟩
      = .ok (.mapping (entries.map fun e =>
        (e.1, sheet.lookup (Format.ofAccessor accessor) e.2))) :=
  resolution_of_sheet hsheet accessor (.map entries)

variable (host : Serializer α)

theorem returned_string (text : String) :
    returned host ⟨css, .string text, accessor⟩ = .ok (resultOf host sheet accessor text) := by
  rw [returned, resolution_string hsheet]
  rfl

theorem returned_array (texts : List String) :
    returned host ⟨css, .array (texts.map .string), accessor⟩
      = .ok (host.sequence (texts.map (resultOf host sheet accessor))) := by
  rw [returned, resolution_array hsheet]
  exact congrArg (Except.ok ∘ host.sequence) List.map_map

theorem returned_object (entries : List (String × String)) :
    returned host ⟨css, .object (entries.map fun e => (e.1, .string e.2)), accessor⟩
      = .ok (host.map (entries.map fun e => (e.1, resultOf host sheet accessor e.2))) := by
  rw [returned, resolution_object hsheet]
  exact congrArg (Except.ok ∘ host.map) List.map_map

end Readable

theorem message_of_misshapen [Platform] (host : Serializer α) {css message : String} {a : Argument}
    (accessor : Option String) (h : a.Misshapen message) :
    (returned host ⟨css, a, accessor⟩).mapError CallFault.message = .error message := by
  obtain ⟨fault, hfault, rfl⟩ := Throws.exists_resolution (c := ⟨css, a, accessor⟩) (.shape h)
  rw [returned, hfault]
  rfl

section Documented

variable [Platform] {css : String} {sheet : Stylesheet}
  (hsheet : Stylesheet.parse css sourceName = .ok sheet) {accessor : Option String}
  {host : Serializer Result}

include hsheet

/-- If the host does what is documented, an answer is what reading its value makes. -/
theorem resultOf_eq_parsed {text : String}
    (h : ReturnsJson host ⟨css, .string text, accessor⟩) : resultOf host sheet accessor text
      = (Value.ofResult (sheet.lookup (Format.ofAccessor accessor) text)).parsed :=
  h.serialize (resolution_string hsheet accessor text)

theorem sequence_eq_list {texts : List String}
    (harray : ReturnsJson host ⟨css, .array (texts.map .string), accessor⟩)
    (halone : ∀ text ∈ texts, ReturnsJson host ⟨css, .string text, accessor⟩) :
    host.sequence (texts.map (resultOf host sheet accessor))
      = .list (texts.map (resultOf host sheet accessor)) := by
  have hanswers := List.map_congr_left fun text ht => resultOf_eq_parsed hsheet (halone text ht)
  have hparsed := harray.serialize (resolution_array hsheet accessor texts)
  rw [Resolution.serialize, Resolution.value, Value.parsed_list, List.map_map, List.map_map,
    List.map_map] at hparsed
  exact hparsed.trans (congrArg Result.list hanswers.symm)

/-- The keys of the object are distinct, so none of its properties is set twice. -/
theorem map_eq_object {entries : List (String × String)} (hnodup : (entries.map Prod.fst).Nodup)
    (hobject : ReturnsJson host
      ⟨css, .object (entries.map fun e => (e.1, .string e.2)), accessor⟩)
    (halone : ∀ e ∈ entries, ReturnsJson host ⟨css, .string e.2, accessor⟩) :
    host.map (entries.map fun e => (e.1, resultOf host sheet accessor e.2))
      = .object none (entries.map fun e => (e.1, resultOf host sheet accessor e.2)) := by
  have hanswers : (entries.map fun e => (e.1, resultOf host sheet accessor e.2))
      = entries.map fun e => (e.1, (Value.ofResult
        (sheet.lookup (Format.ofAccessor accessor) e.2)).parsed) :=
    List.map_congr_left fun e he =>
      congrArg (Prod.mk e.1) (resultOf_eq_parsed hsheet (halone e he))
  have hparsed := hobject.serialize (resolution_object hsheet accessor entries)
  rw [Resolution.serialize, Resolution.value, Value.parsed_object, List.map_map, List.map_map,
    List.map_map] at hparsed
  refine hparsed.trans (congrArg (Result.object none) ?_)
  rw [hanswers]
  refine setAll_nil_of_nodup ?_
  rw [List.map_map]
  exact hnodup

end Documented

/--
**A host that assigns properties returns all keys but that of the prototype.**

So what is documented of hosts is more than such a host does, and this key is all that it is short
of.
-/
theorem returned_assigning [Platform] {css : String} {sheet : Stylesheet} (accessor : Option String)
    (hsheet : Stylesheet.parse css sourceName = .ok sheet) {entries : List (String × String)}
    (hlisted : Listed (entries.map Prod.fst)) :
    ∃ object, returned .assigning
        ⟨css, .object (entries.map fun e => (e.1, .string e.2)), accessor⟩ = .ok object
      ∧ object.entries? = some ((entries.filter fun e => e.1 ≠ prototypeKey).map fun e =>
        (e.1, resultOf .assigning sheet accessor e.2)) := by
  refine ⟨_, returned_object hsheet accessor .assigning entries, ?_⟩
  have hkept : Listed (((entries.filter fun e => e.1 ≠ prototypeKey).map fun e =>
      (e.1, resultOf .assigning sheet accessor e.2)).map Prod.fst) := by
    have hsublist : ((entries.filter fun e => e.1 ≠ prototypeKey).map Prod.fst).Sublist
        (entries.map Prod.fst) := List.filter_sublist.map Prod.fst
    rw [List.map_map]
    exact ⟨hsublist.nodup hlisted.1, hlisted.2.sublist hsublist⟩
  have hown : ((entries.map fun e => (e.1, resultOf .assigning sheet accessor e.2)).foldl
      Building.carryOut .start).own = (entries.filter fun e => e.1 ≠ prototypeKey).map fun e =>
        (e.1, resultOf .assigning sheet accessor e.2) := by
    rw [own_foldl_carryOut, List.filter_map]
    exact setAll_nil_of_nodup hkept.1
  exact (congrArg (fun own => (Result.object _ own).entries?) hown).trans
    (entries?_of_listed hkept)

end CallSite.Call

end StyleLookup
