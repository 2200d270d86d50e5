import StyleLookup.Command.Program
import StyleLookup.Proofs.JsonReader
import StyleLookup.Proofs.LiteralRoundTrip

/-!
# All written forms say the same

A resolution is written as a script literal or as data, on one line or on many. The forms differ in
blanks, in what they escape, and in how: a script literal numbers the backspace, which data
abbreviates, and separates lines with escapes where data has the character itself.

Script literals are meant for scripts, but every layout here is understood by the dialect of JSON.
So one reader of documents accepts all forms of a resolution and finds the same tree in each
(`json_reads_every_form`).
-/

namespace StyleLookup

open Text

namespace Dialect

theorem json_knowsEscapes : json.KnowsEscapes where
  itself := by rintro c (rfl | rfl) rest <;> rfl
  newline _ := rfl
  carriageReturn _ := rfl
  tab _ := rfl
  numbered _ h rest := utf16Unit_fourDigits h rest

/-- Between parts stands a blank, or a line end and blanks, or nothing. -/
theorem json_isGap_newline (depth : Nat) : ∀ c ∈ Layout.newline depth, json.isGap c = true := by
  intro c hc
  rcases List.mem_cons.mp hc with rfl | hc
  · rfl
  · rw [List.eq_of_mem_replicate hc]
    rfl

theorem json_isGap_marks : ∀ c ∈ marks, json.isGap c = false := by
  have hall : (marks.all fun c => !json.isGap c) = true := by decide
  intro c hc
  simpa using List.all_eq_true.mp hall c hc

/-- JSON knows the escapes of script literals, although it would not need them all. -/
theorem json_understands_script : json.Understands .script where
  listGap := by intro _ c hc; exact absurd hc List.not_mem_nil
  objectGap := by intro _ c hc; rw [List.mem_singleton.mp hc]; rfl
  commaGap := by intro _ c hc; rw [List.mem_singleton.mp hc]; rfl
  colonGap := by intro c hc; rw [List.mem_singleton.mp hc]; rfl
  marks := json_isGap_marks
  escape := by
    refine json_knowsEscapes.reads_escapeForScript fun c hquiet => ?_
    simp only [isControl, Bool.or_eq_true, decide_eq_true_eq, Bool.and_eq_true, not_or] at hquiet
    simp only [json, decide_eq_true_eq]
    omega

/-- The escapes of data, for every layout that has them. -/
theorem json_reads_escapeForData (c : Char) :
    (Layout.escapeForData c = [c] ∧ c ≠ '"' ∧ c ≠ '\\' ∧ json.isPlain c = true)
      ∨ ∃ e, Layout.escapeForData c = '\\' :: e
        ∧ ∀ rest, json.unescape (e ++ rest) = some ([c], rest) := by
  unfold Layout.escapeForData
  split
  · rename_i h
    rcases h with rfl | rfl <;> exact .inr ⟨_, rfl, fun _ => rfl⟩
  rename_i hquote
  rw [not_or] at hquote
  split
  · rename_i h; subst h; exact .inr ⟨['n'], rfl, fun _ => rfl⟩
  split
  · rename_i h; subst h; exact .inr ⟨['r'], rfl, fun _ => rfl⟩
  split
  · rename_i h; subst h; exact .inr ⟨['t'], rfl, fun _ => rfl⟩
  split
  · rename_i h; subst h; exact .inr ⟨['b'], rfl, fun _ => rfl⟩
  split
  · rename_i h; subst h; exact .inr ⟨['f'], rfl, fun _ => rfl⟩
  split
  · rename_i h
    exact .inr ⟨_, rfl, json_knowsEscapes.numbered c (by omega)⟩
  · rename_i h
    refine .inl ⟨rfl, hquote.1, hquote.2, ?_⟩
    simp only [json, decide_eq_true_eq]
    omega

theorem json_understands_compact : json.Understands .compact where
  listGap := by intro _ c hc; exact absurd hc List.not_mem_nil
  objectGap := by intro _ c hc; exact absurd hc List.not_mem_nil
  commaGap := by intro _ c hc; exact absurd hc List.not_mem_nil
  colonGap := by intro c hc; exact absurd hc List.not_mem_nil
  marks := json_isGap_marks
  escape := json_reads_escapeForData

theorem json_understands_indented : json.Understands .indented where
  listGap := json_isGap_newline
  objectGap := json_isGap_newline
  commaGap := json_isGap_newline
  colonGap := by intro c hc; rw [List.mem_singleton.mp hc]; rfl
  marks := json_isGap_marks
  escape := json_reads_escapeForData

/-- **What is written in a layout that JSON understands is a document of the same tree.** -/
theorem Understands.json_read_written {l : Layout} (h : json.Understands l) (v : Value) :
    Json.read (v.written l).toList = some v.json := Json.read_of_dialect (h.read_written v)

/-- Data in a layout that JSON understands is a document of the resolution's tree. -/
theorem Understands.json_read_data {l : Layout} (h : json.Understands l) (r : Resolution) :
    Json.read (r.data l).toList = some r.value.json := by
  rw [r.data_eq_written l]
  exact h.json_read_written r.value

end Dialect

/--
**All written forms of a resolution are JSON, and say the same.**

The script literal, the data on one line, and the indented data that the command line prints are
documents with one and the same tree: that of the resolution, entry by entry and text by text.
-/
theorem json_reads_every_form (r : Resolution) :
    Json.read r.script.toList = some r.value.json
      ∧ Json.read (r.data .compact).toList = some r.value.json
      ∧ Json.read (Command.Emit.write r .json).toList = some r.value.json := by
  refine ⟨?_, Dialect.json_understands_compact.json_read_data r,
    Dialect.json_understands_indented.json_read_data r⟩
  rw [r.script_eq_written]
  exact Dialect.json_understands_script.json_read_written r.value

end StyleLookup
