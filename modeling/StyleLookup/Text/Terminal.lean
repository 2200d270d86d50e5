/-!
# Text for a terminal, without its control sequences

What is written for a terminal may hold control sequences, which set colours or titles and are not
shown. A sequence starts at the escape character; the characters behind it say of which kind it
is, and with that where it ends. `plain` keeps what would be seen: everything outside of sequences
but control characters other than layout.
-/

namespace StyleLookup.Text.Terminal

/-- Where a reading stands: in text, or so far into a sequence. -/
inductive Mode where
  | text
  /-- Behind the escape character. -/
  | escape
  /-- Behind the escape character and intermediate characters. -/
  | escapeIntermediate
  /-- Behind the opening of a control sequence, `[`. -/
  | controlOpened
  | controlParameters
  | controlIntermediate
  /-- In a control sequence that is malformed. -/
  | controlIgnored
  /-- Behind the opening of a device string, `P`. -/
  | deviceOpened
  | deviceParameters
  | deviceIntermediate
  /-- In a string that the byte `9C` ends. -/
  | stringBody
  /-- In a string that the bell ends. -/
  | commandBody
deriving Repr, DecidableEq

/-- Whether a number lies between two others. -/
def within (lo hi n : Nat) : Bool := lo ≤ n && n ≤ hi

/-- The controls that lay text out: tab, line feed, form feed and carriage return. -/
def isLayout (n : Nat) : Bool := n == 9 || n == 10 || n == 12 || n == 13

/-- The kind of sequence that a character behind the escape character opens. -/
def Mode.opened (n : Nat) : Mode :=
  if within 0x20 0x2F n then .escapeIntermediate
  else if n = 0x5B then .controlOpened
  else if n = 0x5D then .commandBody
  else if n = 0x50 then .deviceOpened
  else if n = 0x58 ∨ n = 0x5E ∨ n = 0x5F then .stringBody
  else if within 0x30 0x7E n then .text
  else .escape

/--
The mode behind a character that is not shown. Cancelling and the escape character work in every
mode; other controls are passed over inside of a sequence.
-/
def Mode.after (m : Mode) (c : Char) : Mode :=
  let n := c.toNat
  if n = 0x18 ∨ n = 0x1A then .text
  else if n = 0x1B then .escape
  else
    match m with
    | .text => .text
    | .escape => .opened n
    | .escapeIntermediate => if within 0x30 0x7E n then .text else m
    | .controlOpened =>
        if within 0x20 0x2F n then .controlIntermediate
        else if within 0x30 0x3F n then .controlParameters
        else if within 0x40 0x7E n then .text
        else m
    | .controlParameters =>
        if within 0x20 0x2F n then .controlIntermediate
        else if within 0x3C 0x3F n then .controlIgnored
        else if within 0x40 0x7E n then .text
        else m
    | .controlIntermediate =>
        if within 0x30 0x3F n then .controlIgnored else if within 0x40 0x7E n then .text else m
    | .controlIgnored => if within 0x40 0x7E n then .text else m
    | .deviceOpened =>
        if within 0x20 0x2F n then .deviceIntermediate
        else if within 0x30 0x3F n then .deviceParameters
        else if within 0x40 0x7E n then .stringBody
        else m
    | .deviceParameters =>
        if within 0x20 0x2F n then .deviceIntermediate
        else if within 0x3C 0x7E n then .stringBody
        else m
    | .deviceIntermediate => if within 0x30 0x7E n then .stringBody else m
    | .stringBody => if (String.utf8EncodeChar c).contains 0x9C then .text else m
    | .commandBody => if n = 7 then .text else m

/-- Whether a character is shown in a mode. Layout is also shown where it stands in a sequence. -/
def Mode.shows (m : Mode) (c : Char) : Bool :=
  let n := c.toNat
  match m with
  | .text => isLayout n || within 0x20 0x7E n || 0x80 ≤ n
  | .escape | .escapeIntermediate | .controlOpened | .controlParameters | .controlIntermediate
  | .controlIgnored => isLayout n
  | .deviceOpened | .deviceParameters | .deviceIntermediate | .stringBody | .commandBody => false

/--
What is shown of a text. Behind a character that was shown the text goes on to be shown until a
control character comes, even where layout cut a sequence in two; that sequence then goes on.
-/
def shown (showing : Bool) (m : Mode) : List Char → List Char
  | [] => []
  | c :: cs =>
      if (if showing then Mode.text else m).shows c then
        c :: shown true (if c.toNat < 0x80 then m else .text) cs
      else shown false (m.after c) cs

/-- A text without control sequences. -/
def plain (text : String) : String := String.ofList (shown false .text text.toList)

/-- A text in the style of a number, which ends behind it. -/
def inStyle (code : Nat) (text : String) : String :=
  "\x1b[" ++ toString code ++ "m" ++ text ++ "\x1b[0m"

theorem shown_text (showing : Bool) (s : List Char) (h : ∀ c ∈ s, Mode.text.shows c = true) :
    shown showing .text s = s := by
  induction s generalizing showing with
  | nil => rfl
  | cons c cs ih =>
      have hc : Mode.text.shows c = true := h c List.mem_cons_self
      have hm : (if c.toNat < 0x80 then Mode.text else Mode.text) = Mode.text := ite_self _
      simp only [shown, ite_self, hc, if_true, ih true fun d hd => h d (List.mem_cons_of_mem _ hd)]

example : shown false .text "\x1b[1;31mred\x1b[0m".toList = ['r', 'e', 'd'] := by decide
example : shown false .text "\x1b]0;title\x07z\x7f".toList = ['z'] := by decide

end StyleLookup.Text.Terminal
