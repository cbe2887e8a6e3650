/-!
# Text without terminal commands

A terminal takes some characters for commands: single control characters, and the sequences that an
escape character opens. `withoutCommands` drops them and keeps the text between them.

The text is read in two ways. Where text is being shown, only a character that cannot be shown ends
it. From there on the commands are followed, until a character comes that is shown again.
-/

namespace PageSketch.Text

/-- Where in a command the reading stands. -/
inductive CommandState where
  /-- Outside of all commands. -/
  | outside
  /-- Behind an escape character. -/
  | escape
  | escapeIntermediate
  /-- At the beginning of a control sequence. -/
  | sequence
  | sequenceParameter
  | sequenceIntermediate
  /-- In a control sequence that is malformed. -/
  | sequenceMalformed
  /-- At the beginning of a command to the device. -/
  | device
  | deviceParameter
  | deviceIntermediate
  /-- In the body of a command, up to the end that is set to it. -/
  | body
  /-- In a command to the system, up to the bell. -/
  | system
deriving DecidableEq, Repr

/-- Whether a control character only lays out the text. -/
def isLayout (c : Char) : Bool := c = '\t' || c = '\n' || c = '\x0c' || c = '\r'

/-- Whether a character is shown outside of all commands. -/
def isShown (c : Char) : Bool := isLayout c || (0x20 ≤ c.toNat && c.toNat ≠ 0x7F)

/-- Whether the UTF-8 encoding of a character holds the byte that ends the body of a command. -/
def endsBody (c : Char) : Bool := (String.utf8EncodeChar c).any (· == 0x9C)

namespace CommandState

/-- The state behind a character that belongs to a command and is no control character, told by
its code point. -/
def next (state : CommandState) (code : Nat) : CommandState :=
  if 0x7F ≤ code then state
  else
    match state with
    | outside => outside
    | escape =>
      if code ≤ 0x2F then escapeIntermediate
      else if code = 0x5B then sequence
      else if code = 0x5D then system
      else if code = 0x50 then device
      else if code = 0x58 ∨ code = 0x5E ∨ code = 0x5F then body
      else outside
    | escapeIntermediate => if code ≤ 0x2F then escapeIntermediate else outside
    | sequence =>
      if code ≤ 0x2F then sequenceIntermediate
      else if code ≤ 0x3F then sequenceParameter
      else outside
    | sequenceParameter =>
      if code ≤ 0x2F then sequenceIntermediate
      else if code ≤ 0x3B then sequenceParameter
      else if code ≤ 0x3F then sequenceMalformed
      else outside
    | sequenceIntermediate =>
      if code ≤ 0x2F then sequenceIntermediate
      else if code ≤ 0x3F then sequenceMalformed
      else outside
    | sequenceMalformed => if code ≤ 0x3F then sequenceMalformed else outside
    | device =>
      if code ≤ 0x2F then deviceIntermediate
      else if code ≤ 0x3F then deviceParameter
      else body
    | deviceParameter =>
      if code ≤ 0x2F then deviceIntermediate
      else if code ≤ 0x3B then deviceParameter
      else body
    | deviceIntermediate => if code ≤ 0x2F then deviceIntermediate else body
    | body => body
    | system => system

/-- Takes a character in a command, or behind one: the state behind it, and whether it is shown.
Two control characters break off every command, and the escape character begins a new one. -/
def step (state : CommandState) (c : Char) : CommandState × Bool :=
  if c = '\x18' ∨ c = '\x1A' then (outside, false)
  else if c = '\x1B' then (escape, false)
  else
    match state with
    | outside => (outside, isShown c)
    | body => (if endsBody c then outside else body, false)
    | system => (if c = '\x07' then outside else system, false)
    | device | deviceParameter | deviceIntermediate =>
      (if c.toNat < 0x20 then state else state.next c.toNat, false)
    | _ => (if c.toNat < 0x20 then state else state.next c.toNat, isLayout c)

end CommandState

/-- The characters that are shown. While text is shown inside an unfinished command, ASCII leaves
the command unfinished. -/
def shownFrom : CommandState → Bool → List Char → List Char
  | _, _, [] => []
  | state, showing, c :: rest =>
    if showing && isShown c then
      c :: shownFrom (if c.toNat < 0x80 then state else .outside) true rest
    else
      match state.step c with
      | (after, true) => c :: shownFrom after true rest
      | (after, false) => shownFrom after false rest

/-- The text without the commands. -/
def withoutCommands (text : String) : String :=
  String.ofList (shownFrom .outside false text.toList)

/-- Text without control characters is shown as it is. -/
theorem shownFrom_of_isShown {cs : List Char} (h : ∀ c ∈ cs, isShown c = true) :
    shownFrom .outside true cs = cs := by
  induction cs with
  | nil => rfl
  | cons c rest ih =>
    have hrest := ih fun d hd => h d (by simp [hd])
    simp [shownFrom, h c (by simp), hrest]

end PageSketch.Text
