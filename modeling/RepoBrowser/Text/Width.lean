import RepoBrowser.Text.Width.Table

/-!
# The columns that text takes on a terminal

A character takes columns by itself, and what stands behind it can change their number: a selector
asks for its form as an emoji or as text, emoji grow together behind a joiner, flags are pairs, and
the letters of some scripts form one glyph.  So the width of a text is taken from its end on.

* `charWidth` — the columns of a character by itself: none for a combining mark, two for a wide
  character, one for any other;
* `Kind`, `Behind` — what stands behind a character, as far as it matters;
* `joined?` — the columns of a character that joins what stands behind it;
* `step` — the columns of a character in front of what stands behind it;
* `width` — the columns of a text.

A line feed takes no column, nor does a carriage return in front of one; other controls take one.
`charWidth_ascii` and `width_plain` give the widths of plain text.
-/

namespace RepoBrowser.Text.Width

open Grapheme (member)

def charWidth (c : Char) : Nat :=
  let n := c.toNat
  if n ≤ 0xA0 then 1
  else if member zeroWidth n then 0
  else if member doubleWidth n then 2
  else if n == 0x17D8 then 3
  else 1

/-- The selector that asks for the emoji form of the character before it. -/
def emojiSelector : Char := '\uFE0F'

/-- The selector that asks for the text form of the character before it. -/
def textSelector : Char := '\uFE0E'

def joiner : Char := '\u200D'

def isTone (c : Char) : Bool := 0x1F3FB ≤ c.toNat && c.toNat ≤ 0x1F3FF

/-- A regional indicator; two of them are a flag. -/
def isRegional (c : Char) : Bool := 0x1F1E6 ≤ c.toNat && c.toNat ≤ 0x1F1FF

/-- Whether the text form of an emoji is narrow; that of an enclosed ideograph is not. -/
def hasNarrowForm (c : Char) : Bool :=
  member selectable c.toNat && member emojis c.toNat && !(0x1F200 ≤ c.toNat && c.toNat ≤ 0x1F2FF)

/-- Letters that form one glyph with a letter in front of them; all but `alef` look for it across
marks without a look of their own.

* `alef` — behind an Arabic lam;
* `subscript` — a Khmer letter behind the sign that puts it below the letter before;
* `lamed` — Hebrew, behind a joined alef;
* `buginese`, `bugineseVowel` — Buginese ya behind a joined vowel sign, and these behind an a;
* `tifinagh`, `tifinaghJoined` — a Tifinagh consonant behind a joined one, by the joiner or by the
  sign of the script;
* `lisu` — a second tone letter of Lisu;
* `orkhon` — Old Turkic i behind a joined letter. -/
inductive Letter where
  | alef | subscript | lamed | buginese | bugineseVowel | tifinagh | tifinaghJoined | lisu | orkhon
  deriving DecidableEq, Repr

/-- What stands behind a character.

* `emoji` — an emoji, or several that are one; `tone` — a skin tone;
* `regional`, `regionals` — one regional indicator, or more;
* `joined` — a joiner in front of an emoji, to which the next character may belong; `keycap`,
  `flag`, `tags` are parts of such a character: an enclosing keycap, regional indicators of which
  `whole` tells whether they are pairs, and the tags of a subdivision's flag with the number of
  their letters and digits;
* `letter` — a letter that can form one glyph, and whether a joiner stands in front of it. -/
inductive Kind where
  | other | lineFeed | emoji | tone | regional | regionals
  | joined | keycap | flag (started : Bool) (whole : Bool) | tags (letters : Nat) (digits : Nat)
  | letter (l : Letter) (joined : Bool)
  deriving DecidableEq, Repr

/-- What stands behind a character, and which forms a selector in front of it asks for. -/
structure Behind where
  kind : Kind := .other
  asEmoji : Bool := false
  asText : Bool := false
  deriving DecidableEq, Repr

namespace Kind

/-- Whether letters in front of it are looked for across a selector. -/
def isLetter : Kind → Bool
  | .letter _ _ => true
  | _ => false

/-- Whether an emoji in front of it is one with what stands behind. -/
def isJoined : Kind → Bool
  | .joined | .keycap => true
  | _ => false

/-- Whether marks without a look of their own are looked through. -/
def isTransparent : Kind → Bool
  | .letter l _ => l ≠ .alef
  | _ => false

def withJoiner : Kind → Kind
  | .letter l _ => .letter l true
  | k => k

/-- What a character is to the one in front of it when nothing behind it matters. -/
def of (c : Char) : Kind :=
  let n := c.toNat
  if n ≤ 0xA0 then .other
  else if member emojis n then .emoji
  else if isTone c then .tone
  else if isRegional c then .regional
  else if member alefs n then .letter .alef false
  else if member subscriptLetters n then .letter .subscript true
  else if n == 0x05DC then .letter .lamed false
  else if n == 0x1A10 then .letter .buginese false
  else if member tifinaghConsonants n then .letter .tifinagh false
  else if n == 0xA4FC || n == 0xA4FD then .letter .lisu true
  else if n == 0x10C03 then .letter .orkhon false
  else .other

end Kind

namespace Behind

/-- A selector for the emoji form in front of it. -/
def withEmojiSelector (b : Behind) : Behind :=
  if b.kind.isLetter || b.kind.isJoined then { b with asEmoji := true } else { asEmoji := true }

/-- A selector for the text form in front of it. -/
def withTextSelector (b : Behind) : Behind :=
  if b.kind.isLetter then { b with asText := true } else { asText := true }

/-- After a character that a selector for the emoji form does not concern. -/
def withoutEmojiSelector (b : Behind) : Behind :=
  if !b.asEmoji then b else if b.kind.isLetter then { b with asEmoji := false } else {}

end Behind

/-- The columns of a letter that joins the letter behind it, and what the two are together. -/
def joinedLetter? (c : Char) (l : Letter) (joined : Bool) : Option (Int × Kind) :=
  let n := c.toNat
  match l, joined with
  | .alef, _ =>
    if member lams n then some (0, .other)
    else if member transparent n then some (0, .letter .alef false)
    else none
  | .subscript, _ => if n == 0x17D2 then some (-1, .other) else none
  | .lamed, true => if n == 0x05D0 then some (0, .other) else none
  | .buginese, true => if n == 0x1A17 then some (0, .letter .bugineseVowel true) else none
  | .bugineseVowel, _ => if n == 0x1A15 then some (0, .other) else none
  | .tifinagh, joined =>
    if n == 0x2D7F then some (1, .letter .tifinaghJoined true)
    else if joined && member tifinaghConsonants n then some (0, .other)
    else none
  | .tifinaghJoined, _ => if member tifinaghConsonants n then some (-1, .other) else none
  | .lisu, _ => if 0xA4F8 ≤ n && n ≤ 0xA4FB then some (0, .other) else none
  | .orkhon, true => if n == 0x10C32 then some (0, .other) else none
  | .lamed, false | .buginese, false | .orkhon, false => none

/-- The columns of a character that joins what stands behind it, and what the two are together. -/
def joined? (c : Char) (k : Kind) : Option (Int × Kind) :=
  let n := c.toNat
  match k with
  | .letter l joined => joinedLetter? c l joined
  | .tone =>
    if member toneBases n then some (0, .emoji) else if c = joiner then some (0, .joined) else none
  | .regional => if isRegional c then some (1, .regionals) else none
  | .regionals =>
    if isRegional c then some (1, .regionals)
    else if c = joiner then some (0, .joined)
    else none
  | .emoji => if c = joiner then some (0, .joined) else none
  | .joined =>
    if n == 0x20E3 then some (0, .keycap)
    else if isRegional c then some (1, .flag false false)
    else if isTone c then some (0, .tone)
    else if n == 0xE007F then some (0, .tags 0 0)
    else if member emojis n then some (0, .emoji)
    else none
  | .flag started whole =>
    if isRegional c then if whole then some (3, .flag true false) else some (-1, .flag true true)
    else if started && c = joiner then some (0, .joined)
    else none
  | .tags letters digits =>
    if 0xE0061 ≤ n && n ≤ 0xE007A && letters < 6 && digits == 0 then some (0, .tags (letters + 1) 0)
    else if 0xE0030 ≤ n && n ≤ 0xE0039 && letters < 5 && digits < 3 then
      some (0, .tags letters (digits + 1))
    else if n == 0x1F3F4 && (digits == 3 || (digits == 0 && 3 ≤ letters)) then some (0, .emoji)
    else none
  | .other | .lineFeed | .keycap => none

/-- The columns of a character beyond ASCII in front of what stands behind it, no selector between
them, and what the two are to the next. -/
def stepKind (c : Char) (k : Kind) : Int × Behind :=
  if k.isTransparent && c = joiner then (0, { kind := k.withJoiner })
  else if k.isTransparent && member ignorableMarks c.toNat then (0, { kind := k })
  else
    match joined? c k with
    | some (w, k) => (w, { kind := k })
    | none => (charWidth c, { kind := .of c })

/-- The columns of a character in front of what stands behind it, and what the two are to the
next. -/
def step (c : Char) (b : Behind) : Int × Behind :=
  if b.asEmoji && member selectable c.toNat then
    (if b.kind.isJoined then 0 else 2, { kind := .emoji })
  else
    let b := b.withoutEmojiSelector
    if c.toNat ≤ 0xA0 then
      if c = '\n' then (0, { kind := .lineFeed })
      else if c = '\r' ∧ b.kind = .lineFeed then (0, {})
      else (1, {})
    else if c = emojiSelector then (0, b.withEmojiSelector)
    else if c = textSelector then (0, b.withTextSelector)
    else if b.asText && hasNarrowForm c then (1, {})
    else stepKind c b.kind

/-- The columns of a text, and what it is to a character in front of it. -/
def measure : List Char → Int × Behind
  | [] => (0, {})
  | c :: s =>
    let (w, b) := measure s
    let (x, b) := step c b
    (x + w, b)

def width (s : List Char) : Nat := (measure s).1.toNat

@[simp] theorem width_nil : width [] = 0 := rfl

theorem charWidth_ascii {c : Char} (h : c.toNat ≤ 0xA0) : charWidth c = 1 := by
  simp [charWidth, h]

/-- Characters of plain text: ASCII, the line feed apart. -/
def IsPlain (c : Char) : Prop := c.toNat < 0x80 ∧ c ≠ '\n'

/-- A plain character takes one column if no selector stands behind it. -/
theorem step_plain {c : Char} (h : IsPlain c) : step c {} = (1, {}) := by
  have := h.1
  simp [step, Behind.withoutEmojiSelector, h.2, show c.toNat ≤ 0xA0 by omega]

theorem measure_plain {s : List Char} (h : ∀ c ∈ s, IsPlain c) :
    measure s = ((s.length : Int), {}) := by
  induction s with
  | nil => rfl
  | cons c s ih =>
    rw [measure, ih fun d hd => h d (List.mem_cons_of_mem c hd)]
    simp only [step_plain (h c List.mem_cons_self), List.length_cons]
    rw [Prod.mk.injEq]
    exact ⟨by omega, rfl⟩

/-- Plain text takes one column a character. -/
theorem width_plain {s : List Char} (h : ∀ c ∈ s, IsPlain c) : width s = s.length := by
  rw [width, measure_plain h, Int.toNat_natCast]

end RepoBrowser.Text.Width
