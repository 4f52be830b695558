import RepoBrowser.Screen.Line
import RepoBrowser.Text.Blank
import RepoBrowser.Text.Lines

/-!
# Highlighting

* `TextLine` — a line of a text with the style it is shown in;
* `Highlighting` — what is highlighted in a text, as the name of its file tells;
* `diffStyle` — the style of a line of a diff;
* `highlight` — the lines of a text.

In Markdown a line of the kind that opens or closes a fenced block turns the fence over; between an
opening and a closing line all is code.
-/

namespace RepoBrowser

open Text

/-- A line of a text with the style it is shown in. -/
structure TextLine where
  text : List Char
  style : Style
  deriving DecidableEq, Repr

/-- What is highlighted in a text. -/
inductive Highlighting where
  | markdown | diff | plain
  deriving DecidableEq, Repr

def endsWith (s e : List Char) : Bool := (beforeSuffix? e s).isSome

def Highlighting.ofPath (path : List Char) : Highlighting :=
  let lower := path.map Char.toLower
  if endsWith lower ".md".toList || endsWith lower ".markdown".toList then .markdown
  else if endsWith lower ".diff".toList || endsWith lower ".patch".toList then .diff
  else .plain

/-- A text with each tab replaced by four blanks. -/
def expandTabs (s : List Char) : List Char :=
  s.flatMap fun c => if c = '\t' then [' ', ' ', ' ', ' '] else [c]

def diffStyle (line : List Char) : Style :=
  if startsWith line ['+'] && !startsWith line "+++".toList then .inColour .green
  else if startsWith line ['-'] && !startsWith line "---".toList then .inColour .red
  else if startsWith line "@@".toList then .inColour .cyan
  else if startsWith line "commit ".toList then { foreground := some .yellow, bold := true }
  else .inColour .gray

/-- Whether a line opens or closes a fenced block. -/
def isFence (line : List Char) : Bool :=
  startsWith (trimStart line) ['\x60', '\x60', '\x60']

def fenceStyle : Style := .inColour .darkGray

def codeStyle : Style := .inColour .yellow

def headingStyle : Style := { foreground := some .cyan, bold := true }

def quoteStyle : Style := { foreground := some .gray, italic := true }

/-- The style of a line outside of fences that is none itself. -/
def proseStyle (line : List Char) : Style :=
  if startsWith line ['#'] then headingStyle
  else if startsWith line "> ".toList then quoteStyle
  else .plain

/-- The lines of a Markdown text, which begin between fences if `fenced`. -/
def markdownLines (fenced : Bool) : List (List Char) → List TextLine
  | [] => []
  | line :: rest =>
    if isFence line then ⟨line, fenceStyle⟩ :: markdownLines (!fenced) rest
    else ⟨line, if fenced then codeStyle else proseStyle line⟩ :: markdownLines fenced rest

def Highlighting.style : Highlighting → List (List Char) → List TextLine
  | .markdown, ls => markdownLines false ls
  | .diff, ls => ls.map fun l => ⟨l, diffStyle l⟩
  | .plain, ls => ls.map fun l => ⟨l, .plain⟩

/-- The lines of the text of a file. -/
def highlight (content path : List Char) : List TextLine :=
  (Highlighting.ofPath path).style ((lines content).map expandTabs)

theorem markdownLines_text (fenced : Bool) (ls : List (List Char)) :
    (markdownLines fenced ls).map (·.text) = ls := by
  induction ls generalizing fenced with
  | nil => rfl
  | cons l ls ih =>
    unfold markdownLines
    split <;> simp [ih]

theorem style_text (k : Highlighting) (ls : List (List Char)) :
    (k.style ls).map (·.text) = ls := by
  cases k <;> simp [Highlighting.style, markdownLines_text, Function.comp_def]

end RepoBrowser
