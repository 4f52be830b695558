import RepoBrowser.History.Basic
import RepoBrowser.Screen.Rows
import RepoBrowser.Text.Column

/-!
# Drawing the history

A row of the list has the abbreviated id, the first line of the message, the author and the age.

* `messageColumns` — the columns that are left to the message;
* `commitSpans` — the row of a commit;
* `History.draw` — the list, or the changes of the open commit.
-/

namespace RepoBrowser

open Text
open Time (Instant)

namespace History

/-- The columns of all but the message: the id, the author and the age with what stands between
them. -/
def fixedColumns : Nat := 29

/-- The columns that are left to the message, never less than ten. -/
def messageColumns (w : Nat) : Nat := max (w - fixedColumns) 10

def authorColumns : Nat := 15

def ageColumns : Nat := 3

def messageStyle (isSelected : Bool) : Style :=
  if isSelected then { foreground := some .yellow, bold := true } else .plain

def commitSpans (now : Instant) (w : Nat) (isSelected : Bool) (c : Commit) : List Span :=
  [⟨c.shortId?.getD [], .inColour .yellow⟩,
   ⟨[' '], .plain⟩,
   ⟨padEnd (messageColumns w) (shorten (messageColumns w) c.message.toList),
    messageStyle isSelected⟩,
   ⟨[' '], .plain⟩,
   ⟨'@' :: padEnd authorColumns (shorten authorColumns c.author.toList), .inColour .cyan⟩,
   ⟨[' '], .plain⟩,
   ⟨padStart ageColumns (Instant.age now c.date), .inColour .darkGray⟩]

/-- What is shown in place of the list when there are no commits. -/
def emptyNotice (h : History) : List Char × Colour :=
  match h.error, h.pendingPage with
  | some reason, _ => (Pager.errorText reason, .red)
  | none, some _ => ("Loading commits...".toList, .yellow)
  | none, none => ("No commits found".toList, .gray)

def rows (h : History) (now : Instant) (w : Nat) : List (List Span) :=
  h.commits.mapIdx fun i c => commitSpans now w (i = h.selected) c

def draw (h : History) (now : Instant) (width height : Nat) : Screen :=
  match h.opened with
  | some _ => h.diff.draw width height
  | none =>
    if h.commits.isEmpty then
      plainParagraph width height (.inColour h.emptyNotice.2) h.emptyNotice.1
    else listOfRows width height h.offset h.selected (h.rows now width)

/-- The fault of what is on screen: a commit of the list, on screen or not, cannot be shown. -/
def drawFault? (h : History) : Option Fault :=
  match h.opened with
  | some _ => none
  | none => h.commits.findSome? fun c => splitFault? c.id

end History

end RepoBrowser
