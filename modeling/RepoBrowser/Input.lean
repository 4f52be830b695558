/-!
# Keys and the mouse

* `Key` — a key that was pressed, with the modifiers that were held;
* `Mouse` — something the mouse did, and where;
* `Input` — either of them;
* `KeyHint` — what a key does, as the help tells it;
* `Key.isInterrupt` — the key that ends the program at any time.
-/

namespace RepoBrowser

inductive KeyCode where
  | character (c : Char)
  | enter | escape | tab | backTab | backspace
  | up | down | left | right
  | home | final | pageUp | pageDown
  | insert | delete
  | function (number : Nat)
  deriving DecidableEq, Repr

structure Modifiers where
  control : Bool := false
  shift : Bool := false
  alt : Bool := false
  deriving DecidableEq, Repr

structure Key where
  code : KeyCode
  modifiers : Modifiers := {}
  deriving DecidableEq, Repr

/-- Whether the control key was held, and no other modifier. -/
def Key.withControlOnly (k : Key) : Bool := k.modifiers = { control := true }

/-- The key that ends the program at any time. -/
def Key.isInterrupt (k : Key) : Bool := k.code = .character 'c' && k.withControlOnly

inductive Direction where
  | up | down | left | right
  deriving DecidableEq, Repr

inductive Button where
  | left | right
  deriving DecidableEq, Repr

inductive MouseDeed where
  | scroll (direction : Direction)
  | press (button : Button)
  | release (button : Button)
  | drag (button : Button)
  | move
  deriving DecidableEq, Repr

/-- What the mouse did, and where on the screen. -/
structure Mouse where
  deed : MouseDeed
  column : Nat := 0
  row : Nat := 0
  deriving DecidableEq, Repr

/-- Something a user did with the keys or the mouse. -/
inductive Input where
  | key (k : Key)
  | mouse (m : Mouse)
  deriving DecidableEq, Repr

/-- A key with what it does. -/
structure KeyHint where
  key : String
  effect : String
  deriving DecidableEq, Repr

end RepoBrowser
