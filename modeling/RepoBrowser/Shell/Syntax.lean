/-!
# The command language: its words and commands

The commands that print tokens are written in the language of the shell.  This file has its
grammar:

* `Part`, `Word` — a word as characters, quoted or not, and expansions: parameters, the output of
  commands, and sums;
* `Use` — what is made of the value of a parameter;
* `Redirect` — a stream sent elsewhere;
* `Command` — simple commands, pipelines, lists, and compound commands.

A text of the language is a list of bytes, each written as the character with its number.
-/

namespace RepoBrowser.Shell

/-- The two ends of a value that a pattern can be taken off. -/
inductive Side where
  | front | back
  deriving DecidableEq, Repr

/-- What is made of the value of a parameter: the value itself, its length, another word where it
is missing, or the value without what a pattern matches at one of its ends.  `orNull` tells whether
an empty value counts as missing.  `wrong` is no use at all. -/
inductive Use where
  | value | length
  | orElse (orNull : Bool)
  | orAssign (orNull : Bool)
  | orFail (orNull : Bool)
  | instead (orNull : Bool)
  | without (side : Side) (longest : Bool)
  | wrong
  deriving DecidableEq, Repr

/-- What is done to the file that a stream is sent to or read from; `overwrite` writes also where
files that there are already are kept. -/
inductive Mode where
  | read | write | overwrite | append
  deriving DecidableEq, Repr

mutual

/-- A part of a word.  What is quoted is never divided, and is taken literally in a pattern;
`quotes` stands where quotes open, so that a word of nothing else is not lost. -/
inductive Part where
  | char (quoted : Bool) (c : Char)
  | quotes
  | parameter (quoted : Bool) (name : List Char) (use : Use) (word : List Part)
  | substitution (quoted : Bool) (script : List Command)
  | arithmetic (quoted : Bool) (expression : List Part)

/-- A stream sent elsewhere: to or from a file, to where another stream goes, or from a document in
the script, known by its place among those. -/
inductive Redirect where
  | file (stream : Nat) (mode : Mode) (name : List Part)
  | copy (stream : Nat) (target : List Part)
  | document (stream : Nat) (place : Nat)

inductive Command where
  | simple (line : Nat) (assignments : List (List Char × List Part)) (words : List (List Part))
      (redirects : List Redirect)
  | pipeline (stages : List Command)
  | negation (c : Command)
  | and (a b : Command)
  | or (a b : Command)
  | sequence (cs : List Command)
  | background (c : Command)
  | subshell (body : Command)
  | branch (condition body otherwise : Command)
  | loop (whileTrue : Bool) (condition body : Command)
  | each (name : List Char) (words : Option (List (List Part))) (body : Command)
  | choice (word : List Part) (arms : List (List (List Part) × Command))
  | function (name : List Char) (body : Command)
  | redirected (c : Command) (redirects : List Redirect)

end

abbrev Word := List Part

def Part.valueOf (quoted : Bool) (name : List Char) : Part := .parameter quoted name .value []

def isNameStart (c : Char) : Bool := c.isAlpha || c = '_'

def isNameChar (c : Char) : Bool := c.isAlphanum || c = '_'

def isName (s : List Char) : Bool :=
  match s with
  | [] => false
  | c :: s => isNameStart c && s.all isNameChar

/-- The text of a word that has no expansions, and whether any of it is quoted. -/
def literal? : Word → Option (List Char × Bool)
  | [] => some ([], false)
  | .char quoted c :: ps => (literal? ps).map fun r => (c :: r.1, quoted || r.2)
  | .quotes :: ps => (literal? ps).map fun r => (r.1, true)
  | _ => none

def assignment? : Word → Option (List Char × Word)
  | .char false c :: ps => if isNameStart c then go [c] ps else none
  | _ => none
where
  /-- The same behind the start of the name, which is given in reverse. -/
  go (back : List Char) : Word → Option (List Char × Word)
    | .char false c :: ps =>
      if c = '=' then some (back.reverse, ps) else if isNameChar c then go (c :: back) ps else none
    | _ => none

end RepoBrowser.Shell
